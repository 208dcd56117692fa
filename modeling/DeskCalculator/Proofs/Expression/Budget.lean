import DeskCalculator.Proofs.Expression.Moment
import DeskCalculator.Proofs.Expression.Resumption

/-! Every step of a run takes up some of the text or does away with some of the work that has been
begun, so every run ends. The depth counts the nesting levels that have been entered and not
been left, and each of them has been opened by a character of its own. -/

namespace DeskCalculator.Expression

open Number

/-- The characters between a cursor and a later one. -/
def Cursor.Passes (passed : List Char) (cursor later : Cursor) : Prop :=
  cursor.rest = passed ++ later.rest ∧ later.position = cursor.position + passed.length

namespace Cursor.Passes

theorem refl (cursor : Cursor) : Passes [] cursor cursor :=
  ⟨rfl, rfl⟩

theorem exists_skipBlanks (cursor : Cursor) : ∃ blanks, Passes blanks cursor cursor.skipBlanks := by
  rcases cursor.exists_skipBlanks with ⟨blanks, -, rest, position, -⟩
  exact ⟨blanks, rest, position⟩

theorem exists_behind {cursor : Cursor} {character : Char} {rest : List Char}
    (comes : cursor.skipBlanks.rest = character :: rest) :
    ∃ passed, Passes passed cursor ⟨cursor.skipBlanks.position + 1, rest⟩ ∧ passed ≠ [] := by
  rcases exists_skipBlanks cursor with ⟨blanks, skipped, position⟩
  refine ⟨blanks ++ [character], ⟨?_, ?_⟩, by simp⟩
  · rw [skipped, comes, List.append_assoc, List.singleton_append]
  · rw [position, List.length_append, Nat.add_assoc, List.length_singleton]

theorem takeLiteral (cursor : Cursor) :
    Passes cursor.takeLiteral.1 cursor cursor.takeLiteral.2 :=
  ⟨(splitLiteral_append cursor.rest).symm, rfl⟩

theorem trans {first second : List Char} {cursor middle later : Cursor}
    (there : Passes first cursor middle) (on : Passes second middle later) :
    Passes (first ++ second) cursor later := by
  refine ⟨?_, ?_⟩
  · rw [there.1, on.1, List.append_assoc]
  · rw [on.2, there.2, List.length_append, Nat.add_assoc]

/-- A cursor in a text stays in it. -/
theorem behind {passed text : List Char} {cursor later : Cursor}
    (passes : Passes passed cursor later) (within : cursor.position ≤ text.length)
    (here : cursor = .behind text cursor.position) :
    later.position ≤ text.length ∧ later = .behind text later.position := by
  have rest : text.drop cursor.position = passed ++ later.rest := by
    rw [← passes.1, here, Cursor.behind]
  have length := congrArg List.length rest
  rw [List.length_drop, List.length_append] at length
  refine ⟨by rw [passes.2]; omega, ?_⟩
  rw [Cursor.behind, passes.2, ← List.drop_drop, rest, List.drop_left, ← passes.2]

end Cursor.Passes

namespace Parser

/-! ## Steps -/

/-- The loops of sums and products. -/
def Task.isLoop : Task → Bool
  | .call (.sums _) | .call (.products _) => true
  | _ => false

def Task.isCall : Task → Bool
  | .call _ => true
  | .answer _ => false

def Task.isNested : Task → Bool
  | .call (.nested _) => true
  | _ => false

/-! The work of a moment is what it takes at most to do without passing any more characters.
To pass a character can add a call and a caller, at the most. -/

def Rule.work : Rule → Nat
  | sums _ | products _ | power _ | primary | closeGroup _ => 1
  | factor => 4
  | nested .factor => 6
  | term => 7
  | expression => 10
  | nested .expression => 12

def Task.work : Task → Nat
  | .call rule => rule.work
  | .answer _ => 0

def Frame.work : Frame → Nat
  | goOn _ => 2
  | _ => 1

def Frame.workOf : List Frame → Nat
  | [] => 0
  | frame :: frames => frame.work + workOf frames

theorem Frame.goOn_ne_nested (continuation : Continuation) : goOn continuation ≠ nested :=
  fun equal => by cases equal

theorem Frame.opened_ne_nested (opening : Opening) : opened opening ≠ nested :=
  fun equal => by cases equal

theorem Frame.whole_ne_nested : whole ≠ nested := by
  decide

namespace Moment

/-- How many levels have been entered and not been left. -/
def levels (moment : Moment) : Nat :=
  moment.frames.count .nested

def work (moment : Moment) : Nat :=
  14 * moment.parser.ahead + moment.task.work + Frame.workOf moment.frames

/-- What a step does to the depth. -/
inductive Shifts (moment next : Moment) : Prop
  | stays (depth : next.parser.depth = moment.parser.depth) (levels : next.levels = moment.levels)
  | enters (called : moment.task.isNested) (room : moment.parser.depth < moment.parser.limit)
      (depth : next.parser.depth = moment.parser.depth + 1)
      (levels : next.levels = moment.levels + 1)
  | leaves (answered : ¬next.task.isNested) (depth : next.parser.depth = moment.parser.depth - 1)
      (levels : moment.levels = next.levels + 1)

structure IsStep (moment next : Moment) : Prop where
  limit_eq : next.parser.limit = moment.parser.limit
  passes : ∃ passed, moment.parser.cursor.Passes passed next.parser.cursor ∧
    (moment.task.isLoop && next.task.isCall || next.task.isNested → passed ≠ [])
  shifts : Shifts moment next
  work_lt : next.work < moment.work

variable {task next : Task} {frames later : List Frame} {parser : Parser} {cursor : Cursor}

theorem IsStep.of_passes {passed : List Char} (passes : parser.cursor.Passes passed cursor)
    (consumes : task.isLoop && next.isCall || next.isNested → passed ≠ [])
    (levels : later.count .nested = frames.count .nested)
    (lighter : next.work + Frame.workOf later <
      14 * passed.length + task.work + Frame.workOf frames) :
    IsStep ⟨task, frames, parser⟩ ⟨next, later, { parser with cursor }⟩ where
  limit_eq := rfl
  passes := ⟨passed, passes, consumes⟩
  shifts := .stays rfl levels
  work_lt := by
    have ahead := congrArg List.length passes.1
    rw [List.length_append] at ahead
    simp only [work, Parser.ahead, ahead]
    omega

section

variable {rule inner : Rule} {frame : Frame}

/-- A rule that calls another one and may be on the same character. -/
theorem IsStep.of_call (skipped : ∃ passed, parser.cursor.Passes passed cursor)
    (free : ((Task.call rule).isLoop && true || (Task.call inner).isNested) = false)
    (level : frame ≠ .nested) (lighter : inner.work + frame.work < rule.work) :
    IsStep ⟨.call rule, frames, parser⟩ ⟨.call inner, frame :: frames, { parser with cursor }⟩ := by
  rcases skipped with ⟨passed, passes⟩
  refine .of_passes passes (fun bound => ?_) (List.count_cons_of_ne level) ?_
  · cases free.symm.trans bound
  · simp only [Task.work, Frame.workOf]
    omega

/-- A rule that calls another one behind a character. -/
theorem IsStep.of_call_behind
    (passed : ∃ passed, parser.cursor.Passes passed cursor ∧ passed ≠ [])
    (level : frame ≠ .nested) (lighter : inner.work + frame.work < 14 + rule.work) :
    IsStep ⟨.call rule, frames, parser⟩ ⟨.call inner, frame :: frames, { parser with cursor }⟩ := by
  rcases passed with ⟨passed, passes, some⟩
  have positive := List.length_pos_of_ne_nil some
  refine .of_passes passes (fun _ => some) (List.count_cons_of_ne level) ?_
  simp only [Task.work, Frame.workOf]
  omega

/-- A rule that returns without another call. -/
theorem IsStep.of_answer (result : Except Misreading Float)
    (skipped : ∃ passed, parser.cursor.Passes passed cursor) :
    IsStep ⟨.call rule, frames, parser⟩ ⟨.answer result, frames, { parser with cursor }⟩ := by
  rcases skipped with ⟨passed, passes⟩
  have positive : 0 < rule.work := by
    cases rule with
    | nested inner => cases inner <;> decide
    | _ => exact Nat.zero_lt_succ _
  refine .of_passes passes (fun bound => ?_) rfl ?_
  · rw [Task.isCall, Bool.and_false] at bound
    cases bound
  · simp only [Task.work]
    omega

end

theorem parser_refuse (parser : Parser) : parser.refuse.parser = parser := by
  unfold refuse
  split <;> rfl

open Cursor.Passes in
theorem isStep_begin (rule : Rule) (frames : List Frame) (parser : Parser) :
    IsStep ⟨.call rule, frames, parser⟩ (rule.begin frames parser) := by
  cases rule with
  | expression => exact .of_call ⟨[], .refl _⟩ rfl (Frame.goOn_ne_nested _) (by decide)
  | term => exact .of_call ⟨[], .refl _⟩ rfl (Frame.goOn_ne_nested _) (by decide)
  | sums left =>
      simp only [Rule.begin]
      have chosen := parser.chosen_choose sumOperators
      generalize parser.choose sumOperators = choice at chosen
      cases chosen with
      | left => exact .of_answer _ (exists_skipBlanks _)
      | taken _ comes =>
          exact .of_call_behind (exists_behind comes) (Frame.goOn_ne_nested _)
            (by simp [Rule.work, Frame.work])
  | products left =>
      simp only [Rule.begin]
      have chosen := parser.chosen_choose productOperators
      generalize parser.choose productOperators = choice at chosen
      cases chosen with
      | left => exact .of_answer _ (exists_skipBlanks _)
      | taken _ comes =>
          exact .of_call_behind (exists_behind comes) (Frame.goOn_ne_nested _)
            (by simp [Rule.work, Frame.work])
  | factor =>
      simp only [Rule.begin]
      have chosen := parser.chosen_choose signs
      generalize parser.choose signs = choice at chosen
      cases chosen with
      | left => exact .of_call (exists_skipBlanks _) rfl (Frame.goOn_ne_nested _) (by decide)
      | taken _ comes =>
          exact .of_call_behind (exists_behind comes) (Frame.opened_ne_nested _)
            (by simp [Rule.work, Frame.work])
  | power base =>
      simp only [Rule.begin]
      have chosen := parser.chosen_choose [('^', Opening.base base)]
      generalize parser.choose [('^', Opening.base base)] = choice at chosen
      cases chosen with
      | left => exact .of_answer _ (exists_skipBlanks _)
      | taken _ comes =>
          exact .of_call_behind (exists_behind comes) (Frame.opened_ne_nested _)
            (by simp [Rule.work, Frame.work])
  | nested inner =>
      simp only [Rule.begin]
      split
      · exact .of_answer _ ⟨[], .refl _⟩
      · rename_i room
        refine ⟨rfl, ⟨[], .refl _, ?_⟩, .enters rfl (Nat.lt_of_not_le room) rfl ?_, ?_⟩
        · cases inner <;> exact fun bound => absurd bound Bool.false_ne_true
        · exact List.count_cons_self
        · cases inner <;>
            simp [work, Task.work, Rule.work, Inner.rule, Frame.work, Frame.workOf, Parser.ahead]
          all_goals omega
  | primary =>
      simp only [Rule.begin]
      have chosen := parser.chosen_choose [('(', ())]
      generalize parser.choose [('(', ())] = choice at chosen
      cases chosen with
      | left =>
          rcases exists_skipBlanks parser.cursor with ⟨blanks, skipped⟩
          simp only
          split
          · exact .of_answer _ ⟨_, skipped.trans (takeLiteral _)⟩
          · rw [parser_refuse]
            exact .of_answer _ ⟨_, skipped⟩
      | taken _ comes =>
          exact .of_call_behind (exists_behind comes) (Frame.goOn_ne_nested _) (by decide)
  | closeGroup value =>
      simp only [Rule.begin]
      have chosen := parser.chosen_choose [(')', ())]
      generalize parser.choose [(')', ())] = choice at chosen
      cases chosen with
      | left =>
          simp only [parser_refuse]
          exact .of_answer _ (exists_skipBlanks _)
      | taken _ comes =>
          rcases exists_behind comes with ⟨passed, passes, -⟩
          exact .of_answer _ ⟨passed, passes⟩

/-- A return passes only blanks, and only at the end of the evaluation. -/
theorem IsStep.of_return {frame : Frame} {result : Except Misreading Float} {next : Task}
    (skipped : ∃ passed, parser.cursor.Passes passed cursor) (level : frame ≠ .nested)
    (outside : next.isNested = false) (lighter : next.work < frame.work) :
    IsStep ⟨.answer result, frame :: frames, parser⟩ ⟨next, frames, { parser with cursor }⟩ := by
  rcases skipped with ⟨passed, passes⟩
  have free : ((Task.answer result).isLoop && next.isCall || next.isNested) = false := outside
  have idle : (Task.answer result).work = 0 := rfl
  refine .of_passes passes (fun bound => ?_) (List.count_cons_of_ne level).symm ?_
  · cases free.symm.trans bound
  · simp only [idle, Frame.workOf]
    omega

open Cursor.Passes in
theorem isStep_resume (frame : Frame) (result : Except Misreading Float) (frames : List Frame)
    (parser : Parser) :
    IsStep ⟨.answer result, frame :: frames, parser⟩ (frame.resume result frames parser) := by
  cases frame with
  | goOn continuation =>
      cases result with
      | error misreading => exact .of_return ⟨[], .refl _⟩ (Frame.goOn_ne_nested _) rfl Nat.two_pos
      | ok value =>
          have level := Frame.goOn_ne_nested continuation
          cases continuation <;> exact .of_return ⟨[], .refl _⟩ level rfl (Nat.lt_succ_self 1)
  | opened opening => exact .of_return ⟨[], .refl _⟩ (Frame.opened_ne_nested _) rfl Nat.one_pos
  | nested =>
      refine ⟨rfl, ⟨[], .refl _, fun bound => absurd bound Bool.false_ne_true⟩,
        .leaves Bool.false_ne_true rfl List.count_cons_self, ?_⟩
      simp [Frame.resume, work, Task.work, Frame.work, Frame.workOf, Parser.ahead]
  | whole =>
      cases result with
      | error misreading => exact .of_return ⟨[], .refl _⟩ Frame.whole_ne_nested rfl Nat.one_pos
      | ok value =>
          simp only [Frame.resume]
          split <;> exact .of_return (exists_skipBlanks _) Frame.whole_ne_nested rfl Nat.one_pos

theorem isStep_of_step {moment next : Moment} (stepped : moment.step = some next) :
    IsStep moment next := by
  rcases moment with ⟨rule | result, _ | ⟨frame, frames⟩, parser⟩
  · cases stepped
    exact isStep_begin rule [] parser
  · cases stepped
    exact isStep_begin rule (frame :: frames) parser
  · cases stepped
  · cases stepped
    exact isStep_resume frame result frames parser

/-! ## Runs -/

section

variable {moment next : Moment}

theorem IsStep.position_le (step : IsStep moment next) :
    moment.parser.cursor.position ≤ next.parser.cursor.position := by
  rcases step.passes with ⟨passed, passes, -⟩
  rw [passes.2]
  exact Nat.le_add_right _ _

theorem IsStep.position_lt (step : IsStep moment next)
    (consumes : moment.task.isLoop && next.task.isCall || next.task.isNested) :
    moment.parser.cursor.position < next.parser.cursor.position := by
  rcases step.passes with ⟨passed, passes, some⟩
  rw [passes.2]
  exact Nat.lt_add_of_pos_right (List.length_pos_of_ne_nil (some consumes))

/-- The depth rises and falls with the levels. -/
theorem IsStep.balanced {base : Nat} (step : IsStep moment next)
    (balanced : moment.parser.depth = base + moment.levels) :
    next.parser.depth = base + next.levels := by
  cases step.shifts with
  | stays depth levels => rw [depth, levels, balanced]
  | enters _ _ depth levels => rw [depth, levels, balanced, Nat.add_assoc]
  | leaves _ depth levels => rw [depth, balanced, levels, ← Nat.add_assoc, Nat.add_sub_cancel]

end

theorem depth_outcome (rule : Rule) (parser : Parser) :
    (rule.outcome parser).parser.depth = parser.depth := by
  rcases reaches_outcome rule [] parser with ⟨count, reached⟩
  have keeps (moment next : Moment)
      (balanced : moment.parser.depth = parser.depth + moment.levels)
      (stepped : moment.step = some next) :=
    (isStep_of_step stepped).balanced balanced
  exact after_keeps keeps rfl reached

theorem count_add_work_le {count : Nat} {moment later : Moment}
    (reached : after count moment = some later) : count + later.work ≤ moment.work := by
  induction count generalizing moment with
  | zero =>
      cases reached
      exact Nat.le_of_eq (Nat.zero_add _)
  | succ count induction =>
      rw [after] at reached
      rcases Option.bind_eq_some_iff.mp reached with ⟨next, stepped, rest⟩
      have less := (isStep_of_step stepped).work_lt
      have rest := induction rest
      omega

/-- A moment of an evaluation: the cursor is in the text, the depth counts the levels, and
with one that is about to be entered there are no more of them than characters behind the
cursor. -/
structure InBudget (limit : Nat) (text : List Char) (moment : Moment) : Prop where
  limit_eq : moment.parser.limit = limit
  position_le : moment.parser.cursor.position ≤ text.length
  cursor_eq : moment.parser.cursor = .behind text moment.parser.cursor.position
  depth_eq : moment.parser.depth = moment.levels
  depth_le_limit : moment.parser.depth ≤ limit
  depth_le_position :
    moment.parser.depth + moment.task.isNested.toNat ≤ moment.parser.cursor.position

namespace InBudget

variable {limit : Nat} {text : List Char} {moment next : Moment}

theorem start (limit : Nat) (text : List Char) : InBudget limit text (.start limit text) where
  limit_eq := rfl
  position_le := Nat.zero_le _
  cursor_eq := rfl
  depth_eq := rfl
  depth_le_limit := Nat.zero_le _
  depth_le_position := Nat.le_refl _

theorem depth_le_of_step (budget : InBudget limit text moment) (step : IsStep moment next) :
    next.parser.depth ≤ limit := by
  have below := budget.depth_le_limit
  cases step.shifts with
  | stays depth => rwa [depth]
  | enters _ room depth => rwa [depth, ← budget.limit_eq]
  | leaves _ depth => omega

theorem depth_le_position_of_step (budget : InBudget limit text moment)
    (step : IsStep moment next) :
    next.parser.depth + next.task.isNested.toNat ≤ next.parser.cursor.position := by
  have behind := budget.depth_le_position
  have on := step.position_le
  cases nested : next.task.isNested with
  | true =>
      have further := step.position_lt (by rw [nested, Bool.or_true])
      rw [Bool.toNat_true]
      cases step.shifts with
      | stays depth => omega
      | enters called _ depth =>
          rw [called, Bool.toNat_true] at behind
          omega
      | leaves answered => exact absurd nested answered
  | false =>
      rw [Bool.toNat_false]
      cases step.shifts with
      | stays depth => omega
      | enters called _ depth =>
          rw [called, Bool.toNat_true] at behind
          omega
      | leaves _ depth => omega

theorem step (budget : InBudget limit text moment) (stepped : moment.step = some next) :
    InBudget limit text next := by
  have step := isStep_of_step stepped
  rcases step.passes with ⟨passed, passes, -⟩
  have within := passes.behind budget.position_le budget.cursor_eq
  have balanced := step.balanced (budget.depth_eq.trans (Nat.zero_add _).symm)
  exact
    { limit_eq := step.limit_eq.trans budget.limit_eq
      position_le := within.1
      cursor_eq := within.2
      depth_eq := balanced.trans (Nat.zero_add _)
      depth_le_limit := budget.depth_le_of_step step
      depth_le_position := budget.depth_le_position_of_step step }

theorem of_after {count : Nat} (reached : after count (.start limit text) = some moment) :
    InBudget limit text moment :=
  after_keeps (fun _ _ budget stepped => budget.step stepped) (start limit text) reached

end InBudget

/-- The end of the text is looked for when the expression returns. -/
theorem resume_whole (parser : Parser) :
    Frame.whole.resume parser.expression.result [] parser.expression.parser =
      ⟨.answer parser.evaluate.1, [], parser.evaluate.2⟩ := by
  unfold Parser.evaluate
  generalize parser.expression = outcome
  rcases outcome with ⟨misreading | value, behind, ahead_le⟩
  · rfl
  · simp only [Frame.resume]
    cases behind.skipBlanks.cursor.peek <;> rfl

theorem reaches_evaluate (limit : Nat) (text : List Char) :
    Reaches (.start limit text)
      ⟨.answer (Expression.evaluate limit text), [], (Parser.start limit text).evaluate.2⟩ := by
  have answer : Expression.evaluate limit text = (Parser.start limit text).evaluate.1 := by
    rw [evaluate_eq_evaluateFrom rfl]
    rfl
  rw [answer, ← resume_whole]
  exact (reaches_outcome .expression [.whole] (.start limit text)).trans (.head rfl (.refl _))

end Moment

open Moment

/-- How the evaluation of a text runs. -/
structure RunsWithinBudget (limit : Nat) (text : List Char) : Prop where
  ends : ∃ count ≤ 14 * text.length + 11, after count (.start limit text) =
    some ⟨.answer (Expression.evaluate limit text), [], (Parser.start limit text).evaluate.2⟩
  depth_eq : ∀ count moment, after count (.start limit text) = some moment →
    moment.parser.depth = moment.levels
  depth_le : ∀ count moment, after count (.start limit text) = some moment →
    moment.parser.depth ≤ min limit moment.parser.cursor.position
  position_le : ∀ count moment, after count (.start limit text) = some moment →
    moment.parser.cursor.position ≤ text.length
  entered : ∀ count moment next, after count (.start limit text) = some moment →
    moment.step = some next → moment.parser.depth < next.parser.depth →
      next.parser.depth = moment.parser.depth + 1 ∧ next.parser.depth ≤ limit
  left : ∀ count result frames parser,
    after count (.start limit text) = some ⟨.answer result, .nested :: frames, parser⟩ →
      0 < parser.depth ∧ after (count + 1) (.start limit text) =
        some ⟨.answer result, frames, { parser with depth := parser.depth - 1 }⟩
  returns : ∀ rule frames parser, ∃ count, ReturnsAfter count rule frames parser ∧
    (rule.outcome parser).parser.depth = parser.depth
  consumes : ∀ moment next : Moment, moment.step = some next →
    (moment.task.isLoop && next.task.isCall || next.task.isNested) →
      moment.parser.cursor.position < next.parser.cursor.position

theorem evaluation_runsWithinBudget (limit : Nat) (text : List Char) :
    RunsWithinBudget limit text where
  ends := by
    rcases reaches_evaluate limit text with ⟨count, reached⟩
    exact ⟨count, Nat.le_trans (Nat.le_add_right _ _) (count_add_work_le reached), reached⟩
  depth_eq _ _ reached := (InBudget.of_after reached).depth_eq
  depth_le _ _ reached := by
    have budget := InBudget.of_after reached
    exact Nat.le_min.mpr ⟨budget.depth_le_limit,
      Nat.le_trans (Nat.le_add_right _ _) budget.depth_le_position⟩
  position_le _ _ reached := (InBudget.of_after reached).position_le
  entered count moment next reached stepped rises := by
    have step := isStep_of_step stepped
    refine ⟨?_, (InBudget.of_after reached).depth_le_of_step step⟩
    cases step.shifts with
    | stays depth => omega
    | enters _ _ depth => exact depth
    | leaves _ depth => omega
  left count result frames parser reached := by
    have levels := (InBudget.of_after reached).depth_eq
    refine ⟨?_, ?_⟩
    · rw [levels]
      exact List.count_pos_iff.mpr (List.mem_cons_self ..)
    · rw [after_add, reached]
      rfl
  returns rule frames parser := by
    rcases exists_returnsAfter rule frames parser with ⟨count, returns⟩
    exact ⟨count, returns, depth_outcome rule parser⟩
  consumes _ _ stepped consumed := (isStep_of_step stepped).position_lt consumed

end Parser

end DeskCalculator.Expression
