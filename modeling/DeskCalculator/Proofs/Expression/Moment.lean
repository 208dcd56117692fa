import DeskCalculator.Proofs.Expression.Lookahead
import Mathlib.Data.List.Basic

/-! A parser is observed whenever a rule is called and whenever one returns. Between the two, what
the callers still have to do lies on a stack. A run of moments comes to what the functions of
the parser come to, and nothing in it touches the part of the stack that was there before. -/

namespace DeskCalculator.Expression.Parser

open Number

/-- The rules that are followed one level deeper. -/
inductive Inner where
  | factor
  | expression
deriving DecidableEq

inductive Rule where
  | expression
  | sums (left : Float)
  | term
  | products (left : Float)
  | factor
  | power (base : Float)
  | nested (inner : Inner)
  | primary
  | closeGroup (value : Float)
deriving DecidableEq

def Inner.rule : Inner → Rule
  | factor => .factor
  | expression => .expression

def Inner.outcome (inner : Inner) (parser : Parser) : Outcome parser.ahead :=
  match inner with
  | factor => parser.factor
  | expression => parser.expression

/-- What the function of a rule comes to. -/
def Rule.outcome (rule : Rule) (parser : Parser) : Outcome parser.ahead :=
  match rule with
  | expression => parser.expression
  | sums left => parser.sums left
  | term => parser.term
  | products left => parser.products left
  | factor => parser.factor
  | power base => parser.power base
  | nested inner => parser.nested fun inside _ => inner.outcome inside
  | primary => parser.primary
  | closeGroup value => parser.closeGroup value

theorem Inner.outcome_rule (inner : Inner) (parser : Parser) :
    inner.rule.outcome parser = inner.outcome parser := by
  cases inner <;> rfl

/-- What is done with the value of a rule, if there is one. -/
inductive Continuation where
  | sums
  | sum (left : Float) (operator : SumOperator)
  | products
  | product (left : Float) (operator : ProductOperator)
  | power
  | closeGroup
deriving DecidableEq

def Continuation.rule : Continuation → Float → Rule
  | sums, value => .sums value
  | sum left operator, value => .sums (operator.apply left value)
  | products, value => .products value
  | product left operator, value => .products (operator.apply left value)
  | power, value => .power value
  | closeGroup, value => .closeGroup value

/-- What a caller still has to do: go on with the value, apply an opening to it, leave a
nesting level, or look for the end of the text. -/
inductive Frame where
  | goOn (continuation : Continuation)
  | opened (opening : Opening)
  | nested
  | whole
deriving DecidableEq

inductive Task where
  | call (rule : Rule)
  | answer (result : Except Misreading Float)

/-- A rule is about to be followed, or has been. The innermost caller is the first. -/
structure Moment where
  task : Task
  frames : List Frame
  parser : Parser

/-- The first moment behind the call of a rule. -/
def Rule.begin (rule : Rule) (frames : List Frame) (parser : Parser) : Moment :=
  match rule with
  | expression => ⟨.call .term, .goOn .sums :: frames, parser⟩
  | sums left =>
      match parser.choose sumOperators with
      | .taken operator behind _ => ⟨.call .term, .goOn (.sum left operator) :: frames, behind⟩
      | .left here _ => ⟨.answer (.ok left), frames, here⟩
  | term => ⟨.call .factor, .goOn .products :: frames, parser⟩
  | products left =>
      match parser.choose productOperators with
      | .taken operator behind _ =>
          ⟨.call .factor, .goOn (.product left operator) :: frames, behind⟩
      | .left here _ => ⟨.answer (.ok left), frames, here⟩
  | factor =>
      match parser.choose signs with
      | .taken sign behind _ => ⟨.call (.nested .factor), .opened sign :: frames, behind⟩
      | .left here _ => ⟨.call .primary, .goOn .power :: frames, here⟩
  | power base =>
      match parser.choose [('^', Opening.base base)] with
      | .taken opening behind _ => ⟨.call (.nested .factor), .opened opening :: frames, behind⟩
      | .left here _ => ⟨.answer (.ok base), frames, here⟩
  | nested inner =>
      if parser.limit ≤ parser.depth then
        ⟨.answer (.error ⟨parser.cursor.position, .nestedTooDeep parser.limit⟩), frames, parser⟩
      else ⟨.call inner.rule, .nested :: frames, { parser with depth := parser.depth + 1 }⟩
  | primary =>
      match parser.choose [('(', ())] with
      | .taken _ behind _ => ⟨.call (.nested .expression), .goOn .closeGroup :: frames, behind⟩
      | .left here _ =>
          let outcome := if here.cursor.peek.any startsLiteral then here.number else here.refuse
          ⟨.answer outcome.result, frames, outcome.parser⟩
  | closeGroup value =>
      match parser.choose [(')', ())] with
      | .taken _ behind _ => ⟨.answer (.ok value), frames, behind⟩
      | .left here _ => ⟨.answer here.refuse.result, frames, here.refuse.parser⟩

/-- The first moment behind the return to a caller. -/
def Frame.resume (frame : Frame) (result : Except Misreading Float) (frames : List Frame)
    (parser : Parser) : Moment :=
  match frame, result with
  | goOn continuation, .ok value => ⟨.call (continuation.rule value), frames, parser⟩
  | goOn _, .error misreading => ⟨.answer (.error misreading), frames, parser⟩
  | opened opening, result => ⟨.answer (result.map opening.apply), frames, parser⟩
  | nested, result => ⟨.answer result, frames, { parser with depth := parser.depth - 1 }⟩
  | whole, .error misreading => ⟨.answer (.error misreading), frames, parser⟩
  | whole, .ok value =>
      let here := parser.skipBlanks
      match here.cursor.peek with
      | some found =>
          ⟨.answer (.error ⟨here.cursor.position, .trailingInput found⟩), frames, here⟩
      | none => ⟨.answer (.ok value), frames, here⟩

namespace Moment

/-- The next moment, if anything is left to do. -/
def step (moment : Moment) : Option Moment :=
  match moment with
  | ⟨.call rule, frames, parser⟩ => some (rule.begin frames parser)
  | ⟨.answer result, frame :: frames, parser⟩ => some (frame.resume result frames parser)
  | ⟨.answer _, [], _⟩ => none

/-- The moment some steps later. -/
def after : Nat → Moment → Option Moment
  | 0, moment => some moment
  | count + 1, moment => moment.step.bind (after count)

/-- The moment when an evaluation begins. -/
def start (limit : Nat) (text : List Char) : Moment :=
  ⟨.call .expression, [.whole], .start limit text⟩

def Reaches (moment later : Moment) : Prop :=
  ∃ count, after count moment = some later

variable {moment next later : Moment}

theorem after_add (count more : Nat) (moment : Moment) :
    after (count + more) moment = (after count moment).bind (after more) := by
  induction count generalizing moment with
  | zero => rw [Nat.zero_add, after, Option.bind_some]
  | succ count induction =>
      rw [Nat.succ_add, after, after, Option.bind_assoc]
      exact congrArg _ (funext fun next => induction next)

namespace Reaches

theorem refl (moment : Moment) : Reaches moment moment :=
  ⟨0, rfl⟩

theorem trans (first : Reaches moment next) (second : Reaches next later) :
    Reaches moment later := by
  rcases first with ⟨count, first⟩
  rcases second with ⟨more, second⟩
  exact ⟨count + more, by rw [after_add, first, Option.bind_some, second]⟩

theorem head (stepped : moment.step = some next) (rest : Reaches next later) :
    Reaches moment later := by
  rcases rest with ⟨count, rest⟩
  exact ⟨count + 1, by rw [after, stepped, Option.bind_some, rest]⟩

end Reaches

/-- What holds at a moment and is kept by every step holds at all later moments. -/
theorem after_keeps {property : Moment → Prop}
    (keeps : ∀ moment next, property moment → moment.step = some next → property next)
    {count : Nat} (holds : property moment) (reached : after count moment = some later) :
    property later := by
  induction count generalizing moment with
  | zero =>
      cases reached
      exact holds
  | succ count induction =>
      rw [after] at reached
      rcases Option.bind_eq_some_iff.mp reached with ⟨next, stepped, rest⟩
      exact induction (keeps moment next holds stepped) rest

end Moment

/-! ## Calls come to what the functions come to -/

/-- The moment when a rule returns. -/
def Outcome.returned {bound : Nat} (outcome : Outcome bound) (frames : List Frame) : Moment :=
  ⟨.answer outcome.result, frames, outcome.parser⟩

open Moment

theorem reaches_andThen {bound : Nat} {outcome : Outcome bound}
    {next : Float → (parser : Parser) → parser.ahead ≤ bound → Outcome bound}
    (continuation : Continuation) (frames : List Frame)
    (reaches : ∀ value parser ahead_le,
      Reaches ⟨.call (continuation.rule value), frames, parser⟩
        ((next value parser ahead_le).returned frames)) :
    Reaches (outcome.returned (.goOn continuation :: frames))
      ((outcome.andThen next).returned frames) := by
  rcases outcome with ⟨misreading | value, parser, ahead_le⟩
  · exact .head rfl (.refl _)
  · exact .head rfl (reaches value parser ahead_le)

theorem reaches_opened (opening : Opening) (frames : List Frame) (parser : Parser) :
    Reaches ((Rule.nested .factor).outcome parser |>.returned (.opened opening :: frames))
      ((Parser.opened opening parser).returned frames) := by
  rw [Parser.opened]
  exact .head rfl (.refl _)

/-- The room that a call takes: every call within it takes less, or has less of the text
ahead. -/
def Rule.rank : Rule → Nat
  | sums _ | products _ | power _ | primary | closeGroup _ => 0
  | factor => 1
  | term => 2
  | expression => 3
  | nested _ => 4

theorem Inner.rank_rule_lt (inner : Inner) : inner.rule.rank < (Rule.nested inner).rank := by
  cases inner <;> decide

theorem reaches_outcome (rule : Rule) (frames : List Frame) (parser : Parser) :
    Reaches ⟨.call rule, frames, parser⟩ ((rule.outcome parser).returned frames) := by
  cases rule with
  | expression =>
      rw [Rule.outcome, Parser.expression]
      refine .head rfl ((reaches_outcome .term _ parser).trans (reaches_andThen .sums frames ?_))
      intro value behind le
      exact reaches_outcome (.sums value) frames behind
  | term =>
      rw [Rule.outcome, Parser.term]
      refine .head rfl ((reaches_outcome .factor _ parser).trans
        (reaches_andThen .products frames ?_))
      intro value behind le
      exact reaches_outcome (.products value) frames behind
  | sums left =>
      rw [Rule.outcome, Parser.sums]
      refine .head rfl ?_
      simp only [Rule.begin]
      generalize parser.choose sumOperators = choice
      cases choice with
      | left here le => exact .refl _
      | taken operator behind shorter =>
          refine (reaches_outcome .term _ behind).trans
            (reaches_andThen (.sum left operator) frames ?_)
          intro right later le
          exact reaches_outcome (.sums (operator.apply left right)) frames later
  | products left =>
      rw [Rule.outcome, Parser.products]
      refine .head rfl ?_
      simp only [Rule.begin]
      generalize parser.choose productOperators = choice
      cases choice with
      | left here le => exact .refl _
      | taken operator behind shorter =>
          refine (reaches_outcome .factor _ behind).trans
            (reaches_andThen (.product left operator) frames ?_)
          intro right later le
          exact reaches_outcome (.products (operator.apply left right)) frames later
  | factor =>
      rw [Rule.outcome, Parser.factor]
      refine .head rfl ?_
      simp only [Rule.begin]
      generalize parser.choose signs = choice
      cases choice with
      | left here le =>
          refine (reaches_outcome .primary _ here).trans (reaches_andThen .power frames ?_)
          intro base behind le
          exact reaches_outcome (.power base) frames behind
      | taken sign behind shorter =>
          exact (reaches_outcome (.nested .factor) _ behind).trans
            (reaches_opened sign frames behind)
  | power base =>
      rw [Rule.outcome, Parser.power]
      refine .head rfl ?_
      simp only [Rule.begin]
      generalize parser.choose [('^', Opening.base base)] = choice
      cases choice with
      | left here le => exact .refl _
      | taken opening behind shorter =>
          exact (reaches_outcome (.nested .factor) _ behind).trans
            (reaches_opened opening frames behind)
  | nested inner =>
      rw [Rule.outcome, Parser.nested]
      refine .head rfl ?_
      simp only [Rule.begin]
      split
      · exact .refl _
      · refine (reaches_outcome inner.rule _ _).trans (.head rfl ?_)
        rw [inner.outcome_rule]
        exact .refl _
  | primary =>
      rw [Rule.outcome, Parser.primary]
      refine .head rfl ?_
      simp only [Rule.begin]
      generalize parser.choose [('(', ())] = choice
      cases choice with
      | left here le => exact .refl _
      | taken meaning behind shorter =>
          refine (reaches_outcome (.nested .expression) _ behind).trans
            (reaches_andThen .closeGroup frames ?_)
          intro value later le
          exact reaches_outcome (.closeGroup value) frames later
  | closeGroup value =>
      rw [Rule.outcome, Parser.closeGroup]
      refine .head rfl ?_
      simp only [Rule.begin]
      generalize parser.choose [(')', ())] = choice
      cases choice with
      | left here le => exact .refl _
      | taken meaning behind shorter => exact .refl _
termination_by 5 * parser.ahead + rule.rank
decreasing_by
  all_goals first
    | exact Nat.add_lt_add_left inner.rank_rule_lt _
    | (simp only [Rule.rank]; omega)

/-! ## Calls leave what lies below them -/

namespace Moment

variable {moment next later : Moment}

/-- The moment in a run that some callers wait for. -/
def calledFrom (frames : List Frame) (moment : Moment) : Moment :=
  { moment with frames := moment.frames ++ frames }

theorem begin_calledFrom (rule : Rule) (top frames : List Frame) (parser : Parser) :
    rule.begin (top ++ frames) parser = (rule.begin top parser).calledFrom frames := by
  cases rule <;> simp only [Rule.begin] <;> (try split) <;> rfl

theorem resume_calledFrom (frame : Frame) (result : Except Misreading Float)
    (top frames : List Frame) (parser : Parser) :
    frame.resume result (top ++ frames) parser =
      (frame.resume result top parser).calledFrom frames := by
  cases frame <;> cases result <;> simp only [Frame.resume] <;> (try split) <;> rfl

theorem step_calledFrom (stepped : moment.step = some next) (frames : List Frame) :
    (moment.calledFrom frames).step = some (next.calledFrom frames) := by
  rcases moment with ⟨rule | result, _ | ⟨frame, top⟩, parser⟩
  · cases stepped
    exact congrArg some (begin_calledFrom rule [] frames parser)
  · cases stepped
    exact congrArg some (begin_calledFrom rule (frame :: top) frames parser)
  · cases stepped
  · cases stepped
    exact congrArg some (resume_calledFrom frame result top frames parser)

theorem after_calledFrom {count : Nat} (reached : after count moment = some later)
    (frames : List Frame) :
    after count (moment.calledFrom frames) = some (later.calledFrom frames) := by
  induction count generalizing moment with
  | zero =>
      cases reached
      rfl
  | succ count induction =>
      rw [after] at reached ⊢
      rcases Option.bind_eq_some_iff.mp reached with ⟨next, stepped, rest⟩
      rw [step_calledFrom stepped, Option.bind_some]
      exact induction rest

end Moment

/-- A call that returns after some steps, and until then is above its callers. -/
structure ReturnsAfter (count : Nat) (rule : Rule) (frames : List Frame) (parser : Parser) :
    Prop where
  returned : after count ⟨.call rule, frames, parser⟩ =
    some ((rule.outcome parser).returned frames)
  above : ∀ earlier < count, ∃ task top between,
    after earlier ⟨.call rule, frames, parser⟩ = some ⟨task, top ++ frames, between⟩ ∧
      ∀ result, task = .answer result → top ≠ []

theorem exists_returnsAfter (rule : Rule) (frames : List Frame) (parser : Parser) :
    ∃ count, ReturnsAfter count rule frames parser := by
  rcases reaches_outcome rule [] parser with ⟨count, reached⟩
  refine ⟨count, after_calledFrom reached frames, fun earlier less => ?_⟩
  rcases Nat.exists_eq_add_of_lt less with ⟨more, rfl⟩
  rw [Nat.add_assoc, after_add] at reached
  rcases Option.bind_eq_some_iff.mp reached with ⟨⟨task, top, between⟩, there, rest⟩
  refine ⟨task, top, between, after_calledFrom there frames, ?_⟩
  rintro result rfl rfl
  cases rest

end DeskCalculator.Expression.Parser
