import DeskCalculator.Proofs.Expression.Reading
import Mathlib.Data.Nat.Find
import Mathlib.Order.Bounds.Basic

/-! Every text needs some number of nesting levels. A limit of at least that number has
no effect, and below it the first character that opens one level too many is reported,
whatever the text is otherwise. -/

namespace DeskCalculator.Expression

open Progress

def TooDeep (limit : Nat) (text : List Char) : Prop :=
  ∃ position reported, evaluate limit text = .error ⟨position, .nestedTooDeep reported⟩

/-- Reading, with a limit that lets it come this far, meets a token at the position
that opens the nesting level. -/
def OpensLevel (text : List Char) (level position : Nat) : Prop :=
  ∃ limit tokens last stopped lexeme inside enclosing,
    Reads limit (.start text) tokens last stopped ∧
      stopped.lexeme? = some lexeme ∧ Nests lexeme.token last inside enclosing ∧
        last.depth + 1 = level ∧ lexeme.start.position = position

variable {limit : Nat} {text : List Char} {tokens : List Token} {last : Progress}
  {stopped : Cursor} {lexeme : Lexeme}

/-! What reading comes to within a limit. -/

theorem Reads.raise {cursor : Cursor} (reads : Reads limit cursor tokens last stopped)
    {larger : Nat} (le : limit ≤ larger) : Reads larger cursor tokens last stopped :=
  ⟨reads.cuts, reads.moves.raise le⟩

theorem Reads.depth_le_limit {cursor : Cursor}
    (reads : Reads limit cursor tokens last stopped) : last.depth ≤ limit :=
  reads.moves.depth_le_limit (Nat.zero_le limit)

theorem Reads.depth_le_position (reads : Reads limit (.start text) tokens last stopped) :
    last.depth ≤ stopped.position := by
  have grown := reads.moves.depth_le_length
  have passed := reads.cuts.length_le
  simp only [Progress.start, Cursor.start] at grown passed
  omega

theorem Reads.position_lt_length (reads : Reads limit (.start text) tokens last stopped)
    (found : stopped.lexeme? = some lexeme) : stopped.position < text.length := by
  rcases reads.cuts.exists_passed with ⟨passed, restEqual, positionEqual⟩
  have shorter := Cursor.length_next_lt found
  simp only [Cursor.start] at restEqual positionEqual
  rw [restEqual, List.length_append, positionEqual]
  omega

theorem Cursor.position_lt_next {cursor : Cursor} (found : cursor.lexeme? = some lexeme) :
    cursor.position ≤ lexeme.start.position ∧
      lexeme.start.position < lexeme.next.position := by
  rcases Cursor.exists_of_lexeme?_eq_some found with ⟨blanks, token, rest, -, ends, -, rfl⟩
  have positive := ends.length_text_pos
  simp only [Lexeme.placed_start, Lexeme.placed_next]
  omega

theorem Progress.Nests.next_position {inside : Level} {enclosing : List Level}
    {cursor : Cursor} (nests : Nests lexeme.token last inside enclosing)
    (found : cursor.lexeme? = some lexeme) :
    lexeme.next.position = lexeme.start.position + 1 := by
  rcases nests.exists_symbol with ⟨character, -, tokenEqual⟩
  rcases Cursor.exists_of_lexeme?_eq_some found with ⟨blanks, token, rest, -, -, -, rfl⟩
  rw [Lexeme.placed_token] at tokenEqual
  simp [tokenEqual, Token.text]

/-! Only the limit on nesting depends on the limit. -/

theorem evaluate_of_not_tooDeep (settled : ¬TooDeep limit text) {larger : Nat}
    (le : limit ≤ larger) : evaluate larger text = evaluate limit text := by
  rcases exists_reads limit (.start text) with ⟨tokens, last, stopped, reads, halts⟩
  cases halts with
  | atEnd nothing =>
      rw [reads.evaluate_of_end nothing, (reads.raise le).evaluate_of_end nothing]
  | @refused lexeme cause found refusal =>
      have evaluated := reads.evaluate_of_refusal found refusal
      have notDeep : ∀ reported, cause ≠ .nestedTooDeep reported := by
        rintro reported rfl
        exact settled ⟨_, reported, evaluated⟩
      rw [evaluated, (reads.raise le).evaluate_of_refusal found
        (refusal.change_limit notDeep larger)]

/-- What stands behind a report: a token that opens a level when the limit has been
reached. -/
theorem exists_reads_of_tooDeep (deep : TooDeep limit text) :
    ∃ tokens last stopped lexeme inside enclosing,
      Reads limit (.start text) tokens last stopped ∧ stopped.lexeme? = some lexeme ∧
        Nests lexeme.token last inside enclosing ∧ last.depth = limit ∧
          evaluate limit text =
            .error ⟨lexeme.start.position + 1, .nestedTooDeep limit⟩ := by
  rcases deep with ⟨position, reported, evaluated⟩
  have fails := fails_of_evaluate evaluated
  generalize equal : Misreading.mk position (.nestedTooDeep reported) = misreading at fails
  cases fails with
  | atEnd => cases equal
  | @refused tokens last stopped lexeme cause reads found refusal =>
      have causeEqual := congrArg Misreading.cause equal
      rw [Lexeme.misread_cause] at causeEqual
      subst causeEqual
      have known := reads.evaluate_of_refusal found refusal
      rcases Refusal.tooDeep_iff.mp refusal with ⟨rfl, full, inside, enclosing, nests⟩
      refine ⟨tokens, last, stopped, lexeme, inside, enclosing, reads, found, nests,
        Nat.le_antisymm reads.depth_le_limit full, ?_⟩
      rw [known, Lexeme.misread, nests.next_position found]

theorem not_tooDeep_of_length_le (le : text.length ≤ limit) : ¬TooDeep limit text := by
  intro deep
  rcases exists_reads_of_tooDeep deep with
    ⟨tokens, last, stopped, lexeme, inside, enclosing, reads, found, -, full, -⟩
  have passed := reads.depth_le_position
  have within := reads.position_lt_length found
  omega

/-! The report is about the first character that opens one level too many. -/

/-- A reading that stops at the limit is not behind any character that opens a deeper
level. -/
theorem Reads.position_le_of_opensLevel
    (reads : Reads limit (.start text) tokens last stopped)
    (found : stopped.lexeme? = some lexeme) {level position : Nat}
    (deeper : limit < level) (opens : OpensLevel text level position) :
    lexeme.start.position ≤ position := by
  rcases opens with
    ⟨other, tokensOther, lastOther, stoppedOther, lexemeOther, inside, enclosing,
      readsOther, foundOther, nests, rfl, rfl⟩
  rcases Nat.le_total tokens.length tokensOther.length with shorter | longer
  · rcases reads.cuts.of_length_le readsOther.cuts shorter with ⟨between, -, cuts⟩
    cases cuts with
    | stop =>
        cases found.symm.trans foundOther
        exact Nat.le_refl _
    | token foundAgain rest =>
        cases found.symm.trans foundAgain
        have passed := rest.length_le
        have before := (Cursor.position_lt_next found).2
        have after := (Cursor.position_lt_next foundOther).1
        omega
  · rcases readsOther.cuts.of_length_le reads.cuts longer with ⟨between, rfl, cuts⟩
    cases cuts with
    | stop =>
        cases found.symm.trans foundOther
        exact Nat.le_refl _
    | token foundAgain rest =>
        -- The limit was kept while this token was read, so it opened no such level.
        cases foundOther.symm.trans foundAgain
        rcases reads.moves.exists_of_append with ⟨reached, beginning, further⟩
        have same := (beginning.raise (Nat.le_max_left limit other)).unique
          (readsOther.moves.raise (Nat.le_max_right limit other))
        subst same
        have room := further.room nests
        omega

theorem exists_opener_of_tooDeep (deep : TooDeep limit text) :
    ∃ opener, OpensLevel text (limit + 1) opener ∧
      (∀ level position, limit < level → OpensLevel text level position →
        opener ≤ position) ∧
      evaluate limit text = .error ⟨opener + 1, .nestedTooDeep limit⟩ := by
  rcases exists_reads_of_tooDeep deep with
    ⟨tokens, last, stopped, lexeme, inside, enclosing, reads, found, nests, full, evaluated⟩
  refine ⟨lexeme.start.position, ?_, ?_, evaluated⟩
  · exact ⟨limit, tokens, last, stopped, lexeme, inside, enclosing, reads, found, nests,
      congrArg (· + 1) full, rfl⟩
  · intro level position deeper opens
    exact reads.position_le_of_opensLevel found deeper opens

/-- The text needs `threshold` nesting levels and has the result with all of them. -/
structure IsNestingThreshold (text : List Char) (threshold : Nat)
    (result : Except Misreading Float) : Prop where
  le_length : threshold ≤ text.length
  result_ne : ∀ position reported, result ≠ .error ⟨position, .nestedTooDeep reported⟩
  evaluate_of_le : ∀ limit, threshold ≤ limit → evaluate limit text = result
  evaluate_of_lt : ∀ limit, limit < threshold →
    ∃ opener, IsLeast {position | OpensLevel text (limit + 1) position} opener ∧
      evaluate limit text = .error ⟨opener + 1, .nestedTooDeep limit⟩
  position_mono : ∀ smaller larger first second,
    smaller ≤ larger →
      evaluate smaller text = .error ⟨first, .nestedTooDeep smaller⟩ →
        evaluate larger text = .error ⟨second, .nestedTooDeep larger⟩ → first ≤ second
  raise : ∀ smaller larger, smaller ≤ larger → ¬TooDeep smaller text →
    evaluate larger text = evaluate smaller text
  not_tooDeep : ∀ limit, text.length ≤ limit → ¬TooDeep limit text

theorem position_le_of_limit_le {smaller larger first second : Nat}
    (le : smaller ≤ larger)
    (atSmaller : evaluate smaller text = .error ⟨first, .nestedTooDeep smaller⟩)
    (atLarger : evaluate larger text = .error ⟨second, .nestedTooDeep larger⟩) :
    first ≤ second := by
  rcases exists_opener_of_tooDeep ⟨_, _, atSmaller⟩ with ⟨opener, -, least, evaluated⟩
  rcases exists_opener_of_tooDeep ⟨_, _, atLarger⟩ with ⟨other, opens, -, evaluatedOther⟩
  cases evaluated.symm.trans atSmaller
  cases evaluatedOther.symm.trans atLarger
  exact Nat.succ_le_succ (least _ _ (Nat.lt_succ_of_le le) opens)

theorem exists_isNestingThreshold (text : List Char) :
    ∃ threshold result, IsNestingThreshold text threshold result := by
  classical
  have exists_settled : ∃ limit, ¬TooDeep limit text :=
    ⟨text.length, not_tooDeep_of_length_le (Nat.le_refl _)⟩
  have settled := Nat.find_spec exists_settled
  refine ⟨Nat.find exists_settled, evaluate (Nat.find exists_settled) text, ?_⟩
  refine
    { le_length := Nat.find_min' exists_settled (not_tooDeep_of_length_le (Nat.le_refl _))
      result_ne := fun position reported equal => settled ⟨position, reported, equal⟩
      evaluate_of_le := fun limit le => evaluate_of_not_tooDeep settled le
      evaluate_of_lt := fun limit lt => ?_
      position_mono := fun _ _ _ _ => position_le_of_limit_le
      raise := fun _ _ le notDeep => evaluate_of_not_tooDeep notDeep le
      not_tooDeep := fun _ => not_tooDeep_of_length_le }
  have deep := not_not.mp (Nat.find_min exists_settled lt)
  rcases exists_opener_of_tooDeep deep with ⟨opener, opens, least, evaluated⟩
  exact ⟨opener, ⟨opens, fun position => least _ position (Nat.lt_succ_self limit)⟩,
    evaluated⟩

end DeskCalculator.Expression
