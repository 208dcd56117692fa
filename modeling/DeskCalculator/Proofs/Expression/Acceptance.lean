import DeskCalculator.Proofs.Expression.Outline
import DeskCalculator.Proofs.Expression.Phrase

/-! Evaluation succeeds on the texts that spell a derivation within the nesting limit, and
gives the value of that derivation. -/

namespace DeskCalculator.Expression

open Progress

theorem begins_start : Begins .expression .start :=
  .expression 0 []

theorem Completes.finish_eq {value : Float} {last : Progress}
    (completes : Completes .expression .start value last) : last.finish = .ok value := by
  generalize origin : Progress.start = start at completes
  cases completes with
  | expression depth enclosing level operand =>
      cases origin
      rfl

theorem evaluate_of_derivation {limit : Nat} {text : List Char}
    (derivation : Derivation .expression) (spells : Spells derivation.tokens text)
    (fits : derivation.nesting ≤ limit) :
    evaluate limit text = .ok derivation.value := by
  have room : Progress.start.depth + derivation.nesting ≤ limit := by
    rwa [show Progress.start.depth = 0 from rfl, Nat.zero_add]
  rcases derivation.reaches begins_start room with ⟨last, moves, completes⟩
  exact run_of_spells spells moves completes.finish_eq 0

theorem exists_derivation_of_evaluate {limit : Nat} {text : List Char} {value : Float}
    (evaluated : evaluate limit text = .ok value) :
    ∃ derivation : Derivation .expression, Spells derivation.tokens text ∧
      derivation.nesting ≤ limit ∧ derivation.value = value := by
  rcases exists_reads_of_evaluate evaluated with
    ⟨tokens, last, stopped, reads, nothing, finished⟩
  rcases exists_derivation_of_moves reads.moves finished with ⟨derivation, rfl, equal⟩
  have fits := derivation.depth_add_nesting_le begins_start (Nat.zero_le limit) reads.moves
  rw [show Progress.start.depth = 0 from rfl, Nat.zero_add] at fits
  exact ⟨derivation, reads.cuts.spells nothing, fits, equal⟩

theorem evaluate_eq_ok_iff (limit : Nat) (text : List Char) (value : Float) :
    evaluate limit text = .ok value ↔
      (∃ derivation : Derivation .expression,
        Spells derivation.tokens text ∧ derivation.nesting ≤ limit) ∧
      ∀ derivation : Derivation .expression,
        Spells derivation.tokens text → derivation.nesting ≤ limit →
          derivation.value = value := by
  constructor
  · intro evaluated
    rcases exists_derivation_of_evaluate evaluated with ⟨derivation, spells, fits, -⟩
    refine ⟨⟨derivation, spells, fits⟩, ?_⟩
    intro other spellsOther fitsOther
    have evaluatedOther := evaluate_of_derivation other spellsOther fitsOther
    exact Except.ok.inj (evaluatedOther.symm.trans evaluated)
  · rintro ⟨⟨derivation, spells, fits⟩, all⟩
    rw [evaluate_of_derivation derivation spells fits, all derivation spells fits]

end DeskCalculator.Expression
