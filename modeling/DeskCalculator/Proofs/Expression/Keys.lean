import DeskCalculator.Calculator
import DeskCalculator.Proofs.Expression.Reading
import DeskCalculator.Proofs.Text.Blank

/-! The tokens that an expression is made of can be typed: their characters are keys.
What is left of an accepted text without its other characters, the blanks, has the same
value. -/

namespace DeskCalculator.Expression

open Text Number Progress

def keyOrBlank (character : Char) : Bool :=
  keys.contains character || isBlank character

theorem throughout_keyOrBlank_of_blank {text : List Char} (blank : Throughout isBlank text) :
    Throughout keyOrBlank text :=
  fun character member => by simp [keyOrBlank, blank character member]

theorem throughout_keyOrBlank_of_keys {text : List Char}
    (all : Throughout keys.contains text) : Throughout keyOrBlank text :=
  fun character member => by simp only [keyOrBlank, all character member, Bool.true_or]

/-! Digits and points are keys, and no key is blank. -/

theorem keys_contains_of_startsLiteral {character : Char}
    (starts : startsLiteral character = true) : keys.contains character = true := by
  have each : Throughout keys.contains ('.' :: digits) := by decide
  simp only [startsLiteral, Bool.or_eq_true, beq_iff_eq] at starts
  rcases starts with digit | point
  · exact each character (List.mem_cons_of_mem _ (mem_digits_of_isDigit digit))
  · exact each character (point ▸ List.mem_cons_self ..)

theorem isBlank_eq_false_of_key {character : Char} (key : keys.contains character = true) :
    isBlank character = false := by
  have each : Throughout (fun key => !isBlank key) keys := by decide
  simpa using each character (List.contains_iff_mem.mp key)

theorem filter_keys_of_blank {blanks : List Char} (blank : Throughout isBlank blanks) :
    blanks.filter keys.contains = [] := by
  rw [List.filter_eq_nil_iff]
  intro character member key
  have notBlank := isBlank_eq_false_of_key key
  simp [blank character member] at notBlank

/-- Neither kind has capitals. -/
theorem toLower_of_keyOrBlank {character : Char} (either : keyOrBlank character = true) :
    character.toLower = character := by
  have each : Throughout (fun key => key.toLower == key) keys := by decide
  simp only [keyOrBlank, Bool.or_eq_true, List.contains_iff_mem] at either
  rcases either with key | blank
  · exact beq_iff_eq.mp (each character key)
  · exact toLower_of_isBlank blank

/-! What moves a progress is spelled with keys. -/

theorem throughout_keys_of_isNumeral {text : List Char} (numeral : IsNumeral text) :
    Throughout keys.contains text := by
  have starts := throughout_startsLiteral (numeral.isCut notAhead_nil notAhead_nil)
  exact fun character member => keys_contains_of_startsLiteral (starts character member)

theorem Progress.Move.throughout_keys {limit : Nat} {token : Token} {progress next : Progress}
    (move : Move limit token progress next) : Throughout keys.contains token.text := by
  cases move with
  | literal depth level enclosing numeral => exact throughout_keys_of_isNumeral numeral
  | nest nests room =>
      cases nests with
      | sign sign => cases sign <;> decide
      | group => decide
      | power => decide
  | sum operator => cases operator <;> decide
  | product operator => cases operator <;> decide
  | close => decide

theorem Progress.Moves.throughout_keys {limit : Nat} {tokens : List Token}
    {progress last : Progress} (moves : Moves limit progress tokens last) :
    ∀ token ∈ tokens, Throughout keys.contains token.text := by
  induction moves with
  | stop => simp
  | token move rest induction =>
      simp only [List.mem_cons, forall_eq_or_imp]
      exact ⟨move.throughout_keys, induction⟩

/-! A text that spells such tokens holds blanks besides, and spells them without blanks
too. -/

variable {tokens : List Token} {text : List Char}

theorem Spells.throughout_keyOrBlank (spells : Spells tokens text)
    (all : ∀ token ∈ tokens, Throughout keys.contains token.text) :
    Throughout keyOrBlank text := by
  induction spells with
  | blanks blank => exact throughout_keyOrBlank_of_blank blank
  | @token blanks token tokens text blank rest induction =>
      simp only [List.mem_cons, forall_eq_or_imp] at all
      have front := throughout_keyOrBlank_of_blank blank
      have middle := throughout_keyOrBlank_of_keys all.1
      simp only [throughout_append]
      exact ⟨front, middle, induction all.2⟩

theorem Spells.filter_keys (spells : Spells tokens text)
    (all : ∀ token ∈ tokens, Throughout keys.contains token.text) :
    Spells tokens (text.filter keys.contains) := by
  induction spells with
  | blanks blank =>
      rw [filter_keys_of_blank blank]
      exact .blanks throughout_nil
  | @token blanks token tokens text blank rest induction =>
      simp only [List.mem_cons, forall_eq_or_imp] at all
      have kept : token.text.filter keys.contains = token.text := List.filter_eq_self.mpr all.1
      rw [List.filter_append, List.filter_append, filter_keys_of_blank blank, kept]
      exact .token throughout_nil (induction all.2)

/-! ## Accepted texts -/

variable {limit : Nat} {value : Float}

theorem exists_spells_of_evaluate (evaluated : evaluate limit text = .ok value) :
    ∃ tokens last, Spells tokens text ∧ Moves limit .start tokens last ∧
      last.finish = .ok value := by
  rcases exists_reads_of_evaluate evaluated with
    ⟨tokens, last, stopped, reads, nothing, finished⟩
  exact ⟨tokens, last, reads.cuts.spells nothing, reads.moves, finished⟩

theorem throughout_keyOrBlank_of_evaluate (evaluated : evaluate limit text = .ok value) :
    Throughout keyOrBlank text := by
  rcases exists_spells_of_evaluate evaluated with ⟨tokens, last, spells, moves, -⟩
  exact spells.throughout_keyOrBlank moves.throughout_keys

theorem evaluate_filter_keys (evaluated : evaluate limit text = .ok value) :
    evaluate limit (text.filter keys.contains) = .ok value := by
  rcases exists_spells_of_evaluate evaluated with ⟨tokens, last, spells, moves, finished⟩
  exact run_of_spells (spells.filter_keys moves.throughout_keys) moves finished 0

end DeskCalculator.Expression
