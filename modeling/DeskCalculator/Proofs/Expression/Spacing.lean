import DeskCalculator.Proofs.Expression.Displacement
import DeskCalculator.Proofs.Expression.FirstMisreading
import DeskCalculator.Proofs.Expression.Lookahead
import DeskCalculator.Proofs.Expression.NestingLimit

/-! Blanks may be put between any two tokens of a text, or taken away there. Only between
characters that would make up one literal do they matter. A misreading stays with the
character that it is about. -/

namespace DeskCalculator.Expression

open Text Number Progress

/-- The place of the character that a misreading is about. Nesting too deep is reported
one place behind the character that opens the level. -/
def Misreading.anchor (misreading : Misreading) : Nat :=
  match misreading.cause with
  | .nestedTooDeep _ => misreading.position - 1
  | _ => misreading.position

/-- The misreading of the text with `count` characters put in at `place`. -/
def Misreading.spaced (place count : Nat) (misreading : Misreading) : Misreading :=
  if place ≤ misreading.anchor then misreading.moved count else misreading

/-- No literal can begin in the first text and go on in the second. -/
def Apart (before after : List Char) : Prop :=
  NotAhead startsLiteral before.reverse ∨ NotAhead startsLiteral after

instance (before after : List Char) : Decidable (Apart before after) :=
  inferInstanceAs (Decidable (_ ∨ _))

variable {limit : Nat} {before blanks after : List Char}

theorem Apart.append_blanks (apart : Apart before after) (blank : Throughout isBlank blanks) :
    Apart before (blanks ++ after) := by
  rcases apart with ends | starts
  · exact .inl ends
  · exact .inr (notAhead_blanks_append blank starts)

theorem Apart.of_append {front : List Char} (apart : Apart (front ++ before) after) :
    Apart before after := by
  rcases apart with ends | starts
  · rw [List.reverse_append] at ends
    exact .inl ends.of_append
  · exact .inr starts

/-! A token that ends in front of a text does so in front of a longer one. -/

theorem Token.EndsBefore.append {token : Token} {tail : List Char}
    (ends : token.EndsBefore tail) (apart : Apart (token.text ++ tail) after) :
    token.EndsBefore (tail ++ after) := by
  cases tail with
  | cons first tail => exact ends.join (.inl rfl)
  | nil =>
      cases token with
      | symbol character => exact ends
      | literal text =>
          rcases apart with closed | stops
          · rcases ends with ⟨some, cut⟩
            have all := throughout_startsLiteral cut
            rcases List.eq_nil_or_concat text with rfl | ⟨front, last, rfl⟩
            · exact absurd rfl some
            · simp [Token.text, all last (by simp)] at closed
          · exact ends.join (joins_of_notAhead [] stops)

/-! What is reported is about a token that is still ahead. -/

theorem Progress.Refusal.anchor_misread {progress : Progress} {cursor : Cursor}
    {lexeme : Lexeme} {cause : Misreading.Cause}
    (refusal : Refusal limit lexeme.token progress cause)
    (found : cursor.lexeme? = some lexeme) :
    (lexeme.misread cause).1.anchor = lexeme.start.position := by
  generalize equal : lexeme.token = token at refusal
  cases refusal with
  | malformed | noOperand | trailing | unclosed => rfl
  | tooDeep nests full =>
      subst equal
      have next := nests.next_position found
      simp [Lexeme.misread, Misreading.anchor, next]

/-- A token in front of the place is misread alike, whatever is put in behind it. -/
theorem Progress.Refusal.misread_spaced {progress : Progress} {cursor : Cursor}
    {token : Token} {cause : Misreading.Cause} {position skipped place count : Nat}
    {rest other : List Char} (refusal : Refusal limit token progress cause)
    (found : cursor.lexeme? = some (.placed position skipped token rest))
    (inFront : position + skipped < place) :
    ((Lexeme.placed position skipped token other).misread cause).1 =
      ((Lexeme.placed position skipped token rest).misread cause).1.spaced place count := by
  have anchor := refusal.anchor_misread found
  rw [Lexeme.placed_start] at anchor
  rw [Misreading.spaced, anchor, if_neg (Nat.not_le.mpr inFront)]
  cases cause <;> rfl

theorem Progress.position_le_anchor {progress : Progress} {cursor : Cursor}
    {misreading : Misreading} (failed : (progress.run limit cursor).1 = .error misreading) :
    cursor.position ≤ misreading.anchor := by
  cases found : cursor.lexeme? with
  | none =>
      rw [run_of_end found] at failed
      rcases progress.finish_eq_ok_or_error with ⟨value, finished⟩ | unfinished
      · rw [finished] at failed
        cases failed
      · rw [unfinished] at failed
        cases failed
        exact Nat.le_add_right _ _
  | some lexeme =>
      have passed := Cursor.position_lt_next found
      rcases moves_or_refused limit lexeme.token progress with ⟨next, move⟩ | ⟨cause, refusal⟩
      · rw [run_of_move found move] at failed
        have further := position_le_anchor failed
        omega
      · rw [run_of_refusal found refusal] at failed
        cases failed
        rw [refusal.anchor_misread found]
        exact passed.1
termination_by cursor.rest.length
decreasing_by exact Cursor.length_next_lt found

/-! ## Putting blanks in -/

theorem Cursor.skipBlanks_append_blanks (position : Nat)
    (blank : Throughout isBlank blanks) (rest : List Char) :
    skipBlanks ⟨position, blanks ++ rest⟩ = skipBlanks ⟨position + blanks.length, rest⟩ := by
  simp only [skipBlanks, List.takeWhile_append_of_pos blank,
    List.dropWhile_append_of_pos blank, List.length_append, Nat.add_assoc]

theorem Progress.run_append_blanks (progress : Progress) (position : Nat)
    (blank : Throughout isBlank blanks) (rest : List Char) :
    progress.run limit ⟨position, blanks ++ rest⟩ =
      progress.run limit ⟨position + blanks.length, rest⟩ := by
  rw [← run_skipBlanks, Cursor.skipBlanks_append_blanks position blank, run_skipBlanks]

theorem Progress.run_spaced (progress : Progress) (position : Nat) (before : List Char)
    (blank : Throughout isBlank blanks) (apart : Apart before after) :
    (progress.run limit ⟨position, before ++ (blanks ++ after)⟩).1 =
      (progress.run limit ⟨position, before ++ after⟩).1.mapError
        (.spaced (position + before.length) blanks.length) := by
  cases found : Cursor.lexeme? ⟨position, before⟩ with
  | none =>
      -- Nothing but blanks stands before the place, so all that is read moves.
      have beforeBlank := (Cursor.lexeme?_eq_none_iff _).mp found
      rw [run_append_blanks progress position beforeBlank,
        run_append_blanks progress position beforeBlank,
        run_append_blanks progress _ blank]
      have moved : progress.run limit ⟨position + before.length + blanks.length, after⟩ =
          movedAnswer blanks.length (progress.run limit ⟨position + before.length, after⟩) :=
        run_moved blanks.length progress ⟨position + before.length, after⟩
      rw [moved, movedAnswer]
      cases result : (progress.run limit ⟨position + before.length, after⟩).1 with
      | ok value => rfl
      | error misreading =>
          have moves : misreading.spaced (position + before.length) blanks.length =
              misreading.moved blanks.length := if_pos (position_le_anchor result)
          exact congrArg Except.error moves.symm
  | some lexeme =>
      -- The first token ends before the place, with or without the blanks.
      rcases Cursor.exists_of_lexeme?_eq_some found with
        ⟨front, token, tail, frontBlank, ends, restEqual, -⟩
      have beforeEqual : before = front ++ (token.text ++ tail) := restEqual
      rw [beforeEqual] at apart ⊢
      have tokenApart : Apart (token.text ++ tail) after := apart.of_append
      have foundHere := Cursor.lexeme?_append position frontBlank (ends.append tokenApart)
      have foundThere := Cursor.lexeme?_append position frontBlank
        (ends.append (tokenApart.append_blanks blank))
      simp only [List.append_assoc]
      rcases moves_or_refused limit token progress with ⟨next, move⟩ | ⟨cause, refusal⟩
      · rw [run_of_move foundHere move, run_of_move foundThere move]
        have spaced := run_spaced next (position + front.length + token.text.length) tail
          blank tokenApart.of_append
        simpa [Nat.add_assoc] using spaced
      · rw [run_of_refusal foundHere refusal, run_of_refusal foundThere refusal]
        have inFront : position + front.length <
            position + (front ++ (token.text ++ tail)).length := by
          have positive := ends.length_text_pos
          simp only [List.length_append]
          omega
        exact congrArg Except.error (refusal.misread_spaced foundHere inFront)
termination_by before.length
decreasing_by
  have positive := ends.length_text_pos
  simp only [beforeEqual, List.length_append]
  omega

theorem evaluate_spaced (limit : Nat) (blank : Throughout isBlank blanks)
    (apart : Apart before after) :
    evaluate limit (before ++ (blanks ++ after)) =
      (evaluate limit (before ++ after)).mapError (.spaced before.length blanks.length) := by
  simp only [evaluate, evaluateFrom, Cursor.start]
  rw [run_spaced .start 0 before blank apart, Nat.zero_add]

theorem evaluate_spaced_in_front_of_group :
    Throughout isBlank " \t".toList ∧ Apart "2^".toList "(3".toList ∧
      evaluate 1 ("2^".toList ++ (" \t".toList ++ "(3".toList)) =
        .error ⟨5, .nestedTooDeep 1⟩ ∧
      evaluate 1 ("2^".toList ++ "(3".toList) = .error ⟨3, .nestedTooDeep 1⟩ :=
  ⟨by decide, by decide,
    (evaluate_spaced 1 (by decide) (by decide)).trans (by decide +kernel),
    by decide +kernel⟩

end DeskCalculator.Expression
