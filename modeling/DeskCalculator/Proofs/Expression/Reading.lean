import DeskCalculator.Proofs.Expression.Cut
import DeskCalculator.Proofs.Expression.Move

/-! Reading a text cuts it into tokens and moves the progress with each of them, until
the text ends or a token is refused. Cutting knows nothing of the progress, and the
moves know nothing of the text. -/

namespace DeskCalculator.Expression

open Text Number

namespace Progress

inductive Moves (limit : Nat) : Progress → List Token → Progress → Prop
  | stop (progress : Progress) : Moves limit progress [] progress
  | token {progress next last : Progress} {token : Token} {tokens : List Token}
      (move : Move limit token progress next) (rest : Moves limit next tokens last) :
      Moves limit progress (token :: tokens) last

namespace Moves

variable {limit : Nat} {progress last : Progress} {tokens : List Token}

theorem append {reached : Progress} {more : List Token}
    (moves : Moves limit progress tokens last) (further : Moves limit last more reached) :
    Moves limit progress (tokens ++ more) reached := by
  induction moves with
  | stop => exact further
  | token move rest induction => exact .token move (induction further)

theorem exists_of_append {reached : Progress} {more : List Token}
    (moves : Moves limit progress (tokens ++ more) reached) :
    ∃ between, Moves limit progress tokens between ∧ Moves limit between more reached := by
  induction tokens generalizing progress with
  | nil => exact ⟨progress, .stop progress, moves⟩
  | cons token tokens induction =>
      cases moves with
      | token move rest =>
          rcases induction rest with ⟨between, before, after⟩
          exact ⟨between, .token move before, after⟩

theorem unique {other : Progress} (moves : Moves limit progress tokens last)
    (again : Moves limit progress tokens other) : last = other := by
  induction moves with
  | stop =>
      cases again
      rfl
  | token move rest induction =>
      cases again with
      | token moveAgain restAgain =>
          cases move.unique moveAgain
          exact induction restAgain

/-- What is left of a longer reading after its beginning and one more token. -/
theorem after {between next reached : Progress} {token : Token} {more : List Token}
    (moves : Moves limit progress (tokens ++ token :: more) reached)
    (beginning : Moves limit progress tokens between) (move : Move limit token between next) :
    Moves limit next more reached := by
  rcases moves.exists_of_append with ⟨there, before, further⟩
  cases before.unique beginning
  cases further with
  | token moveAgain rest =>
      cases moveAgain.unique move
      exact rest

theorem room {token : Token} {level : Level} {enclosing : List Level}
    (moves : Moves limit progress (token :: tokens) last)
    (nests : Nests token progress level enclosing) : progress.depth < limit := by
  rcases Nat.lt_or_ge progress.depth limit with room | full
  · exact room
  · cases moves with
    | token move rest =>
        exact absurd (.tooDeep nests full) move.not_refusal

theorem raise {larger : Nat} (moves : Moves limit progress tokens last)
    (le : limit ≤ larger) : Moves larger progress tokens last := by
  induction moves with
  | stop => exact .stop _
  | token move rest induction => exact .token (move.raise le) induction

theorem depth_le_limit (moves : Moves limit progress tokens last)
    (within : progress.depth ≤ limit) : last.depth ≤ limit := by
  induction moves with
  | stop => exact within
  | token move rest induction => exact induction (move.depth_le_limit within)

theorem depth_le_length (moves : Moves limit progress tokens last) :
    last.depth ≤ progress.depth + tokens.length := by
  induction moves with
  | stop => simp
  | token move rest induction =>
      have grown := move.depth_le_succ
      simp only [List.length_cons]
      omega

end Moves

/-! The run of the machine, one token at a time. -/

section

variable {limit : Nat} {progress next : Progress} {cursor : Cursor} {lexeme : Lexeme}

theorem run_of_move (found : cursor.lexeme? = some lexeme)
    (move : Move limit lexeme.token progress next) :
    progress.run limit cursor = next.run limit lexeme.next := by
  rw [run]
  split
  · rename_i nothing
    simp [nothing] at found
  · rename_i again foundAgain
    cases found.symm.trans foundAgain
    simp only [move.step_eq]

theorem run_of_refusal {cause : Misreading.Cause} (found : cursor.lexeme? = some lexeme)
    (refusal : Refusal limit lexeme.token progress cause) :
    progress.run limit cursor =
      (.error (lexeme.misread cause).1, (lexeme.misread cause).2) := by
  rw [run]
  split
  · rename_i nothing
    simp [nothing] at found
  · rename_i again foundAgain
    cases found.symm.trans foundAgain
    simp only [refusal.step_eq]

theorem run_of_end (atEnd : cursor.lexeme? = none) :
    progress.run limit cursor =
      (progress.finish.mapError (Misreading.mk cursor.skipBlanks.position),
        cursor.skipBlanks) := by
  rw [run]
  split
  · rfl
  · rename_i again foundAgain
    simp [atEnd] at foundAgain

theorem run_of_moves {stopped : Cursor} {last : Progress} {tokens : List Token}
    (cuts : Cuts cursor tokens stopped) (moves : Moves limit progress tokens last) :
    progress.run limit cursor = last.run limit stopped := by
  induction cuts generalizing progress with
  | stop =>
      cases moves
      rfl
  | token found rest induction =>
      cases moves with
      | token move movesRest =>
          rw [run_of_move found move]
          exact induction movesRest

/-- Why a run that has come to a cursor goes no further. -/
inductive Halts (limit : Nat) (last : Progress) (stopped : Cursor) : Prop
  | atEnd (nothing : stopped.lexeme? = none)
  | refused {lexeme : Lexeme} {cause : Misreading.Cause}
      (found : stopped.lexeme? = some lexeme)
      (refusal : Refusal limit lexeme.token last cause)

/-- Every run cuts and moves as far as it can. -/
theorem exists_moves (limit : Nat) (progress : Progress) (cursor : Cursor) :
    ∃ tokens last stopped, Cuts cursor tokens stopped ∧
      Moves limit progress tokens last ∧ Halts limit last stopped := by
  induction length : cursor.rest.length using Nat.strongRecOn
    generalizing progress cursor with
  | ind _ induction =>
      cases found : cursor.lexeme? with
      | none => exact ⟨[], progress, cursor, .stop cursor, .stop progress, .atEnd found⟩
      | some lexeme =>
          cases taken : progress.step limit lexeme.token with
          | ok next =>
              have shorter := Cursor.length_next_lt found
              rcases induction _ (length ▸ shorter) next lexeme.next rfl with
                ⟨tokens, last, stopped, cuts, moves, halts⟩
              exact ⟨_, last, stopped, .token found cuts,
                .token (step_eq_ok_iff.mp taken) moves, halts⟩
          | error cause =>
              exact ⟨[], progress, cursor, .stop cursor, .stop progress,
                .refused found (step_eq_error_iff.mp taken)⟩

end

/-! A text that spells tokens is cut into them, if the tokens can be read: two
literals never follow each other, so no literal runs into the next token. -/

theorem Move.endsBefore_symbol {limit : Nat} {progress next : Progress} {character : Char}
    (move : Move limit (.symbol character) progress next) :
    isBlank character = false ∧ startsLiteral character = false := by
  cases move with
  | nest nests room =>
      cases nests with
      | sign sign => cases sign <;> decide
      | group => decide
      | power => decide
  | sum operator => cases operator <;> decide
  | product operator => cases operator <;> decide
  | close => decide

theorem Spells.notAhead {limit : Nat} {progress last : Progress} {operand : Float}
    {tokens : List Token} {text : List Char} (spells : Spells tokens text)
    (moves : Moves limit progress tokens last) (behind : progress.operand = some operand) :
    NotAhead startsLiteral text := by
  cases spells with
  | blanks blank =>
      intro character member
      exact startsLiteral_eq_false_of_isBlank (blank character (List.mem_of_mem_head? member))
  | @token blanks token tokens text blank rest =>
      cases blanks with
      | cons first blanks =>
          exact (notAhead_cons _ _).mpr
            (startsLiteral_eq_false_of_isBlank (blank first (by simp)))
      | nil =>
          cases moves with
          | token move movesRest =>
              cases token with
              | symbol character => exact (notAhead_cons _ _).mpr move.endsBefore_symbol.2
              | literal text =>
                  cases move with
                  | literal => cases behind
                  | nest nests => cases nests

theorem exists_cuts_of_spells {limit : Nat} {progress last : Progress}
    {tokens : List Token} {text : List Char} (spells : Spells tokens text)
    (moves : Moves limit progress tokens last) (position : Nat) :
    ∃ stopped, Cuts ⟨position, text⟩ tokens stopped ∧ stopped.lexeme? = none := by
  induction spells generalizing progress position with
  | @blanks text blank =>
      exact ⟨⟨position, text⟩, .stop _, (Cursor.lexeme?_eq_none_iff _).mpr blank⟩
  | @token blanks token tokens text blank rest induction =>
      cases moves with
      | @token _ next _ _ _ move movesRest =>
          have ends : token.EndsBefore text := by
            cases token with
            | symbol character => exact move.endsBefore_symbol
            | literal written =>
                cases move with
                | literal depth level enclosing numeral =>
                    have stops := Spells.notAhead rest movesRest rfl
                    have cut := numeral.isCut notAhead_nil notAhead_nil
                    exact ⟨numeral.ne_nil, cut.join (joins_of_notAhead [] stops)⟩
                | nest nests => cases nests
          rcases induction movesRest (position + blanks.length + token.text.length) with
            ⟨stopped, cuts, atEnd⟩
          exact ⟨stopped, .token (Cursor.lexeme?_append position blank ends) cuts, atEnd⟩

theorem run_of_spells {limit : Nat} {progress last : Progress} {tokens : List Token}
    {text : List Char} {value : Float} (spells : Spells tokens text)
    (moves : Moves limit progress tokens last) (finished : last.finish = .ok value)
    (position : Nat) : (progress.run limit ⟨position, text⟩).1 = .ok value := by
  rcases exists_cuts_of_spells spells moves position with ⟨stopped, cuts, atEnd⟩
  rw [run_of_moves cuts moves, run_of_end atEnd, finished]
  rfl

end Progress

/-! What evaluation comes to. -/

/-- Reading from a cursor comes to another one with some progress made. -/
structure Reads (limit : Nat) (cursor : Cursor) (tokens : List Token)
    (last : Progress) (stopped : Cursor) : Prop where
  cuts : Cuts cursor tokens stopped
  moves : Progress.Moves limit .start tokens last

variable {limit : Nat} {cursor stopped : Cursor} {tokens : List Token} {last : Progress}

theorem Reads.evaluateFrom_eq (reads : Reads limit cursor tokens last stopped) :
    evaluateFrom limit cursor = last.run limit stopped :=
  Progress.run_of_moves reads.cuts reads.moves

theorem Reads.evaluate_eq {text : List Char}
    (reads : Reads limit (.start text) tokens last stopped) :
    evaluate limit text = (last.run limit stopped).1 := by
  rw [evaluate, reads.evaluateFrom_eq]

theorem Reads.evaluate_of_end {text : List Char}
    (reads : Reads limit (.start text) tokens last stopped)
    (atEnd : stopped.lexeme? = none) :
    evaluate limit text =
      last.finish.mapError (Misreading.mk stopped.skipBlanks.position) := by
  rw [reads.evaluate_eq, Progress.run_of_end atEnd]

theorem Reads.evaluate_of_refusal {text : List Char} {lexeme : Lexeme}
    {cause : Misreading.Cause} (reads : Reads limit (.start text) tokens last stopped)
    (found : stopped.lexeme? = some lexeme)
    (refusal : Progress.Refusal limit lexeme.token last cause) :
    evaluate limit text = .error (lexeme.misread cause).1 := by
  rw [reads.evaluate_eq, Progress.run_of_refusal found refusal]

theorem exists_reads (limit : Nat) (cursor : Cursor) :
    ∃ tokens last stopped, Reads limit cursor tokens last stopped ∧
      Progress.Halts limit last stopped := by
  rcases Progress.exists_moves limit .start cursor with
    ⟨tokens, last, stopped, cuts, moves, halts⟩
  exact ⟨tokens, last, stopped, ⟨cuts, moves⟩, halts⟩

theorem Progress.finish_eq_ok_or_error (progress : Progress) :
    (∃ value, progress.finish = .ok value) ∨ progress.finish = .error .unexpectedEnd := by
  rcases progress with ⟨depth, level, _ | ⟨outer, enclosing⟩, _ | operand⟩
  · exact .inr rfl
  · exact .inl ⟨_, rfl⟩
  · exact .inr rfl
  · exact .inr rfl

@[simp] theorem Lexeme.misread_cause (lexeme : Lexeme) (cause : Misreading.Cause) :
    (lexeme.misread cause).1.cause = cause := by
  cases cause <;> rfl

/-- An evaluation succeeds at the end of the text, with a complete expression. -/
theorem exists_reads_of_evaluate {text : List Char} {value : Float}
    (evaluated : evaluate limit text = .ok value) :
    ∃ tokens last stopped, Reads limit (.start text) tokens last stopped ∧
      stopped.lexeme? = none ∧ last.finish = .ok value := by
  rcases exists_reads limit (.start text) with ⟨tokens, last, stopped, reads, halts⟩
  cases halts with
  | atEnd nothing =>
      rw [reads.evaluate_of_end nothing] at evaluated
      rcases last.finish_eq_ok_or_error with ⟨found, finished⟩ | unfinished
      · rw [finished] at evaluated
        cases evaluated
        exact ⟨tokens, last, stopped, reads, nothing, finished⟩
      · rw [unfinished] at evaluated
        cases evaluated
  | refused found refusal =>
      rw [reads.evaluate_of_refusal found refusal] at evaluated
      cases evaluated

/-- How an evaluation fails: at the end of the text, or at a token that is refused. -/
inductive Fails (limit : Nat) (text : List Char) : Misreading → Prop
  | atEnd {tokens : List Token} {last : Progress} {stopped : Cursor}
      (reads : Reads limit (.start text) tokens last stopped)
      (nothing : stopped.lexeme? = none) (unfinished : last.finish = .error .unexpectedEnd) :
      Fails limit text ⟨stopped.skipBlanks.position, .unexpectedEnd⟩
  | refused {tokens : List Token} {last : Progress} {stopped : Cursor} {lexeme : Lexeme}
      {cause : Misreading.Cause} (reads : Reads limit (.start text) tokens last stopped)
      (found : stopped.lexeme? = some lexeme)
      (refusal : Progress.Refusal limit lexeme.token last cause) :
      Fails limit text (lexeme.misread cause).1

theorem fails_of_evaluate {text : List Char} {misreading : Misreading}
    (failed : evaluate limit text = .error misreading) : Fails limit text misreading := by
  rcases exists_reads limit (.start text) with ⟨tokens, last, stopped, reads, halts⟩
  cases halts with
  | atEnd nothing =>
      rw [reads.evaluate_of_end nothing] at failed
      rcases last.finish_eq_ok_or_error with ⟨value, finished⟩ | unfinished
      · rw [finished] at failed
        cases failed
      · rw [unfinished] at failed
        cases failed
        exact .atEnd reads nothing unfinished
  | refused found refusal =>
      rw [reads.evaluate_of_refusal found refusal] at failed
      cases failed
      exact .refused reads found refusal

end DeskCalculator.Expression
