import DeskCalculator.Proofs.Expression.Reading

/-! A misreading points at the first character after which the text can no longer be
completed. What stands in front of it can be, since every open parenthesis may still
be closed; and what follows it was never looked at. -/

namespace DeskCalculator.Expression

open Text Number Progress

def Accepted (limit : Nat) (text : List Char) : Prop :=
  ∃ value, evaluate limit text = .ok value

/-- The text is the beginning of an accepted one. -/
def Viable (limit : Nat) (text : List Char) : Prop :=
  ∃ rest, Accepted limit (text ++ rest)

/-- Every text that starts with the same `count` characters is misread alike. -/
def Settles (limit : Nat) (text : List Char) (count : Nat) (misreading : Misreading) :
    Prop :=
  ∀ other, other.take count = text.take count →
    evaluate limit other = .error misreading

/-! ## Completions

What is owed to a progress is an operand where one has to come, and one closing
parenthesis for each open one. -/

def closing (progress : Progress) : List Token :=
  List.replicate progress.enclosing.length (.symbol ')')

def completion (progress : Progress) : List Token :=
  match progress.operand with
  | none => .literal ['0'] :: closing progress
  | some _ => closing progress

theorem exists_moves_closing (limit depth : Nat) (level : Level) (enclosing : List Level)
    (operand : Float) :
    ∃ last value,
      Moves limit ⟨depth, level, enclosing, some operand⟩
          (List.replicate enclosing.length (.symbol ')')) last ∧
        last.finish = .ok value := by
  induction enclosing generalizing depth level operand with
  | nil => exact ⟨_, _, .stop _, rfl⟩
  | cons outer enclosing induction =>
      have induction := induction (depth - level.openings.length - 1) outer
        (level.expression operand)
      rcases induction with ⟨last, value, moves, finished⟩
      exact ⟨last, value, .token (.close depth level outer enclosing operand) moves, finished⟩

theorem exists_moves_numeral_closing (limit : Nat) {progress : Progress} {text : List Char}
    (owed : progress.operand = none) (numeral : IsNumeral text) :
    ∃ last value, Moves limit progress (.literal text :: closing progress) last ∧
      last.finish = .ok value := by
  rcases progress with ⟨depth, level, enclosing, _⟩
  cases owed
  rcases exists_moves_closing limit depth level enclosing (ofLiteral text) with
    ⟨last, value, moves, finished⟩
  exact ⟨last, value, .token (.literal depth level enclosing numeral) moves, finished⟩

theorem exists_moves_completion (limit : Nat) (progress : Progress) :
    ∃ last value, Moves limit progress (completion progress) last ∧
      last.finish = .ok value := by
  rcases progress with ⟨depth, level, enclosing, _ | operand⟩
  · exact exists_moves_numeral_closing limit rfl
      (.whole (by decide) (List.cons_ne_nil _ _))
  · exact exists_moves_closing limit depth level enclosing operand

theorem completion_ne_nil {progress : Progress}
    (unfinished : progress.finish = .error .unexpectedEnd) : completion progress ≠ [] := by
  rcases progress with ⟨depth, level, _ | ⟨outer, enclosing⟩, _ | operand⟩
  · simp [completion]
  · cases unfinished
  · simp [completion]
  · simp [completion, closing, List.replicate_succ]

variable {limit : Nat} {text : List Char} {tokens : List Token} {last : Progress}
  {stopped : Cursor} {lexeme : Lexeme}

/-! ## What reading has passed

The text in front of a cursor may go on in any other way, as long as its first
character does not change the token before it. -/

theorem Reads.exists_passed (reads : Reads limit (.start text) tokens last stopped) :
    ∃ passed, text = passed ++ stopped.rest ∧ stopped = ⟨passed.length, stopped.rest⟩ := by
  rcases reads.cuts.exists_passed with ⟨passed, restEqual, positionEqual⟩
  simp only [Cursor.start, Nat.zero_add] at restEqual positionEqual
  exact ⟨passed, restEqual, by rw [← positionEqual]⟩

theorem Reads.join {passed rest other : List Char}
    (reads : Reads limit (.start (passed ++ rest)) tokens last ⟨passed.length, rest⟩)
    (joins : Joins rest other) :
    Reads limit (.start (passed ++ other)) tokens last ⟨passed.length, other⟩ := by
  have cuts := reads.cuts
  rw [← Nat.zero_add passed.length] at cuts ⊢
  exact ⟨cuts.join joins, reads.moves⟩

theorem Reads.accepted {passed rest other : List Char} {more : List Token}
    (reads : Reads limit (.start (passed ++ rest)) tokens last ⟨passed.length, rest⟩)
    (joins : Joins rest other) (spells : Spells more other)
    (completes : ∃ final value, Moves limit last more final ∧ final.finish = .ok value) :
    Accepted limit (passed ++ other) := by
  rcases completes with ⟨final, value, moves, finished⟩
  refine ⟨value, ?_⟩
  rw [(reads.join joins).evaluate_eq]
  exact run_of_spells spells moves finished passed.length

theorem notAhead_blanks_append {blanks rest : List Char}
    (blank : Throughout isBlank blanks) (stops : NotAhead startsLiteral rest) :
    NotAhead startsLiteral (blanks ++ rest) := by
  cases blanks with
  | nil => exact stops
  | cons first blanks =>
      exact (notAhead_cons _ _).mpr (startsLiteral_eq_false_of_isBlank (blank first (by simp)))

theorem Reads.accepted_completion {passed rest blanks : List Char}
    (reads : Reads limit (.start (passed ++ rest)) tokens last ⟨passed.length, rest⟩)
    (blank : Throughout isBlank blanks) :
    Accepted limit (passed ++ (blanks ++ spellOut (completion last))) := by
  have stops := notAhead_blanks_append blank (notAhead_spellOut (completion last))
  exact reads.accepted (joins_of_notAhead rest stops)
    ((spells_spellOut _).append_blanks blank) (exists_moves_completion limit last)

theorem Reads.viable {passed rest blanks : List Char}
    (reads : Reads limit (.start (passed ++ rest)) tokens last ⟨passed.length, rest⟩)
    (blank : Throughout isBlank blanks) : Viable limit (passed ++ blanks) := by
  refine ⟨spellOut (completion last), ?_⟩
  rw [List.append_assoc]
  exact reads.accepted_completion blank

/-- The blanks behind what has been passed complete it exactly if nothing is owed. -/
theorem Reads.evaluate_blanks {passed rest blanks : List Char}
    (reads : Reads limit (.start (passed ++ rest)) tokens last ⟨passed.length, rest⟩)
    (blank : Throughout isBlank blanks) :
    evaluate limit (passed ++ blanks) =
      last.finish.mapError (Misreading.mk (passed.length + blanks.length)) := by
  have stops := notAhead_blanks_append blank notAhead_nil
  rw [List.append_nil] at stops
  have there := reads.join (joins_of_notAhead rest stops)
  rw [there.evaluate_of_end ((Cursor.lexeme?_eq_none_iff _).mpr blank),
    Cursor.skipBlanks_of_blank passed.length blank]

/-! ## The token that is refused -/

/-- Reading has passed some of the text and meets a token behind blanks. -/
structure Meets (limit : Nat) (text passed blanks : List Char) (token : Token)
    (rest : List Char) (last : Progress) : Prop where
  text_eq : text = passed ++ (blanks ++ (token.text ++ rest))
  blank : Throughout isBlank blanks
  ends : token.EndsBefore rest
  reads : ∃ tokens, Reads limit (.start text) tokens last
    ⟨passed.length, blanks ++ (token.text ++ rest)⟩

theorem Reads.exists_meets (reads : Reads limit (.start text) tokens last stopped)
    (found : stopped.lexeme? = some lexeme) :
    ∃ passed blanks token rest, Meets limit text passed blanks token rest last ∧
      lexeme = .placed passed.length blanks.length token rest := by
  rcases reads.exists_passed with ⟨passed, textEqual, stoppedEqual⟩
  rcases Cursor.exists_of_lexeme?_eq_some found with
    ⟨blanks, token, rest, blank, ends, restEqual, rfl⟩
  rw [restEqual] at textEqual stoppedEqual
  refine ⟨passed, blanks, token, rest, ⟨textEqual, blank, ends, tokens, ?_⟩, ?_⟩
  · rwa [stoppedEqual] at reads
  · rw [stoppedEqual]

namespace Meets

variable {passed blanks rest : List Char} {token : Token} {cause : Misreading.Cause}

theorem evaluate_eq (meets : Meets limit text passed blanks token rest last)
    (refusal : Refusal limit token last cause) :
    evaluate limit text =
      .error ((Lexeme.placed passed.length blanks.length token rest).misread cause).1 := by
  rcases meets.reads with ⟨tokens, reads⟩
  exact reads.evaluate_of_refusal
    (Cursor.lexeme?_append passed.length meets.blank meets.ends) refusal

theorem exists_text_eq (meets : Meets limit text passed blanks token rest last) :
    ∃ tail, text = (passed ++ blanks) ++ token.firstCharacter :: tail := by
  rcases meets.ends.exists_text_eq with ⟨tail, equal⟩
  exact ⟨tail ++ rest, by simp [meets.text_eq, equal]⟩

/-- Another token with the same first character would be met in the same place. -/
theorem other (meets : Meets limit text passed blanks token rest last)
    {tokenThere : Token} {restThere : List Char} (ends : tokenThere.EndsBefore restThere)
    (same : tokenThere.firstCharacter = token.firstCharacter) :
    Meets limit (passed ++ (blanks ++ (tokenThere.text ++ restThere))) passed blanks
      tokenThere restThere last := by
  rcases meets.reads with ⟨tokens, reads⟩
  rw [meets.text_eq] at reads
  rcases meets.ends.exists_text_eq with ⟨tail, equal⟩
  rcases ends.exists_text_eq with ⟨tailThere, equalThere⟩
  refine ⟨rfl, meets.blank, ends, tokens, reads.join (joins_append (.inl ?_) blanks)⟩
  simp [equal, equalThere, same]

end Meets

theorem exists_of_take_eq {before tail other : List Char} {count : Nat}
    (length : before.length = count)
    (same : other.take count = (before ++ tail).take count) :
    ∃ tailThere, other = before ++ tailThere := by
  subst length
  rw [List.take_left] at same
  have whole := List.take_append_drop before.length other
  rw [same] at whole
  exact ⟨other.drop before.length, whole.symm⟩

/-- Of a token that continues nothing only the first character matters. -/
theorem continues_eq_of_firstCharacter_eq {token other : Token} {rest restOther : List Char}
    (ends : token.EndsBefore rest) (endsOther : other.EndsBefore restOther)
    (same : other.firstCharacter = token.firstCharacter) (enclosing : List Level) :
    continues enclosing other = continues enclosing token := by
  cases token with
  | symbol character => rw [endsOther.eq_symbol ends same]
  | literal text =>
      cases other with
      | literal => rfl
      | symbol character =>
          have starts := ends.startsLiteral_firstCharacter
          rw [← same, endsOther.startsLiteral_firstCharacter] at starts
          cases starts

theorem Meets.settles {passed blanks rest : List Char} {token : Token}
    {cause : Misreading.Cause} (meets : Meets limit text passed blanks token rest last)
    (refusal : Refusal limit token last cause)
    (notMalformed : ∀ text, cause ≠ .malformedNumber text) :
    Settles limit text ((passed ++ blanks).length + 1)
      ((Lexeme.placed passed.length blanks.length token rest).misread cause).1 := by
  intro other same
  rcases meets.exists_text_eq with ⟨tail, textEqual⟩
  rw [textEqual, List.append_cons] at same
  rcases exists_of_take_eq (by simp [Nat.add_assoc]) same with ⟨tailThere, otherEqual⟩
  rcases exists_token meets.ends.isBlank_firstCharacter tailThere with
    ⟨tokenThere, restThere, endsThere, spelled, first⟩
  have meetsThere := meets.other endsThere first
  rw [← List.append_assoc, spelled, List.append_cons, ← otherEqual] at meetsThere
  cases refusal with
  | malformed => exact absurd rfl (notMalformed _)
  | noOperand depth level enclosing wrong =>
      cases endsThere.eq_symbol meets.ends first
      exact meetsThere.evaluate_eq (.noOperand depth level enclosing wrong)
  | tooDeep nests full =>
      rcases nests.exists_symbol with ⟨character, -, rfl⟩
      cases endsThere.eq_symbol meets.ends first
      exact meetsThere.evaluate_eq (.tooDeep nests full)
  | trailing depth level operand stops =>
      rw [← continues_eq_of_firstCharacter_eq meets.ends endsThere first] at stops
      have refusalThere : Refusal limit tokenThere _ _ := .trailing depth level operand stops
      rw [first] at refusalThere
      exact meetsThere.evaluate_eq refusalThere
  | unclosed depth level outer enclosing operand stops =>
      rw [← continues_eq_of_firstCharacter_eq meets.ends endsThere first] at stops
      have refusalThere : Refusal limit tokenThere _ _ :=
        .unclosed depth level outer enclosing operand stops
      rw [first] at refusalThere
      exact meetsThere.evaluate_eq refusalThere

/-! ## What a misreading says -/

/-- The character at the position fits nothing that could come there. -/
structure StopsAt (limit : Nat) (text : List Char) (found : Char)
    (misreading : Misreading) : Prop where
  found_eq : text[misreading.position]? = some found
  notBlank : isBlank found = false
  viable : Viable limit (text.take misreading.position)
  settles : Settles limit text (misreading.position + 1) misreading

def Pinpoints (limit : Nat) (text : List Char) (misreading : Misreading) : Prop :=
  let position := misreading.position
  match misreading.cause with
  | .unexpectedCharacter found =>
      StopsAt limit text found misreading ∧ ¬Accepted limit (text.take position)
  | .trailingInput found =>
      StopsAt limit text found misreading ∧ Accepted limit (text.take position)
  | .unexpectedEnd =>
      position = text.length ∧ ¬Accepted limit text ∧
        ∃ rest, rest ≠ [] ∧ Accepted limit (text ++ rest)
  | .malformedNumber written =>
      written = ['.'] ∧ text[position]? = some '.' ∧
        Viable limit (text.take (position + 1)) ∧
          ∀ next, text[position + 1]? = some next →
            isDigit next = false ∧ Settles limit text (position + 2) misreading
  | .nestedTooDeep reported =>
      reported = limit ∧ 1 ≤ position ∧
        (∃ opener ∈ ['+', '-', '^', '('], text[position - 1]? = some opener) ∧
          Viable limit (text.take (position - 1)) ∧ Settles limit text position misreading

theorem not_accepted_of_error {misreading : Misreading}
    (failed : evaluate limit text = .error misreading) : ¬Accepted limit text := by
  rintro ⟨value, evaluated⟩
  cases failed.symm.trans evaluated

namespace Meets

variable {passed blanks rest : List Char} {token : Token} {cause : Misreading.Cause}

theorem getElem?_eq (meets : Meets limit text passed blanks token rest last) :
    text[passed.length + blanks.length]? = some token.firstCharacter := by
  rcases meets.exists_text_eq with ⟨tail, equal⟩
  rw [equal, ← List.length_append, List.getElem?_append_right (Nat.le_refl _)]
  simp

theorem take_eq (meets : Meets limit text passed blanks token rest last) :
    text.take (passed.length + blanks.length) = passed ++ blanks := by
  rcases meets.exists_text_eq with ⟨tail, equal⟩
  rw [equal, ← List.length_append, List.take_left]

theorem viable (meets : Meets limit text passed blanks token rest last) :
    Viable limit (text.take (passed.length + blanks.length)) := by
  rcases meets.reads with ⟨tokens, reads⟩
  have textEqual := meets.text_eq
  rw [meets.take_eq]
  rw [textEqual] at reads
  exact reads.viable meets.blank

theorem evaluate_take (meets : Meets limit text passed blanks token rest last) :
    evaluate limit (text.take (passed.length + blanks.length)) =
      last.finish.mapError (Misreading.mk (passed.length + blanks.length)) := by
  rcases meets.reads with ⟨tokens, reads⟩
  have textEqual := meets.text_eq
  rw [meets.take_eq]
  rw [textEqual] at reads
  exact reads.evaluate_blanks meets.blank

theorem stopsAt (meets : Meets limit text passed blanks token rest last)
    (refusal : Refusal limit token last cause)
    (atStart : (Lexeme.placed passed.length blanks.length token rest).misread cause =
      (⟨passed.length + blanks.length, cause⟩,
        ⟨passed.length + blanks.length, token.text ++ rest⟩)) :
    StopsAt limit text token.firstCharacter ⟨passed.length + blanks.length, cause⟩ := by
  have notMalformed : ∀ text, cause ≠ .malformedNumber text := by
    rintro text rfl
    have next := congrArg Cursor.position (congrArg Prod.snd atStart)
    have positive := meets.ends.length_text_pos
    simp only [Lexeme.misread, Lexeme.placed_next] at next
    omega
  have settles := meets.settles refusal notMalformed
  rw [atStart, List.length_append] at settles
  exact ⟨meets.getElem?_eq, meets.ends.isBlank_firstCharacter, meets.viable, settles⟩

/-- The only literal that is no numeral is a lone point. -/
theorem eq_point {written : List Char}
    (meets : Meets limit text passed blanks (.literal written) rest last)
    (notNumeral : ¬IsNumeral written) : written = ['.'] := by
  rcases meets.ends.2.cases with numeral | empty | point
  · exact absurd numeral notNumeral
  · exact absurd empty meets.ends.1
  · exact point

/-! A point without digits is refused, although one digit would have made it a
literal; whether one comes is decided by the next character. -/

theorem viable_point
    (meets : Meets limit text passed blanks (.literal ['.']) rest last)
    (owed : last.operand = none) :
    Viable limit (text.take (passed.length + blanks.length + 1)) := by
  rcases meets.reads with ⟨tokens, reads⟩
  rw [meets.text_eq] at reads
  have joins : Joins ('.' :: rest) ('.' :: '0' :: spellOut (closing last)) := .inl rfl
  have numeral : IsNumeral ['.', '0'] :=
    .fraction (by decide) (List.cons_ne_nil _ _)
  have spells : Spells (.literal ['.', '0'] :: closing last)
      (blanks ++ ('.' :: '0' :: spellOut (closing last))) :=
    .token meets.blank (spells_spellOut (closing last))
  have accepted := reads.accepted (joins_append joins blanks) spells
    (exists_moves_numeral_closing limit owed numeral)
  have passedEqual : text.take (passed.length + blanks.length + 1) =
      passed ++ (blanks ++ ['.']) := by
    rw [meets.text_eq, Token.text, List.cons_append, List.nil_append,
      List.append_cons blanks, ← List.append_assoc passed,
      List.take_left' (by simp [Nat.add_assoc])]
  refine ⟨'0' :: spellOut (closing last), ?_⟩
  rw [passedEqual]
  simpa using accepted

theorem settles_point {next : Char} {tail : List Char}
    (meets : Meets limit text passed blanks (.literal ['.']) (next :: tail) last)
    (owed : last.operand = none) :
    Settles limit text (passed.length + blanks.length + 2)
      ⟨passed.length + blanks.length, .malformedNumber ['.']⟩ := by
  intro other same
  have textEqual : text = (passed ++ (blanks ++ ['.', next])) ++ tail := by
    simp [meets.text_eq, Token.text]
  rw [textEqual] at same
  rcases exists_of_take_eq (by simp [Nat.add_assoc]) same with ⟨tailThere, otherEqual⟩
  have ends : (Token.literal ['.']).EndsBefore (next :: tailThere) :=
    ⟨by simp, meets.ends.2.join (.inl rfl)⟩
  have meetsThere := meets.other ends rfl
  have spelled : passed ++ (blanks ++ ((Token.literal ['.']).text ++ next :: tailThere)) =
      other := by
    simp [otherEqual, Token.text]
  rw [spelled] at meetsThere
  rcases last with ⟨depth, level, enclosing, operand⟩
  cases owed
  have notNumeral : ¬IsNumeral ['.'] := by
    rw [← isLiteral_iff_isNumeral]
    decide
  exact meetsThere.evaluate_eq (.malformed depth level enclosing notNumeral)

theorem pinpoints_malformed {written : List Char}
    (meets : Meets limit text passed blanks (.literal written) rest last)
    (notNumeral : ¬IsNumeral written) (owed : last.operand = none) :
    Pinpoints limit text ⟨passed.length + blanks.length, .malformedNumber written⟩ := by
  cases meets.eq_point notNumeral
  refine ⟨rfl, meets.getElem?_eq, meets.viable_point owed, ?_⟩
  intro next ahead
  have stops := meets.ends.2.stops
  have textEqual : text = (passed ++ (blanks ++ ['.'])) ++ rest := by
    simp [meets.text_eq, Token.text]
  rw [textEqual, List.getElem?_append_right (by simp [Nat.add_assoc])] at ahead
  cases rest with
  | nil => simp at ahead
  | cons first tail =>
      have same : first = next := by
        simpa [Nat.add_assoc] using ahead
      subst same
      exact ⟨(notAhead_cons _ _).mp stops, meets.settles_point owed⟩

theorem pinpoints (meets : Meets limit text passed blanks token rest last)
    (refusal : Refusal limit token last cause) :
    Pinpoints limit text
      ((Lexeme.placed passed.length blanks.length token rest).misread cause).1 := by
  have before := meets.evaluate_take
  cases refusal with
  | malformed depth level enclosing notNumeral =>
      exact meets.pinpoints_malformed notNumeral rfl
  | noOperand depth level enclosing wrong =>
      exact ⟨meets.stopsAt (.noOperand depth level enclosing wrong) rfl,
        not_accepted_of_error before⟩
  | trailing depth level operand stops =>
      exact ⟨meets.stopsAt (.trailing depth level operand stops) rfl, _, before⟩
  | unclosed depth level outer enclosing operand stops =>
      exact ⟨meets.stopsAt (.unclosed depth level outer enclosing operand stops) rfl,
        not_accepted_of_error before⟩
  | tooDeep nests full =>
      have settles := meets.settles (.tooDeep nests full) nofun
      have found := meets.getElem?_eq
      rcases nests.exists_symbol with ⟨opener, opens, rfl⟩
      rw [List.length_append] at settles
      exact ⟨rfl, Nat.le_add_left 1 _, ⟨opener, opens, found⟩, meets.viable, settles⟩

end Meets

theorem Reads.pinpoints_end (reads : Reads limit (.start text) tokens last stopped)
    (nothing : stopped.lexeme? = none) (unfinished : last.finish = .error .unexpectedEnd) :
    Pinpoints limit text ⟨stopped.skipBlanks.position, .unexpectedEnd⟩ := by
  have failed := reads.evaluate_of_end nothing
  rw [unfinished] at failed
  have blank := (Cursor.lexeme?_eq_none_iff stopped).mp nothing
  rcases reads.exists_passed with ⟨passed, textEqual, stoppedEqual⟩
  have skipped := Cursor.skipBlanks_of_blank passed.length blank
  rw [← stoppedEqual] at skipped
  refine ⟨?_, not_accepted_of_error failed, spellOut (completion last), ?_, ?_⟩
  · rw [skipped, textEqual, List.length_append]
  · rcases List.exists_cons_of_ne_nil (completion_ne_nil unfinished) with ⟨token, more, equal⟩
    simp [equal, spellOut]
  · rw [stoppedEqual, textEqual] at reads
    have accepted := reads.accepted_completion blank
    rwa [← List.append_assoc, ← textEqual] at accepted

theorem pinpoints_of_evaluate_eq_error {misreading : Misreading}
    (failed : evaluate limit text = .error misreading) :
    Pinpoints limit text misreading := by
  cases fails_of_evaluate failed with
  | atEnd reads nothing unfinished => exact reads.pinpoints_end nothing unfinished
  | refused reads found refusal =>
      rcases reads.exists_meets found with ⟨passed, blanks, token, rest, meets, rfl⟩
      exact meets.pinpoints refusal

theorem pinpoints_unclosed_group :
    evaluate 1 "2*(1 3".toList = .error ⟨5, .unexpectedCharacter '3'⟩ ∧
      Pinpoints 1 "2*(1 3".toList ⟨5, .unexpectedCharacter '3'⟩ :=
  ⟨by decide +kernel, pinpoints_of_evaluate_eq_error (by decide +kernel)⟩

end DeskCalculator.Expression
