import DeskCalculator.Expression.Parser
import DeskCalculator.Proofs.Expression.Reading

/-! What is open in front of an operand can be computed as soon as the character behind the
operand is known not to go on with it. That character is also what a parser chooses by. -/

namespace DeskCalculator.Expression

open Text Number Progress

namespace Cursor

/-- Behind the blanks ahead stands none of the characters. -/
def Stops (characters : List Char) (cursor : Cursor) : Prop :=
  NotAhead characters.contains cursor.skipBlanks.rest

theorem skipBlanks_skipBlanks (cursor : Cursor) :
    cursor.skipBlanks.skipBlanks = cursor.skipBlanks := by
  have stops : NotAhead isBlank cursor.skipBlanks.rest := notAhead_dropWhile _
  exact skipBlanks_append cursor.skipBlanks.position throughout_nil stops

theorem lexeme?_skipBlanks (cursor : Cursor) :
    cursor.skipBlanks.lexeme? = cursor.lexeme? := by
  unfold lexeme?
  rw [skipBlanks_skipBlanks]

variable {cursor : Cursor}

theorem stops_skipBlanks (characters : List Char) :
    Stops characters cursor.skipBlanks ↔ Stops characters cursor := by
  rw [Stops, skipBlanks_skipBlanks, Stops]

theorem stops_append (first second : List Char) :
    Stops (first ++ second) cursor ↔ Stops first cursor ∧ Stops second cursor := by
  simp only [Stops, NotAhead, List.contains_append, Bool.or_eq_false_iff]
  exact ⟨fun both => ⟨fun c m => (both c m).1, fun c m => (both c m).2⟩,
    fun both c m => ⟨both.1 c m, both.2 c m⟩⟩

theorem lexeme?_of_symbol {character : Char} {rest : List Char}
    (comes : cursor.skipBlanks.rest = character :: rest)
    (symbol : startsLiteral character = false) :
    cursor.lexeme? = some ⟨.symbol character, cursor.skipBlanks,
      ⟨cursor.skipBlanks.position + 1, rest⟩⟩ := by
  simp only [lexeme?, comes, symbol, Bool.false_eq_true, if_false]

theorem lexeme?_of_literal {character : Char} {rest : List Char}
    (comes : cursor.skipBlanks.rest = character :: rest)
    (starts : startsLiteral character = true) :
    cursor.lexeme? = some ⟨.literal cursor.skipBlanks.takeLiteral.1, cursor.skipBlanks,
      cursor.skipBlanks.takeLiteral.2⟩ := by
  simp only [lexeme?, comes, starts, if_true]

theorem eat_cases (expected : Char) (cursor : Cursor) :
    (∃ rest, cursor.skipBlanks.rest = expected :: rest ∧
        cursor.eat expected = (true, ⟨cursor.skipBlanks.position + 1, rest⟩)) ∨
      cursor.Stops [expected] ∧ cursor.eat expected = (false, cursor.skipBlanks) := by
  unfold eat Stops
  cases comes : cursor.skipBlanks.rest with
  | nil => exact .inr ⟨notAhead_nil, by simp only [comes]⟩
  | cons character rest =>
      by_cases equal : character = expected
      · exact .inl ⟨rest, by rw [equal], by simp [comes, equal]⟩
      · exact .inr ⟨by simp [equal], by simp [comes, equal]⟩

theorem start_of_lexeme? {lexeme : Lexeme} (found : cursor.lexeme? = some lexeme) :
    lexeme.start = cursor.skipBlanks ∧
      ∃ rest, cursor.skipBlanks.rest = lexeme.token.firstCharacter :: rest := by
  rcases exists_of_lexeme?_eq_some found with ⟨blanks, token, rest, blank, ends, restEqual, rfl⟩
  rcases ends.exists_text_eq with ⟨tail, textEqual⟩
  have stops : NotAhead isBlank (token.text ++ rest) := by
    simp [textEqual, ends.isBlank_firstCharacter]
  have skipped := skipBlanks_append cursor.position blank stops
  rw [← restEqual] at skipped
  exact ⟨skipped.symm, tail ++ rest, by simp [skipped, textEqual]⟩

theorem peek_skipBlanks (cursor : Cursor) :
    cursor.skipBlanks.peek =
      cursor.lexeme?.map fun lexeme => lexeme.token.firstCharacter := by
  cases found : cursor.lexeme? with
  | none =>
      have blank := (lexeme?_eq_none_iff cursor).mp found
      rw [skipBlanks_of_blank cursor.position blank]
      rfl
  | some lexeme =>
      rcases start_of_lexeme? found with ⟨-, rest, comes⟩
      rw [peek, comes]
      rfl

theorem Stops.token_ne {characters : List Char} {character : Char} {lexeme : Lexeme}
    (stops : Stops characters cursor) (found : cursor.lexeme? = some lexeme)
    (member : character ∈ characters) : lexeme.token ≠ .symbol character := by
  intro equal
  rcases start_of_lexeme? found with ⟨-, rest, comes⟩
  rw [equal] at comes
  simp [Stops, comes, Token.firstCharacter, member] at stops

end Cursor

namespace Progress

variable {limit : Nat} {cursor : Cursor}

/-- What a run comes to depends on the first step alone, if it comes to the same with
all steps after it. -/
theorem run_eq_of_step_eq {progress other : Progress} {there : Cursor}
    (skipped : cursor.skipBlanks = there.skipBlanks) (finish : progress.finish = other.finish)
    (step : ∀ lexeme, cursor.lexeme? = some lexeme →
      progress.step limit lexeme.token = other.step limit lexeme.token) :
    progress.run limit cursor = other.run limit there := by
  have same : cursor.lexeme? = there.lexeme? := by
    rw [← cursor.lexeme?_skipBlanks, skipped, there.lexeme?_skipBlanks]
  cases found : cursor.lexeme? with
  | none => rw [run_of_end found, run_of_end (same ▸ found), finish, skipped]
  | some lexeme =>
      have foundThere := same ▸ found
      cases taken : progress.step limit lexeme.token with
      | ok next =>
          have takenThere := step lexeme found ▸ taken
          rw [run_of_move found (step_eq_ok_iff.mp taken),
            run_of_move foundThere (step_eq_ok_iff.mp takenThere)]
      | error cause =>
          have takenThere := step lexeme found ▸ taken
          rw [run_of_refusal found (step_eq_error_iff.mp taken),
            run_of_refusal foundThere (step_eq_error_iff.mp takenThere)]

theorem run_skipBlanks (progress : Progress) (limit : Nat) (cursor : Cursor) :
    progress.run limit cursor.skipBlanks = progress.run limit cursor :=
  run_eq_of_step_eq cursor.skipBlanks_skipBlanks rfl fun _ _ => rfl

/-! Work that is closed early: an opening, a product and a sum whose right side has been
read, in front of a character that none of it goes on with. -/

/-- A token that is no power does not tell apart what has the same value. A token that
is no product either does not tell apart where in the expression the value stands. -/
theorem step_eq_of_value_eq {progress other : Progress} {operand value : Float}
    {token : Token} (behind : progress.operand = some operand)
    (behindOther : other.operand = some value)
    (enclosing : progress.enclosing = other.enclosing)
    (depth : progress.depthAfterFactor = other.depthAfterFactor)
    (expression : progress.level.expression operand = other.level.expression value)
    (noPower : token ≠ .symbol '^')
    (term : progress.level.sum = other.level.sum ∧
        progress.level.term operand = other.level.term value ∨
      token ≠ .symbol '*' ∧ token ≠ .symbol '/') :
    progress.step limit token = other.step limit token := by
  simp only [step, behind, behindOther, stepOperator, enclosing, depth, expression]
  split
  · rfl
  · rfl
  · simp_all
  · simp_all
  · simp_all
  · simp only [closeGroup, enclosing, depth, expression, refuse]
  · simp only [refuse, enclosing]

theorem run_opened (depth : Nat) (level : Level) (enclosing : List Level)
    (opening : Opening) (operand : Float) (stops : cursor.Stops ['^']) :
    run limit ⟨depth + 1, level.opened opening, enclosing, some operand⟩ cursor =
      run limit ⟨depth, level, enclosing, some (opening.apply operand)⟩ cursor := by
  apply run_eq_of_step_eq rfl
  · cases enclosing <;> rfl
  · intro lexeme found
    have depthEqual : depth + 1 - (level.openings.length + 1) =
        depth - level.openings.length := Nat.add_sub_add_right depth 1 _
    exact step_eq_of_value_eq rfl rfl rfl depthEqual rfl (stops.token_ne found (by simp))
      (.inl ⟨rfl, rfl⟩)

theorem run_product (depth : Nat) (sum : Option (Float × SumOperator))
    (enclosing : List Level) (left right : Float) (operator : ProductOperator)
    (stops : cursor.Stops ['^']) :
    run limit ⟨depth, ⟨sum, some (left, operator), []⟩, enclosing, some right⟩ cursor =
      run limit ⟨depth, ⟨sum, none, []⟩, enclosing, some (operator.apply left right)⟩
        cursor := by
  apply run_eq_of_step_eq rfl
  · cases enclosing <;> rfl
  · intro lexeme found
    exact step_eq_of_value_eq rfl rfl rfl rfl rfl (stops.token_ne found (by simp)) (.inl ⟨rfl, rfl⟩)

theorem run_sum (depth : Nat) (enclosing : List Level) (left right : Float)
    (operator : SumOperator) (stops : cursor.Stops ['*', '/', '^']) :
    run limit ⟨depth, ⟨some (left, operator), none, []⟩, enclosing, some right⟩ cursor =
      run limit ⟨depth, .empty, enclosing, some (operator.apply left right)⟩ cursor := by
  apply run_eq_of_step_eq rfl
  · cases enclosing <;> rfl
  · intro lexeme found
    exact step_eq_of_value_eq rfl rfl rfl rfl rfl (stops.token_ne found (by simp))
      (.inr ⟨stops.token_ne found (by simp), stops.token_ne found (by simp)⟩)

/-- Behind an operand, only an operator goes on, and a parenthesis that closes a group. -/
theorem continues_of_stops {lexeme : Lexeme} {enclosing : List Level}
    (stops : cursor.Stops ['+', '-', '*', '/', '^'])
    (closed : enclosing ≠ [] → cursor.Stops [')']) (found : cursor.lexeme? = some lexeme) :
    continues enclosing lexeme.token = false := by
  cases token : lexeme.token with
  | literal text => rfl
  | symbol character =>
      rcases Cursor.start_of_lexeme? found with ⟨-, rest, comes⟩
      rw [token] at comes
      cases enclosing with
      | nil => simpa [continues, Cursor.Stops, comes, Token.firstCharacter] using stops
      | cons outer enclosing =>
          have stopsAll := (Cursor.stops_append _ _).mpr ⟨stops, closed (by simp)⟩
          simpa [continues, Cursor.Stops, comes, Token.firstCharacter, and_assoc]
            using stopsAll

end Progress

namespace Parser

/-- What a choice can be: one of the characters has been passed, or none of them stands
behind the blanks that have been passed. -/
inductive Chosen {Meaning : Type} (choices : List (Char × Meaning)) (parser : Parser)
    {bound : Nat} : Choice Meaning bound → Prop
  | taken {character : Char} {meaning : Meaning} {rest : List Char}
      (member : (character, meaning) ∈ choices)
      (comes : parser.cursor.skipBlanks.rest = character :: rest) {ahead_lt} :
      Chosen choices parser (.taken meaning
        { parser with cursor := ⟨parser.cursor.skipBlanks.position + 1, rest⟩ } ahead_lt)
  | left (stops : parser.cursor.Stops (choices.map Prod.fst)) {ahead_le} :
      Chosen choices parser (.left parser.skipBlanks ahead_le)

theorem Chosen.widen {Meaning : Type} {choices : List (Char × Meaning)} {parser : Parser}
    {first : Char × Meaning} {bound larger : Nat} {choice : Choice Meaning bound}
    (chosen : Chosen choices parser.skipBlanks choice)
    (other : parser.cursor.Stops [first.1]) (le : bound ≤ larger) :
    Chosen (first :: choices) parser (choice.widen le) := by
  cases chosen with
  | taken member comes =>
      simp only [skipBlanks, Cursor.skipBlanks_skipBlanks] at comes ⊢
      exact .taken (List.mem_cons_of_mem first member) comes
  | left stops =>
      have both : parser.cursor.Stops ((first :: choices).map Prod.fst) :=
        (Cursor.stops_append [first.1] _).mpr ⟨other, (Cursor.stops_skipBlanks _).mp stops⟩
      simp only [skipBlanks, Cursor.skipBlanks_skipBlanks]
      exact .left both

theorem chosen_choose {Meaning : Type} (choices : List (Char × Meaning)) (parser : Parser) :
    Chosen choices parser (parser.choose choices) := by
  induction choices generalizing parser with
  | nil => exact .left (by simp [Cursor.Stops, NotAhead])
  | cons first choices induction =>
      unfold choose
      rcases Cursor.eat_cases first.1 parser.cursor with ⟨rest, comes, eaten⟩ | ⟨stops, eaten⟩
      · split
        · rename_i equal
          cases equal.symm.trans eaten
          exact .taken (List.mem_cons_self ..) comes
        · rename_i equal
          cases equal.symm.trans eaten
      · split
        · rename_i equal
          cases equal.symm.trans eaten
        · rename_i equal
          cases equal.symm.trans eaten
          exact (induction parser.skipBlanks).widen stops _

end Parser

end DeskCalculator.Expression
