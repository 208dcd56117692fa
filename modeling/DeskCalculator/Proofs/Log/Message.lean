import DeskCalculator.Proofs.Calculator.Display
import DeskCalculator.Proofs.Session.Typing
import DeskCalculator.Proofs.Text.OneLine

/-! A message takes text from outside either quoted or from where no line feed can be: the
character or literal that an evaluation stops at is not blank, and neither is anything on
a display. -/

namespace DeskCalculator

open Text Number

/-! ## Misreadings -/

namespace Expression

/-- What the message about a misreading repeats from the text. -/
def Misreading.Cause.excerpt : Misreading.Cause → List Char
  | unexpectedCharacter found => [found]
  | trailingInput found => [found]
  | malformedNumber text => text
  | unexpectedEnd => []
  | nestedTooDeep _ => []

theorem Token.EndsBefore.unbroken_firstCharacter {token : Token} {rest : List Char}
    (ends : token.EndsBefore rest) : Unbroken [token.firstCharacter] :=
  (throughout_cons _ _).mpr ⟨by simp [ends.isBlank_firstCharacter], throughout_nil⟩

theorem unbroken_excerpt_of_evaluate {limit : Nat} {text : List Char} {misreading : Misreading}
    (failed : evaluate limit text = .error misreading) : Unbroken misreading.cause.excerpt := by
  cases fails_of_evaluate failed with
  | atEnd => exact throughout_nil
  | refused reads found refusal =>
      rcases Cursor.exists_of_lexeme?_eq_some found with ⟨_, token, rest, -, ends, -, rfl⟩
      rw [Lexeme.misread_cause]
      rw [Lexeme.placed_token] at refusal
      cases refusal with
      | malformed =>
          intro character member
          have starts := throughout_startsLiteral ends.2 character member
          simp [isBlank_eq_false_of_startsLiteral starts]
      | tooDeep => exact throughout_nil
      | noOperand | trailing | unclosed => exact ends.unbroken_firstCharacter

/-- Around that, a message is on one line and begins with a word. -/
theorem Misreading.Cause.exists_message_eq (cause : Misreading.Cause) :
    ∃ front back, cause.message.toList = front ++ (cause.excerpt ++ back) ∧
      Worded front ∧ OneLine front ∧ OneLine back := by
  cases cause with
  | unexpectedCharacter found =>
      refine ⟨"Unexpected character '".toList, ['\''], ?_, by decide +kernel⟩
      change (s!"Unexpected character '{found}'").toList = _
      simp [toString, excerpt]
  | trailingInput found =>
      refine ⟨"Unexpected trailing character '".toList, ['\''], ?_, by decide +kernel⟩
      change (s!"Unexpected trailing character '{found}'").toList = _
      simp [toString, excerpt]
  | malformedNumber text =>
      refine ⟨"Malformed number '".toList, ['\''], ?_, by decide +kernel⟩
      change (s!"Malformed number '{String.ofList text}'").toList = _
      simp [toString, excerpt]
  | unexpectedEnd =>
      exact ⟨"Unexpected end of input".toList, [], rfl, by decide +kernel⟩
  | nestedTooDeep limit =>
      refine ⟨"Expression nested deeper than ".toList, limit.repr.toList ++ " levels".toList, ?_,
        by decide +kernel, by decide +kernel, ?_⟩
      · change (s!"Expression nested deeper than {limit} levels").toList = _
        simp [toString, excerpt]
      · exact (oneLine_append _ _).mpr ⟨oneLine_repr limit, by decide +kernel⟩

theorem Misreading.toList_message (misreading : Misreading) :
    misreading.message.toList = misreading.cause.message.toList ++
      (" at position ".toList ++ misreading.position.repr.toList) := by
  simp [message, toString]

theorem Misreading.oneLine_message {misreading : Misreading}
    (oneLine : OneLine misreading.cause.excerpt) : OneLine misreading.message.toList := by
  rcases misreading.cause.exists_message_eq with ⟨front, back, equal, -, frontLine, backLine⟩
  have place : OneLine " at position ".toList := by decide +kernel
  rw [toList_message, equal]
  simp only [oneLine_append]
  exact ⟨⟨frontLine, oneLine, backLine⟩, place, oneLine_repr misreading.position⟩

theorem Misreading.worded_message (misreading : Misreading) :
    Worded misreading.message.toList := by
  rcases misreading.cause.exists_message_eq with ⟨front, back, equal, worded, -⟩
  rw [toList_message, equal]
  exact (worded.append _).append _

theorem oneLine_message_of_evaluate {limit : Nat} {text : List Char} {misreading : Misreading}
    (failed : evaluate limit text = .error misreading) : OneLine misreading.message.toList :=
  Misreading.oneLine_message ((unbroken_excerpt_of_evaluate failed).oneLine (by decide))

end Expression

/-! ## Numbers -/

theorem Number.oneLine_displayText (value : Float) : OneLine (displayText value) :=
  (throughout_displayText value).oneLine (by decide)

theorem Number.oneLine_plainText (value : Float) : OneLine (plainText value) := by
  have sign : OneLine (signText value) := (throughout_signText value).oneLine (by decide)
  have whole (decimal : Decimal) : OneLine decimal.wholeText :=
    (throughout_wholeText decimal).oneLine (by decide)
  have fraction (decimal : Decimal) : OneLine decimal.fractionText :=
    (throughout_fractionText decimal).oneLine (by decide)
  unfold plainText
  split
  · decide
  refine (oneLine_append _ _).mpr ⟨sign, ?_⟩
  split
  · decide
  split
  · exact whole _
  · exact (oneLine_append _ _).mpr ⟨whole _, (oneLine_cons _ _).mpr ⟨by decide, fraction _⟩⟩

/-! ## Entries of a session -/

/-- The messages of all of the entries are on one line each. -/
def Log.AllOneLine (entries : List Log.Entry) : Prop :=
  ∀ entry ∈ entries, OneLine entry.message.toList

theorem Log.allOneLine_nil : Log.AllOneLine [] :=
  nofun

theorem Log.allOneLine_cons (entry : Log.Entry) (entries : List Log.Entry) :
    Log.AllOneLine (entry :: entries) ↔
      OneLine entry.message.toList ∧ Log.AllOneLine entries :=
  List.forall_mem_cons

theorem Log.allOneLine_append (earlier later : List Log.Entry) :
    Log.AllOneLine (earlier ++ later) ↔ Log.AllOneLine earlier ∧ Log.AllOneLine later :=
  List.forall_mem_append

theorem Log.allOneLine_singleton {entry : Log.Entry} (oneLine : OneLine entry.message.toList) :
    Log.AllOneLine [entry] :=
  (Log.allOneLine_cons _ _).mpr ⟨oneLine, Log.allOneLine_nil⟩

theorem Function.oneLine_label (function : Function) : OneLine function.label.toList := by
  cases function <;> decide

/-- A display that is no number is repeated as it stands. -/
theorem Function.excerpt_of_operand {display : List Char} {misreading : Expression.Misreading}
    (failed : operand display = .error misreading) : misreading.cause.excerpt = display := by
  unfold operand at failed
  split at failed
  · cases failed
  · cases failed
    rfl

namespace Calculator

theorem allOneLine_pressLogged (key : Char) (calculator : Calculator) :
    Log.AllOneLine (calculator.pressLogged key).2 := by
  unfold pressLogged
  dsimp only
  split
  · exact Log.allOneLine_nil
  · apply Log.allOneLine_singleton
    simp only [String.toList_append, oneLine_append]
    exact ⟨by decide +kernel, oneLine_quotedCharacter key⟩

theorem allOneLine_equalsLogged (calculator : Calculator) :
    Log.AllOneLine calculator.equalsLogged.2 := by
  have shown := oneLine_quoted calculator.display
  cases evaluated : Expression.evaluate calculator.limit calculator.display with
  | ok value =>
      rw [equalsLogged, equals_of_ok evaluated]
      apply Log.allOneLine_singleton
      simp only [String.toList_append, oneLine_append]
      exact ⟨⟨shown, by decide +kernel⟩, by simpa [toString] using oneLine_plainText value⟩
  | error misreading =>
      rw [equalsLogged, equals_of_error evaluated]
      apply Log.allOneLine_singleton
      simp only [String.toList_append, oneLine_append]
      exact ⟨⟨shown, by decide +kernel⟩, Expression.oneLine_message_of_evaluate evaluated⟩

theorem allOneLine_typeLogged (text : List Char) (calculator : Calculator) :
    Log.AllOneLine (calculator.typeLogged text).2 := by
  induction text generalizing calculator with
  | nil => exact Log.allOneLine_nil
  | cons key text induction =>
      rw [typeLogged, Log.allOneLine_append]
      refine ⟨?_, induction _⟩
      split
      · exact calculator.allOneLine_equalsLogged
      · exact calculator.allOneLine_pressLogged key

theorem allOneLine_applyLogged {calculator : Calculator} (shown : OneLine calculator.display)
    (function : Function) : Log.AllOneLine (calculator.applyLogged function).2.2 := by
  have label := function.oneLine_label
  have call : OneLine s!"{function.label}({Text.quoted calculator.display})".toList := by
    simp only [String.toList_append, oneLine_append]
    exact ⟨⟨⟨label, by decide +kernel⟩, oneLine_quoted _⟩, by decide +kernel⟩
  cases on : calculator.scientific with
  | false =>
      rw [applyLogged, apply_of_off on]
      apply Log.allOneLine_singleton
      simp only [String.toList_append, oneLine_append]
      exact ⟨label, by decide +kernel⟩
  | true =>
      cases read : Function.operand calculator.display with
      | ok value =>
          rw [applyLogged, apply_of_ok on function read]
          apply Log.allOneLine_singleton
          simp only [String.toList_append, oneLine_append]
          exact ⟨⟨call, by decide +kernel⟩,
            by simpa [toString] using oneLine_displayText (function.apply value)⟩
      | error misreading =>
          rw [applyLogged, apply_of_error on function read]
          apply Log.allOneLine_singleton
          simp only [String.toList_append, oneLine_append]
          have repeated := Function.excerpt_of_operand read
          exact ⟨⟨call, by decide +kernel⟩,
            Expression.Misreading.oneLine_message (repeated ▸ shown)⟩

theorem allOneLine_execute {calculator : Calculator} (shown : OneLine calculator.display)
    (command : Command) : Log.AllOneLine (calculator.execute command).entries := by
  cases command with
  | keys text =>
      rw [execute]
      refine (Log.allOneLine_append _ _).mpr
        ⟨(Log.allOneLine_cons _ _).mpr ⟨?_, calculator.allOneLine_typeLogged text⟩,
          Log.allOneLine_singleton ?_⟩
      · simp only [String.toList_append, oneLine_append]
        exact ⟨by decide +kernel, oneLine_quoted text⟩
      · simp only [String.toList_append, oneLine_append]
        exact ⟨by decide +kernel, oneLine_quoted _⟩
  | equals => exact calculator.allOneLine_equalsLogged
  | toggleScientific =>
      rw [execute]
      apply Log.allOneLine_singleton
      cases on : calculator.toggleScientific.scientific <;> decide +kernel
  | apply function =>
      have entries := allOneLine_applyLogged shown function
      rw [execute]
      split
      rename_i result after left same
      rw [same] at entries
      split <;> exact entries
  | clear | backspace | showDisplay | help | quit => exact Log.allOneLine_nil

end Calculator

end DeskCalculator
