import DeskCalculator.Proofs.Session.Course
import DeskCalculator.Proofs.Session.Typing

/-! A blank does nothing where it is typed, so nothing is lost with the blanks around a line.
How typed input is divided into lines then makes no difference to the calculator. -/

namespace DeskCalculator

open Text Expression

theorem Command.ofLine_cases_of_typable {line : List Char} (typed : Throughout typable line) :
    Command.ofLine line = .showDisplay ∨ Command.ofLine line = .equals ∨
      ∃ text, Command.ofLine line = .keys text := by
  by_cases empty : trim line = []
  · refine .inl ?_
    rw [Command.ofLine, word_of_typable typed, empty]
    rfl
  by_cases single : trim line = ['=']
  · refine .inr (.inl ?_)
    rw [Command.ofLine, word_of_typable typed, single]
    rfl
  · exact .inr (.inr ⟨trim line, Command.ofLine_of_typable typed empty single⟩)

namespace Calculator

theorem typedAll_of_blank {text : List Char} (blank : Throughout isBlank text)
    (calculator : Calculator) : calculator.typedAll text = calculator := by
  rw [typedAll_of_keyOrBlank (throughout_keyOrBlank_of_blank blank), filter_keys_of_blank blank,
    List.append_nil]

theorem typedAll_trim (text : List Char) (calculator : Calculator) :
    calculator.typedAll (trim text) = calculator.typedAll text := by
  rcases exists_trim text with ⟨front, back, frontBlank, backBlank, equal⟩
  calc
    calculator.typedAll (trim text)
        = ((calculator.typedAll front).typedAll (trim text)).typedAll back := by
      rw [typedAll_of_blank frontBlank, typedAll_of_blank backBlank]
    _ = calculator.typedAll (front ++ (trim text ++ back)) := by
      rw [typedAll_append, typedAll_append]
    _ = calculator.typedAll text := by rw [← equal]

theorem respond_of_typable (calculator : Calculator) {line : List Char}
    (all : Throughout typable line) :
    (calculator.respond line).calculator = calculator.typedAll line := by
  rw [respond, (calculator.execute_typable all).1, typedAll_trim]

theorem respondAll_of_typable {lines : List (List Char)}
    (all : ∀ line ∈ lines, Throughout typable line) (calculator : Calculator) :
    calculator.respondAll lines = calculator.typedAll lines.flatten := by
  induction lines generalizing calculator with
  | nil => rfl
  | cons line lines induction =>
      rcases List.forall_mem_cons.mp all with ⟨first, others⟩
      have further : calculator.respondAll (line :: lines) =
          (calculator.respond line).calculator.respondAll lines := rfl
      rw [further, respond_of_typable calculator first, induction others, List.flatten_cons,
        typedAll_append]

/-- Evaluations that fail on the way are no exception. -/
theorem respondAll_of_divided (calculator : Calculator) (text : List Char)
    (all : Throughout typable text) (lines : List (List Char))
    (divided : lines.flatten = text) :
    calculator.respondAll lines = calculator.typedAll text ∧
      ∀ line ∈ lines, Command.ofLine line = .showDisplay ∨ Command.ofLine line = .equals ∨
        ∃ keys, Command.ofLine line = .keys keys := by
  have each : ∀ line ∈ lines, Throughout typable line := by
    intro line member character inside
    apply all character
    rw [← divided]
    exact List.mem_flatten_of_mem member inside
  constructor
  · rw [respondAll_of_typable each, divided]
  · exact fun line member => Command.ofLine_cases_of_typable (each line member)

/-- The first line leaves the error word behind the keys typed so far, a blank line stands in
between, and an equals sign has a line of its own. -/
theorem respondAll_of_divided_around_failure :
    let lines := ["1+ =2".toList, " \t".toList, "=".toList, "/4".toList]
    Throughout typable "1+ =2 \t=/4".toList ∧ lines.flatten = "1+ =2 \t=/4".toList ∧
      respondAll lines ⟨"8".toList, true, 2⟩ = ⟨"Error/4".toList, true, 2⟩ := by
  intro lines
  have all : Throughout typable "1+ =2 \t=/4".toList := by decide
  have divided : lines.flatten = "1+ =2 \t=/4".toList := by decide
  have typed : typedAll "1+ =2 \t=/4".toList ⟨"8".toList, true, 2⟩ =
      ⟨"Error/4".toList, true, 2⟩ := by decide +kernel
  refine ⟨all, divided, ?_⟩
  rw [(respondAll_of_divided ⟨"8".toList, true, 2⟩ _ all lines divided).1, typed]

end Calculator

end DeskCalculator
