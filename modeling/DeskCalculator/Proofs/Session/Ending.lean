import DeskCalculator.Proofs.Session.Course

/-! A session finishes unless it comes to a line that is no text before it quits. What is typed
on the way has no part in that. -/

namespace DeskCalculator

/-- Every line is a text, or stands behind one that quits. -/
def EndsInText (lines : List (Option (List Char))) : Prop :=
  ∀ earlier later, lines = earlier ++ none :: later →
    ∃ text, some text ∈ earlier ∧ Command.ofLine text = .quit

section

variable {text : List Char} {lines : List (Option (List Char))}

theorem endsInText_nil : EndsInText [] := by
  intro earlier later equal
  simp at equal

theorem not_endsInText_none (lines : List (Option (List Char))) :
    ¬EndsInText (none :: lines) := by
  intro endsInText
  rcases endsInText [] lines rfl with ⟨_, member, _⟩
  cases member

theorem endsInText_of_quit (quits : Command.ofLine text = .quit)
    (lines : List (Option (List Char))) : EndsInText (some text :: lines) := by
  intro earlier later equal
  cases earlier with
  | nil => cases equal
  | cons line earlier =>
      cases equal
      exact ⟨text, List.mem_cons_self, quits⟩

theorem endsInText_cons (goesOn : Command.ofLine text ≠ .quit) :
    EndsInText (some text :: lines) ↔ EndsInText lines := by
  constructor
  · rintro endsInText earlier later rfl
    rcases endsInText (some text :: earlier) later rfl with ⟨other, member, quits⟩
    rcases List.mem_cons.mp member with same | member
    · cases same
      exact absurd quits goesOn
    · exact ⟨other, member, quits⟩
  · intro endsInText earlier later equal
    cases earlier with
    | nil => cases equal
    | cons line earlier =>
        cases equal
        rcases endsInText earlier later rfl with ⟨other, member, quits⟩
        exact ⟨other, List.mem_cons_of_mem _ member, quits⟩

end

theorem Course.succeeded_transcript (wording : Wording) (course : Course) :
    (course.transcript wording).succeeded = true ↔ course.ending = .finished := by
  cases ending : course.ending <;> simp [transcript, ending, Ending.failure?]

theorem ending_session (calculator : Calculator) (lines : List (Option (List Char))) :
    (calculator.session lines).ending = .finished ↔ EndsInText lines := by
  induction lines generalizing calculator with
  | nil => exact iff_of_true rfl endsInText_nil
  | cons line lines induction =>
      cases line with
      | none => exact iff_of_false nofun (not_endsInText_none lines)
      | some text =>
          by_cases quits : Command.ofLine text = .quit
          · refine iff_of_true ?_ (endsInText_of_quit quits lines)
            simp [Calculator.session, Calculator.turn, quits, Calculator.execute, Reply.line?]
          · rw [calculator.session_cons quits, endsInText_cons quits]
            exact induction _

/-- Lines of text that do not quit make no difference, wherever they come. -/
theorem endsInText_insert {typed : List (Option (List Char))}
    (goOn : ∀ line ∈ typed, ∃ text, line = some text ∧ Command.ofLine text ≠ .quit)
    (front rest : List (Option (List Char))) :
    EndsInText (front ++ (typed ++ rest)) ↔ EndsInText (front ++ rest) := by
  induction front with
  | nil =>
      rw [List.nil_append, List.nil_append]
      induction typed with
      | nil => rfl
      | cons line typed induction =>
          rcases List.forall_mem_cons.mp goOn with ⟨⟨text, rfl, goesOn⟩, others⟩
          exact (endsInText_cons goesOn).trans (induction others)
  | cons line front induction =>
      cases line with
      | none => exact iff_of_false (not_endsInText_none _) (not_endsInText_none _)
      | some text =>
          by_cases quits : Command.ofLine text = .quit
          · exact iff_of_true (endsInText_of_quit quits _) (endsInText_of_quit quits _)
          · rw [List.cons_append, List.cons_append, endsInText_cons quits,
              endsInText_cons quits, induction]

theorem inputLines_append {first : List UInt8}
    (whole : first = [] ∨ first.getLast? = some Text.lineFeed) (second : List UInt8) :
    inputLines (first ++ second) = inputLines first ++ inputLines second := by
  rcases whole with rfl | ends
  · rw [List.nil_append, inputLines, inputLines, Text.lines_nil, List.map_nil, List.nil_append]
  · rw [inputLines, Text.lines_append ends, List.map_append]
    rfl

end DeskCalculator
