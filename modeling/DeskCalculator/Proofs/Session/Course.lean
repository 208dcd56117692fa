import DeskCalculator.Program.Run
import DeskCalculator.Proofs.Text.Line

/-! A session executes lines one after the other up to the first that is no text or quits,
and what it prints are the replies on the way, each on a line. An input that ends with a
line feed can therefore be continued by a session of its own. -/

namespace DeskCalculator

/-! ## What events print

The log has no part in the output: neither what is entered in it nor which entries pass. -/

def Event.printed : Event → String
  | .output line => line ++ "\n"
  | .logged _ => ""
  | .complaint _ => ""

/-- The text that a course prints on the output, whatever goes to the log. -/
def Course.output (backend : Log.Backend) (number : Nat) (course : Course) : String :=
  channelText [.output] (writtenLines backend number course.events)

section

variable {backend : Log.Backend} {number : Nat}

theorem channelText_output_cons (line : WrittenLine) (lines : List WrittenLine) :
    channelText [.output] (line :: lines) =
      (if line.channel = .output then line.text ++ "\n" else "") ++
        channelText [.output] lines := by
  unfold channelText endedLines linesOn
  cases channel : line.channel <;> simp [channel, String.join_cons]

theorem channelText_output (events : List Event) :
    channelText [.output] (writtenLines backend number events) =
      String.join (events.map Event.printed) := by
  induction events generalizing number with
  | nil => rfl
  | cons event events induction =>
      rw [List.map_cons, String.join_cons]
      cases event with
      | output line => rw [writtenLines, channelText_output_cons, induction]; rfl
      | complaint line => rw [writtenLines, channelText_output_cons, induction]; rfl
      | logged entry =>
          rw [writtenLines]
          split
          · rw [channelText_output_cons, induction]
            rfl
          · rw [induction, Event.printed, String.empty_append]

theorem Course.output_eq (course : Course) :
    course.output backend number = String.join (course.events.map Event.printed) :=
  channelText_output course.events

theorem join_printed_logged (entries : List Log.Entry) :
    String.join ((entries.map Event.logged).map Event.printed) = "" := by
  induction entries with
  | nil => rfl
  | cons entry entries induction =>
      rw [List.map_cons, List.map_cons, String.join_cons, induction]
      rfl

end

/-! ## Lines that go on -/

/-- The lines of an input, each as a text if it is one. -/
def inputLines (input : List UInt8) : List (Option (List Char)) :=
  (Text.lines input).map Text.decode?

/-- The text that a reply prints on its line. -/
def Reply.text : Reply → String
  | display text => String.ofList text
  | notice text => text
  | quit => ""

theorem Reply.line?_eq_some {reply : Reply} (goesOn : reply ≠ .quit) :
    reply.line? = some reply.text := by
  cases reply with
  | display | notice => rfl
  | quit => exact absurd rfl goesOn

/-- The texts are the longest run of lines from the start that are all texts and none of
which quits; the rest stays. -/
structure Executes (lines : List (Option (List Char))) (texts : List (List Char))
    (rest : List (Option (List Char))) : Prop where
  lines_eq : lines = texts.map some ++ rest
  goOn : ∀ text ∈ texts, Command.ofLine text ≠ .quit
  stops : ∀ text, rest.head? = some (some text) → Command.ofLine text = .quit

theorem exists_executes (lines : List (Option (List Char))) :
    ∃ texts rest, Executes lines texts rest := by
  induction lines with
  | nil => exact ⟨[], [], rfl, by simp, by simp⟩
  | cons line lines induction =>
      cases line with
      | none => exact ⟨[], none :: lines, rfl, by simp, by simp⟩
      | some text =>
          by_cases quits : Command.ofLine text = .quit
          · refine ⟨[], some text :: lines, rfl, by simp, ?_⟩
            intro other first
            cases first
            exact quits
          · rcases induction with ⟨texts, rest, executes⟩
            refine ⟨text :: texts, rest, ?_, ?_, executes.stops⟩
            · rw [executes.lines_eq]
              rfl
            · exact List.forall_mem_cons.2 ⟨quits, executes.goOn⟩

/-- Such an input can be continued: it ends with a line feed, and none of its lines stops
a session. -/
structure Continues (input : List UInt8) : Prop where
  ends : input.getLast? = some Text.lineFeed
  goOn : ∀ line ∈ inputLines input, ∃ text, line = some text ∧ Command.ofLine text ≠ .quit

theorem Continues.exists_texts {input : List UInt8} (continues : Continues input) :
    ∃ texts : List (List Char), inputLines input = texts.map some ∧
      ∀ text ∈ texts, Command.ofLine text ≠ .quit := by
  rcases exists_executes (inputLines input) with ⟨texts, rest, executes⟩
  cases rest with
  | nil => exact ⟨texts, by rw [executes.lines_eq, List.append_nil], executes.goOn⟩
  | cons line rest =>
      have member : line ∈ inputLines input := by
        rw [executes.lines_eq]
        simp
      rcases continues.goOn line member with ⟨text, equal, goesOn⟩
      exact absurd (executes.stops text (congrArg some equal)) goesOn

namespace Calculator

/-- The response to a line of text. -/
def respond (text : List Char) (calculator : Calculator) : Response :=
  calculator.execute (Command.ofLine text)

/-- The calculator after some lines, the first of them first. -/
def respondAll (texts : List (List Char)) (calculator : Calculator) : Calculator :=
  texts.foldl (fun calculator text => (calculator.respond text).calculator) calculator

/-- The replies to the lines, each given by the calculator as the earlier ones leave it. -/
def replies : List (List Char) → Calculator → List Reply
  | [], _ => []
  | text :: texts, calculator =>
      let response := calculator.respond text
      response.reply :: replies texts response.calculator

def printedReplies (texts : List (List Char)) (calculator : Calculator) : String :=
  String.join ((calculator.replies texts).map fun reply => reply.text ++ "\n")

section

variable (backend : Log.Backend) (number : Nat) (calculator : Calculator)

theorem printedReplies_cons (text : List Char) (texts : List (List Char)) :
    let response := calculator.respond text
    calculator.printedReplies (text :: texts) =
      (response.reply.text ++ "\n") ++ response.calculator.printedReplies texts :=
  String.join_cons

theorem execute_reply_ne_quit {command : Command} (goesOn : command ≠ .quit) :
    (calculator.execute command).reply ≠ .quit := by
  cases command with
  | quit => exact absurd rfl goesOn
  | apply function =>
      rw [execute]
      split
      split <;> simp [answer]
  | keys | equals | clear | backspace | toggleScientific | showDisplay | help =>
      simp [execute, answer]

theorem session_cons {text : List Char} (goesOn : Command.ofLine text ≠ .quit)
    (lines : List (Option (List Char))) :
    let response := calculator.respond text
    let later := response.calculator.session lines
    calculator.session (some text :: lines) =
      { later with
        events := response.entries.map Event.logged ++
          .output response.reply.text :: later.events } := by
  have printed := Reply.line?_eq_some (execute_reply_ne_quit calculator goesOn)
  simp [session, turn, respond, printed]

theorem session_texts {texts : List (List Char)}
    (goOn : ∀ text ∈ texts, Command.ofLine text ≠ .quit) (rest : List (Option (List Char))) :
    let later := (calculator.respondAll texts).session rest
    let course := calculator.session (texts.map some ++ rest)
    course.output backend number = calculator.printedReplies texts ++ later.output backend number ∧
      course.calculator = later.calculator ∧ course.ending = later.ending := by
  -- The first line is one turn, and the others are met by the calculator that it leaves.
  induction texts generalizing calculator with
  | nil => exact ⟨(String.empty_append).symm, rfl, rfl⟩
  | cons text texts induction =>
      rcases List.forall_mem_cons.1 goOn with ⟨goesOn, goOn⟩
      have step := session_cons calculator goesOn (texts.map some ++ rest)
      rcases induction (calculator.respond text).calculator goOn with ⟨output, left, ending⟩
      intro later course
      have unfolded : course = _ := step
      refine ⟨?_, by rw [unfolded]; exact left, by rw [unfolded]; exact ending⟩
      rw [Course.output_eq] at output ⊢
      rw [unfolded, List.map_append, String.join_append, join_printed_logged,
        String.empty_append, List.map_cons, String.join_cons, output, ← String.append_assoc,
        printedReplies_cons]
      rfl

theorem session_of_stops {rest : List (Option (List Char))}
    (stops : ∀ text, rest.head? = some (some text) → Command.ofLine text = .quit) :
    let course := calculator.session rest
    course.output backend number = "" ∧ course.calculator = calculator ∧
      course.ending = if rest.head? = some none then .undecodable else .finished := by
  intro course
  rw [Course.output_eq]
  cases rest with
  | nil => exact ⟨rfl, rfl, rfl⟩
  | cons line lines =>
      cases line with
      | none => exact ⟨rfl, rfl, rfl⟩
      | some text =>
          have quits := stops text rfl
          simp [course, session, turn, quits, execute, Reply.line?, finishedEvent,
            Event.printed]

theorem session_of_executes {lines rest : List (Option (List Char))}
    {texts : List (List Char)} (executes : Executes lines texts rest) :
    let course := calculator.session lines
    course.output backend number = calculator.printedReplies texts ∧
      course.calculator = calculator.respondAll texts ∧
      course.ending = if rest.head? = some none then .undecodable else .finished := by
  rcases session_texts backend number calculator executes.goOn rest with ⟨output, left, ending⟩
  rcases session_of_stops backend number (calculator.respondAll texts) executes.stops with
    ⟨nothing, unchanged, stopped⟩
  rw [← executes.lines_eq] at output left ending
  rw [nothing, String.append_empty] at output
  exact ⟨output, left.trans unchanged, ending.trans stopped⟩

end

/-- The second part is about an input that another one is joined to. -/
theorem session_eq_fold (backend : Log.Backend) (number : Nat) (calculator : Calculator)
    (input : List UInt8) :
    let course := calculator.session (inputLines input)
    (∃ texts rest, Executes (inputLines input) texts rest ∧
      course.output backend number = calculator.printedReplies texts ∧
      course.calculator = calculator.respondAll texts ∧
      (course.ending.failure? = some (.input .undecodable) ↔ rest.head? = some none) ∧
      (course.ending.failure? = none ↔
        rest = [] ∨ ∃ text, rest.head? = some (some text) ∧ Command.ofLine text = .quit)) ∧
    (Continues input → ∀ more,
      let joined := calculator.session (inputLines (input ++ more))
      let later := course.calculator.session (inputLines more)
      joined.output backend number = course.output backend number ++ later.output backend number ∧
        joined.calculator = later.calculator ∧ joined.ending = later.ending) := by
  intro course
  constructor
  · rcases exists_executes (inputLines input) with ⟨texts, rest, executes⟩
    rcases session_of_executes backend number calculator executes with ⟨output, left, ending⟩
    refine ⟨texts, rest, executes, output, left, ?_⟩
    rw [show course.ending = _ from ending]
    cases rest with
    | nil => simp [Ending.failure?]
    | cons line rest =>
        cases line with
        | none => simp [Ending.failure?]
        | some text =>
            have quits := executes.stops text rfl
            simp [Ending.failure?, quits]
  · intro continues more joined later
    rcases continues.exists_texts with ⟨texts, lines_eq, goOn⟩
    have whole : Executes (inputLines input) texts [] :=
      ⟨by rw [lines_eq, List.append_nil], goOn, by simp⟩
    rcases session_of_executes backend number calculator whole with ⟨output, left, _⟩
    have joined_eq : joined = calculator.session (texts.map some ++ inputLines more) := by
      rw [← lines_eq, inputLines, inputLines, ← List.map_append,
        ← Text.lines_append continues.ends more]
      rfl
    rw [joined_eq, show course.output backend number = _ from output,
      show later = (calculator.respondAll texts).session (inputLines more) from
        congrArg (session (inputLines more)) left]
    exact session_texts backend number calculator goOn (inputLines more)

/-- The joined input quits in the middle of what is added. -/
theorem session_eq_fold_of_joined_sum :
    let sum := "1+1=\n".toUTF8.data.toList
    let more := "*3=\r\nquit\n9".toUTF8.data.toList
    let calculator := start 1000 false
    Continues sum ∧
      (calculator.session (inputLines (sum ++ more))).output .default 1 = "2.0\n6.0\n" := by
  intro sum more calculator
  have lines : inputLines sum = [some "1+1=".toList] := by decide +kernel
  have goesOn : Command.ofLine "1+1=".toList ≠ .quit := by decide +kernel
  have continues : Continues sum :=
    ⟨by decide +kernel, by rw [lines]; simpa using goesOn⟩
  refine ⟨continues, ?_⟩
  rw [((session_eq_fold .default 1 calculator sum).2 continues more).1]
  decide +kernel

end Calculator

end DeskCalculator
