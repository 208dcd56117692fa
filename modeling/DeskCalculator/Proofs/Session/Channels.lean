import DeskCalculator.Proofs.Text.OneLine
import DeskCalculator.Session.Transcript

/-! Each channel takes the lines that are meant for it, in the order of the events. What the
backend holds back is missing from the log and nowhere else. -/

namespace DeskCalculator

def Event.entry? : Event → Option Log.Entry
  | .logged entry => some entry
  | .output _ => none
  | .complaint _ => none

/-- The line that an event has for a channel whatever the backend. -/
def Event.lineOn? : Channel → Event → Option String
  | .output, .output line => some line
  | .errors, .complaint line => some line
  | _, _ => none

/-- What a transcript records, in order. -/
def recordsOf (events : List Event) : List Log.Entry :=
  events.filterMap Event.entry?

theorem recordsOf_append (earlier later : List Event) :
    recordsOf (earlier ++ later) = recordsOf earlier ++ recordsOf later :=
  List.filterMap_append

theorem recordsOf_logged (entries : List Log.Entry) :
    recordsOf (entries.map Event.logged) = entries := by
  rw [recordsOf, List.filterMap_map]
  exact List.filterMap_some

/-- What a transcript has for a channel beside the records. -/
def textsFor (channel : Channel) (events : List Event) : List String :=
  events.filterMap (Event.lineOn? channel)

theorem textsFor_append (channel : Channel) (earlier later : List Event) :
    textsFor channel (earlier ++ later) = textsFor channel earlier ++ textsFor channel later :=
  List.filterMap_append

theorem textsFor_logged (channel : Channel) (entries : List Log.Entry) :
    textsFor channel (entries.map Event.logged) = [] := by
  rw [textsFor, List.filterMap_map, List.filterMap_eq_nil_iff]
  intro entry _
  cases channel <;> rfl

/-- The lines of entries, numbered without gaps. -/
def Log.Backend.numbered (backend : Log.Backend) (number : Nat) (entries : List Log.Entry) :
    List String :=
  (entries.zipIdx number).map fun placed => backend.line placed.2 placed.1

section

variable {backend : Log.Backend} {number : Nat}

theorem Log.Backend.numbered_cons (entry : Log.Entry) (entries : List Log.Entry) :
    backend.numbered number (entry :: entries) =
      backend.line number entry :: backend.numbered (number + 1) entries := by
  rw [numbered, List.zipIdx_cons]
  rfl

theorem Log.Backend.mem_numbered {entries : List Log.Entry} {line : String}
    (member : line ∈ backend.numbered number entries) :
    ∃ entry ∈ entries, ∃ later, line = backend.line later entry := by
  rcases List.mem_map.mp member with ⟨⟨entry, later⟩, placed, rfl⟩
  exact ⟨entry, List.fst_mem_of_mem_zipIdx placed, later, rfl⟩

end

theorem linesOn_cons_of_mem {channels : List Channel} {channel : Channel}
    (member : channel ∈ channels) (text : String) (lines : List WrittenLine) :
    linesOn channels (⟨channel, text⟩ :: lines) = text :: linesOn channels lines := by
  simp [linesOn, member]

theorem linesOn_cons_of_notMem {channels : List Channel} {channel : Channel}
    (absent : channel ∉ channels) (text : String) (lines : List WrittenLine) :
    linesOn channels (⟨channel, text⟩ :: lines) = linesOn channels lines := by
  simp [linesOn, absent]

theorem mem_linesOn_cons {channel : Channel} {channels : List Channel}
    {lines : List WrittenLine} {text : String}
    (member : text ∈ linesOn (channel :: channels) lines) :
    text ∈ linesOn [channel] lines ∨ text ∈ linesOn channels lines := by
  rcases List.mem_map.mp member with ⟨line, within, rfl⟩
  rw [List.mem_filter, List.contains_cons, Bool.or_eq_true] at within
  rcases within with ⟨written, first | other⟩
  · refine .inl (List.mem_map_of_mem (List.mem_filter.mpr ⟨written, ?_⟩))
    simpa using first
  · exact .inr (List.mem_map_of_mem (List.mem_filter.mpr ⟨written, other⟩))

theorem endedLines_singleton (text : String) : endedLines [text] = text ++ "\n" := by
  simp [endedLines]

theorem toList_endedLines_cons (text : String) (texts : List String) :
    (endedLines (text :: texts)).toList = text.toList ++ '\n' :: (endedLines texts).toList := by
  rw [endedLines, List.map_cons, String.join_cons]
  simp [endedLines]

/-- The line feeds in a text of lines are the ends of the lines. -/
theorem splitOn_endedLines {texts : List String}
    (oneLine : ∀ text ∈ texts, Text.OneLine text.toList) :
    (endedLines texts).toList.splitOn '\n' = texts.map String.toList ++ [[]] := by
  induction texts with
  | nil => rfl
  | cons text texts induction =>
      rcases List.forall_mem_cons.mp oneLine with ⟨first, others⟩
      rw [toList_endedLines_cons, List.splitOn_append_cons_self_of_not_mem first,
        induction others]
      rfl

section

variable (backend : Log.Backend) (number : Nat)

theorem linesOn_log (events : List Event) :
    linesOn [.log] (writtenLines backend number events) =
      backend.numbered number ((recordsOf events).filter backend.passes) := by
  induction events generalizing number with
  | nil => rfl
  | cons event events induction =>
      cases event with
      | output line =>
          rw [writtenLines, linesOn_cons_of_notMem (by decide), induction]
          rfl
      | complaint line =>
          rw [writtenLines, linesOn_cons_of_notMem (by decide), induction]
          rfl
      | logged entry =>
          have recorded : recordsOf (.logged entry :: events) = entry :: recordsOf events := rfl
          rw [writtenLines, recorded]
          split
          · rename_i passes
            rw [linesOn_cons_of_mem (by decide), induction, List.filter_cons_of_pos passes,
              Log.Backend.numbered_cons]
          · rename_i heldBack
            rw [induction, List.filter_cons_of_neg heldBack]

theorem linesOn_of_ne_log {channel : Channel} (unlogged : channel ≠ .log)
    (events : List Event) :
    linesOn [channel] (writtenLines backend number events) = textsFor channel events := by
  induction events generalizing number with
  | nil => rfl
  | cons event events induction =>
      cases event with
      | logged entry =>
          have nothing :
              textsFor channel (.logged entry :: events) = textsFor channel events := by
            cases channel <;> rfl
          have absent : Channel.log ∉ [channel] := by simpa using unlogged.symm
          rw [writtenLines, nothing]
          split
          · rw [linesOn_cons_of_notMem absent, induction]
          · exact induction number
      | output line =>
          rw [writtenLines]
          cases channel with
          | log => exact absurd rfl unlogged
          | output => rw [linesOn_cons_of_mem (by decide), induction]; rfl
          | errors => rw [linesOn_cons_of_notMem (by decide), induction]; rfl
      | complaint line =>
          rw [writtenLines]
          cases channel with
          | log => exact absurd rfl unlogged
          | output => rw [linesOn_cons_of_notMem (by decide), induction]; rfl
          | errors => rw [linesOn_cons_of_mem (by decide), induction]; rfl

end

end DeskCalculator
