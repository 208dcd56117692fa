import DeskCalculator.Text.Line

/-! An input that ends with a line feed holds whole lines only, so what is joined to it
begins a line of its own. -/

namespace DeskCalculator.Text

variable {line : List UInt8}

theorem cutLine?_of_notMem (absent : lineFeed ∉ line) (rest : List UInt8) :
    cutLine? (line ++ lineFeed :: rest) = some (line, rest) := by
  induction line with
  | nil => rw [List.nil_append, cutLine?, if_pos rfl]
  | cons byte line induction =>
      simp only [List.mem_cons, not_or] at absent
      rw [List.cons_append, cutLine?, if_neg (Ne.symm absent.1), induction absent.2]
      rfl

theorem lines_nil : lines [] = [] := by
  rw [lines]
  rfl

theorem lines_of_notMem (absent : lineFeed ∉ line) (rest : List UInt8) :
    lines (line ++ lineFeed :: rest) = withoutReturn line :: lines rest := by
  have cut := cutLine?_of_notMem absent rest
  rw [lines]
  split
  · rename_i found
    cases cut.symm.trans found
    rfl
  · rename_i found
    cases cut.symm.trans found

theorem lines_append {first : List UInt8} (ends : first.getLast? = some lineFeed)
    (second : List UInt8) :
    lines (first ++ second) = lines first ++ lines second := by
  -- Without its first line the input still ends with a line feed, if anything is left.
  rcases List.eq_append_cons_of_mem (List.mem_of_getLast? ends) with
    ⟨line, rest, equal, absent⟩
  rw [equal, List.append_assoc, List.cons_append, lines_of_notMem absent,
    lines_of_notMem absent, List.cons_append]
  by_cases last : rest = []
  · rw [last, List.nil_append, lines_nil, List.nil_append]
  · rw [equal] at ends
    have endsRest : rest.getLast? = some lineFeed := by
      simpa [List.getLast?_append, List.getLast?_cons, List.getLast?_eq_some_getLast last]
        using ends
    rw [lines_append endsRest second]
termination_by first.length
decreasing_by
  rw [equal, List.length_append, List.length_cons]
  omega

end DeskCalculator.Text
