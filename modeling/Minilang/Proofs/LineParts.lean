import Minilang.Proofs.Offsets

namespace Minilang
namespace Text

/-- What follows `front` in the text, line by line, each with its line feed. -/
inductive Lines (text : Text) : Text → List Text → Prop where
  | last {front line : Text} (here : Line text front line []) : Lines text front [line]
  | more {front line back : Text} {parts : List Text} (here : Line text front line ('\n' :: back))
      (later : Lines text (front ++ (line ++ ['\n'])) parts) :
      Lines text front ((line ++ ['\n']) :: parts)

variable {text front line back part : Text} {parts : List Text}

theorem Line.next (l : Line text front line ('\n' :: back)) :
    ∃ line' back', Line text (front ++ (line ++ ['\n'])) line' back' ∧ back = line' ++ back' := by
  obtain ⟨first, left, right, rest, none, parts, behind⟩ := exists_line [] back
  obtain ⟨rfl, rfl⟩ := List.append_eq_nil_iff.mp none.symm
  refine ⟨right, rest, ?_, parts⟩
  constructor
  · rw [l.whole, parts]
    simp
  · exact Or.inr ⟨front ++ line, (List.append_assoc ..).symm⟩
  · exact behind.solid
  · exact behind.ends

theorem Line.lines (l : Line text front line back) : ∃ parts, Lines text front parts := by
  induction more : back.length using Nat.strongRecOn generalizing front line back with
  | ind n ih =>
    rcases l.ends with rfl | ⟨w, rfl⟩
    · exact ⟨_, .last l⟩
    · obtain ⟨line', back', l', rfl⟩ := l.next
      have shorter : back'.length < n := by
        rw [← more, List.length_cons, List.length_append]
        omega
      obtain ⟨parts, later⟩ := ih _ shorter l' rfl
      exact ⟨_, .more l later⟩

theorem exists_lines (text : Text) : ∃ parts, Lines text [] parts := by
  obtain ⟨front, left, right, back, none, -, l⟩ := exists_line [] text
  obtain ⟨rfl, rfl⟩ := List.append_eq_nil_iff.mp none.symm
  exact l.lines

namespace Lines

theorem whole (lines : Lines text front parts) : text = front ++ parts.flatten := by
  induction lines with
  | last l => simpa using l.whole
  | more l later ih => simpa using ih

theorem count_eq (lines : Lines text front parts) :
    text.count '\n' + 1 = front.count '\n' + parts.length := by
  induction lines with
  | last l => rw [l.count_eq, List.count_nil, List.length_singleton, Nat.add_zero]
  | more l later ih =>
    rw [ih, List.count_append, List.count_append, List.count_eq_zero.mpr l.solid, List.length_cons]
    simp only [List.count_singleton_self]
    omega

theorem line_of_part (lines : Lines text front parts) {i : Nat} (part? : parts[i]? = some part) :
    ∃ line back, Line text (front ++ (parts.take i).flatten) line back ∧
      (front ++ (parts.take i).flatten).count '\n' = front.count '\n' + i ∧
        part = line ++ back.take 1 := by
  induction lines generalizing i with
  | @last front line l =>
    cases i with
    | zero =>
      obtain rfl := Option.some.inj part?
      refine ⟨line, [], ?_, ?_, ?_⟩ <;> simp [l]
    | succ i => simp at part?
  | @more front line back parts l later ih =>
    cases i with
    | zero =>
      obtain rfl := Option.some.inj part?
      refine ⟨line, '\n' :: back, ?_, ?_, ?_⟩ <;> simp [l]
    | succ i =>
      obtain ⟨line', back', l', number, ended⟩ := ih (i := i) part?
      have passed : (front ++ (line ++ ['\n'])).count '\n' = front.count '\n' + 1 := by
        rw [List.count_append, List.count_append, List.count_eq_zero.mpr l.solid]
        simp
      have same : front ++ (((line ++ ['\n']) :: parts).take (i + 1)).flatten =
          front ++ (line ++ ['\n']) ++ (parts.take i).flatten := by
        rw [List.take_succ_cons, List.flatten_cons, List.append_assoc front]
      rw [passed] at number
      rw [same]
      exact ⟨line', back', l', by omega, ended⟩

end Lines

/-- What is shown of a line is the line; of a line that ends in a carriage return, all but that. -/
def Trims (line shown : Text) : Prop :=
  line = if line.getLast? = some '\r' then shown ++ ['\r'] else shown

theorem trims_dropLast? (line : Text) : Trims line (dropLast? '\r' line) := by
  unfold Trims dropLast?
  split
  · rename_i last
    obtain ⟨w, rfl⟩ := List.getLast?_eq_some_iff.mp last
    rw [List.dropLast_concat]
  · rfl

theorem bytes_append (s t : Text) : bytes (s ++ t) = bytes s ++ bytes t := List.flatMap_append

theorem extract_bytes (a b c : Text) :
    (bytes (a ++ (b ++ c))).extract (byteLength a) (byteLength a + byteLength b) = bytes b := by
  rw [bytes_append, bytes_append, ← length_bytes a, ← length_bytes b, List.extract_eq_take_drop,
    List.drop_left, Nat.add_sub_cancel_left, List.take_left]

end Text

namespace Source
open Text (byteLength bytes Line Lines Trims)
variable {s : Source} {parts : List Text}

/-- The parts are the lines of the source with their endings. -/
structure Parted (s : Source) (parts : List Text) : Prop where
  whole : parts.flatten = s.text
  count : parts.length = s.lineCount
  start : ∀ i < s.lineCount, s.lineStart? i = some (byteLength (parts.take i).flatten)
  stop : ∀ i < s.lineCount,
    (s.lineStart? (i + 1)).getD (byteLength s.text) = byteLength (parts.take (i + 1)).flatten
  slice : ∀ i, s.fullLine? i = parts[i]?
  bytes : ∀ i part, parts[i]? = some part → (bytes s.text).extract
    (byteLength (parts.take i).flatten) (byteLength (parts.take (i + 1)).flatten) = bytes part
  fed : ∀ i, i + 1 < s.lineCount → ∃ line shown,
    parts[i]? = some (line ++ ['\n']) ∧ s.line? i = some shown ∧ Trims line shown
  last : ∃ line shown, parts[s.lineCount - 1]? = some line ∧
    s.line? (s.lineCount - 1) = some shown ∧ Trims line shown
  solid : ∀ i, ∀ shown ∈ s.line? i, '\n' ∉ shown

theorem take_succ_flatten {i : Nat} {part : Text} (here : parts[i]? = some part) :
    (parts.take (i + 1)).flatten = (parts.take i).flatten ++ part := by
  rw [List.take_add_one, here, List.flatten_append]
  simp

theorem length_of_lines (lines : Lines s.text [] parts) : parts.length = s.lineCount := by
  have all := lines.count_eq
  rw [List.count_nil] at all
  rw [lineCount_eq]
  omega

theorem line_of_lines (lines : Lines s.text [] parts) {i : Nat} (inside : i < s.lineCount) :
    ∃ line back, Line s.text (parts.take i).flatten line back ∧
      (parts.take i).flatten.count '\n' = i ∧ parts[i]? = some (line ++ back.take 1) := by
  rw [← length_of_lines lines] at inside
  have here := List.getElem?_eq_getElem inside
  obtain ⟨line, back, l, number, ended⟩ := lines.line_of_part here
  rw [List.count_nil, Nat.zero_add] at number
  rw [ended] at here
  exact ⟨line, back, l, number, here⟩

theorem shown_of_lines (lines : Lines s.text [] parts) {i : Nat} (inside : i < s.lineCount) :
    ∃ line shown, parts[i]? = some (line ++ if i + 1 < s.lineCount then ['\n'] else []) ∧
      s.line? i = some shown ∧ Trims line shown := by
  obtain ⟨line, back, l, first, here⟩ := line_of_lines lines inside
  have shown := line?_of_line l
  have counted := l.count_eq
  rw [first] at shown counted
  refine ⟨line, _, ?_, shown, Text.trims_dropLast? line⟩
  rw [here, lineCount_eq, counted]
  rcases l.ends with rfl | ⟨w, rfl⟩
  · rw [List.take_nil, List.count_nil, if_neg (by omega)]
  · rw [List.count_cons_self, if_pos (by omega)]
    rfl

theorem start_of_lines (lines : Lines s.text [] parts) {i : Nat} (inside : i < s.lineCount) :
    s.lineStart? i = some (byteLength (parts.take i).flatten) := by
  obtain ⟨line, back, l, first, here⟩ := line_of_lines lines inside
  rw [← lineStart?_of_line l, first]

theorem stop_of_lines (lines : Lines s.text [] parts) {i : Nat} (inside : i < s.lineCount) :
    (s.lineStart? (i + 1)).getD (byteLength s.text) =
      byteLength (parts.take (i + 1)).flatten := by
  obtain ⟨line, back, l, first, here⟩ := line_of_lines lines inside
  have next := lineStart?_behind_line l
  rw [first] at next
  rw [next, take_succ_flatten here, Text.byteLength_append, Text.byteLength_append]
  rcases l.ends with rfl | ⟨w, rfl⟩
  · have whole := congrArg byteLength l.whole
    rw [List.append_nil, Text.byteLength_append] at whole
    exact whole
  · rw [if_neg (List.cons_ne_nil _ _), Option.getD_some, Nat.add_assoc]
    rfl

theorem slice_of_lines (lines : Lines s.text [] parts) (i : Nat) : s.fullLine? i = parts[i]? := by
  by_cases inside : i < s.lineCount
  · obtain ⟨line, back, l, first, here⟩ := line_of_lines lines inside
    rw [here, ← fullLine?_of_line l, first]
  · have beyond := Nat.le_of_not_lt inside
    rw [fullLine?, lineStart?_eq_none beyond, List.getElem?_eq_none_iff.mpr]
    rwa [length_of_lines lines]

theorem bytes_of_lines (lines : Lines s.text [] parts) {i : Nat} {part : Text}
    (here : parts[i]? = some part) : (bytes s.text).extract (byteLength (parts.take i).flatten)
      (byteLength (parts.take (i + 1)).flatten) = bytes part := by
  have cut : s.text = (parts.take i).flatten ++ (part ++ (parts.drop (i + 1)).flatten) := by
    rw [← List.append_assoc, ← take_succ_flatten here, ← List.flatten_append,
      List.take_append_drop]
    exact lines.whole
  rw [take_succ_flatten here, Text.byteLength_append, cut, Text.extract_bytes]

theorem lines_make_up_text (s : Source) : ∃ parts, s.Parted parts := by
  obtain ⟨parts, lines⟩ := Text.exists_lines s.text
  refine ⟨parts, ?_⟩
  constructor
  · exact lines.whole.symm
  · exact length_of_lines lines
  · exact fun i inside => start_of_lines lines inside
  · exact fun i inside => stop_of_lines lines inside
  · exact slice_of_lines lines
  · exact fun i part here => bytes_of_lines lines here
  · intro i more
    have shown := shown_of_lines lines (Nat.lt_of_succ_lt more)
    rwa [if_pos more] at shown
  · have some : 0 < s.lineCount := by
      rw [lineCount_eq]
      omega
    have shown := shown_of_lines lines (Nat.sub_lt some Nat.one_pos)
    rw [if_neg (by omega)] at shown
    simpa using shown
  · intro i shown given
    exact line?_solid given

/-- Of two carriage returns in front of a line feed the first is shown. -/
example : (Source.mk [] none "a\r\r\nß\r".toList).line? 0 = some ['a', '\r'] := by decide

end Source
end Minilang
