import Minilang.Source

namespace Minilang

theorem length_takeWhile_le {α : Type} {p q : α → Bool} (weaker : ∀ a, p a = true → q a = true)
    (as : List α) : (as.takeWhile p).length ≤ (as.takeWhile q).length := by
  induction as with
  | nil => exact Nat.le_refl _
  | cons a as ih =>
    by_cases passed : p a = true
    · simp only [List.takeWhile_cons, passed, weaker a passed, ↓reduceIte, List.length_cons]
      omega
    · simp [passed]

theorem length_below_of_split {x : Nat} {below ahead : List Nat} (small : ∀ y ∈ below, y < x)
    (great : ∀ y ∈ ahead, x ≤ y) : ((below ++ ahead).takeWhile (· < x)).length = below.length := by
  have stops : ahead.takeWhile (· < x) = [] := by
    cases ahead with
    | nil => rfl
    | cons y ys =>
      have behind : ¬ y < x := Nat.not_lt.mpr (great y List.mem_cons_self)
      simp [behind]
  rw [List.takeWhile_append_of_pos (by simpa using small), stops, List.append_nil]

namespace Text

/-- A line of a text, without its line feed, between what stands in front of it and behind it. -/
structure Line (text front line back : Text) : Prop where
  whole : text = front ++ (line ++ back)
  begins : front = [] ∨ ∃ w, front = w ++ ['\n']
  solid : '\n' ∉ line
  ends : back = [] ∨ ∃ w, back = '\n' :: w

theorem exists_line (before after : Text) : ∃ front left right back,
    before = front ++ left ∧ after = right ++ back ∧
      Line (before ++ after) front (left ++ right) back := by
  induction before generalizing after with
  | nil =>
    refine ⟨[], [], after.takeWhile (· ≠ '\n'), after.dropWhile (· ≠ '\n'), rfl,
      List.takeWhile_append_dropWhile.symm, ?_⟩
    refine ⟨by simp, Or.inl rfl, fun member => ?_, ?_⟩
    · have := List.all_eq_true.mp (List.all_takeWhile (p := fun c => decide (c ≠ '\n'))) _ member
      simp at this
    · cases h : after.dropWhile (· ≠ '\n') with
      | nil => exact Or.inl rfl
      | cons c cs =>
        have first := List.head?_dropWhile_not (fun c => decide (c ≠ '\n')) after
        rw [h] at first
        exact Or.inr ⟨cs, by simpa using first⟩
  | cons c cs ih =>
    obtain ⟨front, left, right, back, parts, parts', line⟩ := ih after
    have whole := line.whole
    -- the character joins the line behind it, unless that line has a front already or it ends one
    by_cases first : front = []
    · subst first
      by_cases breaks : c = '\n'
      · subst breaks
        refine ⟨['\n'], left, right, back, by simp [parts], parts', ?_⟩
        exact ⟨by simp [whole], Or.inr ⟨[], rfl⟩, line.solid, line.ends⟩
      · refine ⟨[], c :: left, right, back, by simp [parts], parts', ?_⟩
        exact ⟨by simp [whole], Or.inl rfl, by simp [line.solid, Ne.symm breaks], line.ends⟩
    · obtain ⟨w, ended⟩ := line.begins.resolve_left first
      refine ⟨c :: front, left, right, back, by simp [parts], parts', ?_⟩
      exact ⟨by simp [whole], Or.inr ⟨c :: w, by simp [ended]⟩, line.solid, line.ends⟩

theorem exists_line_at {text : Text} {n : Nat} (inside : n ≤ text.count '\n') :
    ∃ front line back, Line text front line back ∧ front.count '\n' = n := by
  obtain ⟨before, after, rfl, number⟩ : ∃ before after, text = before ++ after ∧
      before.count '\n' = n := by
    induction text generalizing n with
    | nil => exact ⟨[], [], rfl, (Nat.le_zero.mp inside).symm⟩
    | cons c cs ih =>
      cases n with
      | zero => exact ⟨[], c :: cs, rfl, rfl⟩
      | succ n =>
        by_cases feed : c = '\n'
        · subst feed
          obtain ⟨before, after, parts, number⟩ := ih (n := n) (by simpa using inside)
          exact ⟨'\n' :: before, after, by simp [parts], by simp [number]⟩
        · rw [List.count_cons_of_ne feed] at inside
          obtain ⟨before, after, parts, number⟩ := ih inside
          exact ⟨c :: before, after, by simp [parts], by rw [List.count_cons_of_ne feed, number]⟩
  -- the line of the place behind that many line feeds
  obtain ⟨front, left, right, back, rfl, -, line⟩ := exists_line before after
  refine ⟨front, left ++ right, back, line, ?_⟩
  have solid : '\n' ∉ left := fun feed => line.solid (List.mem_append_left _ feed)
  rw [← number, List.count_append, List.count_eq_zero.mpr solid, Nat.add_zero]

theorem lineBreaksFrom_append (offset : Nat) (s t : Text) :
    lineBreaksFrom offset (s ++ t) =
      lineBreaksFrom offset s ++ lineBreaksFrom (offset + byteLength s) t := by
  induction s generalizing offset with
  | nil => simp [lineBreaksFrom, byteLength]
  | cons c cs ih =>
    simp only [List.cons_append, lineBreaksFrom, ih, byteLength, Nat.add_assoc]
    split <;> rfl

theorem length_lineBreaksFrom (offset : Nat) (t : Text) :
    (lineBreaksFrom offset t).length = t.count '\n' := by
  induction t generalizing offset with
  | nil => rfl
  | cons c cs ih => by_cases breaks : c = '\n' <;> simp [lineBreaksFrom, ih, breaks]

theorem lineBreaksFrom_bounds (offset : Nat) (t : Text) :
    ∀ b ∈ lineBreaksFrom offset t, offset ≤ b ∧ b < offset + byteLength t := by
  induction t generalizing offset with
  | nil => simp [lineBreaksFrom]
  | cons c cs ih =>
    have wide := c.utf8Size_pos
    have later : ∀ b ∈ lineBreaksFrom (offset + c.utf8Size) cs,
        offset ≤ b ∧ b < offset + byteLength (c :: cs) := by
      intro b member
      have bounds := ih _ b member
      simp only [byteLength]
      omega
    simp only [lineBreaksFrom]
    split
    · refine List.forall_mem_cons.mpr ⟨⟨Nat.le_refl _, ?_⟩, later⟩
      simp only [byteLength]
      omega
    · exact later

theorem lineBreaksFrom_solid (offset : Nat) {t : Text} (solid : '\n' ∉ t) :
    lineBreaksFrom offset t = [] := by
  rw [← List.length_eq_zero_iff, length_lineBreaksFrom]
  exact List.count_eq_zero.mpr solid

theorem length_breaks_before {front rest : Text} {byte : Nat} (lower : byteLength front ≤ byte)
    (upper : ∀ b ∈ lineBreaksFrom (byteLength front) rest, byte ≤ b) :
    ((lineBreaksFrom 0 (front ++ rest)).takeWhile (· < byte)).length = front.count '\n' := by
  have passed : ∀ b ∈ lineBreaksFrom 0 front, b < byte := by
    intro b member
    have bounds := lineBreaksFrom_bounds 0 front b member
    omega
  rw [lineBreaksFrom_append, Nat.zero_add, length_below_of_split passed upper, length_lineBreaksFrom]

namespace Line
variable {text front line back : Text}

theorem lineBreaks (l : Line text front line back) : lineBreaksFrom 0 text =
    lineBreaksFrom 0 front ++ lineBreaksFrom (byteLength front + byteLength line) back := by
  rw [l.whole, lineBreaksFrom_append, lineBreaksFrom_append, lineBreaksFrom_solid _ l.solid]
  simp

theorem count_eq (l : Line text front line back) :
    text.count '\n' = front.count '\n' + back.count '\n' := by
  rw [l.whole, List.count_append, List.count_append, List.count_eq_zero.mpr l.solid]
  omega

end Line
end Text

namespace Source
open Text (Line byteLength lineBreaksFrom)

variable {s : Source} {front line back : Text}

theorem lineCount_eq (s : Source) : s.lineCount = 1 + s.text.count '\n' := by
  rw [lineCount, lineBreaks, Text.length_lineBreaksFrom]

theorem lineIndex?_of_line (l : Line s.text front line back) {byte : Nat}
    (lower : byteLength front ≤ byte) (upper : byte ≤ byteLength front + byteLength line) :
    s.lineIndex? byte = some (front.count '\n') := by
  have within : byte ≤ byteLength s.text := by
    rw [l.whole, Text.byteLength_append, Text.byteLength_append]
    omega
  rw [lineIndex?, if_pos within, lineBreaks, l.whole, Text.length_breaks_before lower]
  intro b member
  rw [Text.lineBreaksFrom_append, Text.lineBreaksFrom_solid _ l.solid, List.nil_append] at member
  exact Nat.le_trans upper (Text.lineBreaksFrom_bounds _ back b member).1

theorem lineStart?_of_line (l : Line s.text front line back) :
    s.lineStart? (front.count '\n') = some (byteLength front) := by
  rcases l.begins with rfl | ⟨w, rfl⟩
  · rfl
  · have number : (w ++ ['\n']).count '\n' = (lineBreaksFrom 0 w).length + 1 := by
      simp [Text.length_lineBreaksFrom]
    have breaks : s.lineBreaks = lineBreaksFrom 0 w ++ (byteLength w ::
        lineBreaksFrom (byteLength (w ++ ['\n']) + byteLength line) back) := by
      rw [lineBreaks, l.lineBreaks, Text.lineBreaksFrom_append]
      simp [lineBreaksFrom]
    rw [number]
    simp only [lineStart?, breaks, List.getElem?_append_right, Nat.le_refl, Nat.sub_self,
      List.getElem?_cons_zero, Option.map_some, Text.byteLength_append]
    rfl

theorem lineStart?_behind_line (l : Line s.text front line back) :
    s.lineStart? (front.count '\n' + 1) =
      if back = [] then none else some (byteLength front + byteLength line + 1) := by
  have number : front.count '\n' = (lineBreaksFrom 0 front).length :=
    (Text.length_lineBreaksFrom 0 front).symm
  rw [lineStart?, lineBreaks, l.lineBreaks, number]
  rcases l.ends with rfl | ⟨w, rfl⟩
  · simp [lineBreaksFrom]
  · simp [lineBreaksFrom]

theorem dropLast?_self {c : Char} {t : Text} (none : c ∉ t) : Text.dropLast? c t = t := by
  rw [Text.dropLast?, if_neg]
  intro last
  exact none (List.mem_of_getLast? last)

theorem dropLast?_eq (c : Char) (t : Text) :
    ∃ ending, t = Text.dropLast? c t ++ ending ∧ (ending = [] ∨ ending = [c]) := by
  rw [Text.dropLast?]
  split
  · rename_i last
    obtain ⟨w, rfl⟩ := List.getLast?_eq_some_iff.mp last
    exact ⟨[c], by simp, Or.inr rfl⟩
  · exact ⟨[], (List.append_nil t).symm, Or.inl rfl⟩

theorem dropLast?_append (c : Char) (t : Text) : Text.dropLast? c (t ++ [c]) = t := by
  simp [Text.dropLast?]

theorem fullLine?_of_line (l : Line s.text front line back) :
    s.fullLine? (front.count '\n') = some (line ++ back.take 1) := by
  have whole := l.whole
  rw [fullLine?, lineStart?_of_line l, lineStart?_behind_line l]
  rcases l.ends with rfl | ⟨w, rfl⟩
  · have stop : byteLength s.text = byteLength front + byteLength line := by
      rw [whole, Text.byteLength_append, List.append_nil]
    simp only [↓reduceIte, Option.getD_none, stop]
    rw [whole, Text.slice?_append, List.take_nil, List.append_nil]
  · have stop : byteLength front + byteLength line + 1 =
        byteLength front + byteLength (line ++ ['\n']) := by
      rw [Text.byteLength_append, Nat.add_assoc]
      rfl
    have cut : s.text = front ++ ((line ++ ['\n']) ++ w) := by simp [whole]
    simp only [reduceCtorEq, ↓reduceIte, Option.getD_some, stop]
    rw [cut, Text.slice?_append]
    rfl

theorem line?_of_line (l : Line s.text front line back) :
    s.line? (front.count '\n') = some (Text.dropLast? '\r' line) := by
  rw [line?, fullLine?_of_line l, Option.map_some]
  rcases l.ends with rfl | ⟨w, rfl⟩
  · rw [List.take_nil, List.append_nil, dropLast?_self l.solid]
  · rw [List.take_succ_cons, List.take_zero, dropLast?_append]

theorem lineStart?_eq_none {n : Nat} (beyond : s.lineCount ≤ n) : s.lineStart? n = none := by
  rw [lineCount] at beyond
  obtain ⟨m, rfl⟩ : ∃ m, n = m + 1 := ⟨n - 1, by omega⟩
  have none : s.lineBreaks[m]? = none := List.getElem?_eq_none_iff.mpr (by omega)
  rw [lineStart?, none, Option.map_none]

theorem line?_eq_none {n : Nat} (beyond : s.lineCount ≤ n) : s.line? n = none := by
  rw [line?, fullLine?, lineStart?_eq_none beyond, Option.map_none]

theorem line?_isSome_iff (line : Nat) : (s.line? line).isSome ↔ line < s.lineCount := by
  constructor
  · intro shown
    apply Nat.lt_of_not_le
    intro beyond
    rw [line?_eq_none beyond] at shown
    contradiction
  · intro inside
    have counted : line ≤ s.text.count '\n' := by
      rw [lineCount_eq] at inside
      omega
    obtain ⟨front, text, back, l, rfl⟩ := Text.exists_line_at counted
    rw [line?_of_line l]
    rfl

theorem line?_solid {n : Nat} {shown : Text} (given : s.line? n = some shown) : '\n' ∉ shown := by
  by_cases inside : n < s.lineCount
  · rw [lineCount_eq] at inside
    have counted : n ≤ s.text.count '\n' := by omega
    obtain ⟨front, line, back, l, rfl⟩ := Text.exists_line_at counted
    rw [line?_of_line l] at given
    obtain ⟨ending, parts, -⟩ := dropLast?_eq '\r' line
    rw [← Option.some.inj given]
    intro feed
    apply l.solid
    rw [parts]
    exact List.mem_append_left _ feed
  · rw [line?_eq_none (Nat.le_of_not_lt inside)] at given
    contradiction

theorem lineIndex?_lt {byte line : Nat} (index : s.lineIndex? byte = some line) :
    line < s.lineCount := by
  rw [lineIndex?] at index
  split at index
  · have most := (List.takeWhile_prefix (· < byte) (l := s.lineBreaks)).length_le
    rw [lineCount, ← Option.some.inj index]
    omega
  · contradiction

def Holds (s : Source) (line byte : Nat) : Prop :=
  ∃ start, s.lineStart? line = some start ∧ start ≤ byte ∧
    ∀ next ∈ s.lineStart? (line + 1), byte < next

theorem lineIndex?_holds {line byte : Nat} (index : s.lineIndex? byte = some line) :
    s.Holds line byte := by
  rw [lineIndex?] at index
  split at index
  case isFalse => contradiction
  obtain rfl := Option.some.inj index
  let passed := s.lineBreaks.takeWhile (· < byte)
  let ahead := s.lineBreaks.dropWhile (· < byte)
  have parts : passed ++ ahead = s.lineBreaks := List.takeWhile_append_dropWhile
  -- the line begins behind the last break passed, and ends at the first one ahead
  have start : ∃ start, s.lineStart? passed.length = some start ∧ start ≤ byte := by
    cases count : passed.length with
    | zero => exact ⟨0, rfl, Nat.zero_le byte⟩
    | succ n =>
      have inside : n < passed.length := by omega
      have here : s.lineBreaks[n]? = some passed[n] := by
        rw [← parts, List.getElem?_append_left inside, List.getElem?_eq_getElem inside]
      have lower : passed[n] < byte := by
        have all := List.all_takeWhile (p := fun b => decide (b < byte)) (l := s.lineBreaks)
        simpa using List.all_eq_true.mp all _ (List.getElem_mem inside)
      exact ⟨passed[n] + 1, by simp [lineStart?, here], lower⟩
  obtain ⟨start, begins, lower⟩ := start
  refine ⟨start, begins, lower, ?_⟩
  intro next member
  obtain ⟨b, here, rfl⟩ := Option.map_eq_some_iff.mp (Option.mem_def.mp member)
  have first : ahead.head? = some b := by
    rw [List.head?_eq_getElem?, ← Nat.sub_self passed.length,
      ← List.getElem?_append_right (Nat.le_refl _), parts]
    exact here
  have stops := List.head?_dropWhile_not (fun b => decide (b < byte)) s.lineBreaks
  rw [first] at stops
  simp only [decide_eq_false_iff_not] at stops
  omega

theorem lineIndex?_mono {a b k l : Nat} (ordered : a ≤ b) (first : s.lineIndex? a = some k)
    (second : s.lineIndex? b = some l) : k ≤ l := by
  rw [lineIndex?] at first second
  split at first
  case isFalse => contradiction
  split at second
  case isFalse => contradiction
  obtain rfl := Option.some.inj first
  obtain rfl := Option.some.inj second
  apply length_takeWhile_le
  intro c below
  rw [decide_eq_true_eq] at *
  omega

end Source
end Minilang
