import Minilang.Proofs.Lines

namespace Minilang
namespace Text

def bytes (t : Text) : List UInt8 := t.flatMap String.utf8EncodeChar

def feed : UInt8 := 10

def feedsBefore (t : Text) (byte : Nat) : Nat := ((bytes t).take byte).count feed

theorem length_bytes (t : Text) : (bytes t).length = byteLength t := by
  induction t with
  | nil => rfl
  | cons c cs ih =>
    rw [bytes, List.flatMap_cons, List.length_append, String.length_utf8EncodeChar, byteLength, ← ih]
    rfl

theorem feed_not_mem_encoded {c : Char} (other : c ≠ '\n') : feed ∉ String.utf8EncodeChar c := by
  have value : c.val.toNat ≠ 10 := fun same => other (Char.ext (UInt32.toNat_inj.mp same))
  have ten : feed.toNat = 10 := rfl
  intro member
  have numbers := List.mem_map_of_mem (f := UInt8.toNat) member
  unfold String.utf8EncodeChar at numbers
  generalize c.val.toNat = v at value numbers
  dsimp only at numbers
  repeat' split at numbers
  all_goals
    simp only [ten, List.map_cons, List.map_nil, UInt8.toNat_ofNat', List.mem_cons, List.not_mem_nil,
      or_false] at numbers
    omega

theorem feedsBefore_feed (cs : Text) (n : Nat) :
    feedsBefore ('\n' :: cs) (n + 1) = feedsBefore cs n + 1 := by
  have encoded : bytes ('\n' :: cs) = feed :: bytes cs := rfl
  rw [feedsBefore, encoded, List.take_succ_cons, List.count_cons_self]
  rfl

theorem feedsBefore_other {c : Char} (other : c ≠ '\n') (cs : Text) (n : Nat) :
    feedsBefore (c :: cs) n = feedsBefore cs (n - c.utf8Size) := by
  have none : ((String.utf8EncodeChar c).take n).count feed = 0 :=
    List.count_eq_zero.mpr fun member => feed_not_mem_encoded other (List.mem_of_mem_take member)
  rw [feedsBefore, bytes, List.flatMap_cons, List.take_append, List.count_append, none,
    Nat.zero_add, String.length_utf8EncodeChar]
  rfl

theorem length_breaks_ahead {offset byte : Nat} (t : Text) (ahead : byte ≤ offset) :
    ((lineBreaksFrom offset t).takeWhile (· < byte)).length = 0 := by
  have none : ∀ b ∈ ([] : List Nat), b < byte := by simp
  exact length_below_of_split none fun b member =>
    Nat.le_trans ahead (lineBreaksFrom_bounds offset t b member).1

/-- The breaks in front of an offset are the line feeds among the bytes in front of it. -/
theorem length_breaks_below (offset n : Nat) (t : Text) :
    ((lineBreaksFrom offset t).takeWhile (· < offset + n)).length = feedsBefore t n := by
  induction t generalizing offset n with
  | nil => simp [lineBreaksFrom, feedsBefore, bytes]
  | cons c cs ih =>
    by_cases breaks : c = '\n'
    · subst breaks
      cases n with
      | zero =>
        rw [Nat.add_zero, length_breaks_ahead _ (Nat.le_refl offset)]
        simp [feedsBefore]
      | succ n =>
        have later := ih (offset + 1) n
        rw [Nat.add_assoc, Nat.add_comm 1 n] at later
        rw [feedsBefore_feed, ← later]
        have passed : offset < offset + (n + 1) := by omega
        simp only [lineBreaksFrom, ↓reduceIte, List.takeWhile_cons, passed, decide_true,
          List.length_cons]
        rfl
    · simp only [lineBreaksFrom, breaks, ↓reduceIte]
      rw [feedsBefore_other breaks]
      -- an offset inside the character leaves all breaks ahead of it
      by_cases short : n ≤ c.utf8Size
      · rw [length_breaks_ahead _ (by omega), Nat.sub_eq_zero_of_le short]
        simp [feedsBefore]
      · have place : offset + n = offset + c.utf8Size + (n - c.utf8Size) := by omega
        rw [place, ih]

theorem count_feed_bytes (t : Text) : (bytes t).count feed = t.count '\n' := by
  have all := length_breaks_below 0 (byteLength t) t
  have passed : (lineBreaksFrom 0 t).takeWhile (· < 0 + byteLength t) = lineBreaksFrom 0 t := by
    rw [← List.append_nil (lineBreaksFrom 0 t), List.takeWhile_append_of_pos, List.takeWhile_nil]
    intro b member
    simpa using (lineBreaksFrom_bounds 0 t b member).2
  rw [passed, length_lineBreaksFrom, feedsBefore, ← length_bytes, List.take_length] at all
  exact all.symm

theorem lineBreaksFrom_sorted (offset : Nat) (t : Text) :
    (lineBreaksFrom offset t).Pairwise (· < ·) := by
  induction t generalizing offset with
  | nil => exact .nil
  | cons c cs ih =>
    have wide := c.utf8Size_pos
    simp only [lineBreaksFrom]
    split
    · refine .cons (fun b member => ?_) (ih _)
      have bounds := lineBreaksFrom_bounds _ cs b member
      omega
    · exact ih _

end Text

/-- Where a search for a number in a list may end: at the number, or where it would have to be put
in, if it is not there. -/
inductive Finds (xs : List Nat) (x : Nat) : Nat → Prop where
  | hit {i : Nat} (here : xs[i]? = some x) : Finds xs x i
  | miss {i : Nat} (absent : x ∉ xs) (inside : i ≤ xs.length) (below : ∀ y ∈ xs.take i, y < x)
      (above : ∀ y ∈ xs.drop i, x < y) : Finds xs x i

theorem split_of_sorted {xs : List Nat} (sorted : xs.Pairwise (· < ·)) (x : Nat) :
    ∃ below ahead, xs = below ++ ahead ∧ (∀ y ∈ below, y < x) ∧ ∀ y ∈ ahead, x ≤ y := by
  induction xs with
  | nil => exact ⟨[], [], rfl, by simp, by simp⟩
  | cons y ys ih =>
    obtain ⟨later, sorted⟩ := List.pairwise_cons.mp sorted
    by_cases small : y < x
    · obtain ⟨below, ahead, rfl, smaller, great⟩ := ih sorted
      exact ⟨y :: below, ahead, rfl, List.forall_mem_cons.mpr ⟨small, smaller⟩, great⟩
    · refine ⟨[], y :: ys, rfl, by simp, List.forall_mem_cons.mpr ⟨Nat.le_of_not_lt small, ?_⟩⟩
      intro z member
      have behind := later z member
      omega

theorem Finds.splits {xs : List Nat} {x i : Nat} (found : Finds xs x i)
    (sorted : xs.Pairwise (· < ·)) :
    i ≤ xs.length ∧ (∀ y ∈ xs.take i, y < x) ∧ ∀ y ∈ xs.drop i, x ≤ y := by
  cases found with
  | hit here =>
    obtain ⟨inside, rfl⟩ := List.getElem?_eq_some_iff.mp here
    have ordered := sorted
    rw [← List.take_append_drop i xs, List.drop_eq_getElem_cons inside, List.pairwise_append,
      List.pairwise_cons] at ordered
    obtain ⟨-, ⟨later, -⟩, earlier⟩ := ordered
    refine ⟨Nat.le_of_lt inside, fun y member => earlier y member _ List.mem_cons_self, ?_⟩
    rw [List.drop_eq_getElem_cons inside]
    exact List.forall_mem_cons.mpr ⟨Nat.le_refl _, fun y member => Nat.le_of_lt (later y member)⟩
  | miss absent inside below above =>
    exact ⟨inside, below, fun y member => Nat.le_of_lt (above y member)⟩

theorem finds_iff {xs : List Nat} {x i : Nat} (sorted : xs.Pairwise (· < ·)) :
    Finds xs x i ↔ (xs.takeWhile (· < x)).length = i := by
  constructor
  · intro found
    obtain ⟨inside, below, above⟩ := found.splits sorted
    have split := length_below_of_split below above
    rwa [List.take_append_drop, List.length_take, Nat.min_eq_left inside] at split
  · obtain ⟨below, ahead, rfl, small, great⟩ := split_of_sorted sorted x
    rw [length_below_of_split small great]
    rintro rfl
    -- the search ends at the first number that is not smaller, whether that is the one or not
    cases ahead with
    | nil =>
      rw [List.append_nil]
      exact .miss (fun member => Nat.lt_irrefl _ (small x member)) (Nat.le_refl _)
        (by simpa using small) (by simp)
    | cons y ys =>
      rcases Nat.eq_or_lt_of_le (great y List.mem_cons_self) with rfl | above
      · exact .hit (by simp)
      · have later := (List.pairwise_cons.mp (List.pairwise_append.mp sorted).2.1).1
        have above : ∀ z ∈ y :: ys, x < z :=
          List.forall_mem_cons.mpr ⟨above, fun z member => Nat.lt_trans above (later z member)⟩
        refine .miss ?_ (by simp) (by simpa using small) (by simpa using above)
        intro member
        rcases List.mem_append.mp member with before | behind
        · exact Nat.lt_irrefl _ (small x before)
        · exact Nat.lt_irrefl _ (above x behind)

namespace Source
open Text (byteLength bytes feed feedsBefore)
variable {s : Source}

theorem length_passed_breaks (s : Source) (byte : Nat) :
    (s.lineBreaks.takeWhile (· < byte)).length = feedsBefore s.text byte := by
  have number := Text.length_breaks_below 0 byte s.text
  rwa [Nat.zero_add] at number

theorem lineIndex?_inside {byte : Nat} (inside : byte ≤ byteLength s.text) :
    s.lineIndex? byte = some (feedsBefore s.text byte) := by
  rw [lineIndex?, if_pos inside, length_passed_breaks]

theorem lineIndex?_outside {byte : Nat} (outside : byteLength s.text < byte) :
    s.lineIndex? byte = none := if_neg (Nat.not_le.mpr outside)

theorem lineStart?_isSome_iff (line : Nat) : (s.lineStart? line).isSome ↔ line < s.lineCount := by
  constructor
  · intro begins
    apply Nat.lt_of_not_le
    intro beyond
    rw [lineStart?_eq_none beyond] at begins
    contradiction
  · intro inside
    cases line with
    | zero => rfl
    | succ n =>
      have below : n < s.lineBreaks.length := by rw [lineCount] at inside; omega
      rw [lineStart?, List.getElem?_eq_getElem below]
      rfl

theorem lineColumn?_inside {byte : Nat} (inside : byte ≤ byteLength s.text) :
    ∃ start ≤ byte, s.lineStart? (feedsBefore s.text byte) = some start ∧
      s.lineColumn? byte = some (feedsBefore s.text byte + 1, byte - start + 1) := by
  have index := lineIndex?_inside inside
  obtain ⟨start, begins, lower, -⟩ := lineIndex?_holds index
  refine ⟨start, lower, begins, ?_⟩
  rw [lineColumn?, index]
  simp only [begins, Option.map_some]

theorem lineColumn?_outside {byte : Nat} (outside : byteLength s.text < byte) :
    s.lineColumn? byte = none := by
  rw [lineColumn?, lineIndex?_outside outside]

theorem inside_of_lineColumn? {byte : Nat} {p : Nat × Nat} (position : s.lineColumn? byte = some p) :
    byte ≤ byteLength s.text := by
  apply Nat.le_of_not_lt
  intro outside
  rw [lineColumn?_outside outside] at position
  contradiction

theorem lineColumn?_increasing {a b : Nat} {p q : Nat × Nat} (ordered : a < b)
    (first : s.lineColumn? a = some p) (second : s.lineColumn? b = some q) :
    Prod.Lex (· < ·) (· < ·) p q := by
  have insideA := inside_of_lineColumn? first
  have insideB := inside_of_lineColumn? second
  obtain ⟨start, lower, begins, column⟩ := lineColumn?_inside insideA
  obtain ⟨start', lower', begins', column'⟩ := lineColumn?_inside insideB
  obtain rfl := Option.some.inj (column.symm.trans first)
  obtain rfl := Option.some.inj (column'.symm.trans second)
  have lines := lineIndex?_mono (Nat.le_of_lt ordered) (lineIndex?_inside insideA)
    (lineIndex?_inside insideB)
  rcases Nat.lt_or_eq_of_le lines with later | same
  · exact .left _ _ (Nat.succ_lt_succ later)
  · rw [same] at begins ⊢
    obtain rfl := Option.some.inj (begins.symm.trans begins')
    exact .right _ (by omega)

theorem lineColumn?_injective {a b : Nat} (inside : a ≤ byteLength s.text)
    (same : s.lineColumn? a = s.lineColumn? b) : a = b := by
  obtain ⟨start, -, -, column⟩ := lineColumn?_inside inside
  have column' := same.symm.trans column
  rcases Nat.lt_trichotomy a b with less | equal | greater
  · have lex := lineColumn?_increasing less column column'
    simp [Prod.lex_def] at lex
  · exact equal
  · have lex := lineColumn?_increasing greater column' column
    simp [Prod.lex_def] at lex

/-- What a source answers to offsets and lines. -/
structure Locates (s : Source) : Prop where
  length : byteLength s.text = (bytes s.text).length
  line : ∀ byte ≤ byteLength s.text, s.lineIndex? byte = some (feedsBefore s.text byte)
  search : ∀ byte i, Finds s.lineBreaks byte i ↔ i = feedsBefore s.text byte
  position : ∀ byte ≤ byteLength s.text, ∃ start ≤ byte,
    s.lineStart? (feedsBefore s.text byte) = some start ∧
      s.lineColumn? byte = some (feedsBefore s.text byte + 1, byte - start + 1)
  increasing : ∀ a b, a < b → ∀ p ∈ s.lineColumn? a, ∀ q ∈ s.lineColumn? b,
    Prod.Lex (· < ·) (· < ·) p q
  injective : ∀ a ≤ byteLength s.text, ∀ b, s.lineColumn? a = s.lineColumn? b → a = b
  outside : ∀ byte, byteLength s.text < byte →
    s.lineIndex? byte = none ∧ s.lineColumn? byte = none
  lineCount : s.lineCount = (bytes s.text).count feed + 1
  lineStart : ∀ line, (s.lineStart? line).isSome ↔ line < s.lineCount
  shown : ∀ line, (s.line? line).isSome ↔ line < s.lineCount

/-- Offsets and positions tell each other, and the line feeds tell the lines. -/
theorem offsets_match_positions (s : Source) : s.Locates := by
  constructor
  · exact (Text.length_bytes s.text).symm
  · exact fun byte inside => lineIndex?_inside inside
  · intro byte i
    have sorted : s.lineBreaks.Pairwise (· < ·) := Text.lineBreaksFrom_sorted 0 s.text
    rw [finds_iff sorted, length_passed_breaks, eq_comm]
  · exact fun byte inside => lineColumn?_inside inside
  · exact fun a b ordered p first q second => lineColumn?_increasing ordered first second
  · exact fun a inside b same => lineColumn?_injective inside same
  · exact fun byte outside => ⟨lineIndex?_outside outside, lineColumn?_outside outside⟩
  · rw [lineCount_eq, Text.count_feed_bytes, Nat.add_comm]
  · exact lineStart?_isSome_iff
  · exact line?_isSome_iff

example : (Source.mk [] none "é\nß".toList).lineColumn? 4 = some (2, 2) := by decide

end Source
end Minilang
