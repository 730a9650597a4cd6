/-!
Texts as lists of characters. Offsets into a text count the bytes of its UTF-8 form, and a
slice exists only between two offsets at which a character starts or the text ends.
-/
namespace Minilang

abbrev Text := List Char

namespace Text

def byteLength : Text → Nat
  | [] => 0
  | c :: cs => c.utf8Size + byteLength cs

/-- What is left after `n` bytes, if those bytes are whole characters. -/
def dropBytes? : Text → Nat → Option Text
  | t, 0 => some t
  | [], _ + 1 => none
  | c :: cs, n + 1 => if c.utf8Size ≤ n + 1 then dropBytes? cs (n + 1 - c.utf8Size) else none

def takeBytes? : Text → Nat → Option Text
  | _, 0 => some []
  | [], _ + 1 => none
  | c :: cs, n + 1 =>
    if c.utf8Size ≤ n + 1 then (takeBytes? cs (n + 1 - c.utf8Size)).map (c :: ·) else none

def slice? (t : Text) (start stop : Nat) : Option Text :=
  if start ≤ stop then (dropBytes? t start).bind (takeBytes? · (stop - start)) else none

def padLeft (width : Nat) (t : Text) : Text :=
  List.replicate (width - t.length) ' ' ++ t

def times (n : Nat) (t : Text) : Text := (List.replicate n t).flatten

def inRanges : List (Nat × Nat) → Nat → Bool
  | [], _ => false
  | (first, last) :: more, n => if n < first then false else n ≤ last || inRanges more n

def listedIn (table : List (Nat × Nat)) (c : Char) : Bool := inRanges table c.toNat

theorem byteLength_append (s t : Text) : byteLength (s ++ t) = byteLength s + byteLength t := by
  induction s with
  | nil => simp [byteLength]
  | cons c cs ih => simp [byteLength, ih, Nat.add_assoc]

theorem dropBytes?_append (s t : Text) : dropBytes? (s ++ t) (byteLength s) = some t := by
  induction s with
  | nil => simp [byteLength, dropBytes?]
  | cons c cs ih =>
    have positive := c.utf8Size_pos
    obtain ⟨n, hn⟩ : ∃ n, byteLength (c :: cs) = n + 1 :=
      ⟨byteLength (c :: cs) - 1, by simp only [byteLength]; omega⟩
    rw [hn]
    simp only [byteLength] at hn
    have fits : c.utf8Size ≤ n + 1 := by omega
    have left : n + 1 - c.utf8Size = byteLength cs := by omega
    simp [dropBytes?, fits, left, ih]

theorem takeBytes?_append (s t : Text) : takeBytes? (s ++ t) (byteLength s) = some s := by
  induction s with
  | nil => simp [byteLength, takeBytes?]
  | cons c cs ih =>
    have positive := c.utf8Size_pos
    obtain ⟨n, hn⟩ : ∃ n, byteLength (c :: cs) = n + 1 :=
      ⟨byteLength (c :: cs) - 1, by simp only [byteLength]; omega⟩
    rw [hn]
    simp only [byteLength] at hn
    have fits : c.utf8Size ≤ n + 1 := by omega
    have left : n + 1 - c.utf8Size = byteLength cs := by omega
    simp [takeBytes?, fits, left, ih]

theorem slice?_append (a b c : Text) :
    slice? (a ++ (b ++ c)) (byteLength a) (byteLength a + byteLength b) = some b := by
  have ordered : byteLength a ≤ byteLength a + byteLength b := by omega
  have width : byteLength a + byteLength b - byteLength a = byteLength b := by omega
  simp [slice?, ordered, width, dropBytes?_append, takeBytes?_append]

def decimal (n : Nat) : Text := Nat.toDigits 10 n

def signedDecimal : Int → Text
  | .ofNat n => decimal n
  | .negSucc n => '-' :: decimal (n + 1)

def decimalValue (t : Text) : Nat := Nat.ofDigitChars 10 t 0

def decimalLog (n : Nat) : Nat := if n < 10 then 0 else decimalLog (n / 10) + 1
decreasing_by omega

end Text

/-- A half-open range of bytes in a source. The ends may be swapped; such a range has length zero. -/
structure Span where
  start : Nat
  stop : Nat
deriving DecidableEq, Repr, Inhabited

namespace Span

def empty (place : Nat) : Span := ⟨place, place⟩

def length (s : Span) : Nat := s.stop - s.start

def isEmpty (s : Span) : Bool := s.length == 0

def union (s t : Span) : Span := ⟨min s.start t.start, max s.stop t.stop⟩

end Span

end Minilang
