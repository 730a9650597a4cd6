import Minilang.Text.Cursor
import Minilang.Token.Stream

/-!
Scanning by steps on a cursor. Blanks, digits and letters are taken many at a time, and the text of a
token is cut out of the source between the offsets where the cursor stood. The tokens are those of the
stream.
-/
namespace Minilang
open Text (byteLength)

def Cursor.eat (accepts : Char → Bool) (c : Cursor) : Cursor :=
  (c.eatWhile (fun u ch => (accepts ch, u)) ()).2.2

structure Scanner where
  source : Text
  cursor : Cursor
  previous : Span

namespace Scanner

def ofText (text : Text) : Scanner := ⟨text, ⟨text⟩, .empty 0⟩

def offset (s : Scanner) (c : Cursor) : Nat := byteLength s.source - byteLength c.rest

def behind (first : Char) (c : Cursor) : Cursor :=
  match Kind.ofPunctuation? first with
  | some _ => c
  | none =>
    if isDigit first then c.eat isDigit
    else if isLetter first then c.eat isLetter
    else c

def kindOf (first : Char) (text : Text) : Kind :=
  match Kind.ofPunctuation? first with
  | some kind => kind
  | none => if isDigit first then .int else if isLetter first then .ofWord text else .illegal

def next (s : Scanner) : Token × Scanner :=
  let ahead := s.cursor.eat isBlank
  let after :=
    match ahead.next with
    | (none, c) => c
    | (some first, c) => behind first c
  let span : Span := ⟨s.offset ahead, s.offset after⟩
  let text := (Text.slice? s.source span.start span.stop).getD []
  (⟨ahead.peek.elim .eof (kindOf · text), text, span⟩, ⟨s.source, after, span⟩)

def take : Nat → Scanner → List Token × Scanner
  | 0, s => ([], s)
  | n + 1, s =>
    let later := take n s.next.2
    (s.next.1 :: later.1, later.2)

theorem eat_rest (accepts : Char → Bool) (c : Cursor) :
    (c.eat accepts).rest = c.rest.dropWhile accepts := by
  rw [Cursor.eat, Cursor.eatWhile_stateless]

theorem lexeme_behind (first : Char) (cs : Text) :
    (lexeme first cs).2 ++ (behind first ⟨cs⟩).rest = first :: cs := by
  cases sign : Kind.ofPunctuation? first with
  | some kind => simp [lexeme, behind, sign]
  | none =>
    by_cases digit : isDigit first = true
    · simp [lexeme, behind, sign, digit, eat_rest]
    · by_cases letter : isLetter first = true
      · simp [lexeme, behind, sign, digit, letter, eat_rest]
      · simp [lexeme, behind, sign, digit, letter]

theorem kindOf_lexeme (first : Char) (cs : Text) :
    kindOf first (lexeme first cs).2 = (lexeme first cs).1 := by
  cases sign : Kind.ofPunctuation? first with
  | some kind => simp [lexeme, kindOf, sign]
  | none =>
    by_cases digit : isDigit first = true
    · simp [lexeme, kindOf, sign, digit]
    · by_cases letter : isLetter first = true
      · simp [lexeme, kindOf, sign, digit, letter]
      · simp [lexeme, kindOf, sign, digit, letter]

theorem offset_eq {s : Scanner} {c : Cursor} {before : Text} (whole : s.source = before ++ c.rest) :
    s.offset c = byteLength before := by
  rw [offset, whole, Text.byteLength_append]
  omega

structure Follows (s : Scanner) (u : TokenStream) (front : Text) : Prop where
  whole : s.source = front ++ u.rest
  ahead : s.cursor.rest = u.rest
  place : u.offset = byteLength front
  previous : s.previous = u.previous

namespace Follows
variable {s : Scanner} {u : TokenStream} {front : Text}

theorem ofText (text : Text) : (Scanner.ofText text).Follows (.ofText text) [] :=
  ⟨rfl, rfl, rfl, rfl⟩

theorem next_ended (follows : s.Follows u front) (ended : u.rest.dropWhile isBlank = []) :
    s.next.1 = u.next.1 ∧ s.next.2.Follows u.next.2 (front ++ u.rest) := by
  have blank : u.rest.takeWhile isBlank = u.rest := by
    have parts := List.takeWhile_append_dropWhile (p := isBlank) (l := u.rest)
    rwa [ended, List.append_nil] at parts
  have ahead : s.cursor.eat isBlank = ⟨[]⟩ := by
    rw [← ended, ← follows.ahead, ← eat_rest]
  have place : u.offset + byteLength u.rest = byteLength s.source := by
    rw [follows.whole, Text.byteLength_append, follows.place]
  have none : Text.slice? s.source (byteLength s.source) (byteLength s.source) = some [] := by
    simpa [byteLength] using Text.slice?_append s.source [] []
  have streams : u.next = (.eof (byteLength s.source),
      ⟨[], byteLength s.source, .empty (byteLength s.source)⟩) := by
    simp [TokenStream.next, ended, blank, place]
  have steps : s.next = (.eof (byteLength s.source),
      ⟨s.source, ⟨[]⟩, .empty (byteLength s.source)⟩) := by
    simp [next, ahead, Cursor.next, Cursor.peek, offset, byteLength, none, Token.eof, Span.empty]
  rw [streams, steps]
  refine ⟨rfl, ?_, rfl, ?_, rfl⟩
  · rw [List.append_nil]
    exact follows.whole
  · rw [← place, follows.place, Text.byteLength_append]

theorem next_token {first : Char} {cs : Text} (follows : s.Follows u front)
    (begins : u.rest.dropWhile isBlank = first :: cs) :
    s.next.1 = u.next.1 ∧ s.next.2.Follows u.next.2
      (front ++ u.rest.takeWhile isBlank ++ (lexeme first cs).2) := by
  have place : u.offset + byteLength (u.rest.takeWhile isBlank) =
      byteLength (front ++ u.rest.takeWhile isBlank) := by
    rw [follows.place, Text.byteLength_append]
  have whole : s.source = front ++ u.rest.takeWhile isBlank ++ (first :: cs) := by
    rw [follows.whole, List.append_assoc, ← begins, List.takeWhile_append_dropWhile]
  have ahead : s.cursor.eat isBlank = ⟨first :: cs⟩ := by
    rw [← begins, ← follows.ahead, ← eat_rest]
  have parts := lexeme_behind first cs
  have kind := kindOf_lexeme first cs
  have drop : ((lexeme first cs).2 ++ (behind first ⟨cs⟩).rest).drop (lexeme first cs).2.length =
      (behind first ⟨cs⟩).rest := List.drop_left
  rw [parts] at drop
  -- from here on only what stands in front of the token matters, and the token
  generalize front ++ u.rest.takeWhile isBlank = before at *
  generalize word : (lexeme first cs).2 = w at *
  have start : s.offset ⟨first :: cs⟩ = byteLength before := offset_eq whole
  have stop : s.offset (behind first ⟨cs⟩) = byteLength before + byteLength w := by
    rw [← Text.byteLength_append]
    apply offset_eq
    rw [whole, List.append_assoc, parts]
  have text : Text.slice? s.source (byteLength before) (byteLength before + byteLength w) =
      some w := by
    rw [whole, ← parts, Text.slice?_append]
  let span : Span := ⟨byteLength before, byteLength before + byteLength w⟩
  have streams : u.next = (⟨(lexeme first cs).1, w, span⟩,
      ⟨(behind first ⟨cs⟩).rest, span.stop, span⟩) := by
    simp [TokenStream.next, begins, place, word, drop, span]
  have steps : s.next = (⟨(lexeme first cs).1, w, span⟩,
      ⟨s.source, behind first ⟨cs⟩, span⟩) := by
    simp [next, ahead, Cursor.next, Cursor.peek, start, stop, text, kind, span]
  rw [streams, steps]
  refine ⟨rfl, ?_, rfl, ?_, rfl⟩
  · rw [whole, List.append_assoc, parts]
  · rw [Text.byteLength_append]

theorem next (follows : s.Follows u front) :
    s.next.1 = u.next.1 ∧ ∃ front', s.next.2.Follows u.next.2 front' := by
  cases ahead : u.rest.dropWhile isBlank with
  | nil =>
    obtain ⟨token, later⟩ := follows.next_ended ahead
    exact ⟨token, _, later⟩
  | cons first cs =>
    obtain ⟨token, later⟩ := follows.next_token ahead
    exact ⟨token, _, later⟩

end Follows

/-- Steps on the cursor give the tokens of the stream, however many are taken. -/
theorem take_tokens {s : Scanner} {u : TokenStream} {front : Text} (follows : s.Follows u front)
    (n : Nat) : (s.take n).1 = (u.take n).1 ∧ (s.take n).2.previous = (u.take n).2.previous := by
  induction n generalizing s u front with
  | zero => exact ⟨rfl, follows.previous⟩
  | succ n ih =>
    obtain ⟨token, front', later⟩ := follows.next
    obtain ⟨tokens, previous⟩ := ih later
    constructor
    · rw [take, TokenStream.take, token, tokens]
    · exact previous

theorem take_ofText (text : Text) (n : Nat) :
    ((ofText text).take n).1 = ((TokenStream.ofText text).take n).1 :=
  (take_tokens (.ofText text) n).1

end Scanner
end Minilang
