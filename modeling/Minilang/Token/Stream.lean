import Minilang.Token

/-!
Splitting a text into tokens. Scanning never fails: a character that begins no token is one of
kind `illegal`, and from the end of the text on every token is `eof`.
-/
namespace Minilang

def isBlank (c : Char) : Bool := c == ' ' || c == '\t' || c == '\n' || c == '\r'

def isDigit (c : Char) : Bool := '0' ≤ c && c ≤ '9'

def isLetter (c : Char) : Bool := ('a' ≤ c && c ≤ 'z') || ('A' ≤ c && c ≤ 'Z') || c == '_'

def Kind.ofPunctuation? : Char → Option Kind
  | '+' => some .plus
  | '-' => some .minus
  | '*' => some .star
  | '/' => some .slash
  | '=' => some .assign
  | ',' => some .comma
  | ';' => some .semicolon
  | '(' => some .leftParen
  | ')' => some .rightParen
  | '{' => some .leftBrace
  | '}' => some .rightBrace
  | _ => none

/-- The kind and text of the token that begins with `c`, with `cs` after it. -/
def lexeme (c : Char) (cs : Text) : Kind × Text :=
  match Kind.ofPunctuation? c with
  | some kind => (kind, [c])
  | none =>
    if isDigit c then (.int, c :: cs.takeWhile isDigit)
    else if isLetter c then (.ofWord (c :: cs.takeWhile isLetter), c :: cs.takeWhile isLetter)
    else (.illegal, [c])

/-- Where scanning stands: the text to come, its offset, and the span of the last token. -/
structure TokenStream where
  rest : Text
  offset : Nat
  previous : Span
deriving DecidableEq, Repr

namespace TokenStream

def ofText (text : Text) : TokenStream := ⟨text, 0, .empty 0⟩

def eofSpan (s : TokenStream) : Span := .empty (s.offset + Text.byteLength s.rest)

def next (s : TokenStream) : Token × TokenStream :=
  let start := s.offset + Text.byteLength (s.rest.takeWhile isBlank)
  match s.rest.dropWhile isBlank with
  | [] => (.eof start, ⟨[], start, .empty start⟩)
  | c :: cs =>
    let found := lexeme c cs
    let span : Span := ⟨start, start + Text.byteLength found.2⟩
    (⟨found.1, found.2, span⟩, ⟨(c :: cs).drop found.2.length, span.stop, span⟩)

/-- The next `n` tokens, the end of the text included as often as it comes up. -/
def take : Nat → TokenStream → List Token × TokenStream
  | 0, s => ([], s)
  | n + 1, s =>
    let later := take n s.next.2
    (s.next.1 :: later.1, later.2)

theorem lexeme_text_ne_nil (c : Char) (cs : Text) : (lexeme c cs).2 ≠ [] := by
  unfold lexeme
  split
  · simp
  · split
    · simp
    · split <;> simp

theorem next_rest_length (s : TokenStream) (more : s.rest.dropWhile isBlank ≠ []) :
    s.next.2.rest.length < s.rest.length := by
  have shorter := (List.dropWhile_suffix isBlank (l := s.rest)).length_le
  unfold next
  split
  · contradiction
  · rename_i c cs same
    have some_text := List.length_pos_iff.mpr (lexeme_text_ne_nil c cs)
    rw [same] at shorter
    simp only [List.length_drop, List.length_cons] at shorter ⊢
    omega

def tokens (s : TokenStream) : List Token :=
  if s.rest.dropWhile isBlank = [] then [] else s.next.1 :: tokens s.next.2
termination_by s.rest.length
decreasing_by exact next_rest_length s (by assumption)

end TokenStream

def tokens (text : Text) : List Token := (TokenStream.ofText text).tokens

end Minilang
