import Minilang.Text.Basic

/-!
Sources: a text under a name, perhaps with the path it was read from. Lines end at line feeds, a
carriage return before one belongs to the ending, and the line feed itself is the last byte of the
line it ends.
-/
namespace Minilang

structure Source where
  name : Text
  path : Option Text
  text : Text
deriving DecidableEq, Repr

/-- The sources of a session. The index of a source is its identity. -/
abbrev Sources := List Source

namespace Text

/-- The offsets of the line feeds in a text that begins at the given offset. -/
def lineBreaksFrom (offset : Nat) : Text → List Nat
  | [] => []
  | c :: cs =>
    let more := lineBreaksFrom (offset + c.utf8Size) cs
    if c = '\n' then offset :: more else more

def dropLast? (c : Char) (t : Text) : Text := if t.getLast? = some c then t.dropLast else t

end Text

namespace Source

def lineBreaks (s : Source) : List Nat := Text.lineBreaksFrom 0 s.text

def lineCount (s : Source) : Nat := 1 + s.lineBreaks.length

/-- The line of a byte, counted from zero. The end of the text is on its last line. -/
def lineIndex? (s : Source) (byte : Nat) : Option Nat :=
  if byte ≤ Text.byteLength s.text then some (s.lineBreaks.takeWhile (· < byte)).length else none

def lineStart? (s : Source) : Nat → Option Nat
  | 0 => some 0
  | line + 1 => s.lineBreaks[line]?.map (· + 1)

/-- The line and the column of a byte, counted from one; columns count bytes. -/
def lineColumn? (s : Source) (byte : Nat) : Option (Nat × Nat) :=
  match s.lineIndex? byte with
  | none => none
  | some line => (s.lineStart? line).map fun start => (line + 1, byte - start + 1)

def fullLine? (s : Source) (line : Nat) : Option Text :=
  match s.lineStart? line with
  | none => none
  | some start =>
    Text.slice? s.text start ((s.lineStart? (line + 1)).getD (Text.byteLength s.text))

/-- The text of a line. The carriage return at the end of a text counts as an ending too. -/
def line? (s : Source) (line : Nat) : Option Text :=
  (s.fullLine? line).map fun full => Text.dropLast? '\r' (Text.dropLast? '\n' full)

end Source
end Minilang
