import Minilang.Diagnostic.Group
import Minilang.Text.Width

namespace Minilang

inductive Row
  | location (lineColumn : Nat × Nat)
  | sourceLine (number : Nat) (text : Text)
  /-- The offset is that of the underline, in columns. -/
  | underline (offset width : Nat) (snippet : Snippet)
deriving DecidableEq, Repr

namespace Text

/-- The columns set aside for a text. A tab counts for its own width and four more. -/
def columns (t : Text) : Nat := displayWidth t + 4 * t.count '\t'

def expandTabs (t : Text) : Text :=
  t.flatMap fun c => if c = '\t' then List.replicate 4 ' ' else [c]

end Text

namespace Snippet

def startIn (s : Snippet) (lineStart : Nat) (line : Text) : Nat :=
  min (s.span.start - lineStart) (Text.byteLength line)

def stopIn (s : Snippet) (lineStart : Nat) (line : Text) : Nat :=
  max (s.startIn lineStart line) (min (s.span.stop - lineStart) (Text.byteLength line))

/-- At least one column is underlined. A part that cuts a character counts as empty. -/
def underline (s : Snippet) (lineStart : Nat) (line : Text) : Row :=
  let start := s.startIn lineStart line
  let skipped := (Text.slice? line 0 start).getD []
  let marked := (Text.slice? line start (s.stopIn lineStart line)).getD []
  .underline (Text.columns skipped) (max 1 (Text.columns marked)) s

end Snippet

namespace Group

def lineRows (g : Group) (source : Source) (line : Nat) : List Row :=
  let text := (source.line? line).getD []
  let start := (source.lineStart? line).getD 0
  .sourceLine (line + 1) text ::
    (g.snippets.filter (·.line == line)).map (·.snippet.underline start text)

def rows (g : Group) (source : Source) : List Row :=
  let place := (g.snippets.head?.map (·.lineColumn)).getD (1, 1)
  .location place ::
    (List.range' g.lines.start (g.lines.stop - g.lines.start)).flatMap (g.lineRows source)

end Group
end Minilang
