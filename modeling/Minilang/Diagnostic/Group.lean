import Minilang.Diagnostic
import Minilang.Source

/-!
Groups of snippets that are shown together. Each snippet has a window of lines around its own, and
snippets whose windows overlap or touch share a group.
-/
namespace Minilang

structure Placed where
  snippet : Snippet
  /-- Counted from zero. -/
  line : Nat
  /-- Line and column, counted from one. -/
  lineColumn : Nat × Nat
deriving DecidableEq, Repr

structure Exhibit where
  source : Source
  snippets : List Placed
deriving DecidableEq, Repr

def Source.place? (source : Source) (s : Snippet) : Option Placed :=
  match source.lineIndex? s.span.start, source.lineColumn? s.span.start with
  | some line, some lineColumn => some ⟨s, line, lineColumn⟩
  | _, _ => none

namespace Diagnostic

def placed (d : Diagnostic) (sources : Sources) : List Placed :=
  d.snippets.filterMap fun s => sources[s.source]?.bind (·.place? s)

/-- The sources drawn from, in the order in which their first snippets come up. -/
def sourceIds (d : Diagnostic) (sources : Sources) : List Nat :=
  ((d.placed sources).map (·.snippet.source)).eraseDups

def exhibits (d : Diagnostic) (sources : Sources) : List Exhibit :=
  (d.sourceIds sources).filterMap fun id =>
    sources[id]?.map fun source =>
      ⟨source, (d.placed sources).filter (·.snippet.source == id)⟩

end Diagnostic

structure Group where
  snippets : List Placed
  /-- The lines shown, counted from zero. -/
  lines : Span
deriving DecidableEq, Repr

def Placed.before (a b : Placed) : Bool :=
  a.line < b.line || a.line == b.line && a.snippet.span.start ≤ b.snippet.span.start

/-- The lines shown around a line. The end is a sum of machine words, which starts again at zero when
it is too great; the start is a difference that stops at zero. -/
def contextWindow (contextSize lineCount line : Nat) : Span :=
  ⟨line - contextSize, min ((line + contextSize + 1) % UInt64.size) lineCount⟩

namespace Group

def ofSnippet (contextSize lineCount : Nat) (s : Placed) : Group :=
  ⟨[s], contextWindow contextSize lineCount s.line⟩

def add (contextSize lineCount : Nat) (g : Group) (s : Placed) : Group :=
  ⟨g.snippets ++ [s],
    ⟨g.lines.start, max g.lines.stop (contextWindow contextSize lineCount s.line).stop⟩⟩

/-- The group grows while the next window reaches it; then the next group begins. -/
def gather (contextSize lineCount : Nat) (g : Group) : List Placed → List Group
  | [] => [g]
  | s :: more =>
    if (contextWindow contextSize lineCount s.line).start ≤ g.lines.stop then
      gather contextSize lineCount (g.add contextSize lineCount s) more
    else g :: gather contextSize lineCount (.ofSnippet contextSize lineCount s) more

def ofSorted (contextSize lineCount : Nat) : List Placed → List Group
  | [] => []
  | s :: more => gather contextSize lineCount (.ofSnippet contextSize lineCount s) more

def ofSnippets (contextSize lineCount : Nat) (snippets : List Placed) : List Group :=
  ofSorted contextSize lineCount (snippets.mergeSort Placed.before)

def numberWidth (g : Group) : Nat := 1 + Text.decimalLog (max g.lines.stop 1)

end Group

def Exhibit.groups (contextSize : Nat) (e : Exhibit) : List Group :=
  Group.ofSnippets contextSize e.source.lineCount e.snippets

end Minilang
