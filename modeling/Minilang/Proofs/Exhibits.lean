import Mathlib.Data.List.Forall2
import Minilang.Proofs.Drawing

/-!
The rows of a whole drawing. Source by source, every snippet that can be drawn is underlined once,
below the row of its line, and no line of a source is shown twice.
-/
namespace Minilang

namespace Row

def number? : Row → Option Nat
  | .location _ => none
  | .sourceLine number _ => some number
  | .underline _ _ _ => none

def marked? : Row → Option Snippet
  | .location _ => none
  | .sourceLine _ _ => none
  | .underline _ _ s => some s

end Row

@[simp] theorem Snippet.underline_number? (s : Snippet) (lineStart : Nat) (line : Text) :
    (s.underline lineStart line).number? = none := rfl

@[simp] theorem Snippet.underline_marked? (s : Snippet) (lineStart : Nat) (line : Text) :
    (s.underline lineStart line).marked? = some s := rfl

def Snippet.isDrawable (sources : Sources) (s : Snippet) : Bool :=
  sources[s.source]?.any fun source => s.span.start ≤ Text.byteLength source.text

namespace Source
variable {source : Source} {s t : Snippet} {p q : Placed}

/-- Each underline has the row of the line its snippet begins on above it, other underlines apart.
The number is that of the last line above the rows. -/
def Beneath (source : Source) : Option Nat → List Row → Prop
  | _, [] => True
  | _, .location _ :: rows => source.Beneath none rows
  | _, .sourceLine number _ :: rows => source.Beneath (some number) rows
  | above, .underline _ _ s :: rows =>
    (∃ line, above = some (line + 1) ∧ source.Holds line s.span.start) ∧ source.Beneath above rows

def Headed (source : Source) (rows : List Row) : Prop :=
  ∃ place first rest, rows = .location place :: rest ∧ (∀ other, .location other ∉ rest) ∧
    (rest.filterMap Row.marked?).head? = some first ∧
    source.lineColumn? first.span.start = some place

theorem place?_of_inside (inside : s.span.start ≤ Text.byteLength source.text) :
    ∃ p, source.place? s = some p := by
  have index : source.lineIndex? s.span.start =
      some (source.lineBreaks.takeWhile (· < s.span.start)).length := if_pos inside
  obtain ⟨start, begins, -, -⟩ := lineIndex?_holds index
  obtain ⟨lineColumn, column⟩ : ∃ lineColumn, source.lineColumn? s.span.start = some lineColumn := by
    rw [lineColumn?, index]
    simp [begins]
  exact ⟨_, place?_eq_some_iff.mpr ⟨_, _, index, column, rfl⟩⟩

theorem place?_eq_none (outside : ¬ s.span.start ≤ Text.byteLength source.text) :
    source.place? s = none := by
  have index : source.lineIndex? s.span.start = none := if_neg outside
  rw [place?, index]

theorem place?_parts (placed : source.place? s = some p) :
    source.lineIndex? s.span.start = some p.line ∧
      source.lineColumn? s.span.start = some p.lineColumn := by
  obtain ⟨line, lineColumn, index, column, rfl⟩ := place?_eq_some_iff.mp placed
  exact ⟨index, column⟩

theorem before_of_same_start (first : source.place? p.snippet = some p)
    (second : source.place? q.snippet = some q)
    (same : p.snippet.span.start = q.snippet.span.start) : p.before q = true := by
  have lines : p.line = q.line := by
    have index := (place?_parts first).1
    rw [same, (place?_parts second).1] at index
    exact (Option.some.inj index).symm
  rw [Placed.before_iff]
  omega

variable {above : Option Nat} {rows more : List Row}

theorem Beneath.append (first : source.Beneath above rows)
    (second : ∀ above, source.Beneath above more) : source.Beneath above (rows ++ more) := by
  induction rows generalizing above with
  | nil => exact second above
  | cons row rows ih =>
    cases row with
    | location place => exact ih first
    | sourceLine number text => exact ih first
    | underline offset width s => exact ⟨first.1, ih first.2⟩

end Source

namespace Group
variable {lineCount start count : Nat} {g : Group} {source : Source} {ps : List Placed}

end Group

namespace Exhibit

def rows (contextSize : Nat) (e : Exhibit) : List Row :=
  (e.groups contextSize).flatMap (·.rows e.source)

def marked (contextSize : Nat) (e : Exhibit) : List Snippet :=
  (e.rows contextSize).filterMap Row.marked?

/-- The rows of a source show the given snippets, each once, in the order of their starts and, from
the same start, in the given order. -/
structure Shows (contextSize : Nat) (e : Exhibit) (snippets : List Snippet) : Prop where
  numbers : ((e.rows contextSize).filterMap Row.number?).Pairwise (· < ·)
  once : (e.marked contextSize).Perm snippets
  sorted : (e.marked contextSize).Pairwise (·.span.start ≤ ·.span.start)
  stable : ∀ start, (e.marked contextSize).filter (·.span.start == start) =
    snippets.filter (·.span.start == start)
  texts : ∀ number text, .sourceLine number text ∈ e.rows contextSize →
    ∃ line, number = line + 1 ∧ e.source.line? line = some text
  beneath : e.source.Beneath none (e.rows contextSize)
  headed : ∀ g ∈ e.groups contextSize, e.source.Headed (g.rows e.source)

variable {contextSize : Nat} {e : Exhibit}

end Exhibit

namespace Diagnostic
variable {d : Diagnostic} {sources : Sources} {id : Nat} {p : Placed}

def drawable (d : Diagnostic) (sources : Sources) : List Snippet :=
  d.snippets.filter (·.isDrawable sources)

def drawableIds (d : Diagnostic) (sources : Sources) : List Nat :=
  ((d.drawable sources).map (·.source)).eraseDups

theorem placed_snippets (d : Diagnostic) (sources : Sources) :
    (d.placed sources).map (·.snippet) = d.drawable sources := by
  rw [placed, List.map_filterMap, drawable, ← List.filterMap_eq_filter]
  apply List.filterMap_congr
  intro s _
  cases known : sources[s.source]? with
  | none => simp [Option.guard, Snippet.isDrawable, known]
  | some source =>
    by_cases inside : s.span.start ≤ Text.byteLength source.text
    · obtain ⟨p, place⟩ := Source.place?_of_inside inside
      have own := Source.place?_snippet place
      simp [Option.guard, Snippet.isDrawable, known, inside, place, own]
    · have place := Source.place?_eq_none inside
      simp [Option.guard, Snippet.isDrawable, known, inside, place]

end Diagnostic
end Minilang
