import Mathlib.Data.List.ReduceOption
import Mathlib.Data.Nat.PSub
import Minilang.Proofs.Exhibits
import Minilang.Proofs.Offsets

/-!
Drawing with every step that can fail. A difference fails below zero, a sum of line numbers fails
beyond a machine word, a clamp fails between bounds that are out of order, a logarithm fails at zero,
and the first snippet of a group and each line of its window have to be there. Whatever the spans of
a diagnostic, nothing fails and the drawing is the same. Offsets and columns are those of texts in
memory, and so are taken to be words.
-/
namespace Minilang

theorem mapM_of_each {α β : Type} {f : α → Option β} {g : α → β} {as : List α}
    (each : ∀ a ∈ as, f a = some (g a)) : as.mapM f = some (as.map g) := by
  induction as with
  | nil => rfl
  | cons a as ih =>
    obtain ⟨own, others⟩ := List.forall_mem_cons.mp each
    rw [List.mapM_cons, own, ih others]
    rfl

namespace Checked

def add? (m n : Nat) : Option Nat := if m + n < 2 ^ 64 then some (m + n) else none

def clamp? (lower upper n : Nat) : Option Nat :=
  if lower ≤ upper then some (max lower (min n upper)) else none

def log? (n : Nat) : Option Nat := if 0 < n then some (Text.decimalLog n) else none

theorem add?_eq {m n : Nat} (fits : m + n < 2 ^ 64) : add? m n = some (m + n) := if_pos fits

theorem clamp?_eq {lower upper : Nat} (n : Nat) (ordered : lower ≤ upper) :
    clamp? lower upper n = some (max lower (min n upper)) := if_pos ordered

theorem log?_eq {n : Nat} (positive : 0 < n) : log? n = some (Text.decimalLog n) := if_pos positive

end Checked

open Checked (add? clamp? log?)

namespace Source
variable {source : Source}

def checkedLineCount (source : Source) : Option Nat := add? 1 source.lineBreaks.length

/-- The place of a snippet. It is no failure that a span begins outside of the source. -/
def checkedPlace (source : Source) (s : Snippet) : Option (Option Placed) :=
  match source.lineIndex? s.span.start with
  | none => some none
  | some line =>
    match source.lineStart? line with
    | none => some none
    | some start => do
      let number ← add? line 1
      let column ← s.span.start.psub start
      some (some ⟨s, line, (number, column + 1)⟩)

theorem checkedLineCount_eq (fits : source.lineCount < 2 ^ 64) :
    source.checkedLineCount = some source.lineCount := Checked.add?_eq fits

theorem checkedPlace_eq (fits : source.lineCount < 2 ^ 64) (s : Snippet) :
    source.checkedPlace s = some (source.place? s) := by
  rw [checkedPlace, place?, lineColumn?]
  cases index : source.lineIndex? s.span.start with
  | none => rfl
  | some line =>
    have inside := lineIndex?_lt index
    obtain ⟨start, begins, behind, -⟩ := lineIndex?_holds index
    have number : add? line 1 = some (line + 1) := Checked.add?_eq (by omega)
    simp only [begins, number, Nat.psub_eq_sub behind]
    rfl

end Source

namespace Placed

def checkedWindow (contextSize lineCount : Nat) (s : Placed) : Option Span := do
  let last ← add? s.line contextSize
  let stop ← add? last 1
  some ⟨s.line - contextSize, min stop lineCount⟩

theorem checkedWindow_eq {contextSize lineCount : Nat} {s : Placed} (inside : s.line < lineCount)
    (fits : contextSize + lineCount < 2 ^ 64) :
    s.checkedWindow contextSize lineCount = some (contextWindow contextSize lineCount s.line) := by
  have last : add? s.line contextSize = some (s.line + contextSize) := Checked.add?_eq (by omega)
  have stop : add? (s.line + contextSize) 1 = some (s.line + contextSize + 1) :=
    Checked.add?_eq (by omega)
  rw [checkedWindow, last, Option.bind_eq_bind, Option.bind_some, stop, contextWindow_eq fits inside]
  rfl

end Placed

def Snippet.checkedUnderline (s : Snippet) (lineStart : Nat) (line : Text) : Option Row := do
  let behind ← s.span.start.psub lineStart
  let start := min behind (Text.byteLength line)
  let stop ← clamp? start (Text.byteLength line) (s.span.stop - lineStart)
  let skipped := (Text.slice? line 0 start).getD []
  let marked := (Text.slice? line start stop).getD []
  some (.underline (Text.columns skipped) (max 1 (Text.columns marked)) s)

theorem Snippet.checkedUnderline_eq {s : Snippet} {lineStart : Nat}
    (behind : lineStart ≤ s.span.start) (line : Text) :
    s.checkedUnderline lineStart line = some (s.underline lineStart line) := by
  have inside : s.startIn lineStart line ≤ Text.byteLength line := Nat.min_le_right _ _
  have stop : clamp? (s.startIn lineStart line) (Text.byteLength line) (s.span.stop - lineStart) =
      some (s.stopIn lineStart line) := Checked.clamp?_eq _ inside
  rw [startIn] at stop
  simp only [checkedUnderline, Nat.psub_eq_sub behind, Option.bind_eq_bind, Option.bind_some, stop]
  rfl

namespace Group
variable {contextSize lineCount : Nat} {source : Source} {g : Group}

def checkedGather (contextSize lineCount : Nat) (g : Group) : List Placed → Option (List Group)
  | [] => some [g]
  | s :: more => do
    let window ← s.checkedWindow contextSize lineCount
    if window.start ≤ g.lines.stop then
      checkedGather contextSize lineCount
        ⟨g.snippets ++ [s], ⟨g.lines.start, max g.lines.stop window.stop⟩⟩ more
    else
      let others ← checkedGather contextSize lineCount ⟨[s], window⟩ more
      some (g :: others)

def checkedOfSorted (contextSize lineCount : Nat) : List Placed → Option (List Group)
  | [] => some []
  | s :: more => do
    let window ← s.checkedWindow contextSize lineCount
    checkedGather contextSize lineCount ⟨[s], window⟩ more

def checkedNumberWidth (g : Group) : Option Nat := (log? (max g.lines.stop 1)).map (1 + ·)

def checkedLineRows (g : Group) (source : Source) (line : Nat) : Option (List Row) := do
  let text ← source.line? line
  let number ← add? line 1
  let start ← source.lineStart? line
  let underlines ← (g.snippets.filter (·.line == line)).mapM
    (·.snippet.checkedUnderline start text)
  some (.sourceLine number text :: underlines)

def checkedRows (g : Group) (source : Source) : Option (List Row) := do
  let first ← g.snippets.head?
  let lines ← (List.range' g.lines.start (g.lines.stop - g.lines.start)).mapM
    (g.checkedLineRows source)
  some (.location first.lineColumn :: lines.flatten)

theorem checkedGather_eq {more : List Placed} (inside : ∀ p ∈ more, p.line < lineCount)
    (fits : contextSize + lineCount < 2 ^ 64) :
    checkedGather contextSize lineCount g more = some (gather contextSize lineCount g more) := by
  induction more generalizing g with
  | nil => rfl
  | cons s more ih =>
    obtain ⟨own, others⟩ := List.forall_mem_cons.mp inside
    rw [checkedGather, Placed.checkedWindow_eq own fits, Option.bind_eq_bind, Option.bind_some,
      gather]
    split
    · exact ih others
    · rw [ih others]
      rfl

theorem checkedOfSorted_eq {snippets : List Placed} (inside : ∀ p ∈ snippets, p.line < lineCount)
    (fits : contextSize + lineCount < 2 ^ 64) :
    checkedOfSorted contextSize lineCount snippets =
      some (ofSorted contextSize lineCount snippets) := by
  cases snippets with
  | nil => rfl
  | cons s more =>
    obtain ⟨own, others⟩ := List.forall_mem_cons.mp inside
    rw [checkedOfSorted, Placed.checkedWindow_eq own fits]
    exact checkedGather_eq others fits

theorem checkedNumberWidth_eq (g : Group) : g.checkedNumberWidth = some g.numberWidth := by
  rw [checkedNumberWidth, Checked.log?_eq (by omega)]
  rfl

/-- The group has snippets, and each line of its window is in the source and begins no later than
the snippets on it. -/
structure Sound (source : Source) (g : Group) : Prop where
  nonempty : g.snippets ≠ []
  lines : ∀ n, g.lines.start ≤ n → n < g.lines.stop → n < source.lineCount ∧
    ∃ text start, source.line? n = some text ∧ source.lineStart? n = some start ∧
      ∀ p ∈ g.snippets, p.line = n → start ≤ p.snippet.span.start

theorem sound_of_framed (framed : g.Framed source.lineCount)
    (placed : ∀ p ∈ g.snippets, source.place? p.snippet = some p) : g.Sound source where
  nonempty := framed.some
  lines := by
    intro n _ upper
    have inside : n < source.lineCount := Nat.lt_of_lt_of_le upper framed.inside
    obtain ⟨text, shown⟩ := Option.isSome_iff_exists.mp ((Source.line?_isSome_iff n).mpr inside)
    obtain ⟨start, begins⟩ :=
      Option.isSome_iff_exists.mp ((Source.lineStart?_isSome_iff n).mpr inside)
    refine ⟨inside, text, start, shown, begins, ?_⟩
    rintro p member rfl
    -- the line was found for the start of the span, so it begins no later
    have index := (Source.place?_parts (placed p member)).1
    obtain ⟨start', begins', behind, -⟩ := Source.lineIndex?_holds index
    rw [begins] at begins'
    rw [Option.some.inj begins']
    exact behind

theorem Sound.checkedLineRows_eq (sound : g.Sound source) (fits : source.lineCount < 2 ^ 64)
    {n : Nat} (lower : g.lines.start ≤ n) (upper : n < g.lines.stop) :
    g.checkedLineRows source n = some (g.lineRows source n) := by
  obtain ⟨inside, text, start, shown, begins, behind⟩ := sound.lines n lower upper
  have number : add? n 1 = some (n + 1) := Checked.add?_eq (by omega)
  have underlines : (g.snippets.filter (·.line == n)).mapM (·.snippet.checkedUnderline start text) =
      some ((g.snippets.filter (·.line == n)).map (·.snippet.underline start text)) := by
    apply mapM_of_each
    intro p member
    obtain ⟨among, here⟩ := List.mem_filter.mp member
    exact Snippet.checkedUnderline_eq (behind p among (beq_iff_eq.mp here)) text
  simp only [checkedLineRows, lineRows, shown, number, begins, underlines, Option.bind_eq_bind,
    Option.bind_some, Option.getD_some]

theorem Sound.checkedRows_eq (sound : g.Sound source) (fits : source.lineCount < 2 ^ 64) :
    g.checkedRows source = some (g.rows source) := by
  obtain ⟨first, others, snippets⟩ := List.exists_cons_of_ne_nil sound.nonempty
  have lines : (List.range' g.lines.start (g.lines.stop - g.lines.start)).mapM
      (g.checkedLineRows source) = some
        ((List.range' g.lines.start (g.lines.stop - g.lines.start)).map (g.lineRows source)) := by
    apply mapM_of_each
    intro n member
    rw [List.mem_range'_1] at member
    exact sound.checkedLineRows_eq fits member.1 (by omega)
  have head : g.snippets.head? = some first := by rw [snippets, List.head?_cons]
  simp only [checkedRows, rows, lines, head]
  rfl

end Group

def Snippet.checkedPlace (sources : Sources) (s : Snippet) : Option (Option Placed) :=
  match sources[s.source]? with
  | none => some none
  | some source => source.checkedPlace s

theorem Snippet.checkedPlace_eq {sources : Sources}
    (fits : ∀ source ∈ sources, source.lineCount < 2 ^ 64) (s : Snippet) :
    s.checkedPlace sources = some (sources[s.source]?.bind (·.place? s)) := by
  rw [Snippet.checkedPlace]
  cases known : sources[s.source]? with
  | none => rfl
  | some source => exact Source.checkedPlace_eq (fits source (List.mem_of_getElem? known)) s

namespace Diagnostic
variable {d : Diagnostic} {sources : Sources} {config : Config} {e : Exhibit}

def checkedPlaced (d : Diagnostic) (sources : Sources) : Option (List Placed) := do
  let places ← d.snippets.mapM (·.checkedPlace sources)
  some places.reduceOption

def checkedExhibits (d : Diagnostic) (sources : Sources) : Option (List Exhibit) := do
  let placed ← d.checkedPlaced sources
  some ((placed.map (·.snippet.source)).eraseDups.filterMap fun id =>
    sources[id]?.map fun source => ⟨source, placed.filter (·.snippet.source == id)⟩)

def checkedGroupPieces (d : Diagnostic) (config : Config) (source : Source) (g : Group) :
    Option (List Piece) := do
  let numberWidth ← g.checkedNumberWidth
  let rows ← g.checkedRows source
  some (rows.flatMap (Row.pieces config d.severity source numberWidth))

def checkedExhibitPieces (d : Diagnostic) (config : Config) (e : Exhibit) :
    Option (List Piece) := do
  let lineCount ← e.source.checkedLineCount
  let groups ← Group.checkedOfSorted config.contextSize lineCount
    (e.snippets.mergeSort Placed.before)
  let drawn ← groups.mapM (d.checkedGroupPieces config e.source)
  some drawn.flatten

def checkedPieces (d : Diagnostic) (sources : Sources) (config : Config) :
    Option (List Piece) := do
  let exhibits ← d.checkedExhibits sources
  let drawn ← exhibits.mapM (d.checkedExhibitPieces config)
  some (d.headerPieces config ++ drawn.flatten ++ [newline])

theorem checkedPlaced_eq (fits : ∀ source ∈ sources, source.lineCount < 2 ^ 64) :
    d.checkedPlaced sources = some (d.placed sources) := by
  rw [checkedPlaced, mapM_of_each fun s _ => s.checkedPlace_eq fits, placed, Option.bind_eq_bind,
    Option.bind_some, List.reduceOption, List.filterMap_map]
  rfl

theorem checkedExhibits_eq (fits : ∀ source ∈ sources, source.lineCount < 2 ^ 64) :
    d.checkedExhibits sources = some (d.exhibits sources) := by
  rw [checkedExhibits, checkedPlaced_eq fits]
  rfl

theorem groups_sound {contextSize : Nat} (fits : contextSize + e.source.lineCount < 2 ^ 64)
    (member : e ∈ d.exhibits sources) : ∀ g ∈ e.groups contextSize, g.Sound e.source := by
  have places := exhibit_places member
  have inside : ∀ p ∈ e.snippets, p.line < e.source.lineCount :=
    fun p among => Source.place?_line_lt (places p among)
  intro g grouped
  have framed := Group.ofSnippets_framed fits inside g grouped
  exact Group.sound_of_framed framed fun p among => places p (Group.mem_ofSnippets grouped among)

theorem checkedGroupPieces_eq {g : Group} (sound : g.Sound e.source)
    (fits : e.source.lineCount < 2 ^ 64) :
    d.checkedGroupPieces config e.source g = some (d.groupPieces config e.source g) := by
  rw [checkedGroupPieces, g.checkedNumberWidth_eq, sound.checkedRows_eq fits]
  rfl

theorem checkedExhibitPieces_eq (member : e ∈ d.exhibits sources)
    (fits : config.contextSize + e.source.lineCount < 2 ^ 64) :
    d.checkedExhibitPieces config e =
      some ((e.groups config.contextSize).flatMap (d.groupPieces config e.source)) := by
  have few : e.source.lineCount < 2 ^ 64 := by omega
  have inside : ∀ p ∈ e.snippets.mergeSort Placed.before, p.line < e.source.lineCount :=
    fun p among => Source.place?_line_lt (exhibit_places member p (List.mem_mergeSort.mp among))
  have drawn : ((e.groups config.contextSize).mapM (d.checkedGroupPieces config e.source)) =
      some ((e.groups config.contextSize).map (d.groupPieces config e.source)) :=
    mapM_of_each fun g grouped => checkedGroupPieces_eq (groups_sound fits member g grouped) few
  rw [Exhibit.groups, Group.ofSnippets] at drawn ⊢
  rw [checkedExhibitPieces, Source.checkedLineCount_eq few, Option.bind_eq_bind, Option.bind_some,
    Group.checkedOfSorted_eq inside fits, Option.bind_eq_bind, Option.bind_some, drawn,
    List.flatMap_def]
  rfl

structure NeverFails (d : Diagnostic) (sources : Sources) (config : Config) : Prop where
  sound : ∀ e ∈ d.exhibits sources, ∀ g ∈ e.groups config.contextSize, g.Sound e.source
  drawn : d.checkedPieces sources config = some (d.pieces sources config)

theorem drawing_never_fails (d : Diagnostic) (sources : Sources) (config : Config)
    (fits : ∀ source ∈ sources, config.contextSize + source.lineCount < 2 ^ 64) :
    d.NeverFails sources config where
  sound := fun _ member => groups_sound (fits _ (exhibit_source member)) member
  drawn := by
    have few : ∀ source ∈ sources, source.lineCount < 2 ^ 64 := by
      intro source known
      have := fits source known
      omega
    have drawn : (d.exhibits sources).mapM (d.checkedExhibitPieces config) =
        some ((d.exhibits sources).map fun e =>
          (e.groups config.contextSize).flatMap (d.groupPieces config e.source)) :=
      mapM_of_each fun e member => checkedExhibitPieces_eq member (fits _ (exhibit_source member))
    rw [checkedPieces, checkedExhibits_eq few, Option.bind_eq_bind, Option.bind_some, drawn, pieces,
      List.flatMap_def]
    rfl

/-- Spans that are inverted, begin inside a character or on a line ending, or lie behind the end,
and one in a source that is not there. -/
def brokenSpans : Diagnostic where
  severity := .error
  message := none
  id := none
  snippets := [⟨[], .primary, 0, ⟨5, 2⟩⟩, ⟨[], .secondary, 0, ⟨1, 1⟩⟩, ⟨[], .primary, 0, ⟨3, 100⟩⟩,
    ⟨[], .primary, 0, ⟨100, 7⟩⟩, ⟨[], .primary, 7, ⟨0, 1⟩⟩]

theorem brokenSpans_never_fail :
    (∀ source ∈ [Source.mk [] none "é\r\n\tx\n".toList],
      ({ } : Config).contextSize + source.lineCount < 2 ^ 64) ∧
    brokenSpans.NeverFails [⟨[], none, "é\r\n\tx\n".toList⟩] { } :=
  ⟨by decide, drawing_never_fails _ _ _ (by decide)⟩

end Diagnostic
end Minilang
