import Minilang.Proofs.Grouping
import Minilang.Proofs.Lines
import Minilang.Proofs.WrittenRows

namespace Minilang

theorem infix_flatMap {α β : Type} {a : α} {as : List α} (f : α → List β) (member : a ∈ as) :
    f a <:+: as.flatMap f := by
  rw [List.flatMap_def]
  exact List.infix_of_mem_flatten (List.mem_map_of_mem member)

namespace Snippet
open Text (byteLength)

variable {s : Snippet} {lineStart : Nat} {line left w rest : Text}

/-- The part of the line that is underlined, if the span does not cut a character. -/
def marked? (s : Snippet) (lineStart : Nat) (line : Text) : Option Text :=
  Text.slice? line (s.startIn lineStart line) (s.stopIn lineStart line)

/-- The underline stands below `w` in the line, behind `left`. -/
structure Marks (s : Snippet) (lineStart : Nat) (line left w : Text) : Prop where
  start : s.startIn lineStart line = byteLength left
  marked : s.marked? lineStart line = some w
  underline : s.underline lineStart line =
    .underline (Text.columns left) (max 1 (Text.columns w)) s

theorem marks_of_bounds (whole : line = left ++ (w ++ rest))
    (start : s.startIn lineStart line = byteLength left)
    (stop : s.stopIn lineStart line = byteLength left + byteLength w) :
    s.Marks lineStart line left w := by
  have skipped : Text.slice? line 0 (byteLength left) = some left := by
    simpa [byteLength, whole] using Text.slice?_append [] left (w ++ rest)
  have marked : Text.slice? line (byteLength left) (byteLength left + byteLength w) = some w := by
    rw [whole, Text.slice?_append]
  refine ⟨start, by rw [marked?, start, stop, marked], ?_⟩
  simp only [underline, start, stop, skipped, marked, Option.getD_some]

theorem marks_of_parts (start : s.span.start = lineStart + byteLength left)
    (stop : s.span.stop = lineStart + byteLength left + byteLength w) :
    s.Marks lineStart (left ++ (w ++ rest)) left w := by
  have startIn : s.startIn lineStart (left ++ (w ++ rest)) = byteLength left := by
    simp only [Snippet.startIn, start, Text.byteLength_append]
    omega
  refine marks_of_bounds rfl startIn ?_
  simp only [stopIn, startIn, stop, Text.byteLength_append]
  omega

end Snippet

namespace Group
variable {contextSize lineCount : Nat} {g : Group} {p : Placed}

structure Shows (g : Group) (p : Placed) : Prop where
  member : p ∈ g.snippets
  lower : g.lines.start ≤ p.line
  upper : p.line < g.lines.stop

theorem ofSnippets_shows {snippets : List Placed} (fits : contextSize + lineCount < 2 ^ 64)
    (inside : ∀ q ∈ snippets, q.line < lineCount) (member : p ∈ snippets) :
    ∃ g ∈ ofSnippets contextSize lineCount snippets, g.Shows p := by
  have among : p ∈ (ofSnippets contextSize lineCount snippets).flatMap (·.snippets) := by
    rw [ofSnippets_snippets]
    exact List.mem_mergeSort.mpr member
  obtain ⟨g, grouped, own⟩ := List.mem_flatMap.mp among
  have framed := ofSnippets_framed fits inside g grouped
  exact ⟨g, grouped, own, framed.lower p own, framed.upper p own⟩

theorem Shows.lineRows (shows : g.Shows p) (source : Source) :
    g.lineRows source p.line <:+: g.rows source := by
  have lower := shows.lower
  have upper := shows.upper
  have listed : p.line ∈ List.range' g.lines.start (g.lines.stop - g.lines.start) :=
    List.mem_range'_1.mpr (by omega)
  have among : g.lineRows source p.line <:+:
      (List.range' g.lines.start (g.lines.stop - g.lines.start)).flatMap (g.lineRows source) :=
    infix_flatMap _ listed
  exact among.trans (List.suffix_cons _ _).isInfix

theorem Shows.underlined (shows : g.Shows p) (source : Source) :
    let text := (source.line? p.line).getD []
    ∃ others behind, (∀ r ∈ others, ∃ offset width s, r = Row.underline offset width s) ∧
      g.lineRows source p.line = (.sourceLine (p.line + 1) text :: (others ++
        [p.snippet.underline ((source.lineStart? p.line).getD 0) text])) ++ behind := by
  intro text
  have member : p ∈ g.snippets.filter (·.line == p.line) :=
    List.mem_filter.mpr ⟨shows.member, by simp⟩
  obtain ⟨before, after, split⟩ := List.append_of_mem member
  let under (q : Placed) : Row := q.snippet.underline ((source.lineStart? p.line).getD 0) text
  refine ⟨before.map under, after.map under, fun r among => ?_, ?_⟩
  · obtain ⟨q, -, rfl⟩ := List.mem_map.mp among
    exact ⟨_, _, _, rfl⟩
  · simp [Group.lineRows, split, text, under]

end Group

namespace Source
variable {source : Source} {s : Snippet} {p : Placed}

theorem place?_eq_some_iff : source.place? s = some p ↔ ∃ line lineColumn,
    source.lineIndex? s.span.start = some line ∧
      source.lineColumn? s.span.start = some lineColumn ∧ p = ⟨s, line, lineColumn⟩ := by
  unfold place?
  split
  · rename_i line lineColumn index column
    simp [index, column, eq_comm]
  · rename_i unplaced
    constructor
    · intro impossible
      contradiction
    · rintro ⟨line, lineColumn, index, column, -⟩
      exact absurd column (unplaced line lineColumn index)

theorem place?_snippet (placed : source.place? s = some p) : p.snippet = s := by
  obtain ⟨line, lineColumn, -, -, rfl⟩ := place?_eq_some_iff.mp placed
  rfl

theorem place?_line_lt (placed : source.place? s = some p) : p.line < source.lineCount := by
  obtain ⟨line, lineColumn, index, -, rfl⟩ := place?_eq_some_iff.mp placed
  exact lineIndex?_lt index

theorem place?_of_line {front left right back : Text}
    (l : Text.Line source.text front (left ++ right) back)
    (start : s.span.start = Text.byteLength front + Text.byteLength left) :
    source.place? s = some ⟨s, front.count '\n',
      (front.count '\n' + 1, Text.byteLength left + 1)⟩ := by
  have index : source.lineIndex? s.span.start = some (front.count '\n') := by
    apply lineIndex?_of_line l <;> simp only [start, Text.byteLength_append] <;> omega
  have column : source.lineColumn? s.span.start =
      some (front.count '\n' + 1, Text.byteLength left + 1) := by
    rw [lineColumn?, index]
    simp [lineStart?_of_line l, start]
  exact place?_eq_some_iff.mpr ⟨_, _, index, column, rfl⟩

end Source

namespace Diagnostic
variable {d : Diagnostic} {sources : Sources} {source : Source} {s : Snippet} {p : Placed}

theorem mem_placed : p ∈ d.placed sources ↔
    ∃ s ∈ d.snippets, ∃ source, sources[s.source]? = some source ∧ source.place? s = some p := by
  simp [placed, List.mem_filterMap, Option.bind_eq_some_iff]

theorem place?_of_mem {id : Nat} (known : sources[id]? = some source)
    (member : p ∈ (d.placed sources).filter (·.snippet.source == id)) :
    source.place? p.snippet = some p := by
  obtain ⟨inPlace, same⟩ := List.mem_filter.mp member
  obtain ⟨s, -, other, known', place⟩ := mem_placed.mp inPlace
  have own := Source.place?_snippet place
  rw [own, beq_iff_eq] at same
  rw [same, known] at known'
  rw [own, Option.some.inj known', place]

theorem exhibit_source {e : Exhibit} (member : e ∈ d.exhibits sources) : e.source ∈ sources := by
  obtain ⟨id, -, found⟩ := List.mem_filterMap.mp member
  obtain ⟨source, known, rfl⟩ := Option.map_eq_some_iff.mp found
  exact List.mem_of_getElem? known

theorem exhibit_places {e : Exhibit} (member : e ∈ d.exhibits sources) :
    ∀ p ∈ e.snippets, e.source.place? p.snippet = some p := by
  obtain ⟨id, -, found⟩ := List.mem_filterMap.mp member
  obtain ⟨source, known, rfl⟩ := Option.map_eq_some_iff.mp found
  exact fun p among => place?_of_mem known among

theorem exhibits_show {config : Config} (fits : config.contextSize + source.lineCount < 2 ^ 64)
    (listed : s ∈ d.snippets) (known : sources[s.source]? = some source)
    (place : source.place? s = some p) :
    ∃ e ∈ d.exhibits sources, e.source = source ∧
      ∃ g ∈ e.groups config.contextSize, g.Shows p := by
  have placed : p ∈ d.placed sources := mem_placed.mpr ⟨s, listed, source, known, place⟩
  have own := Source.place?_snippet place
  let e : Exhibit := ⟨source, (d.placed sources).filter (·.snippet.source == s.source)⟩
  have exhibited : e ∈ d.exhibits sources := by
    refine List.mem_filterMap.mpr ⟨s.source, ?_, by simp [known, e]⟩
    exact List.mem_eraseDups.mpr (List.mem_map.mpr ⟨p, placed, by rw [own]⟩)
  have inside : ∀ q ∈ e.snippets, q.line < source.lineCount :=
    fun q member => Source.place?_line_lt (place?_of_mem known member)
  have member : p ∈ e.snippets := List.mem_filter.mpr ⟨placed, by simp [own]⟩
  exact ⟨e, exhibited, rfl, Group.ofSnippets_shows fits inside member⟩

theorem pieces_show {config : Config} (fits : config.contextSize + source.lineCount < 2 ^ 64)
    (listed : s ∈ d.snippets) (known : sources[s.source]? = some source)
    (place : source.place? s = some p) :
    ∃ e ∈ d.exhibits sources, e.source = source ∧
      ∃ g ∈ e.groups config.contextSize, g.Shows p ∧
        (g.lineRows source p.line).flatMap (Row.pieces config d.severity source g.numberWidth) <:+:
          d.pieces sources config := by
  obtain ⟨e, exhibited, rfl, g, grouped, shows⟩ := exhibits_show fits listed known place
  refine ⟨e, exhibited, rfl, g, grouped, shows, ?_⟩
  -- rows of the group, drawing of the group, drawing of the source, whole drawing
  obtain ⟨above, below, rows⟩ := shows.lineRows e.source
  have inGroup : (g.lineRows e.source p.line).flatMap
      (Row.pieces config d.severity e.source g.numberWidth) <:+: d.groupPieces config e.source g := by
    rw [groupPieces, ← rows]
    simp only [List.flatMap_append, List.infix_append]
  have inExhibit : d.groupPieces config e.source g <:+:
      (e.groups config.contextSize).flatMap (d.groupPieces config e.source) :=
    infix_flatMap _ grouped
  have inDrawing := infix_flatMap
    (fun e => (e.groups config.contextSize).flatMap (d.groupPieces config e.source)) exhibited
  exact (inGroup.trans (inExhibit.trans inDrawing)).trans (List.infix_append _ _ _)

end Diagnostic

namespace Source

end Source

namespace Group
variable {contextSize lineCount line start : Nat}

theorem sorted_one_place {snippets : List Placed}
    (same : ∀ p ∈ snippets, p.line = line ∧ p.snippet.span.start = start) :
    snippets.Pairwise (·.before · = true) := by
  apply List.pairwise_of_forall_mem_list
  intro p memberP q memberQ
  have placeP := same p memberP
  have placeQ := same q memberQ
  rw [Placed.before_iff]
  omega

end Group

namespace Diagnostic
variable {d : Diagnostic} {sources : Sources} {source : Source} {id : Nat}

/-- There are snippets, and all of them begin at one place of one source. -/
structure AtOnePlace (d : Diagnostic) (id start : Nat) : Prop where
  some : d.snippets ≠ []
  same : ∀ s ∈ d.snippets, s.source = id ∧ s.span.start = start

theorem placed_one_place {start line : Nat} {place : Nat × Nat} (one : d.AtOnePlace id start)
    (known : sources[id]? = some source)
    (placed : ∀ s : Snippet, s.span.start = start → source.place? s = some ⟨s, line, place⟩) :
    d.placed sources = d.snippets.map (⟨·, line, place⟩) := by
  refine List.filterMap_eq_map_iff_forall_eq_some.mpr fun s member => ?_
  obtain ⟨own, begins⟩ := one.same s member
  simp [own, known, placed s begins]

theorem exhibits_one_place {start line : Nat} {place : Nat × Nat} (one : d.AtOnePlace id start)
    (known : sources[id]? = some source)
    (placed : ∀ s : Snippet, s.span.start = start → source.place? s = some ⟨s, line, place⟩) :
    d.exhibits sources = [⟨source, d.snippets.map (⟨·, line, place⟩)⟩] := by
  have all := placed_one_place one known placed
  have own : ∀ s ∈ d.snippets, s.source = id := fun s member => (one.same s member).1
  have ids : d.sourceIds sources = [id] := by
    rw [sourceIds, all]
    cases given : d.snippets with
    | nil => exact absurd given one.some
    | cons s ss =>
      rw [given] at own
      obtain ⟨first, rest⟩ := List.forall_mem_cons.mp own
      have none : ss.filter (fun t => !t.source == id) = [] := by simpa using rest
      simp [List.eraseDups_cons, first, List.filter_map, Function.comp_def, none]
  have kept : (d.snippets.map fun s => Placed.mk s line place).filter (·.snippet.source == id) =
      d.snippets.map (⟨·, line, place⟩) := by
    refine List.filter_eq_self.mpr fun p member => ?_
    obtain ⟨s, listed, rfl⟩ := List.mem_map.mp member
    simpa using own s listed
  simp [exhibits, ids, known, all, kept]

theorem placed_same {line start : Nat} {place : Nat × Nat} (one : d.AtOnePlace id start) :
    ∀ p ∈ d.snippets.map (⟨·, line, place⟩ : Snippet → Placed),
      p.line = line ∧ p.snippet.span.start = start := by
  intro p member
  obtain ⟨s, listed, rfl⟩ := List.mem_map.mp member
  exact ⟨rfl, (one.same s listed).2⟩

end Diagnostic
end Minilang
