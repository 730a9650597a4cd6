import Minilang.Proofs.Exhibits

namespace Minilang

def Snippet.beginsIn (id start : Nat) (s : Snippet) : Bool := s.source == id && s.span.start == start

namespace Placed
variable {p q : Placed} {ps qs : List Placed}

def startsAt (start : Nat) (p : Placed) : Bool := p.snippet.span.start == start

theorem mem_of_same_starts (same : ∀ start, ps.filter (startsAt start) = qs.filter (startsAt start))
    (member : p ∈ ps) : p ∈ qs := by
  have own : p.startsAt p.snippet.span.start = true := beq_self_eq_true _
  have among := List.mem_filter.mpr ⟨member, own⟩
  rw [same] at among
  exact (List.mem_filter.mp among).1

theorem start_eq_of_first (sortedP : (p :: ps).Pairwise (·.before · = true))
    (sortedQ : (q :: qs).Pairwise (·.before · = true)) (inP : q ∈ p :: ps) (inQ : p ∈ q :: qs) :
    p.snippet.span.start = q.snippet.span.start := by
  rcases List.mem_cons.mp inP with same | laterQ
  · rw [same]
  · rcases List.mem_cons.mp inQ with same | laterP
    · rw [same]
    · have first := (List.pairwise_cons.mp sortedP).1 q laterQ
      have second := (List.pairwise_cons.mp sortedQ).1 p laterP
      rw [before_iff] at first second
      omega

theorem sorted_unique (sortedP : ps.Pairwise (·.before · = true))
    (sortedQ : qs.Pairwise (·.before · = true))
    (same : ∀ start, ps.filter (startsAt start) = qs.filter (startsAt start)) : ps = qs := by
  induction ps generalizing qs with
  | nil =>
    cases qs with
    | nil => rfl
    | cons q qs =>
      have member := mem_of_same_starts (fun start => (same start).symm) List.mem_cons_self
      exact absurd member List.not_mem_nil
  | cons p ps ih =>
    cases qs with
    | nil => exact absurd (mem_of_same_starts same List.mem_cons_self) List.not_mem_nil
    | cons q qs =>
      have inQ := mem_of_same_starts same List.mem_cons_self
      have inP := mem_of_same_starts (fun start => (same start).symm) List.mem_cons_self
      have level := start_eq_of_first sortedP sortedQ inP inQ
      -- they are the first of their filtered lists too
      have firstP : p.startsAt p.snippet.span.start = true := beq_self_eq_true _
      have firstQ : q.startsAt p.snippet.span.start = true := beq_iff_eq.mpr level.symm
      have heads := same p.snippet.span.start
      rw [List.filter_cons_of_pos firstP, List.filter_cons_of_pos firstQ] at heads
      obtain rfl := (List.cons.inj heads).1
      have others : ∀ start, ps.filter (startsAt start) = qs.filter (startsAt start) := by
        intro start
        have both := same start
        rw [List.filter_cons, List.filter_cons] at both
        split at both
        · exact (List.cons.inj both).2
        · exact both
      rw [ih (List.pairwise_cons.mp sortedP).2 (List.pairwise_cons.mp sortedQ).2 others]

def LevelStarts (ps : List Placed) : Prop :=
  ∀ a ∈ ps, ∀ b ∈ ps, a.snippet.span.start = b.snippet.span.start → a.before b = true

theorem LevelStarts.mergeSort (level : LevelStarts ps) (start : Nat) :
    (ps.mergeSort before).filter (startsAt start) = ps.filter (startsAt start) := by
  apply filter_mergeSort
  intro a inA b inB startA startB
  exact level a inA b inB ((beq_iff_eq.mp startA).trans (beq_iff_eq.mp startB).symm)

theorem mergeSort_of_same_starts (levelP : LevelStarts ps) (levelQ : LevelStarts qs)
    (same : ∀ start, ps.filter (startsAt start) = qs.filter (startsAt start)) :
    ps.mergeSort before = qs.mergeSort before := by
  apply sorted_unique
  · exact List.pairwise_mergeSort before_trans before_total ps
  · exact List.pairwise_mergeSort before_trans before_total qs
  · intro start
    rw [levelP.mergeSort, levelQ.mergeSort, same]

end Placed

namespace Diagnostic
variable {d : Diagnostic} {sources : Sources} {source : Source} {snippets : List Snippet} {id : Nat}

theorem placed_filter (d : Diagnostic) (sources : Sources) (test : Snippet → Bool) :
    (d.placed sources).filter (fun p => test p.snippet) =
      { d with snippets := d.snippets.filter test }.placed sources := by
  rw [placed, placed, List.filter_filterMap, List.filterMap_filter]
  apply List.filterMap_congr
  intro s _
  cases place : sources[s.source]?.bind (·.place? s) with
  | none => simp
  | some p =>
    obtain ⟨source, -, found⟩ := Option.bind_eq_some_iff.mp place
    simp [Option.filter, Source.place?_snippet found]

theorem placed_starts (d : Diagnostic) (sources : Sources) (id start : Nat) :
    ((d.placed sources).filter (·.snippet.source == id)).filter (Placed.startsAt start) =
      { d with snippets := d.snippets.filter (Snippet.beginsIn id start) }.placed sources := by
  rw [← placed_filter, List.filter_filter]
  apply List.filter_congr
  intro p _
  exact Bool.and_comm _ _

theorem levelStarts_of_known (d : Diagnostic) (known : sources[id]? = some source) :
    Placed.LevelStarts ((d.placed sources).filter (·.snippet.source == id)) :=
  fun _ inA _ inB => Source.before_of_same_start (place?_of_mem known inA) (place?_of_mem known inB)

theorem sourceIds_eq (d : Diagnostic) (sources : Sources) :
    d.sourceIds sources = d.drawableIds sources := by
  rw [sourceIds, drawableIds, ← placed_snippets, List.map_map]
  rfl

def groupsBySource (d : Diagnostic) (sources : Sources) (contextSize : Nat) :
    List (Source × List Group) :=
  (d.exhibits sources).map fun e => (e.source, e.groups contextSize)

theorem pieces_eq_groups (d : Diagnostic) (sources : Sources) (config : Config) :
    d.pieces sources config = d.headerPieces config ++
      (d.groupsBySource sources config.contextSize).flatMap
        (fun drawn => drawn.2.flatMap (d.groupPieces config drawn.1)) ++ [newline] := by
  rw [groupsBySource, List.flatMap_map]
  rfl

/-- Another order of the snippets of a diagnostic: for each source and start the same snippets in the
same order. The sources of the snippets that can be drawn come up in the same order as well. -/
structure Rearranged (d : Diagnostic) (sources : Sources) (snippets : List Snippet) : Prop where
  stable : ∀ id start, snippets.filter (Snippet.beginsIn id start) =
    d.snippets.filter (Snippet.beginsIn id start)
  ids : { d with snippets := snippets }.drawableIds sources = d.drawableIds sources

theorem Rearranged.groups (rearranged : d.Rearranged sources snippets) (contextSize : Nat) :
    { d with snippets := snippets }.groupsBySource sources contextSize =
      d.groupsBySource sources contextSize := by
  rw [groupsBySource, groupsBySource, exhibits, exhibits, sourceIds_eq, sourceIds_eq,
    rearranged.ids, List.map_filterMap, List.map_filterMap]
  apply List.filterMap_congr
  intro id _
  cases known : sources[id]? with
  | none => rfl
  | some source =>
    have sorted := Placed.mergeSort_of_same_starts
      (levelStarts_of_known { d with snippets := snippets } known) (levelStarts_of_known d known)
      (fun start => by rw [placed_starts, placed_starts, rearranged.stable])
    simp only [Option.map_some, Exhibit.groups, Group.ofSnippets, sorted]

theorem attachment_order_is_not_seen (rearranged : d.Rearranged sources snippets) (config : Config)
    (colored : Bool) :
    { d with snippets := snippets }.render sources config colored =
      d.render sources config colored := by
  have same : { d with snippets := snippets }.pieces sources config = d.pieces sources config := by
    rw [pieces_eq_groups, pieces_eq_groups, rearranged.groups]
    rfl
  rw [render, render, renderColored, renderColored, renderPlain, renderPlain, same]

def scattered : Diagnostic where
  severity := .warning
  message := none
  id := none
  snippets := [⟨['p'], .primary, 0, ⟨2, 3⟩⟩, ⟨['q'], .primary, 0, ⟨0, 1⟩⟩, ⟨['r'], .primary, 7, ⟨0, 1⟩⟩,
    ⟨['s'], .secondary, 1, ⟨0, 1⟩⟩, ⟨['t'], .secondary, 0, ⟨2, 2⟩⟩]

def gathered : List Snippet :=
  [⟨['r'], .primary, 7, ⟨0, 1⟩⟩, ⟨['q'], .primary, 0, ⟨0, 1⟩⟩, ⟨['s'], .secondary, 1, ⟨0, 1⟩⟩,
    ⟨['p'], .primary, 0, ⟨2, 3⟩⟩, ⟨['t'], .secondary, 0, ⟨2, 2⟩⟩]

theorem attachment_order_of_scattered :
    scattered.Rearranged [⟨['a'], none, "x\ny".toList⟩, ⟨['b'], none, "z".toList⟩] gathered ∧
    { scattered with snippets := gathered }.render
        [⟨['a'], none, "x\ny".toList⟩, ⟨['b'], none, "z".toList⟩] { } true =
      scattered.render [⟨['a'], none, "x\ny".toList⟩, ⟨['b'], none, "z".toList⟩] { } true := by
  have rearranged :
      scattered.Rearranged [⟨['a'], none, "x\ny".toList⟩, ⟨['b'], none, "z".toList⟩] gathered := by
    constructor
    · intro id start
      simp only [scattered, gathered, Snippet.beginsIn, List.filter_cons, List.filter_nil]
      grind
    · decide
  exact ⟨rearranged, attachment_order_is_not_seen rearranged { } true⟩

end Diagnostic
end Minilang
