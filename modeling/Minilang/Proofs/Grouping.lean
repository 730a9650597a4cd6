import Mathlib.Algebra.Group.Nat.Defs
import Mathlib.Data.List.Basic
import Mathlib.Data.List.Pairwise
import Minilang.Diagnostic.Group

/-!
Groups of snippets. Grouping cuts the sorted snippets into runs; each run is inside the window of its
group, and the windows follow one another with a line between them at least. Together they hold the
lines around the snippets and no others.
-/
namespace Minilang

def Span.Holds (s : Span) (n : Nat) : Prop := s.start ≤ n ∧ n < s.stop

section
variable {contextSize lineCount line : Nat}

theorem contextWindow_eq (fits : contextSize + lineCount < 2 ^ 64) (inside : line < lineCount) :
    contextWindow contextSize lineCount line =
      ⟨line - contextSize, min (line + contextSize + 1) lineCount⟩ := by
  have size : UInt64.size = 2 ^ 64 := by decide
  have small : line + contextSize + 1 < UInt64.size := by omega
  rw [contextWindow, Nat.mod_eq_of_lt small]

theorem contextWindow_stop_le (contextSize lineCount line : Nat) :
    (contextWindow contextSize lineCount line).stop ≤ lineCount := Nat.min_le_right _ _

theorem contextWindow_holds {n : Nat} (fits : contextSize + lineCount < 2 ^ 64)
    (inside : line < lineCount) : (contextWindow contextSize lineCount line).Holds n ↔
      n < lineCount ∧ line ≤ n + contextSize ∧ n ≤ line + contextSize := by
  simp only [contextWindow_eq fits inside, Span.Holds]
  omega

theorem contextWindow_holds_own (fits : contextSize + lineCount < 2 ^ 64)
    (inside : line < lineCount) : (contextWindow contextSize lineCount line).Holds line := by
  rw [contextWindow_holds fits inside]
  omega

end

namespace Placed

theorem before_iff (p q : Placed) : p.before q = true ↔
    p.line < q.line ∨ p.line = q.line ∧ p.snippet.span.start ≤ q.snippet.span.start := by
  simp [before]

theorem before_trans (p q r : Placed) (first : p.before q = true) (second : q.before r = true) :
    p.before r = true := by
  rw [before_iff] at *
  omega

theorem before_total (p q : Placed) : (p.before q || q.before p) = true := by
  rw [Bool.or_eq_true, before_iff, before_iff]
  omega

theorem line_le_of_before {p q : Placed} (ordered : p.before q = true) : p.line ≤ q.line := by
  rw [before_iff] at ordered
  omega

theorem filter_mergeSort {snippets : List Placed} {test : Placed → Bool}
    (alike : ∀ p ∈ snippets, ∀ q ∈ snippets, test p = true → test q = true → p.before q = true) :
    (snippets.mergeSort before).filter test = snippets.filter test := by
  have sorted : (snippets.filter test).Pairwise (·.before · = true) := by
    apply List.pairwise_of_forall_mem_list
    intro p memberP q memberQ
    obtain ⟨inP, testP⟩ := List.mem_filter.mp memberP
    obtain ⟨inQ, testQ⟩ := List.mem_filter.mp memberQ
    exact alike p inP q inQ testP testQ
  have kept : (snippets.filter test).Sublist (snippets.mergeSort before) :=
    List.sublist_mergeSort before_trans before_total sorted List.filter_sublist
  have among := kept.filter test
  rw [List.filter_filter] at among
  simp only [Bool.and_self] at among
  have same := ((List.mergeSort_perm snippets before).filter test).length_eq
  exact (among.eq_of_length same.symm).symm

end Placed

namespace Group
variable {contextSize lineCount : Nat} {g : Group} {p : Placed}

structure Framed (lineCount : Nat) (g : Group) : Prop where
  some : g.snippets ≠ []
  sorted : g.snippets.Pairwise (·.before · = true)
  lower : ∀ p ∈ g.snippets, g.lines.start ≤ p.line
  upper : ∀ p ∈ g.snippets, p.line < g.lines.stop
  inside : g.lines.stop ≤ lineCount

theorem Framed.wide (framed : g.Framed lineCount) : g.lines.start < g.lines.stop := by
  obtain ⟨p, ps, first⟩ := List.exists_cons_of_ne_nil framed.some
  have member : p ∈ g.snippets := by
    rw [first]
    exact List.mem_cons_self
  have lower := framed.lower p member
  have upper := framed.upper p member
  omega

theorem ofSnippet_framed (fits : contextSize + lineCount < 2 ^ 64) (inside : p.line < lineCount) :
    (ofSnippet contextSize lineCount p).Framed lineCount := by
  have own := contextWindow_holds_own fits inside
  constructor
  · exact List.cons_ne_nil p []
  · exact List.pairwise_singleton _ p
  · intro q member
    obtain rfl := List.mem_singleton.mp member
    exact own.1
  · intro q member
    obtain rfl := List.mem_singleton.mp member
    exact own.2
  · exact contextWindow_stop_le contextSize lineCount p.line

theorem Framed.add (fits : contextSize + lineCount < 2 ^ 64) (framed : g.Framed lineCount)
    (inside : p.line < lineCount) (sorted : (g.snippets ++ [p]).Pairwise (·.before · = true)) :
    (g.add contextSize lineCount p).Framed lineCount := by
  obtain ⟨first, firsts, begins⟩ := List.exists_cons_of_ne_nil framed.some
  have member : first ∈ g.snippets := by
    rw [begins]
    exact List.mem_cons_self
  -- the group begins no later than its first snippet, and that one comes before the new one
  have behind : g.lines.start ≤ p.line := by
    have lower := framed.lower first member
    have ordered := (List.pairwise_append.mp sorted).2.2 first member p (List.mem_singleton_self p)
    have := Placed.line_le_of_before ordered
    omega
  constructor
  · simp [Group.add]
  · exact sorted
  · intro q member
    rcases List.mem_append.mp member with older | new
    · exact framed.lower q older
    · rw [List.mem_singleton.mp new]
      exact behind
  · intro q member
    simp only [Group.add]
    rcases List.mem_append.mp member with older | new
    · have upper := framed.upper q older
      omega
    · have own := (contextWindow_holds_own fits inside).2
      rw [List.mem_singleton.mp new]
      omega
  · have stop := framed.inside
    have new := contextWindow_stop_le contextSize lineCount p.line
    simp only [Group.add]
    omega

theorem gather_framed {more : List Placed} (fits : contextSize + lineCount < 2 ^ 64)
    (framed : g.Framed lineCount) (sorted : (g.snippets ++ more).Pairwise (·.before · = true))
    (inside : ∀ q ∈ more, q.line < lineCount) :
    ∀ h ∈ gather contextSize lineCount g more, h.Framed lineCount := by
  induction more generalizing g with
  | nil =>
    intro h member
    rw [List.mem_singleton.mp member]
    exact framed
  | cons q qs ih =>
    obtain ⟨own, inside'⟩ := List.forall_mem_cons.mp inside
    rw [List.append_cons] at sorted
    rw [gather]
    split
    · exact ih (framed.add fits own (List.pairwise_append.mp sorted).1) sorted inside'
    · rw [List.append_assoc] at sorted
      rw [List.forall_mem_cons]
      constructor
      · exact framed
      · exact ih (ofSnippet_framed fits own) (List.pairwise_append.mp sorted).2.1 inside'

theorem gather_snippets (g : Group) (more : List Placed) :
    (gather contextSize lineCount g more).flatMap (·.snippets) = g.snippets ++ more := by
  induction more generalizing g with
  | nil => simp [gather]
  | cons q qs ih =>
    rw [gather]
    split
    · rw [ih]
      exact List.append_assoc g.snippets [q] qs
    · rw [List.flatMap_cons]
      exact congrArg (g.snippets ++ ·) (ih (ofSnippet contextSize lineCount q))

theorem ofSnippets_snippets (snippets : List Placed) :
    (ofSnippets contextSize lineCount snippets).flatMap (·.snippets) =
      snippets.mergeSort Placed.before := by
  rw [ofSnippets]
  cases snippets.mergeSort Placed.before with
  | nil => rfl
  | cons p ps => exact gather_snippets _ ps

variable {snippets : List Placed}

theorem mem_ofSnippets (grouped : g ∈ ofSnippets contextSize lineCount snippets)
    (member : p ∈ g.snippets) : p ∈ snippets := by
  have among := List.mem_flatMap.mpr ⟨g, grouped, member⟩
  rw [ofSnippets_snippets] at among
  exact List.mem_mergeSort.mp among

theorem ofSnippets_framed (fits : contextSize + lineCount < 2 ^ 64)
    (inside : ∀ q ∈ snippets, q.line < lineCount) :
    ∀ g ∈ ofSnippets contextSize lineCount snippets, g.Framed lineCount := by
  have sorted := List.pairwise_mergeSort Placed.before_trans Placed.before_total snippets
  have inside' : ∀ q ∈ snippets.mergeSort Placed.before, q.line < lineCount :=
    fun q member => inside q (List.mem_mergeSort.mp member)
  rw [ofSnippets]
  cases ordered : snippets.mergeSort Placed.before with
  | nil => simp [ofSorted]
  | cons p ps =>
    rw [ordered] at sorted inside'
    obtain ⟨own, others⟩ := List.forall_mem_cons.mp inside'
    exact gather_framed fits (ofSnippet_framed fits own) sorted others

end Group
end Minilang
