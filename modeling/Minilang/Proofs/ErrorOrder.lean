import Mathlib.Data.List.Basic
import Mathlib.Data.List.Nodup
import Minilang.Proofs.Advances
import Minilang.Proofs.ErrorPlaces

namespace Minilang

/-- The error stands at an earlier token, or at the same token with a lower rank. -/
def SyntaxError.Precedes (e f : SyntaxError) : Prop :=
  e.span.start < f.span.start ∨ e.span = f.span ∧ e.cause.rank < f.cause.rank

namespace SyntaxError
variable {e f : SyntaxError}

theorem Precedes.start_le (precedes : e.Precedes f) : e.span.start ≤ f.span.start := by
  rcases precedes with earlier | ⟨same, -⟩
  · exact Nat.le_of_lt earlier
  · exact Nat.le_of_eq (congrArg Span.start same)

theorem Precedes.differs (precedes : e.Precedes f) : ¬ (e.cause = f.cause ∧ e.span = f.span) := by
  rintro ⟨cause, span⟩
  rcases precedes with earlier | ⟨-, higher⟩
  · rw [span] at earlier
    exact Nat.lt_irrefl _ earlier
  · rw [cause] at higher
    exact Nat.lt_irrefl _ higher

end SyntaxError

theorem length_le_of_increasing {bound : Nat} {ns : List Nat} (increasing : ns.Pairwise (· < ·))
    (below : ∀ n ∈ ns, n < bound) : ns.length ≤ bound := by
  have distinct : ns.Nodup := increasing.imp Nat.ne_of_lt
  have within : ns ⊆ List.range bound := fun n member => List.mem_range.mpr (below n member)
  simpa using distinct.length_le_of_subset within

theorem length_le_of_same_span {bound : Nat} {span : Span} {es : List SyntaxError}
    (ordered : es.Pairwise SyntaxError.Precedes) (same : ∀ e ∈ es, e.span = span)
    (below : ∀ e ∈ es, e.cause.rank < bound) : es.length ≤ bound := by
  have increasing : (es.map (·.cause.rank)).Pairwise (· < ·) := by
    rw [List.pairwise_map]
    apply ordered.imp_of_mem
    intro e f inE inF precedes
    rcases precedes with earlier | higher
    · rw [same e inE, same f inF] at earlier
      exact absurd earlier (Nat.lt_irrefl _)
    · exact higher.2
  rw [← List.length_map (·.cause.rank)]
  apply length_le_of_increasing increasing
  intro n member
  obtain ⟨e, listed, rfl⟩ := List.mem_map.mp member
  exact below e listed

namespace Parser
variable {p q : Parser} {low k : Nat}

/-- The errors so far are in order, and those at the current token have ranks below a bound. -/
structure Ranked (p : Parser) (bound : Nat) : Prop where
  ordered : p.errors.Pairwise SyntaxError.Precedes
  passed : ∀ e ∈ p.errors, e.span.start < p.current.span.start ∨
    e.span = p.current.span ∧ e.cause.rank < bound
  ended : ∀ e ∈ p.errors, e.found = .eof → e.cause.rank < 3

theorem current_lt_advance (ordered : p.ahead.Pairwise fun a b => a.span.start < b.span.start)
    (more : p.isAt .eof = false) : p.current.span.start < p.advance.current.span.start := by
  obtain ⟨rest, behind⟩ := p.advance.ahead_current
  rw [ahead_advance more, behind, List.pairwise_cons] at ordered
  exact ordered.1 _ List.mem_cons_self

theorem Ranked.advance (ranked : Ranked p k)
    (forward : p.current.span.start < p.advance.current.span.start) : Ranked p.advance 0 := by
  refine ⟨ranked.ordered, fun e member => Or.inl ?_, ranked.ended⟩
  rcases ranked.passed e member with earlier | ⟨here, -⟩
  · omega
  · rw [here]
    exact forward

theorem Ranked.report {cause : Cause} (ranked : Ranked p k) (ordered : k ≤ cause.rank)
    (inside : p.isAt .eof = true → cause.rank < 3) :
    Ranked (p.report cause) (cause.rank + 1) := by
  let new : SyntaxError := ⟨cause, p.current.kind, p.current.span⟩
  constructor
  · refine List.pairwise_append.mpr ⟨ranked.ordered, List.pairwise_singleton _ _, ?_⟩
    intro e member f last
    obtain rfl : f = new := List.mem_singleton.mp last
    rcases ranked.passed e member with earlier | ⟨here, low⟩
    · exact Or.inl earlier
    · exact Or.inr ⟨here, Nat.lt_of_lt_of_le low ordered⟩
  · intro e member
    rcases List.mem_append.mp member with older | last
    · rcases ranked.passed e older with earlier | ⟨here, low⟩
      · exact Or.inl earlier
      · exact Or.inr ⟨here, by omega⟩
    · obtain rfl : e = new := List.mem_singleton.mp last
      exact Or.inr ⟨rfl, Nat.lt_succ_self _⟩
  · intro e member ended
    rcases List.mem_append.mp member with older | last
    · exact ranked.ended e older ended
    · obtain rfl : e = new := List.mem_singleton.mp last
      exact inside (beq_iff_eq.mpr ended)

theorem Proceeds.ranked (proceeds : Proceeds p low q k)
    (ordered : p.ahead.Pairwise fun a b => a.span.start < b.span.start) (ranked : Ranked p low) :
    Ranked q k := by
  induction proceeds with
  | start => exact ranked
  | advance earlier more ih =>
    have rest := ordered.sublist earlier.reaches.ahead_suffix.sublist
    exact ih.advance (current_lt_advance rest more)
  | report cause earlier order inside ih => exact ih.report order inside
  | relax earlier weaker ih =>
    refine ⟨ih.ordered, fun e member => ?_, ih.ended⟩
    rcases ih.passed e member with before | ⟨here, below⟩
    · exact Or.inl before
    · exact Or.inr ⟨here, Nat.lt_of_lt_of_le below weaker⟩

theorem program_ranked (text : Text) : Ranked (ofText text).program.2 3 := by
  have fresh : (ofText text).Ranked 0 := ⟨.nil, List.forall_mem_nil _, List.forall_mem_nil _⟩
  exact (proceeds_declarations (ofText text)).ranked (scanned_ordered text) fresh

end Parser

theorem span_of_eof {text : Text} {e : SyntaxError} (reported : e ∈ (parse text).2)
    (ended : e.found = .eof) : e.span = .empty (Text.byteLength text) := by
  obtain ⟨t, among, found, span⟩ := error_at_token reported
  rcases mem_scanned among with inside | rfl
  · exact absurd (found.symm.trans ended) (ne_eof_of_mem_tokens inside)
  · exact span

/-- The errors of a text in its order, each once, a few at a token and fewer at the end of the text. -/
structure InOrder (text : Text) (errors : List SyntaxError) : Prop where
  sorted : errors.Pairwise (·.span.start ≤ ·.span.start)
  once : errors.Pairwise fun e f => ¬ (e.cause = f.cause ∧ e.span = f.span)
  few : ∀ span, errors.countP (·.span = span) ≤ 4
  fewAtEnd : errors.countP (·.found = .eof) ≤ 3
  atTokens : ∀ e ∈ errors, ∃ t ∈ scanned text, e.found = t.kind ∧ e.span = t.span

theorem errors_come_in_order (text : Text) : InOrder text (parse text).2 := by
  have ranked := Parser.program_ranked text
  have ordered : (parse text).2.Pairwise SyntaxError.Precedes := ranked.ordered
  constructor
  · exact ordered.imp SyntaxError.Precedes.start_le
  · exact ordered.imp SyntaxError.Precedes.differs
  · intro span
    rw [List.countP_eq_length_filter]
    apply length_le_of_same_span (ordered.filter _)
    · intro e member
      simpa using (List.mem_filter.mp member).2
    · intro e _
      exact e.cause.rank_lt
  · have atEnd : ∀ e ∈ (parse text).2.filter (·.found = .eof), e ∈ (parse text).2 ∧ e.found = .eof :=
      fun e member => by simpa using List.mem_filter.mp member
    rw [List.countP_eq_length_filter]
    apply length_le_of_same_span (ordered.filter _)
    · intro e member
      exact span_of_eof (atEnd e member).1 (atEnd e member).2
    · intro e member
      exact ranked.ended e (atEnd e member).1 (atEnd e member).2
  · intro e reported
    exact error_at_token reported

/-- Both bounds are reached. -/
example : (parse "fn +".toList).2.countP (·.span = ⟨3, 4⟩) = 4 ∧
    (parse "fn".toList).2.countP (·.found = .eof) = 3 := by
  decide +kernel

end Minilang
