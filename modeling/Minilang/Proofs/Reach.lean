import Minilang.Parser.Declarations

/-!
Phrases change a parser in two ways only: they advance it, and they report at its current token.
What both keep, every phrase keeps.
-/
namespace Minilang.Parser

inductive Reaches (p : Parser) : Parser → Prop where
  | start : Reaches p p
  | advance {q : Parser} (earlier : Reaches p q) : Reaches p q.advance
  | report {q : Parser} (cause : Cause) (earlier : Reaches p q) : Reaches p (q.report cause)

variable {p q r : Parser}

theorem Reaches.trans (first : Reaches p q) (second : Reaches q r) : Reaches p r := by
  induction second with
  | start => exact first
  | advance earlier ih => exact .advance ih
  | report cause earlier ih => exact .report cause ih

theorem reaches_advance (p : Parser) : Reaches p p.advance := .advance .start

theorem reaches_report (cause : Cause) (p : Parser) : Reaches p (p.report cause) :=
  .report cause .start

theorem reaches_expect (kind : Kind) (cause : Cause) (p : Parser) :
    Reaches p (p.expect kind cause) := by
  unfold expect
  split
  · exact reaches_advance p
  · exact reaches_report cause p

theorem reaches_eat (kind : Kind) (p : Parser) : Reaches p (p.eat kind).2 := by
  unfold eat
  split
  · exact reaches_advance p
  · exact .start

theorem reaches_dropStray (p : Parser) : Reaches p p.dropStray := by
  unfold dropStray
  split
  · exact .start
  · exact reaches_advance p

theorem reaches_skipUntil (halt : Parser → Bool) (p : Parser) : Reaches p (p.skipUntil halt) := by
  fun_induction skipUntil halt p with
  | case1 p _ => exact .start
  | case2 p _ ih => exact (reaches_advance p).trans ih

theorem reaches_identifier (p : Parser) : Reaches p p.identifier.2 := by
  unfold identifier
  split
  · exact reaches_advance p
  · exact reaches_report _ p

theorem reaches_intLiteral (p : Parser) : Reaches p p.intLiteral.2 := by
  unfold intLiteral
  split
  · exact reaches_advance p
  · exact .advance (reaches_report _ p)

theorem reaches_call (p : Parser) : Reaches p p.call.2 :=
  (reaches_identifier p).trans ((reaches_expect _ _ _).trans (reaches_expect _ _ _))

theorem reaches_expression (p : Parser) : Reaches p p.expression.2 := by
  unfold expression
  split
  · split
    · exact reaches_call p
    · exact reaches_identifier p
  · split
    · exact reaches_intLiteral p
    · exact (reaches_report _ p).trans (reaches_dropStray _)

theorem reaches_equals (p : Parser) : Reaches p p.equals := by
  unfold equals
  split
  · exact reaches_advance p
  · exact (reaches_report _ p).trans (reaches_dropStray _)

theorem reaches_semicolon (p : Parser) : Reaches p p.semicolon := reaches_expect _ _ p

theorem reaches_assignment (p : Parser) : Reaches p p.assignment.2 :=
  (reaches_identifier p).trans ((reaches_equals _).trans
    ((reaches_expression _).trans (reaches_semicolon _)))

theorem reaches_returnStatement (p : Parser) : Reaches p p.returnStatement.2 :=
  (reaches_advance p).trans ((reaches_expression _).trans (reaches_semicolon _))

theorem reaches_statement (p : Parser) : Reaches p p.statement.2 := by
  unfold statement
  split
  · exact reaches_returnStatement p
  · split
    · exact reaches_assignment p
    · exact (reaches_report _ p).trans (reaches_skipUntil _ _)

theorem reaches_statements (p : Parser) : Reaches p p.statements.2 := by
  fun_induction statements p with
  | case1 p _ => exact .start
  | case2 p inside first more ih => exact (reaches_statement p).trans ih

theorem reaches_closeBlock (p : Parser) : Reaches p p.closeBlock := by
  unfold closeBlock
  split
  · exact reaches_report _ p
  · exact reaches_advance p

theorem reaches_block (p : Parser) : Reaches p p.block.2 := by
  unfold block
  split
  · exact (reaches_advance p).trans ((reaches_statements _).trans (reaches_closeBlock _))
  · split
    · exact reaches_report _ p
    · exact (reaches_report _ p).trans ((reaches_statements _).trans (reaches_closeBlock _))

theorem reaches_parameters (p : Parser) : Reaches p p.parameters := by
  unfold parameters
  split
  · exact .advance (reaches_advance p)
  · simp only
    split
    · exact (reaches_report _ p).trans ((reaches_advance _).trans
        ((reaches_skipUntil _ _).trans (reaches_eat _ _)))
    · exact reaches_report _ p

theorem reaches_returnType (p : Parser) : Reaches p p.returnType.2 := by
  unfold returnType
  split
  · exact reaches_identifier p
  · exact .start

theorem reaches_function (p : Parser) : Reaches p p.function.2 :=
  (reaches_advance p).trans ((reaches_identifier _).trans ((reaches_parameters _).trans
    ((reaches_returnType _).trans (reaches_block _))))

theorem reaches_declarations (p : Parser) : Reaches p p.declarations.2 := by
  fun_induction declarations p with
  | case1 p _ => exact .start
  | case2 p _ _ first more ih => exact (reaches_function p).trans ih
  | case3 p _ _ ih =>
    exact (reaches_report _ p).trans ((reaches_skipUntil _ _).trans ih)

theorem Reaches.upcoming_suffix (reach : Reaches p q) : q.upcoming <:+ p.upcoming := by
  induction reach with
  | start => exact List.suffix_rfl
  | advance earlier ih => exact (List.tail_suffix _).trans ih
  | report cause earlier ih => exact ih

theorem Reaches.errors_prefix (reach : Reaches p q) : p.errors <+: q.errors := by
  induction reach with
  | start => exact List.prefix_rfl
  | advance earlier ih => exact ih
  | report cause earlier ih => exact ih.trans (List.prefix_append _ _)

def ahead (p : Parser) : List Token := p.upcoming ++ [.eof p.endOfText]

theorem ahead_current (p : Parser) : ∃ rest, p.ahead = p.current :: rest := by
  cases h : p.upcoming <;> simp [ahead, current, h]

theorem ahead_advance (more : p.isAt .eof = false) : p.ahead = p.current :: p.advance.ahead := by
  obtain ⟨t, ts, whole⟩ := List.exists_cons_of_ne_nil (upcoming_ne_nil more)
  simp [ahead, current, advance, whole]

theorem Reaches.ahead_suffix (reach : Reaches p q) : q.ahead <:+ p.ahead := by
  induction reach with
  | start => exact List.suffix_rfl
  | @advance q earlier ih =>
    obtain ⟨taken, whole⟩ := List.tail_suffix q.upcoming
    have kept : q.advance.ahead <:+ q.ahead := ⟨taken, by
      rw [ahead, ahead, ← List.append_assoc, ← whole]
      rfl⟩
    exact kept.trans ih
  | report cause earlier ih => exact ih

theorem Reaches.errors_at_tokens (reach : Reaches p q) : ∀ e ∈ q.errors,
    e ∈ p.errors ∨ ∃ t ∈ p.ahead, e.found = t.kind ∧ e.span = t.span := by
  induction reach with
  | start => exact fun e member => Or.inl member
  | advance earlier ih => exact ih
  | @report q cause earlier ih =>
    intro e member
    rcases List.mem_append.mp member with older | new
    · exact ih e older
    · obtain rfl := List.mem_singleton.mp new
      obtain ⟨rest, here⟩ := q.ahead_current
      have member : q.current ∈ q.ahead := by simp [here]
      exact Or.inr ⟨q.current, earlier.ahead_suffix.subset member, rfl, rfl⟩

theorem Reaches.quiet_between (first : Reaches p q) (second : Reaches q r)
    (quiet : r.errors = p.errors) : q.errors = p.errors := by
  have lower := first.errors_prefix
  have upper := second.errors_prefix
  rw [quiet] at upper
  exact upper.eq_of_length_le lower.length_le

theorem Reaches.not_quiet {cause : Cause} (later : Reaches (p.report cause) q) :
    q.errors ≠ p.errors := by
  intro quiet
  have longer := later.errors_prefix.length_le
  simp only [quiet, Parser.report, List.length_append, List.length_singleton] at longer
  omega

end Minilang.Parser
