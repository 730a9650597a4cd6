import Minilang.Proofs.Shape

/-!
Errors against the placeholders of the tree. A name, an expression or a number that could not be
read is reported once and leaves one placeholder, and both come in the same order. Some errors leave
none: an equals sign and the parenthesis of a call are looked for only where they stand, and where
the text ends inside a block, nothing follows.
-/
namespace Minilang

def IntLiteral.Great (n : IntLiteral) : Prop := Nat.pow 2 63 ≤ Text.decimalValue n.literal

instance : DecidablePred IntLiteral.Great := fun n =>
  inferInstanceAs (Decidable (Nat.pow 2 63 ≤ Text.decimalValue n.literal))

def FunctionDecl.Unnamed (f : FunctionDecl) : Prop := f.name.name = []

instance : DecidablePred FunctionDecl.Unnamed := fun f =>
  inferInstanceAs (Decidable (f.name.name = []))

def Expression.identifiers : Expression → List Identifier
  | .identifier i => [i]
  | .int _ => []
  | .call c => [c.function]
  | .missing => []

def Expression.literals : Expression → List IntLiteral
  | .int n => [n]
  | _ => []

def Statement.value : Statement → Expression
  | .assignment a => a.value
  | .ret r => r.value

def Statement.identifiers : Statement → List Identifier
  | .assignment a => a.target :: a.value.identifiers
  | .ret r => r.value.identifiers

namespace Program

def expressions (p : Program) : List Expression :=
  p.declarations.flatMap fun f => f.body.statements.map Statement.value

def literals (p : Program) : List IntLiteral := p.expressions.flatMap Expression.literals

def innerIdentifiers (p : Program) : List Identifier :=
  p.declarations.flatMap fun f => f.returnType :: f.body.statements.flatMap Statement.identifiers

end Program

def Expression.traces : Expression → List Cause
  | .missing => [.expectedExpression]
  | .int n => if n.Great then [.invalidIntLiteral] else []
  | _ => []

def Block.traces (b : Block) : List Cause := b.statements.flatMap fun s => s.value.traces

def Identifier.traces (i : Identifier) : List Cause :=
  if i.name = [] then [.expectedIdentifier] else []

def FunctionDecl.traces (f : FunctionDecl) : List Cause := f.name.traces ++ f.body.traces

def Program.traces (p : Program) : List Cause := p.declarations.flatMap FunctionDecl.traces

/-- The causes that are counted here: each leaves a trace, or is shown to be rare. -/
def Cause.isCounted : Cause → Bool
  | .expectedIdentifier | .expectedExpression | .invalidIntLiteral => true
  | .expectedAssignment | .expectedLeftParen | .unexpectedEof => true
  | _ => false

def countedCauses (errors : List SyntaxError) : List Cause :=
  (errors.map SyntaxError.cause).filter Cause.isCounted

theorem count_countedCauses {cause : Cause} (isCounted : cause.isCounted = true)
    (errors : List SyntaxError) :
    (countedCauses errors).count cause = errors.countP (·.cause = cause) := by
  rw [countedCauses, List.count_filter isCounted, List.count, List.countP_map]
  rfl

namespace Parser
variable {p q : Parser}

def counted (p : Parser) : List Cause := countedCauses p.errors

@[simp] theorem counted_advance (p : Parser) : p.advance.counted = p.counted := rfl

theorem counted_report (cause : Cause) (p : Parser) :
    (p.report cause).counted = p.counted ++ [cause].filter Cause.isCounted := by
  simp [counted, countedCauses, report]

theorem counted_expect {kind : Kind} {cause : Cause} (free : cause.isCounted = false) (p : Parser) :
    (p.expect kind cause).counted = p.counted := by
  unfold expect
  split
  · exact counted_advance p
  · simp [counted_report, free]

theorem counted_dropStray (p : Parser) : p.dropStray.counted = p.counted := by
  unfold dropStray
  split
  · rfl
  · exact counted_advance p

theorem counted_skipUntil (halt : Parser → Bool) (p : Parser) :
    (p.skipUntil halt).counted = p.counted := by
  fun_induction skipUntil halt p with
  | case1 p _ => rfl
  | case2 p _ ih => exact ih

theorem counted_identifier (spelled : p.Spelled) :
    p.identifier.2.counted = p.counted ++ p.identifier.1.traces := by
  by_cases here : p.isAt .ident = true
  · have named : p.current.text ≠ [] := (spelled.current_of_isAt here (by decide)).1
    rw [identifier_at here]
    simp [Identifier.traces, named]
  · rw [identifier, if_neg here]
    simp [counted_report, Identifier.traces, Cause.isCounted]

theorem counted_call (here : p.isAt .ident = true) (before : p.isBefore .leftParen = true) :
    p.call.2.counted = p.counted := by
  rw [call_at here before]
  exact counted_expect rfl _

theorem counted_intLiteral (here : p.isAt .int = true) :
    p.intLiteral.2.counted = p.counted ++ (Expression.int p.intLiteral.1).traces := by
  by_cases inRange : Text.decimalValue p.current.text ≤ maxInt
  · have small : ¬ Nat.pow 2 63 ≤ Text.decimalValue p.current.text :=
      Nat.not_le.mpr (Nat.lt_of_le_of_lt inRange (by decide))
    simp [intLiteral_inRange here inRange, Expression.traces, IntLiteral.Great, small]
  · have great : Nat.pow 2 63 ≤ Text.decimalValue p.current.text := by
      apply Nat.le_of_not_lt
      intro small
      exact inRange (Nat.le_sub_one_of_lt small)
    simp [intLiteral_great (Nat.lt_of_not_le inRange), Expression.traces, IntLiteral.Great, great,
      counted_report, Cause.isCounted]

theorem counted_expression (p : Parser) :
    p.expression.2.counted = p.counted ++ p.expression.1.traces := by
  unfold expression
  split
  · rename_i here
    split
    · rename_i before
      simpa [Expression.traces] using counted_call here before
    · simp [identifier_at here, Expression.traces]
  · split
    · rename_i here
      exact counted_intLiteral here
    · simp [counted_dropStray, counted_report, Expression.traces, Cause.isCounted]

theorem counted_assignment (here : p.isAt .ident = true) (before : p.isBefore .assign = true) :
    p.assignment.2.counted = p.counted ++ p.assignment.1.value.traces := by
  rw [assignment_at here before, semicolon, counted_expect rfl, counted_expression]
  rfl

theorem counted_returnStatement (p : Parser) :
    p.returnStatement.2.counted = p.counted ++ p.returnStatement.1.value.traces := by
  simp only [returnStatement]
  rw [semicolon, counted_expect rfl, counted_expression]
  rfl

theorem counted_statement (p : Parser) :
    p.statement.2.counted = p.counted ++ p.statement.1.toList.flatMap fun s => s.value.traces := by
  unfold statement
  split
  · simpa [Statement.value] using counted_returnStatement p
  · rename_i noReturn
    split
    · rename_i starts
      have both := assignment_ahead noReturn starts
      simpa [Statement.value] using counted_assignment both.1 both.2
    · rw [skipStatement, counted_skipUntil, counted_report]
      simp [Cause.isCounted]

theorem counted_statements (p : Parser) :
    p.statements.2.counted = p.counted ++ p.statements.1.flatMap fun s => s.value.traces := by
  fun_induction statements p with
  | case1 p _ => simp
  | case2 p inside first more ih =>
    rw [ih, counted_statement, List.append_assoc, List.flatMap_append]

theorem counted_parameters (p : Parser) : p.parameters.counted = p.counted := by
  have reported : (p.report .expectedEmptyParameterList).counted = p.counted := by
    simp [counted_report, Cause.isCounted]
  unfold parameters
  split
  · rfl
  · dsimp only
    split
    · unfold eat
      split
      · rw [counted_advance, counted_skipUntil, counted_advance, reported]
      · rw [counted_skipUntil, counted_advance, reported]
    · exact reported

theorem counted_returnType (p : Parser) : p.returnType.2.counted = p.counted := by
  unfold returnType
  split
  · rename_i here
    rw [identifier_at here]
    rfl
  · rfl

def Settles (p q : Parser) (causes : List Cause) : Prop :=
  q.counted = p.counted ++ causes ∨
    ∃ r : Parser, r.isAt .eof = true ∧ q = r.report .unexpectedEof ∧ r.counted = p.counted ++ causes

theorem settles_closeBlock {causes : List Cause} (inside : q.counted = p.counted ++ causes) :
    Settles p q.closeBlock causes := by
  unfold closeBlock
  split
  · rename_i ended
    exact Or.inr ⟨q, ended, rfl, inside⟩
  · exact Or.inl inside

theorem settles_block (p : Parser) : Settles p p.block.2 p.block.1.traces := by
  have reported : (p.report .expectedBlock).counted = p.counted := by
    simp [counted_report, Cause.isCounted]
  unfold block
  split
  · apply settles_closeBlock
    rw [counted_statements]
    rfl
  · split
    · apply Or.inl
      rw [reported]
      simp [Block.traces]
    · apply settles_closeBlock
      rw [counted_statements, reported]
      rfl

theorem settles_function (spelled : p.Spelled) :
    Settles p p.function.2 p.function.1.traces := by
  have named := counted_identifier (spelled.keep (reaches_advance p))
  have headed : p.advance.identifier.2.parameters.returnType.2.counted =
      p.counted ++ p.function.1.name.traces := by
    rw [counted_returnType, counted_parameters, named]
    rfl
  rcases settles_block p.advance.identifier.2.parameters.returnType.2 with whole | ⟨r, ended, last, whole⟩
  · apply Or.inl
    rw [headed, List.append_assoc] at whole
    exact whole
  · apply Or.inr
    rw [headed, List.append_assoc] at whole
    exact ⟨r, ended, last, whole⟩

theorem settles_declarations (p : Parser) (spelled : p.Spelled) :
    Settles p p.declarations.2 (p.declarations.1.flatMap FunctionDecl.traces) := by
  fun_induction declarations p with
  | case1 p _ => exact Or.inl (by simp)
  | case2 p more here first others ih =>
    have later := ih (spelled.keep (reaches_function p))
    rcases settles_function spelled with whole | ⟨r, ended, last, whole⟩
    · unfold Settles at later
      rw [whole, List.append_assoc] at later
      exact later
    · -- the end of the text was met in the function, so that no other is read
      have stopped : p.function.2.isAt .eof = true := by rw [last]; exact ended
      have nothing : others = ([], p.function.2) := declarations_at_end stopped
      rw [nothing]
      exact Or.inr ⟨r, ended, last, by simpa using whole⟩
  | case3 p _ _ ih =>
    have skipped : (p.report .expectedTopLevelDeclaration).skipToFunction.counted = p.counted := by
      rw [skipToFunction, counted_skipUntil, counted_report]
      simp [Cause.isCounted]
    have reach : Reaches p (p.report .expectedTopLevelDeclaration).skipToFunction :=
      (reaches_report _ p).trans (reaches_skipUntil _ _)
    have later := ih (spelled.keep reach)
    unfold Settles at later
    rw [skipped] at later
    exact later

structure Tells (errors : List SyntaxError) (causes : List Cause) : Prop where
  count : ∀ cause : Cause, cause.isCounted = true → cause ≠ .unexpectedEof →
    errors.countP (·.cause = cause) = causes.count cause
  endOnce : errors.countP (·.cause = .unexpectedEof) ≤ 1
  endLast : ∀ e ∈ errors.dropLast, e.cause ≠ .unexpectedEof

theorem Settles.tells {causes : List Cause} (settled : Settles p q causes) (fresh : p.errors = [])
    (open_end : .unexpectedEof ∉ causes) : Tells q.errors causes := by
  have start : p.counted = [] := by simp [counted, countedCauses, fresh]
  -- without the report of the end, the counted causes are just those given
  have inner : ∀ r : Parser, r.counted = p.counted ++ causes →
      (∀ cause : Cause, cause.isCounted = true →
        r.errors.countP (·.cause = cause) = causes.count cause) ∧
      ∀ e ∈ r.errors, e.cause ≠ .unexpectedEof := by
    intro r whole
    rw [start, List.nil_append] at whole
    have counts : ∀ cause : Cause, cause.isCounted = true →
        r.errors.countP (·.cause = cause) = causes.count cause := by
      intro cause isCounted
      rw [← count_countedCauses isCounted, ← whole]
      rfl
    have none := counts .unexpectedEof rfl
    rw [List.count_eq_zero.mpr open_end, List.countP_eq_zero] at none
    exact ⟨counts, fun e member => by simpa using none e member⟩
  rcases settled with whole | ⟨r, ended, rfl, whole⟩
  · obtain ⟨counts, quiet⟩ := inner q whole
    constructor
    · intro cause isCounted _
      exact counts cause isCounted
    · rw [counts .unexpectedEof rfl, List.count_eq_zero.mpr open_end]
      exact Nat.zero_le 1
    · intro e member
      exact quiet e ((List.dropLast_prefix q.errors).subset member)
  · obtain ⟨counts, quiet⟩ := inner r whole
    constructor
    · intro cause isCounted other
      simp [report, counts cause isCounted, other.symm]
    · simp [report, counts .unexpectedEof rfl, List.count_eq_zero.mpr open_end]
    · intro e member
      simp only [report, List.dropLast_concat] at member
      exact quiet e member

end Parser

namespace Program

theorem mem_traces {p : Program} {cause : Cause} (member : cause ∈ p.traces) :
    cause = .expectedIdentifier ∨ cause = .expectedExpression ∨ cause = .invalidIntLiteral := by
  obtain ⟨f, -, shown⟩ := List.mem_flatMap.mp member
  rcases List.mem_append.mp shown with named | inside
  · unfold Identifier.traces at named
    split at named
    · exact Or.inl (List.mem_singleton.mp named)
    · contradiction
  · obtain ⟨s, -, valued⟩ := List.mem_flatMap.mp inside
    cases h : s.value with
    | identifier i => simp [h, Expression.traces] at valued
    | call c => simp [h, Expression.traces] at valued
    | missing =>
      rw [h] at valued
      exact Or.inr (Or.inl (List.mem_singleton.mp valued))
    | int n =>
      rw [h, Expression.traces] at valued
      split at valued
      · exact Or.inr (Or.inr (List.mem_singleton.mp valued))
      · contradiction

theorem block_traces (b : Block) :
    b.traces = (b.statements.map Statement.value).flatMap Expression.traces := by
  rw [Block.traces, List.flatMap_map]

theorem count_traces {cause : Cause} (other : cause ≠ .expectedIdentifier) (p : Program) :
    p.traces.count cause = (p.expressions.flatMap Expression.traces).count cause := by
  obtain ⟨fs⟩ := p
  simp only [traces, expressions]
  induction fs with
  | nil => rfl
  | cons f fs ih =>
    have silent : f.name.traces.count cause = 0 := by
      unfold Identifier.traces
      split
      · exact List.count_eq_zero.mpr (by simpa using other)
      · rfl
    rw [List.flatMap_cons, List.flatMap_cons, List.flatMap_append, List.count_append,
      List.count_append, ih, FunctionDecl.traces, List.count_append, silent, block_traces,
      Nat.zero_add]

theorem count_unnamed (p : Program) :
    p.traces.count .expectedIdentifier = p.declarations.countP (·.Unnamed) := by
  obtain ⟨fs⟩ := p
  simp only [traces]
  induction fs with
  | nil => rfl
  | cons f fs ih =>
    have silent : f.body.traces.count .expectedIdentifier = 0 := by
      apply List.count_eq_zero.mpr
      intro member
      obtain ⟨s, -, valued⟩ := List.mem_flatMap.mp member
      cases h : s.value <;> simp [h, Expression.traces] at valued
    rw [List.flatMap_cons, List.count_append, ih, FunctionDecl.traces, List.count_append, silent]
    by_cases unnamed : f.name.name = [] <;>
      simp [Identifier.traces, FunctionDecl.Unnamed, unnamed, Nat.add_comm]

theorem count_missing (es : List Expression) :
    (es.flatMap Expression.traces).count .expectedExpression = es.count .missing := by
  induction es with
  | nil => rfl
  | cons e es ih =>
    rw [List.flatMap_cons, List.count_append, ih]
    cases e with
    | identifier i => simp [Expression.traces]
    | call c => simp [Expression.traces]
    | missing => simp [Expression.traces, Nat.add_comm]
    | int n => by_cases great : n.Great <;> simp [Expression.traces, great]

theorem count_great (es : List Expression) :
    (es.flatMap Expression.traces).count .invalidIntLiteral =
      (es.flatMap Expression.literals).countP (·.Great) := by
  induction es with
  | nil => rfl
  | cons e es ih =>
    rw [List.flatMap_cons, List.count_append, ih, List.flatMap_cons, List.countP_append]
    cases e with
    | identifier i => simp [Expression.traces, Expression.literals]
    | call c => simp [Expression.traces, Expression.literals]
    | missing => simp [Expression.traces, Expression.literals]
    | int n => by_cases great : n.Great <;> simp [Expression.traces, Expression.literals, great]

theorem innerIdentifiers_named {p : Program} (shaped : p.Shaped) :
    ∀ i ∈ p.innerIdentifiers, i.name ≠ [] := by
  intro i member
  obtain ⟨f, declared, inside⟩ := List.mem_flatMap.mp member
  obtain ⟨-, typed, filled⟩ := shaped f declared
  have valued : ∀ e : Expression, e.Shaped → ∀ i ∈ e.identifiers, i.name ≠ [] := by
    intro e whole i member
    cases e with
    | identifier j =>
      obtain rfl := List.mem_singleton.mp member
      exact whole.1
    | call c =>
      obtain rfl := List.mem_singleton.mp member
      exact whole.1
    | int n => contradiction
    | missing => contradiction
  rcases List.mem_cons.mp inside with rfl | within
  · exact typed.1
  · obtain ⟨s, listed, here⟩ := List.mem_flatMap.mp within
    have whole := filled s listed
    cases s with
    | assignment a =>
      rcases List.mem_cons.mp here with rfl | later
      · exact whole.1.1
      · exact valued a.value whole.2 i later
    | ret r => exact valued r.value whole i here

/-- The errors and the placeholders of the tree account for each other. -/
structure AccountsFor (p : Program) (errors : List SyntaxError) : Prop where
  missing : errors.countP (·.cause = .expectedExpression) = p.expressions.count .missing
  unnamed : errors.countP (·.cause = .expectedIdentifier) = p.declarations.countP (·.Unnamed)
  named : ∀ i ∈ p.innerIdentifiers, i.name ≠ []
  great : errors.countP (·.cause = .invalidIntLiteral) = p.literals.countP (·.Great)
  noSign : ∀ e ∈ errors, e.cause ≠ .expectedAssignment
  noParenthesis : ∀ e ∈ errors, e.cause ≠ .expectedLeftParen
  endOnce : errors.countP (·.cause = .unexpectedEof) ≤ 1
  endLast : ∀ e ∈ errors.dropLast, e.cause ≠ .unexpectedEof

end Program

/-- Each placeholder of the tree is an error, and each error of its kind a placeholder. -/
theorem errors_leave_placeholders (text : Text) : (parse text).1.AccountsFor (parse text).2 := by
  have spelled : (Parser.ofText text).Spelled := fun _ member => spelled_of_mem_tokens member
  have absent : ∀ cause : Cause, cause ≠ .expectedIdentifier → cause ≠ .expectedExpression →
      cause ≠ .invalidIntLiteral → cause ∉ (parse text).1.traces := by
    intro cause noName noExpression noNumber member
    rcases Program.mem_traces member with same | same | same
    · exact noName same
    · exact noExpression same
    · exact noNumber same
  have tells : Parser.Tells (parse text).2 (parse text).1.traces :=
    (Parser.settles_declarations (.ofText text) spelled).tells rfl
      (absent .unexpectedEof (by decide) (by decide) (by decide))
  have never : ∀ cause : Cause, cause.isCounted = true → cause ≠ .unexpectedEof →
      cause ∉ (parse text).1.traces → ∀ e ∈ (parse text).2, e.cause ≠ cause := by
    intro cause isCounted inside untraced e member
    have none := tells.count cause isCounted inside
    rw [List.count_eq_zero.mpr untraced, List.countP_eq_zero] at none
    simpa using none e member
  constructor
  · rw [tells.count .expectedExpression rfl (by decide), Program.count_traces (by decide),
      Program.count_missing]
  · rw [tells.count .expectedIdentifier rfl (by decide), Program.count_unnamed]
  · exact Program.innerIdentifiers_named (parse_shaped text)
  · rw [tells.count .invalidIntLiteral rfl (by decide), Program.count_traces (by decide),
      Program.count_great]
    rfl
  · exact never .expectedAssignment rfl (by decide) (absent _ (by decide) (by decide) (by decide))
  · exact never .expectedLeftParen rfl (by decide) (absent _ (by decide) (by decide) (by decide))
  · exact tells.endOnce
  · exact tells.endLast

end Minilang
