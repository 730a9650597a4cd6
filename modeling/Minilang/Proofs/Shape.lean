import Minilang.Proofs.Reach
import Minilang.Proofs.Spelling

namespace Minilang

def IntLiteral.Shaped (n : IntLiteral) : Prop :=
  IsNumber n.literal ∧
    n.value =
      if Text.decimalValue n.literal < Nat.pow 2 63 then (Text.decimalValue n.literal : Int) else 0

def Expression.Shaped : Expression → Prop
  | .identifier i => IsName i.name
  | .int n => n.Shaped
  | .call c => IsName c.function.name
  | .missing => True

def Statement.Shaped : Statement → Prop
  | .assignment a => IsName a.target.name ∧ a.value.Shaped
  | .ret r => r.value.Shaped

def Block.Shaped (b : Block) : Prop := ∀ s ∈ b.statements, s.Shaped

def FunctionDecl.Shaped (f : FunctionDecl) : Prop :=
  (f.name.name = [] ∨ IsName f.name.name) ∧ IsName f.returnType.name ∧ f.body.Shaped

def Program.Shaped (p : Program) : Prop := ∀ f ∈ p.declarations, f.Shaped

instance (n : IntLiteral) : Decidable n.Shaped := inferInstanceAs (Decidable (_ ∧ _))

instance : DecidablePred Expression.Shaped
  | .identifier i => inferInstanceAs (Decidable (IsName i.name))
  | .int n => inferInstanceAs (Decidable n.Shaped)
  | .call c => inferInstanceAs (Decidable (IsName c.function.name))
  | .missing => .isTrue trivial

instance : DecidablePred Statement.Shaped
  | .assignment a => inferInstanceAs (Decidable (IsName a.target.name ∧ a.value.Shaped))
  | .ret r => inferInstanceAs (Decidable r.value.Shaped)

instance (f : FunctionDecl) : Decidable f.Shaped :=
  inferInstanceAs (Decidable (_ ∧ _ ∧ ∀ s ∈ f.body.statements, s.Shaped))

instance (p : Program) : Decidable p.Shaped :=
  inferInstanceAs (Decidable (∀ f ∈ p.declarations, f.Shaped))

namespace Parser
variable {p q : Parser}

def Spelled (p : Parser) : Prop := ∀ t ∈ p.upcoming, t.kind.Spelled t.text

theorem Spelled.keep (spelled : p.Spelled) (reach : Reaches p q) : q.Spelled :=
  fun t member => spelled t (reach.upcoming_suffix.subset member)

theorem Spelled.current (spelled : p.Spelled) (more : p.isAt .eof = false) :
    p.current.kind.Spelled p.current.text := by
  obtain ⟨t, ts, whole⟩ := List.exists_cons_of_ne_nil (upcoming_ne_nil more)
  have first : p.current = t := by simp [Parser.current, whole]
  rw [first]
  exact spelled t (by simp [whole])

theorem Spelled.current_of_isAt {kind : Kind} (spelled : p.Spelled) (here : p.isAt kind = true)
    (inside : kind ≠ .eof) : kind.Spelled p.current.text := by
  have same : p.current.kind = kind := by simpa [isAt] using here
  have written := spelled.current (isAt_unique here inside)
  rwa [same] at written

theorem identifier_shaped (spelled : p.Spelled) :
    p.identifier.1.name = [] ∨ IsName p.identifier.1.name := by
  unfold identifier
  split
  · rename_i here
    exact Or.inr (spelled.current_of_isAt here (by decide))
  · exact Or.inl rfl

theorem identifier_name (spelled : p.Spelled) (here : p.isAt .ident = true) :
    IsName p.identifier.1.name := by
  rw [identifier_at here]
  exact spelled.current_of_isAt here (by decide)

theorem intLiteral_shaped (spelled : p.Spelled) (here : p.isAt .int = true) :
    p.intLiteral.1.Shaped := by
  have digits : IsNumber p.current.text := spelled.current_of_isAt here (by decide)
  by_cases inRange : Text.decimalValue p.current.text ≤ maxInt
  · have small : Text.decimalValue p.current.text < Nat.pow 2 63 :=
      Nat.lt_of_le_of_lt inRange (by decide)
    rw [intLiteral_inRange here inRange]
    exact ⟨digits, by rw [if_pos small]⟩
  · have great : ¬ Text.decimalValue p.current.text < Nat.pow 2 63 :=
      fun small => inRange (Nat.le_sub_one_of_lt small)
    rw [intLiteral_great (Nat.lt_of_not_le inRange)]
    exact ⟨digits, by rw [if_neg great]⟩

theorem expression_shaped (spelled : p.Spelled) : p.expression.1.Shaped := by
  unfold expression
  split
  · rename_i here
    split
    · exact identifier_name spelled here
    · exact identifier_name spelled here
  · split
    · rename_i here
      exact intLiteral_shaped spelled here
    · trivial

theorem statement_shaped (spelled : p.Spelled) : ∀ s ∈ p.statement.1, s.Shaped := by
  unfold statement
  split
  · rename_i here
    intro s member
    obtain rfl := Option.some.inj member
    exact expression_shaped (spelled.keep (reaches_advance p))
  · split
    · rename_i noReturn starts
      intro s member
      obtain rfl := Option.some.inj member
      exact ⟨identifier_name spelled (assignment_ahead noReturn starts).1, expression_shaped
        (spelled.keep ((reaches_identifier p).trans (reaches_equals _)))⟩
    · intro s member
      contradiction

theorem statements_shaped (p : Parser) (spelled : p.Spelled) : ∀ s ∈ p.statements.1, s.Shaped := by
  fun_induction statements p with
  | case1 p _ => simp
  | case2 p inside first more ih =>
    intro s member
    rcases List.mem_append.mp member with here | later
    · exact statement_shaped spelled s (Option.mem_toList.mp here)
    · exact ih (spelled.keep (reaches_statement p)) s later

theorem block_shaped (spelled : p.Spelled) : p.block.1.Shaped := by
  unfold block
  split
  · exact statements_shaped _ (spelled.keep (reaches_advance p))
  · split
    · intro s member
      contradiction
    · exact statements_shaped _ (spelled.keep (reaches_report _ p))

theorem void_name : IsName Identifier.void.name := by decide

theorem returnType_shaped (spelled : p.Spelled) : IsName p.returnType.1.name := by
  unfold returnType
  split
  · rename_i here
    exact identifier_name spelled here
  · exact void_name

theorem function_shaped (spelled : p.Spelled) : p.function.1.Shaped := by
  have named := reaches_advance p
  have parameterized := named.trans (reaches_identifier p.advance)
  have typed := parameterized.trans (reaches_parameters p.advance.identifier.2)
  have filled := typed.trans (reaches_returnType p.advance.identifier.2.parameters)
  exact ⟨identifier_shaped (spelled.keep named), returnType_shaped (spelled.keep typed),
    block_shaped (spelled.keep filled)⟩

theorem declarations_shaped (p : Parser) (spelled : p.Spelled) :
    ∀ f ∈ p.declarations.1, f.Shaped := by
  fun_induction declarations p with
  | case1 p _ => simp
  | case2 p more here first others ih =>
    exact List.forall_mem_cons.mpr
      ⟨function_shaped spelled, ih (spelled.keep (reaches_function p))⟩
  | case3 p _ _ ih =>
    exact ih (spelled.keep ((reaches_report _ p).trans (reaches_skipUntil _ _)))

end Parser

theorem parse_shaped (text : Text) : (parse text).1.Shaped :=
  Parser.declarations_shaped (.ofText text) fun _ member => spelled_of_mem_tokens member

end Minilang
