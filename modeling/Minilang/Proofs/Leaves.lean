import Minilang.Proofs.Acceptance
import Minilang.Proofs.Shape

/-!
The leaves of a tree against the tokens of its text. Recovery may pass tokens over, but the tree
invents none, repeats none and keeps their order: each leaf is a token of its own. Only the name of
a function that has none and the type of a function that declares none are no tokens.
-/
namespace Minilang

inductive TreeLeaf where
  | functionName (name : Identifier)
  | returnType (type : Identifier)
  | identifier (name : Identifier)
  | literal (digits : IntLiteral)
deriving DecidableEq, Repr

namespace TreeLeaf

def text : TreeLeaf → Text
  | .functionName i => i.name
  | .returnType i => i.name
  | .identifier i => i.name
  | .literal n => n.literal

def kind : TreeLeaf → Kind
  | .literal _ => .int
  | _ => .ident

structure WrittenAs (leaf : TreeLeaf) (t : Token) : Prop where
  kind : t.kind = leaf.kind
  text : t.text = leaf.text

theorem kind_ne_eof (leaf : TreeLeaf) : leaf.kind ≠ .eof := by
  cases leaf <;> simp [kind]

end TreeLeaf

def Expression.leaves : Expression → List TreeLeaf
  | .identifier i => [.identifier i]
  | .int n => [.literal n]
  | .call c => [.identifier c.function]
  | .missing => []

def Statement.leaves : Statement → List TreeLeaf
  | .assignment a => .identifier a.target :: a.value.leaves
  | .ret r => r.value.leaves

def Block.leaves (b : Block) : List TreeLeaf := b.statements.flatMap Statement.leaves

def FunctionDecl.leaves (f : FunctionDecl) : List TreeLeaf :=
  .functionName f.name :: .returnType f.returnType :: f.body.leaves

def Program.leaves (p : Program) : List TreeLeaf := p.declarations.flatMap FunctionDecl.leaves

/-- All names of functions that are empty are deleted, and as many of the types `void` as one
likes. -/
inductive Thinned : List TreeLeaf → List TreeLeaf → Prop
  | nil : Thinned [] []
  | unnamed {leaves kept : List TreeLeaf} (later : Thinned leaves kept) :
      Thinned (.functionName ⟨[]⟩ :: leaves) kept
  | untyped {leaves kept : List TreeLeaf} (later : Thinned leaves kept) :
      Thinned (.returnType .void :: leaves) kept
  | keep {leaf : TreeLeaf} {leaves kept : List TreeLeaf} (written : leaf ≠ .functionName ⟨[]⟩)
      (later : Thinned leaves kept) : Thinned (leaf :: leaves) (leaf :: kept)

theorem Thinned.append {leaves kept more rest : List TreeLeaf} (first : Thinned leaves kept)
    (second : Thinned more rest) : Thinned (leaves ++ more) (kept ++ rest) := by
  induction first with
  | nil => exact second
  | unnamed later ih => exact .unnamed ih
  | untyped later ih => exact .untyped ih
  | keep written later ih => exact .keep written ih

def Token.isWord (t : Token) : Bool := t.kind == .ident || t.kind == .int

/-- The leaves that are kept are identifiers and integers among the tokens, in their order. -/
def DrawnFrom (leaves : List TreeLeaf) (ts : List Token) : Prop :=
  ∃ kept origins, Thinned leaves kept ∧ List.Forall₂ TreeLeaf.WrittenAs kept origins ∧
    origins.Sublist (ts.filter Token.isWord)

namespace DrawnFrom
variable {leaves more : List TreeLeaf} {ts us : List Token}

theorem nil (ts : List Token) : DrawnFrom [] ts := ⟨[], [], .nil, .nil, List.nil_sublist _⟩

theorem append (first : DrawnFrom leaves ts) (second : DrawnFrom more us) :
    DrawnFrom (leaves ++ more) (ts ++ us) := by
  obtain ⟨kept, origins, thinned, written, ordered⟩ := first
  obtain ⟨kept', origins', thinned', written', ordered'⟩ := second
  refine ⟨kept ++ kept', origins ++ origins', thinned.append thinned',
    List.rel_append written written', ?_⟩
  rw [List.filter_append]
  exact ordered.append ordered'

theorem before (drawn : DrawnFrom leaves ts) (us : List Token) : DrawnFrom leaves (ts ++ us) := by
  simpa using drawn.append (.nil us)

theorem unnamed : DrawnFrom [.functionName ⟨[]⟩] [] :=
  ⟨[], [], .unnamed .nil, .nil, List.nil_sublist _⟩

theorem untyped : DrawnFrom [.returnType .void] [] :=
  ⟨[], [], .untyped .nil, .nil, List.nil_sublist _⟩

theorem word {leaf : TreeLeaf} {t : Token} (same : leaf.WrittenAs t)
    (written : leaf ≠ .functionName ⟨[]⟩) : DrawnFrom [leaf] [t] := by
  have isWord : t.isWord = true := by cases leaf <;> simp [Token.isWord, same.kind, TreeLeaf.kind]
  refine ⟨[leaf], [t], .keep written .nil, .cons same .nil, ?_⟩
  simp [isWord]

end DrawnFrom

namespace Parser
variable {p q r : Parser} {leaves more : List TreeLeaf}

/-- From one state to another the leaves are drawn from the tokens that are passed. -/
def Draws (p : Parser) (leaves : List TreeLeaf) (q : Parser) : Prop :=
  ∃ taken, p.upcoming = taken ++ q.upcoming ∧ DrawnFrom leaves taken

theorem Reaches.draws_nil (reach : Reaches p q) : Draws p [] q := by
  obtain ⟨taken, whole⟩ := reach.upcoming_suffix
  exact ⟨taken, whole.symm, .nil taken⟩

theorem Draws.append (first : Draws p leaves q) (second : Draws q more r) :
    Draws p (leaves ++ more) r := by
  obtain ⟨taken, whole, drawn⟩ := first
  obtain ⟨taken', whole', drawn'⟩ := second
  exact ⟨taken ++ taken', by rw [whole, whole', List.append_assoc], drawn.append drawn'⟩

theorem Draws.before (first : Draws p leaves q) (second : Reaches q r) : Draws p leaves r := by
  simpa using first.append second.draws_nil

theorem Draws.behind (first : Reaches p q) (second : Draws q leaves r) : Draws p leaves r :=
  first.draws_nil.append second

theorem draws_current {leaf : TreeLeaf} (here : p.isAt leaf.kind = true)
    (same : leaf.text = p.current.text) (written : leaf ≠ .functionName ⟨[]⟩) :
    Draws p [leaf] p.advance := by
  obtain ⟨taken, whole, first⟩ := upcoming_of_isAt here leaf.kind_ne_eof
  exact ⟨[taken.token], whole, .word ⟨taken.isKind, by rw [same, first]⟩ written⟩

theorem draws_identifier (here : p.isAt .ident = true) :
    Draws p [.identifier p.identifier.1] p.identifier.2 := by
  rw [identifier_at here]
  exact draws_current here rfl (by simp)

theorem draws_call (here : p.isAt .ident = true) :
    Draws p [.identifier p.call.1.function] p.call.2 :=
  (draws_identifier here).before ((reaches_expect _ _ _).trans (reaches_expect _ _ _))

theorem draws_intLiteral (here : p.isAt .int = true) :
    Draws p [.literal p.intLiteral.1] p.intLiteral.2 := by
  unfold intLiteral
  split
  · exact draws_current here rfl (by simp)
  · exact .behind (reaches_report _ p) (draws_current here rfl (by simp))

theorem draws_expression (p : Parser) : Draws p p.expression.1.leaves p.expression.2 := by
  unfold expression
  split
  · rename_i here
    split
    · exact draws_call here
    · exact draws_identifier here
  · split
    · rename_i here
      exact draws_intLiteral here
    · exact ((reaches_report _ p).trans (reaches_dropStray _)).draws_nil

theorem draws_assignment (here : p.isAt .ident = true) :
    Draws p (Statement.assignment p.assignment.1).leaves p.assignment.2 := by
  have target := (draws_identifier here).before (reaches_equals _)
  have value := (draws_expression p.identifier.2.equals).before (reaches_semicolon _)
  have whole := target.append value
  simpa only [assignment, Statement.leaves, List.singleton_append] using whole

theorem draws_returnStatement (p : Parser) :
    Draws p (Statement.ret p.returnStatement.1).leaves p.returnStatement.2 :=
  .behind (reaches_advance p) ((draws_expression _).before (reaches_semicolon _))

theorem draws_statement (p : Parser) :
    Draws p (p.statement.1.toList.flatMap Statement.leaves) p.statement.2 := by
  unfold statement
  split
  · simpa using draws_returnStatement p
  · split
    · rename_i noReturn starts
      simpa using draws_assignment (assignment_ahead noReturn starts).1
    · exact ((reaches_report _ p).trans (reaches_skipUntil _ _)).draws_nil

theorem draws_statements (p : Parser) :
    Draws p (p.statements.1.flatMap Statement.leaves) p.statements.2 := by
  fun_induction statements p with
  | case1 p _ => exact Reaches.start.draws_nil
  | case2 p inside first more ih =>
    rw [List.flatMap_append]
    exact (draws_statement p).append ih

theorem draws_block (p : Parser) : Draws p p.block.1.leaves p.block.2 := by
  unfold block
  split
  · exact .behind (reaches_advance p) ((draws_statements _).before (reaches_closeBlock _))
  · split
    · exact (reaches_report _ p).draws_nil
    · exact .behind (reaches_report _ p) ((draws_statements _).before (reaches_closeBlock _))

theorem draws_functionName (spelled : p.Spelled) :
    Draws p [.functionName p.identifier.1] p.identifier.2 := by
  -- an identifier among the tokens is never empty, so that only a missing name is deleted
  by_cases here : p.isAt .ident = true
  · have named : p.current.text ≠ [] := (spelled.current_of_isAt here (by decide)).1
    rw [identifier_at here]
    exact draws_current here rfl (by simpa using named)
  · rw [identifier, if_neg here]
    exact ⟨[], rfl, .unnamed⟩

theorem draws_returnType (p : Parser) : Draws p [.returnType p.returnType.1] p.returnType.2 := by
  unfold returnType
  split
  · rename_i here
    rw [identifier_at here]
    exact draws_current here rfl (by simp)
  · exact ⟨[], rfl, .untyped⟩

theorem draws_function (spelled : p.Spelled) : Draws p p.function.1.leaves p.function.2 := by
  have name : Draws p.advance _ p.advance.identifier.2.parameters :=
    (draws_functionName (spelled.keep (reaches_advance p))).before (reaches_parameters _)
  have type := draws_returnType p.advance.identifier.2.parameters
  have body := draws_block p.advance.identifier.2.parameters.returnType.2
  have whole := Draws.behind (reaches_advance p) (name.append (type.append body))
  simpa only [function, FunctionDecl.leaves, List.singleton_append] using whole

theorem draws_declarations (p : Parser) (spelled : p.Spelled) :
    Draws p (p.declarations.1.flatMap FunctionDecl.leaves) p.declarations.2 := by
  fun_induction declarations p with
  | case1 p _ => exact Reaches.start.draws_nil
  | case2 p more here first others ih =>
    exact (draws_function spelled).append (ih (spelled.keep (reaches_function p)))
  | case3 p _ _ ih =>
    have skipped : Reaches p (p.report .expectedTopLevelDeclaration).skipToFunction :=
      (reaches_report _ p).trans (reaches_skipUntil _ _)
    exact .behind skipped (ih (spelled.keep skipped))

end Parser

/-- Whatever the text is, valid or not, its tree is made of its own words. -/
theorem leaves_are_drawn_from_tokens (text : Text) :
    DrawnFrom (parse text).1.leaves (tokens text) := by
  have spelled : (Parser.ofText text).Spelled := fun _ member => spelled_of_mem_tokens member
  obtain ⟨taken, whole, drawn⟩ := Parser.draws_declarations (.ofText text) spelled
  have all : tokens text = taken ++ (Parser.ofText text).declarations.2.upcoming := whole
  rw [all]
  exact drawn.before _

example : (parse "fn () \x7b x = 007 return g() fn".toList).1.leaves =
    [.functionName ⟨[]⟩, .returnType .void, .identifier ⟨"x".toList⟩, .literal ⟨7, "007".toList⟩,
      .identifier ⟨"g".toList⟩] := by
  decide +kernel

end Minilang
