import Minilang.Proofs.Reach
import Minilang.Proofs.Reading
import Minilang.Proofs.Spelling

/-!
The parser against the grammar. A derived phrase is read as its tree and nothing is reported,
whatever follows it; and where nothing is reported, a phrase of the grammar was read. So the parser
reports nothing on the language of the grammar, and only there.
-/
namespace Minilang
namespace Parser
open Grammar (Leaf Numeral Lead)

section Derived
variable {stop : Nat} {rest : List Token}

theorem reads_derived_statements (ss : List Grammar.Statement)
    (ended : (upNext stop rest).kind = .rightBrace) :
    Reads statements stop (ss.flatMap Grammar.Statement.yield) rest
      (ss.map Grammar.Statement.tree) [] := by
  induction ss with
  | nil => exact reads_statements_end (Or.inl ended)
  | cons s ss ih => exact reads_derived_statement s ih

theorem reads_derived_block (b : Grammar.Block) : Reads block stop b.yield rest b.tree [] := by
  have filled : Reads statements stop (b.statements.flatMap Grammar.Statement.yield)
      ([b.closing.token] ++ rest) (b.statements.map Grammar.Statement.tree) [] :=
    reads_derived_statements b.statements (by simp [b.closing.isKind])
  exact reads_block b.opening filled (moves_closeBlock b.closing)

theorem reads_derived_function (f : Grammar.Function) :
    Reads function stop f.yield rest f.tree [] := by
  have typed : Reads returnType stop (Grammar.typeYield f.type) (f.body.yield ++ rest)
      (Grammar.typeTree f.type) [] :=
    reads_returnType f.type (by simp [Grammar.Block.yield, f.body.opening.isKind])
  exact reads_function f.keyword (reads_identifier f.name) (moves_parameters f.opening f.closing)
    typed (reads_derived_block f.body)

theorem reads_derived_functions (fs : List Grammar.Function) (ended : (upNext stop rest).kind = .eof) :
    Reads declarations stop (fs.flatMap Grammar.Function.yield) rest
      (fs.map Grammar.Function.tree) [] := by
  induction fs with
  | nil => exact reads_declarations_end ended
  | cons f fs ih =>
    exact reads_declarations_next (by simp [Grammar.Function.yield, f.keyword.isKind])
      (reads_derived_function f) ih

end Derived

section Quiet
variable {p : Parser}

theorem upcoming_of_isAt {kind : Kind} (here : p.isAt kind = true) (inside : kind ≠ .eof) :
    ∃ leaf : Leaf kind, p.upcoming = leaf.token :: p.advance.upcoming ∧ p.current = leaf.token := by
  cases h : p.upcoming with
  | nil =>
    simp only [isAt, current, h, List.headD_nil, Token.eof, beq_iff_eq] at here
    exact absurd here.symm inside
  | cons t ts =>
    simp only [isAt, current, h, List.headD_cons, beq_iff_eq] at here
    exact ⟨⟨t, here⟩, by simp [advance, h], by simp [current, h]⟩

theorem expect_quiet {kind : Kind} {c : Cause} (quiet : (p.expect kind c).errors = p.errors)
    (inside : kind ≠ .eof) :
    ∃ leaf : Leaf kind, p.upcoming = leaf.token :: (p.expect kind c).upcoming := by
  unfold expect at quiet ⊢
  split
  · rename_i here
    obtain ⟨leaf, whole, _⟩ := upcoming_of_isAt here inside
    exact ⟨leaf, whole⟩
  · rename_i off
    rw [if_neg off] at quiet
    exact absurd quiet (Reaches.not_quiet .start)

theorem identifier_quiet (quiet : p.identifier.2.errors = p.errors) :
    ∃ name : Leaf .ident, p.upcoming = name.token :: p.identifier.2.upcoming := by
  unfold identifier at quiet ⊢
  split
  · rename_i here
    obtain ⟨name, whole, _⟩ := upcoming_of_isAt here (by decide)
    exact ⟨name, whole⟩
  · rename_i off
    rw [if_neg off] at quiet
    exact absurd quiet (Reaches.not_quiet .start)

theorem call_quiet (quiet : p.call.2.errors = p.errors) :
    ∃ (name : Leaf .ident) (opening : Leaf .leftParen) (closing : Leaf .rightParen),
      p.upcoming = [name.token, opening.token, closing.token] ++ p.call.2.upcoming := by
  have named := reaches_identifier p
  have opened := reaches_expect .leftParen .expectedLeftParen p.identifier.2
  have closed : Reaches _ p.call.2 := reaches_expect .rightParen .expectedRightParen
    (p.identifier.2.expect .leftParen .expectedLeftParen)
  have first := named.quiet_between (opened.trans closed) quiet
  have second := (named.trans opened).quiet_between closed quiet
  obtain ⟨name, at_name⟩ := identifier_quiet first
  obtain ⟨opening, at_opening⟩ := expect_quiet (second.trans first.symm) (by decide)
  obtain ⟨closing, at_closing⟩ := expect_quiet (c := .expectedRightParen)
    (quiet.trans second.symm) (by decide)
  refine ⟨name, opening, closing, ?_⟩
  rw [at_name, at_opening, at_closing]
  rfl

theorem intLiteral_quiet (here : p.isAt .int = true) (quiet : p.intLiteral.2.errors = p.errors) :
    ∃ n : Numeral, p.upcoming = n.token :: p.intLiteral.2.upcoming := by
  obtain ⟨leaf, whole, first⟩ := upcoming_of_isAt here (by decide)
  by_cases inRange : Text.decimalValue p.current.text ≤ maxInt
  · rw [intLiteral_inRange here inRange]
    rw [first] at inRange
    exact ⟨⟨leaf.token, leaf.isKind, inRange⟩, whole⟩
  · rw [intLiteral_great (Nat.lt_of_not_le inRange)] at quiet
    exact absurd quiet (Reaches.not_quiet (reaches_advance _))

theorem expression_quiet (quiet : p.expression.2.errors = p.errors) :
    ∃ e : Grammar.Expression, p.upcoming = e.yield ++ p.expression.2.upcoming := by
  unfold expression at quiet ⊢
  split
  · rename_i here
    rw [if_pos here] at quiet
    split
    · rename_i before
      rw [if_pos before] at quiet
      obtain ⟨name, opening, closing, whole⟩ := call_quiet quiet
      exact ⟨.call name opening closing, whole⟩
    · rename_i before
      rw [if_neg before] at quiet
      obtain ⟨name, whole⟩ := identifier_quiet quiet
      exact ⟨.identifier name, whole⟩
  · rename_i noIdent
    rw [if_neg noIdent] at quiet
    split
    · rename_i here
      rw [if_pos here] at quiet
      obtain ⟨n, whole⟩ := intLiteral_quiet here quiet
      exact ⟨.int n, whole⟩
    · -- nothing takes the report back, however far the parser goes on
      rename_i noInt
      rw [if_neg noInt] at quiet
      exact absurd quiet (Reaches.not_quiet (reaches_dropStray _))

theorem equals_quiet (quiet : p.equals.errors = p.errors) :
    ∃ equalsSign : Leaf .assign, p.upcoming = equalsSign.token :: p.equals.upcoming := by
  unfold equals at quiet ⊢
  split
  · rename_i here
    obtain ⟨leaf, whole, _⟩ := upcoming_of_isAt here (by decide)
    exact ⟨leaf, whole⟩
  · rename_i off
    rw [if_neg off] at quiet
    exact absurd quiet (Reaches.not_quiet (reaches_dropStray _))

theorem value_quiet (quiet : p.expression.2.semicolon.errors = p.errors) :
    ∃ (e : Grammar.Expression) (semicolon : Leaf .semicolon),
      p.upcoming = e.yield ++ semicolon.token :: p.expression.2.semicolon.upcoming := by
  have expressed := reaches_expression p
  have ended := reaches_semicolon p.expression.2
  have first := expressed.quiet_between ended quiet
  obtain ⟨e, whole⟩ := expression_quiet first
  obtain ⟨semicolon, last⟩ := expect_quiet (c := .expectedSemicolon) (quiet.trans first.symm)
    (by decide)
  refine ⟨e, semicolon, ?_⟩
  rw [whole, last]
  rfl

theorem assignment_quiet (quiet : p.assignment.2.errors = p.errors) :
    ∃ s : Grammar.Statement, p.upcoming = s.yield ++ p.assignment.2.upcoming := by
  have named := reaches_identifier p
  have equated := reaches_equals p.identifier.2
  have rest : Reaches p.identifier.2.equals p.assignment.2 :=
    (reaches_expression _).trans (reaches_semicolon _)
  have first := named.quiet_between (equated.trans rest) quiet
  have second := (named.trans equated).quiet_between rest quiet
  obtain ⟨name, at_name⟩ := identifier_quiet first
  obtain ⟨equalsSign, at_equals⟩ := equals_quiet (second.trans first.symm)
  obtain ⟨e, semicolon, at_value⟩ := value_quiet (p := p.identifier.2.equals)
    (quiet.trans second.symm)
  refine ⟨⟨.assignment name equalsSign, e, semicolon⟩, ?_⟩
  rw [at_name, at_equals, at_value]
  simp [Grammar.Statement.yield, Lead.yield, assignment]

theorem returnStatement_quiet (here : p.isAt (.keyword .ret) = true)
    (quiet : p.returnStatement.2.errors = p.errors) :
    ∃ s : Grammar.Statement, p.upcoming = s.yield ++ p.returnStatement.2.upcoming := by
  obtain ⟨keyword, at_keyword, _⟩ := upcoming_of_isAt here (by decide)
  obtain ⟨e, semicolon, at_value⟩ := value_quiet (p := p.advance) quiet
  refine ⟨⟨.ret keyword, e, semicolon⟩, ?_⟩
  rw [at_keyword, at_value]
  simp [Grammar.Statement.yield, Lead.yield, returnStatement]

theorem statement_quiet (quiet : p.statement.2.errors = p.errors) :
    ∃ s : Grammar.Statement, p.upcoming = s.yield ++ p.statement.2.upcoming := by
  unfold statement at quiet ⊢
  split
  · rename_i here
    rw [if_pos here] at quiet
    exact returnStatement_quiet here quiet
  · rename_i noReturn
    rw [if_neg noReturn] at quiet
    split
    · rename_i starts
      rw [if_pos starts] at quiet
      exact assignment_quiet quiet
    · rename_i noStart
      rw [if_neg noStart] at quiet
      exact absurd quiet (Reaches.not_quiet (reaches_skipUntil _ _))

theorem statements_quiet (p : Parser) (quiet : p.statements.2.errors = p.errors) :
    ∃ ss : List Grammar.Statement,
      p.upcoming = ss.flatMap Grammar.Statement.yield ++ p.statements.2.upcoming := by
  fun_induction statements p with
  | case1 p _ => exact ⟨[], rfl⟩
  | case2 p inside first more ih =>
    have one := (reaches_statement p).quiet_between (reaches_statements _) quiet
    obtain ⟨s, whole⟩ := statement_quiet one
    obtain ⟨ss, later⟩ := ih (quiet.trans one.symm)
    exact ⟨s :: ss, by rw [whole, later, List.flatMap_cons, List.append_assoc]⟩

theorem closeBlock_quiet (ended : p.isAt .rightBrace = true ∨ p.isAt .eof = true)
    (quiet : p.closeBlock.errors = p.errors) :
    ∃ closing : Leaf .rightBrace, p.upcoming = closing.token :: p.closeBlock.upcoming := by
  unfold closeBlock at quiet ⊢
  split
  · rename_i atEnd
    rw [if_pos atEnd] at quiet
    exact absurd quiet (Reaches.not_quiet .start)
  · rename_i more
    obtain ⟨closing, whole, _⟩ := upcoming_of_isAt (ended.resolve_right more) (by decide)
    exact ⟨closing, whole⟩

theorem block_quiet (quiet : p.block.2.errors = p.errors) :
    ∃ b : Grammar.Block, p.upcoming = b.yield ++ p.block.2.upcoming := by
  unfold block at quiet ⊢
  split
  · rename_i here
    rw [if_pos here] at quiet
    have filled := reaches_statements p.advance
    have closed := reaches_closeBlock p.advance.statements.2
    have inner : p.advance.statements.2.errors = p.advance.errors :=
      filled.quiet_between closed quiet
    obtain ⟨opening, at_opening, _⟩ := upcoming_of_isAt here (by decide)
    obtain ⟨ss, within⟩ := statements_quiet p.advance inner
    obtain ⟨closing, at_closing⟩ := closeBlock_quiet (statements_ended p.advance)
      (Eq.trans quiet inner.symm)
    refine ⟨⟨opening, ss, closing⟩, ?_⟩
    rw [at_opening, within, at_closing]
    simp [Grammar.Block.yield]
  · rename_i off
    rw [if_neg off] at quiet
    split at quiet
    · exact absurd quiet (Reaches.not_quiet .start)
    · exact absurd quiet
        (Reaches.not_quiet ((reaches_statements _).trans (reaches_closeBlock _)))

theorem parameters_quiet (quiet : p.parameters.errors = p.errors) :
    ∃ (opening : Leaf .leftParen) (closing : Leaf .rightParen),
      p.upcoming = opening.token :: closing.token :: p.parameters.upcoming := by
  unfold parameters at quiet ⊢
  split
  · rename_i here
    rw [Bool.and_eq_true] at here
    obtain ⟨opening, at_opening, _⟩ := upcoming_of_isAt here.1 (by decide)
    have next : p.advance.isAt .rightParen = true := here.2
    obtain ⟨closing, at_closing, _⟩ := upcoming_of_isAt next (by decide)
    exact ⟨opening, closing, by rw [at_opening, at_closing]⟩
  · rename_i off
    rw [if_neg off] at quiet
    dsimp only at quiet
    split at quiet
    · exact absurd quiet (Reaches.not_quiet ((reaches_advance _).trans
        ((reaches_skipUntil _ _).trans (reaches_eat _ _))))
    · exact absurd quiet (Reaches.not_quiet .start)

theorem returnType_quiet (quiet : p.returnType.2.errors = p.errors) :
    ∃ type : Option (Leaf .ident),
      p.upcoming = Grammar.typeYield type ++ p.returnType.2.upcoming := by
  unfold returnType at quiet ⊢
  split
  · rename_i here
    rw [if_pos here] at quiet
    obtain ⟨name, whole⟩ := identifier_quiet quiet
    exact ⟨some name, whole⟩
  · exact ⟨none, rfl⟩

theorem function_quiet (here : p.isAt (.keyword .fn) = true)
    (quiet : p.function.2.errors = p.errors) :
    ∃ f : Grammar.Function, p.upcoming = f.yield ++ p.function.2.upcoming := by
  have named := reaches_identifier p.advance
  have parameterized := reaches_parameters p.advance.identifier.2
  have typed := reaches_returnType p.advance.identifier.2.parameters
  have filled := reaches_block p.advance.identifier.2.parameters.returnType.2
  have first := named.quiet_between (parameterized.trans (typed.trans filled)) quiet
  have second := (named.trans parameterized).quiet_between (typed.trans filled) quiet
  have third := (named.trans (parameterized.trans typed)).quiet_between filled quiet
  obtain ⟨keyword, at_keyword, _⟩ := upcoming_of_isAt here (by decide)
  obtain ⟨name, at_name⟩ := identifier_quiet first
  obtain ⟨opening, closing, at_parens⟩ := parameters_quiet (second.trans first.symm)
  obtain ⟨type, at_type⟩ := returnType_quiet (third.trans second.symm)
  obtain ⟨body, at_body⟩ := block_quiet (Eq.trans quiet third.symm)
  refine ⟨⟨keyword, name, opening, closing, type, body⟩, ?_⟩
  rw [at_keyword, at_name, at_parens, at_type, at_body]
  simp [Grammar.Function.yield, function]

theorem declarations_quiet (p : Parser) (quiet : p.declarations.2.errors = p.errors) :
    ∃ fs : List Grammar.Function,
      p.upcoming = fs.flatMap Grammar.Function.yield ++ p.declarations.2.upcoming := by
  fun_induction declarations p with
  | case1 p _ => exact ⟨[], rfl⟩
  | case2 p more here first others ih =>
    have one := (reaches_function p).quiet_between (reaches_declarations _) quiet
    obtain ⟨f, whole⟩ := function_quiet here one
    obtain ⟨fs, later⟩ := ih (quiet.trans one.symm)
    exact ⟨f :: fs, by rw [whole, later, List.flatMap_cons, List.append_assoc]⟩
  | case3 p _ _ ih =>
    exact absurd quiet
      (Reaches.not_quiet ((reaches_skipUntil _ _).trans (reaches_declarations _)))

end Quiet

theorem derived_of_declarations {p : Parser} (quiet : p.declarations.2.errors = p.errors)
    (proper : ∀ t ∈ p.upcoming, t.kind ≠ .eof) : ∃ d : Grammar.Program, d.yield = p.upcoming := by
  obtain ⟨fs, whole⟩ := declarations_quiet p quiet
  have short := (reaches_declarations p).upcoming_suffix
  -- what is left at the end is a suffix of the tokens, and no token is the end of the text
  have nothing : p.declarations.2.upcoming = [] :=
    upcoming_eq_nil (declarations_ended p) fun t member => proper t (short.subset member)
  rw [nothing, List.append_nil] at whole
  exact ⟨⟨fs⟩, whole.symm⟩

end Parser

theorem parse_derived {text : Text} {d : Grammar.Program} (derives : d.yield = tokens text) :
    parse text = (d.tree, []) :=
  Parser.parse_of_reads derives.symm (Parser.reads_derived_functions d.functions rfl)

theorem derived_of_quiet {text : Text} (quiet : (parse text).2 = []) :
    ∃ d : Grammar.Program, d.yield = tokens text :=
  Parser.derived_of_declarations (p := Parser.ofText text) quiet
    fun _ member => ne_eof_of_mem_tokens member

/-- The parser accepts the language of the grammar, and gives the tree of the one derivation. -/
theorem parse_accepts_grammar (text : Text) :
    ((parse text).2 = [] ↔ ∃ d : Grammar.Program, d.yield = tokens text) ∧
      ∀ d : Grammar.Program, d.yield = tokens text →
        (parse text).1 = d.tree ∧ ∀ e : Grammar.Program, e.yield = tokens text → e = d := by
  refine ⟨⟨derived_of_quiet, ?_⟩, ?_⟩
  · rintro ⟨d, derives⟩
    rw [parse_derived derives]
  · intro d derives
    refine ⟨by rw [parse_derived derives], ?_⟩
    intro e same
    exact Grammar.derivation_unique (same.trans derives.symm)

namespace Grammar

def sampleText : Text := "fn f() \x7bx = 7; return g();\x7d".toList

def sample : Program :=
  let body : Block :=
    ⟨.scanned "\x7b" 7,
      [⟨.assignment (.scanned "x" 8) (.scanned "=" 10), .int ⟨(Leaf.scanned "7" 12).token, rfl, by decide⟩,
          .scanned ";" 13⟩,
        ⟨.ret (.scanned "return" 15), .call (.scanned "g" 22) (.scanned "(" 23) (.scanned ")" 24),
          .scanned ";" 25⟩],
      .scanned "\x7d" 26⟩
  ⟨[⟨.scanned "fn" 0, .scanned "f" 3, .scanned "(" 4, .scanned ")" 5, none, body⟩]⟩

end Grammar

theorem parse_accepts_sample :
    Grammar.sample.yield = tokens Grammar.sampleText ∧
      parse Grammar.sampleText = (Grammar.sample.tree, []) := by
  have derives : Grammar.sample.yield = tokens Grammar.sampleText := by decide +kernel
  obtain ⟨accepts, tree⟩ := parse_accepts_grammar Grammar.sampleText
  exact ⟨derives, Prod.ext (tree _ derives).1 (accepts.mpr ⟨_, derives⟩)⟩

end Minilang
