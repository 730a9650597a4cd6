import Minilang.Proofs.Acceptance

/-!
Local faults. A program of the grammar is edited, at most once in each statement and at most once
in the header of each function, and the brace that closes the last function may be missing. Each
edit costs one error, and nothing is lost but the values that were edited.
-/
namespace Minilang
namespace Grammar

/-- What may be wrong with a statement, by the value that the statement has. -/
inductive Edit : Expression → Type
  | noSemicolon (e : Expression) : Edit e
  | noValue (e : Expression) : Edit e
  | stray (e : Expression) (t : Token) (unfit : t.kind ≠ .ident ∧ t.kind ≠ .int ∧
      t.kind ≠ .semicolon ∧ t.kind ≠ .rightBrace) : Edit e
  | great (digits : Numeral) (t : Token) (isInt : t.kind = .int)
      (exceeds : greatest < Text.decimalValue t.text) : Edit (.int digits)
  | unclosed (function : Leaf .ident) (opening : Leaf .leftParen) (closing : Leaf .rightParen) :
      Edit (.call function opening closing)

namespace Edit
variable {e : Expression}

def yield : Edit e → List Token
  | .noSemicolon e => e.yield
  | .noValue _ => []
  | .stray _ t _ => [t]
  | .great _ t _ _ => [t]
  | .unclosed function opening _ => [function.token, opening.token]

def ending (semicolon : Leaf .semicolon) : Edit e → List Token
  | .noSemicolon _ => []
  | _ => [semicolon.token]

def tree : Edit e → Minilang.Expression
  | .noSemicolon e => e.tree
  | .noValue _ => .missing
  | .stray _ _ _ => .missing
  | .great _ t _ _ => .int ⟨0, t.text⟩
  | .unclosed function opening closing => (Expression.call function opening closing).tree

def cause : Edit e → Cause
  | .noSemicolon _ => .expectedSemicolon
  | .noValue _ => .expectedExpression
  | .stray _ _ _ => .expectedExpression
  | .great _ _ _ _ => .invalidIntLiteral
  | .unclosed _ _ _ => .expectedRightParen

end Edit

inductive HeaderEdit
  | noParentheses
  | parameters (within : List Token) (some : within ≠ []) (free : ∀ t ∈ within,
      t.kind ≠ .rightParen ∧ t.kind ≠ .leftBrace ∧ t.kind ≠ .rightBrace)

structure EditedStatement where
  original : Statement
  edit : Option (Edit original.value)

structure EditedFunction where
  original : Function
  header : Option HeaderEdit
  statements : List EditedStatement
  same : statements.map EditedStatement.original = original.body.statements

structure EditedProgram where
  original : Program
  functions : List EditedFunction
  /-- The last function, if the brace that closes it is missing. -/
  unclosed : Option EditedFunction
  same : (functions ++ unclosed.toList).map EditedFunction.original = original.functions

def EditedStatement.yield : EditedStatement → List Token
  | ⟨s, none⟩ => s.yield
  | ⟨s, some e⟩ => s.lead.yield ++ (e.yield ++ e.ending s.semicolon)

def EditedStatement.tree : EditedStatement → Minilang.Statement
  | ⟨s, none⟩ => s.tree
  | ⟨s, some e⟩ => s.lead.statement e.tree

def EditedStatement.causes (s : EditedStatement) : List Cause := (s.edit.map Edit.cause).toList

def EditedFunction.parameters (f : EditedFunction) : List Token :=
  match f.header with
  | none => [f.original.opening.token, f.original.closing.token]
  | some .noParentheses => []
  | some (.parameters within _ _) =>
    f.original.opening.token :: (within ++ [f.original.closing.token])

def EditedFunction.front (f : EditedFunction) : List Token :=
  [f.original.keyword.token, f.original.name.token] ++ f.parameters ++ typeYield f.original.type ++
    f.original.body.opening.token :: f.statements.flatMap EditedStatement.yield

def EditedFunction.yield (f : EditedFunction) : List Token :=
  f.front ++ [f.original.body.closing.token]

def EditedFunction.tree (f : EditedFunction) : FunctionDecl :=
  { f.original.tree with body := ⟨f.statements.map EditedStatement.tree⟩ }

def EditedFunction.headerCauses (f : EditedFunction) : List Cause :=
  (f.header.map fun _ => .expectedEmptyParameterList).toList

def EditedFunction.causes (f : EditedFunction) : List Cause :=
  f.headerCauses ++ f.statements.flatMap EditedStatement.causes

def EditedProgram.yield (p : EditedProgram) : List Token :=
  p.functions.flatMap EditedFunction.yield ++ p.unclosed.toList.flatMap EditedFunction.front

def EditedProgram.tree (p : EditedProgram) : Minilang.Program :=
  ⟨(p.functions ++ p.unclosed.toList).map EditedFunction.tree⟩

def EditedProgram.causes (p : EditedProgram) : List Cause :=
  p.functions.flatMap EditedFunction.causes ++
    p.unclosed.toList.flatMap fun f => f.causes ++ [.unexpectedEof]

theorem EditedStatement.unedited {s : EditedStatement} (none : s.causes = []) :
    s.yield = s.original.yield ∧ s.tree = s.original.tree := by
  obtain ⟨s, _ | edit⟩ := s
  · exact ⟨rfl, rfl⟩
  · contradiction

theorem EditedFunction.unedited {f : EditedFunction} (none : f.causes = []) :
    f.yield = f.original.yield ∧ f.tree = f.original.tree := by
  obtain ⟨outer, inner⟩ := List.append_eq_nil_iff.mp none
  have clean := List.flatMap_eq_nil_iff.mp inner
  have yields : f.statements.flatMap EditedStatement.yield =
      f.original.body.statements.flatMap Statement.yield := by
    rw [← f.same, List.flatMap_map]
    exact List.flatMap_congr fun s member => (EditedStatement.unedited (clean s member)).1
  have trees : f.statements.map EditedStatement.tree =
      f.original.body.statements.map Statement.tree := by
    rw [← f.same, List.map_map]
    exact List.map_congr_left fun s member => (EditedStatement.unedited (clean s member)).2
  have header : f.header = Option.none := by simpa [headerCauses] using outer
  constructor
  · simp [EditedFunction.yield, front, parameters, header, yields, Function.yield, Block.yield]
  · rw [EditedFunction.tree, trees]
    rfl

theorem EditedProgram.unedited {p : EditedProgram} (none : p.causes = []) :
    p.yield = p.original.yield ∧ p.tree = p.original.tree := by
  obtain ⟨inner, last⟩ := List.append_eq_nil_iff.mp none
  have closed : p.unclosed = Option.none := by
    cases h : p.unclosed with
    | none => rfl
    | some f => simp [h] at last
  have clean := List.flatMap_eq_nil_iff.mp inner
  have same := p.same
  simp only [closed, Option.toList_none, List.append_nil] at same
  constructor
  · simp only [EditedProgram.yield, closed, Option.toList_none, List.flatMap_nil, List.append_nil,
      Program.yield, ← same, List.flatMap_map]
    exact List.flatMap_congr fun f member => (EditedFunction.unedited (clean f member)).1
  · simp only [EditedProgram.tree, closed, Option.toList_none, List.append_nil, Program.tree,
      ← same, List.map_map, Minilang.Program.mk.injEq]
    exact List.map_congr_left fun f member => (EditedFunction.unedited (clean f member)).2

end Grammar

namespace Parser
open Grammar (Leaf Edit HeaderEdit EditedStatement EditedFunction EditedProgram)

variable {stop : Nat} {w v rest : List Token}

theorem reads_edit {e : Grammar.Expression} (edit : Edit e) (semicolon : Leaf .semicolon)
    (proper : ∀ t ∈ edit.yield, t.kind ≠ .eof) (ready : resumes stop rest = true) :
    ∃ fs gs, Reads expression stop edit.yield (edit.ending semicolon ++ rest) edit.tree fs ∧
      Moves Parser.semicolon stop (edit.ending semicolon) rest gs ∧
      (fs ++ gs).map SyntaxError.cause = [edit.cause] := by
  have ended : Moves Parser.semicolon stop [semicolon.token] rest [] := moves_semicolon semicolon
  cases edit with
  | noSemicolon e =>
    -- what follows is no parenthesis, so the value ends where it did
    have valued : Reads expression stop e.yield rest e.tree [] :=
      reads_expression e (e.endsBefore (resumes_ne ready (by decide)))
    have missed : Moves Parser.semicolon stop [] rest
        [(upNext stop rest).fault .expectedSemicolon] :=
      moves_expect_missing .expectedSemicolon (resumes_ne ready (by decide))
    exact ⟨_, _, valued, missed, rfl⟩
  | noValue e =>
    have missed : Reads expression stop [] (semicolon.token :: rest) .missing
        [semicolon.token.fault .expectedExpression] :=
      reads_no_expression (by simp [isBoundary, semicolon.isKind])
    exact ⟨_, _, missed, ended, rfl⟩
  | stray e t unfit =>
    obtain ⟨noIdent, noInt, noSemicolon, noBrace⟩ := unfit
    have inside : t.kind ≠ .eof := proper t List.mem_cons_self
    -- the token is dropped because no expression could end there
    have dropped : Reads expression stop [t] (semicolon.token :: rest) .missing
        [t.fault .expectedExpression] :=
      reads_stray_expression (by simp [isBoundary, noSemicolon, noBrace, inside]) noIdent noInt
    exact ⟨_, _, dropped, ended, rfl⟩
  | great digits t isInt exceeds =>
    have zero : Reads expression stop [t] (semicolon.token :: rest) (.int ⟨0, t.text⟩)
        [t.fault .invalidIntLiteral] := reads_great_int isInt exceeds
    exact ⟨_, _, zero, ended, rfl⟩
  | unclosed function opening closing =>
    have called : Reads expression stop [function.token, opening.token] (semicolon.token :: rest)
        (.call ⟨function.identifier⟩) [semicolon.token.fault .expectedRightParen] :=
      reads_unclosed_call function opening (by simp [semicolon.isKind])
    exact ⟨_, _, called, ended, rfl⟩

theorem reads_edited_statement (s : EditedStatement) {more : List Statement}
    {gs : List SyntaxError} (proper : ∀ t ∈ s.yield, t.kind ≠ .eof)
    (ready : resumes stop (v ++ rest) = true) (others : Reads statements stop v rest more gs) :
    ∃ fs, Reads statements stop (s.yield ++ v) rest (s.tree :: more) (fs ++ gs) ∧
      fs.map SyntaxError.cause = s.causes := by
  obtain ⟨s, edit⟩ := s
  cases edit with
  | none => exact ⟨[], reads_derived_statement s others, rfl⟩
  | some edit =>
    have within : ∀ t ∈ edit.yield, t.kind ≠ .eof := by
      intro t member
      exact proper t (by simp [EditedStatement.yield, member])
    obtain ⟨fs, gs, valued, ended, causes⟩ := reads_edit edit s.semicolon within ready
    exact ⟨fs ++ gs, reads_statements_led s.lead valued ended others, causes⟩

theorem resumes_edited (ss : List EditedStatement)
    (ended : (upNext stop rest).kind = .rightBrace ∨ (upNext stop rest).kind = .eof) :
    resumes stop (ss.flatMap EditedStatement.yield ++ rest) = true := by
  cases ss with
  | nil => rcases ended with ended | ended <;> simp [resumes, ended]
  | cons s ss =>
    -- no edit touches the lead
    obtain ⟨s, edit⟩ := s
    cases edit with
    | none =>
      simp only [List.flatMap_cons, EditedStatement.yield, Grammar.Statement.yield,
        List.append_assoc]
      exact resumes_lead s.lead
    | some edit =>
      simp only [List.flatMap_cons, EditedStatement.yield, List.append_assoc]
      exact resumes_lead s.lead

theorem reads_edited_statements (ss : List EditedStatement)
    (proper : ∀ t ∈ ss.flatMap EditedStatement.yield, t.kind ≠ .eof)
    (ended : (upNext stop rest).kind = .rightBrace ∨ (upNext stop rest).kind = .eof) :
    ∃ fs, Reads statements stop (ss.flatMap EditedStatement.yield) rest
        (ss.map EditedStatement.tree) fs ∧
      fs.map SyntaxError.cause = ss.flatMap EditedStatement.causes := by
  induction ss with
  | nil => exact ⟨[], reads_statements_end ended, rfl⟩
  | cons s ss ih =>
    rw [List.flatMap_cons, List.forall_mem_append] at proper
    obtain ⟨gs, others, later⟩ := ih proper.2
    obtain ⟨fs, read, first⟩ := reads_edited_statement s proper.1 (resumes_edited ss ended) others
    exact ⟨fs ++ gs, read, by rw [List.map_append, first, later, List.flatMap_cons]⟩

theorem moves_edited_parameters (f : EditedFunction) (proper : ∀ t ∈ f.parameters, t.kind ≠ .eof)
    (off : (upNext stop rest).kind ≠ .leftParen) :
    ∃ fs, Moves parameters stop f.parameters rest fs ∧
      fs.map SyntaxError.cause = f.headerCauses := by
  obtain ⟨original, header, _, _⟩ := f
  rcases header with _ | _ | ⟨within, nonempty, free⟩
  · exact ⟨[], moves_parameters original.opening original.closing, rfl⟩
  · exact ⟨_, moves_no_parameters off, rfl⟩
  · have passed : ∀ t ∈ within, endsParameters t.kind = false := by
      intro t member
      have inside : t.kind ≠ .eof := proper t (by simp [EditedFunction.parameters, member])
      simp [endsParameters, free t member, inside]
    exact ⟨_, moves_filled_parameters original.opening original.closing nonempty passed, rfl⟩

theorem reads_edited_function (f : EditedFunction) {gs : List SyntaxError}
    (proper : ∀ t ∈ f.front, t.kind ≠ .eof)
    (ended : (upNext stop (w ++ rest)).kind = .rightBrace ∨ (upNext stop (w ++ rest)).kind = .eof)
    (closed : Moves closeBlock stop w rest gs) :
    ∃ fs, Reads function stop (f.front ++ w) rest f.tree (fs ++ gs) ∧
      fs.map SyntaxError.cause = f.causes := by
  have inHeader : ∀ t ∈ f.parameters, t.kind ≠ .eof := by
    intro t member
    exact proper t (by simp [EditedFunction.front, member])
  have inBody : ∀ t ∈ f.statements.flatMap EditedStatement.yield, t.kind ≠ .eof := by
    intro t member
    exact proper t (by simp only [EditedFunction.front, List.mem_append, List.mem_cons, member,
      or_true])
  obtain ⟨hs, filled, inner⟩ := reads_edited_statements f.statements inBody ended
  have body := reads_block f.original.body.opening filled closed
  have typed : Reads returnType stop (Grammar.typeYield f.original.type)
      (f.original.body.opening.token :: (f.statements.flatMap EditedStatement.yield ++ w) ++ rest)
      (Grammar.typeTree f.original.type) [] :=
    reads_returnType f.original.type (by simp [f.original.body.opening.isKind])
  obtain ⟨fs, parameterized, outer⟩ := moves_edited_parameters f inHeader
    (type_ne_paren f.original.type f.original.body.opening)
  have read := reads_function f.original.keyword (reads_identifier f.original.name) parameterized
    typed body
  refine ⟨fs ++ hs, ?_, by rw [List.map_append, outer, inner, EditedFunction.causes]⟩
  simpa [EditedFunction.front, EditedFunction.tree, Grammar.Function.tree] using read

theorem reads_edited_functions (functions : List EditedFunction) {more : List FunctionDecl}
    {gs : List SyntaxError}
    (proper : ∀ t ∈ functions.flatMap EditedFunction.yield, t.kind ≠ .eof)
    (others : Reads declarations stop v rest more gs) :
    ∃ fs, Reads declarations stop (functions.flatMap EditedFunction.yield ++ v) rest
        (functions.map EditedFunction.tree ++ more) (fs ++ gs) ∧
      fs.map SyntaxError.cause = functions.flatMap EditedFunction.causes := by
  induction functions with
  | nil => exact ⟨[], others, rfl⟩
  | cons f functions ih =>
    rw [List.flatMap_cons, List.forall_mem_append] at proper
    obtain ⟨hs, later, causes⟩ := ih proper.2
    have front : ∀ t ∈ f.front, t.kind ≠ .eof := by
      intro t member
      exact proper.1 t (List.mem_append_left _ member)
    have closed : Moves closeBlock stop [f.original.body.closing.token]
        (functions.flatMap EditedFunction.yield ++ v ++ rest) [] :=
      moves_closeBlock f.original.body.closing
    obtain ⟨fs, one, first⟩ :=
      reads_edited_function f front (by simp [f.original.body.closing.isKind]) closed
    have read := reads_declarations_next (by simp [EditedFunction.front, f.original.keyword.isKind])
      one later
    refine ⟨fs ++ hs, ?_, by rw [List.map_append, first, causes, List.flatMap_cons]⟩
    simpa [EditedFunction.yield] using read

theorem reads_unclosed_function (last : Option EditedFunction)
    (proper : ∀ t ∈ last.toList.flatMap EditedFunction.front, t.kind ≠ .eof) :
    ∃ fs, Reads declarations stop (last.toList.flatMap EditedFunction.front) []
        (last.toList.map EditedFunction.tree) fs ∧
      fs.map SyntaxError.cause =
        last.toList.flatMap fun f => f.causes ++ [.unexpectedEof] := by
  cases last with
  | none => exact ⟨[], reads_declarations_end rfl, rfl⟩
  | some f =>
    simp only [Option.toList_some, List.flatMap_singleton] at proper ⊢
    have cut : Moves closeBlock stop [] [] [(Token.eof stop).fault .unexpectedEof] :=
      moves_unclosed rfl
    obtain ⟨fs, one, causes⟩ := reads_edited_function f proper (Or.inr rfl) cut
    have read := reads_declarations_next
      (by simp [EditedFunction.front, f.original.keyword.isKind]) one (reads_declarations_end rfl)
    refine ⟨_, by simpa using read, ?_⟩
    simp [causes, Token.fault]

end Parser

/-- Each edit of a program costs one error, and only edited values are lost. -/
theorem parse_edited {text : Text} (p : Grammar.EditedProgram) (scanned : tokens text = p.yield) :
    (parse text).1 = p.tree ∧ (parse text).2.map SyntaxError.cause = p.causes := by
  have proper : ∀ t ∈ p.yield, t.kind ≠ .eof := by
    intro t member
    exact ne_eof_of_mem_tokens (scanned ▸ member)
  rw [Grammar.EditedProgram.yield, List.forall_mem_append] at proper
  obtain ⟨gs, last, after⟩ := Parser.reads_unclosed_function p.unclosed proper.2
  obtain ⟨fs, read, causes⟩ := Parser.reads_edited_functions p.functions proper.1 last
  rw [Parser.parse_of_reads scanned read]
  refine ⟨?_, ?_⟩
  · rw [Grammar.EditedProgram.tree, List.map_append]
  · rw [List.map_append, causes, after, Grammar.EditedProgram.causes]

namespace Grammar

def editedText : Text :=
  "fn f \x7breturn 5 x = ; y = 9223372036854775808; z = g(;".toList

def edited : EditedProgram :=
  let five : Numeral := ⟨(Leaf.scanned "5" 13).token, rfl, by decide⟩
  let great : Leaf .int := .scanned "9223372036854775808" 25
  let returned : EditedStatement :=
    ⟨⟨.ret (.scanned "return" 6), .int five, .scanned ";" 14⟩, some (.noSemicolon _)⟩
  let emptied : EditedStatement :=
    ⟨⟨.assignment (.scanned "x" 15) (.scanned "=" 17), .int five, .scanned ";" 19⟩,
      some (.noValue _)⟩
  let grown : EditedStatement :=
    ⟨⟨.assignment (.scanned "y" 21) (.scanned "=" 23), .int five, .scanned ";" 44⟩,
      some (.great five great.token great.isKind (by decide))⟩
  let called : EditedStatement :=
    ⟨⟨.assignment (.scanned "z" 46) (.scanned "=" 48),
        .call (.scanned "g" 50) (.scanned "(" 51) (.scanned ")" 52), .scanned ";" 52⟩,
      some (.unclosed _ _ _)⟩
  let statements := [returned, emptied, grown, called]
  let body : Block :=
    ⟨.scanned "\x7b" 5, statements.map EditedStatement.original, .scanned "\x7d" 53⟩
  let function : Function :=
    ⟨.scanned "fn" 0, .scanned "f" 3, .scanned "(" 4, .scanned ")" 5, none, body⟩
  ⟨⟨[function]⟩, [], some ⟨function, some .noParentheses, statements, rfl⟩, rfl⟩

end Grammar

theorem parse_edited_sample :
    tokens Grammar.editedText = Grammar.edited.yield ∧
      (parse Grammar.editedText).1 = Grammar.edited.tree ∧
      (parse Grammar.editedText).2.map SyntaxError.cause =
        [.expectedEmptyParameterList, .expectedSemicolon, .expectedExpression, .invalidIntLiteral,
          .expectedRightParen, .unexpectedEof] := by
  have scanned : tokens Grammar.editedText = Grammar.edited.yield := by decide +kernel
  obtain ⟨tree, causes⟩ := parse_edited Grammar.edited scanned
  exact ⟨scanned, tree, causes⟩

end Minilang
