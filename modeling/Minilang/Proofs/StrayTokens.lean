import Minilang.Proofs.Acceptance

namespace Minilang
namespace Grammar

structure Gap where
  tokens : List Token
  free : ∀ t ∈ tokens, t.kind ≠ .keyword .fn ∧ t.kind ≠ .eof

structure LitteredBlock where
  opening : Leaf .leftBrace
  statements : List ({ w : List Token // Parser.Stray w } × Statement)
  rest : { w : List Token // Parser.Stray w }
  closing : Leaf .rightBrace

structure LitteredFunction where
  keyword : Leaf (.keyword .fn)
  name : Leaf .ident
  opening : Leaf .leftParen
  closing : Leaf .rightParen
  type : Option (Leaf .ident)
  body : LitteredBlock

structure LitteredProgram where
  functions : List (Gap × LitteredFunction)
  rest : Gap

def LitteredBlock.yield (b : LitteredBlock) : List Token :=
  b.opening.token :: (b.statements.flatMap (fun s => s.1.val ++ s.2.yield) ++ b.rest.val ++
    [b.closing.token])

def LitteredFunction.yield (f : LitteredFunction) : List Token :=
  [f.keyword.token, f.name.token, f.opening.token, f.closing.token] ++ typeYield f.type ++
    f.body.yield

def LitteredProgram.yield (p : LitteredProgram) : List Token :=
  p.functions.flatMap (fun f => f.1.tokens ++ f.2.yield) ++ p.rest.tokens

def LitteredBlock.clean (b : LitteredBlock) : Block :=
  ⟨b.opening, b.statements.map Prod.snd, b.closing⟩

def LitteredFunction.clean (f : LitteredFunction) : Function :=
  ⟨f.keyword, f.name, f.opening, f.closing, f.type, f.body.clean⟩

def LitteredProgram.clean (p : LitteredProgram) : Program :=
  ⟨p.functions.map fun f => f.2.clean⟩

/-- One error at the first token of a run, and none for an empty run. -/
def complaint (cause : Cause) (w : List Token) : List SyntaxError :=
  (w.head?.map fun t => t.fault cause).toList

def LitteredBlock.errors (b : LitteredBlock) : List SyntaxError :=
  b.statements.flatMap (fun s => complaint .expectedStatement s.1.val) ++
    complaint .expectedStatement b.rest.val

def LitteredProgram.errors (p : LitteredProgram) : List SyntaxError :=
  p.functions.flatMap (fun f =>
      complaint .expectedTopLevelDeclaration f.1.tokens ++ f.2.body.errors) ++
    complaint .expectedTopLevelDeclaration p.rest.tokens

end Grammar

namespace Parser
open Grammar (Leaf Gap LitteredBlock LitteredFunction LitteredProgram complaint)

variable {stop : Nat} {w v rest : List Token} {gs : List SyntaxError}

theorem reads_after_stray {more : List Statement} (stray : Stray w)
    (ready : resumes stop (v ++ rest) = true) (others : Reads statements stop v rest more gs) :
    Reads statements stop (w ++ v) rest more (complaint .expectedStatement w ++ gs) := by
  cases w with
  | nil => exact others
  | cons t w => exact reads_statements_strayed stray ready others

theorem reads_after_gap {more : List FunctionDecl} (gap : Gap)
    (ready : (upNext stop (v ++ rest)).kind = .keyword .fn ∨ (upNext stop (v ++ rest)).kind = .eof)
    (others : Reads declarations stop v rest more gs) :
    Reads declarations stop (gap.tokens ++ v) rest more
      (complaint .expectedTopLevelDeclaration gap.tokens ++ gs) := by
  obtain ⟨w, free⟩ := gap
  cases w with
  | nil => exact others
  | cons t w => exact reads_declarations_skip free ready others

theorem reads_littered_statements
    (ss : List ({ w : List Token // Stray w } × Grammar.Statement))
    (last : { w : List Token // Stray w }) (closing : Leaf .rightBrace) :
    Reads statements stop (ss.flatMap (fun s => s.1.val ++ s.2.yield) ++ last.val)
      (closing.token :: rest) ((ss.map Prod.snd).map Grammar.Statement.tree)
      (ss.flatMap (fun s => complaint .expectedStatement s.1.val) ++
        complaint .expectedStatement last.val) := by
  induction ss with
  | nil =>
    have ended : Reads statements stop [] (closing.token :: rest) [] [] :=
      reads_statements_end (Or.inl closing.isKind)
    simpa using reads_after_stray last.property (resumes_brace closing) ended
  | cons s ss ih =>
    obtain ⟨⟨w, stray⟩, s⟩ := s
    have one := reads_derived_statement s ih
    -- the run ends in front of a lead, which is where skipping ends
    have ready : resumes stop ((s.yield ++ (ss.flatMap (fun s => s.1.val ++ s.2.yield) ++
        last.val)) ++ closing.token :: rest) = true := by
      simp only [Grammar.Statement.yield, List.append_assoc]
      exact resumes_lead s.lead
    simpa using reads_after_stray stray ready one

theorem reads_littered_block (b : LitteredBlock) :
    Reads block stop b.yield rest b.clean.tree b.errors := by
  have filled : Reads statements stop (b.statements.flatMap (fun s => s.1.val ++ s.2.yield) ++
      b.rest.val) ([b.closing.token] ++ rest) b.clean.tree.statements b.errors :=
    reads_littered_statements b.statements b.rest b.closing
  have closed : Moves closeBlock stop [b.closing.token] rest [] := moves_closeBlock b.closing
  have read := reads_block b.opening filled closed
  rw [List.append_nil] at read
  exact read

theorem reads_littered_function (f : LitteredFunction) :
    Reads function stop f.yield rest f.clean.tree f.body.errors := by
  have typed : Reads returnType stop (Grammar.typeYield f.type) (f.body.yield ++ rest)
      (Grammar.typeTree f.type) [] :=
    reads_returnType f.type (by simp [LitteredBlock.yield, f.body.opening.isKind])
  have read := reads_function f.keyword (reads_identifier f.name)
    (moves_parameters f.opening f.closing) typed (reads_littered_block f.body)
  exact read

theorem reads_littered_functions (fs : List (Gap × LitteredFunction)) (last : Gap) :
    Reads declarations stop (fs.flatMap (fun f => f.1.tokens ++ f.2.yield) ++ last.tokens) []
      (fs.map fun f => f.2.clean.tree)
      (fs.flatMap (fun f => complaint .expectedTopLevelDeclaration f.1.tokens ++ f.2.body.errors) ++
        complaint .expectedTopLevelDeclaration last.tokens) := by
  induction fs with
  | nil =>
    have ended : Reads declarations stop [] [] [] [] := reads_declarations_end rfl
    simpa using reads_after_gap last (Or.inr rfl) ended
  | cons f fs ih =>
    obtain ⟨gap, f⟩ := f
    have keyword : ∀ w, (upNext stop (f.yield ++ w)).kind = .keyword .fn := by
      intro w
      simp [LitteredFunction.yield, f.keyword.isKind]
    have one := reads_declarations_next (keyword _) (reads_littered_function f) ih
    have read := reads_after_gap gap (Or.inl (by rw [List.append_assoc]; exact keyword _)) one
    simpa using read

end Parser

/-- Tokens astray cost one error for each run of them, and nothing of the program. -/
theorem stray_tokens_cost_nothing (p : Grammar.LitteredProgram) :
    (∀ stop, (Parser.ofTokens p.yield stop).program =
        (p.clean.tree, ⟨[], stop, p.yield.length, p.errors⟩)) ∧
      ∀ text, tokens text = p.yield → parse text = (p.clean.tree, p.errors) := by
  have trees : p.clean.tree = ⟨p.functions.map fun f => f.2.clean.tree⟩ := by
    simp [Grammar.LitteredProgram.clean, Grammar.Program.tree]
  rw [trees]
  constructor
  · intro stop
    exact Parser.program_of_reads (Parser.reads_littered_functions p.functions p.rest)
  · intro text scanned
    exact Parser.parse_of_reads scanned (Parser.reads_littered_functions p.functions p.rest)

namespace Grammar

def litteredText : Text := "; fn f() \x7b( x = 1; fn \x7d )".toList

def littered : LitteredProgram :=
  let one : Numeral := ⟨(Leaf.scanned "1" 16).token, rfl, by decide⟩
  let statement : Statement :=
    ⟨.assignment (.scanned "x" 12) (.scanned "=" 14), .int one, .scanned ";" 17⟩
  let parenthesis : Leaf .leftParen := .scanned "(" 10
  let keyword : Leaf (.keyword .fn) := .scanned "fn" 19
  let body : LitteredBlock :=
    ⟨.scanned "\x7b" 9, [(⟨[parenthesis.token], by decide, by simp⟩, statement)],
      ⟨[keyword.token], by decide, by simp⟩, .scanned "\x7d" 22⟩
  let before : Leaf .semicolon := .scanned ";" 0
  let after : Leaf .rightParen := .scanned ")" 24
  ⟨[(⟨[before.token], by decide⟩,
      ⟨.scanned "fn" 2, .scanned "f" 5, .scanned "(" 6, .scanned ")" 7, none, body⟩)],
    ⟨[after.token], by decide⟩⟩

end Grammar

theorem stray_tokens_cost_nothing_littered :
    tokens Grammar.litteredText = Grammar.littered.yield ∧
      parse Grammar.litteredText = (Grammar.littered.clean.tree, Grammar.littered.errors) ∧
      Grammar.littered.errors.map SyntaxError.cause =
        [.expectedTopLevelDeclaration, .expectedStatement, .expectedStatement,
          .expectedTopLevelDeclaration] := by
  have scanned : tokens Grammar.litteredText = Grammar.littered.yield := by decide +kernel
  exact ⟨scanned, (stray_tokens_cost_nothing Grammar.littered).2 _ scanned, rfl⟩

end Minilang
