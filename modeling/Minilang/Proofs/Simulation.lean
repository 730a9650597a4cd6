import Minilang.Parser.Declarations

/-!
What the phrases see of a parser: the kinds of two tokens and the text of the first. A map of
parsers that leaves these as they are, and goes along with advancing and reporting, goes along with
every phrase.
-/
namespace Minilang.Parser

structure Simulation where
  map : Parser → Parser
  map_kind : ∀ p, (map p).current.kind = p.current.kind
  map_text : ∀ p, (map p).current.text = p.current.text
  map_peek : ∀ p, (map p).peek.kind = p.peek.kind
  map_advance : ∀ p, (map p).advance = map p.advance
  map_report : ∀ cause p, (map p).report cause = map (p.report cause)

namespace Simulation
variable (s : Simulation)

attribute [simp] map_text map_advance map_report

def result {α : Type} (a : α × Parser) : α × Parser := (a.1, s.map a.2)

@[simp] theorem map_isAt (kind : Kind) (p : Parser) : (s.map p).isAt kind = p.isAt kind := by
  simp [isAt, s.map_kind]

@[simp] theorem map_isBefore (kind : Kind) (p : Parser) :
    (s.map p).isBefore kind = p.isBefore kind := by
  simp [isBefore, s.map_peek]

@[simp] theorem map_atBoundary (p : Parser) : (s.map p).atBoundary = p.atBoundary := by
  simp [atBoundary]

@[simp] theorem map_startsStatement (p : Parser) :
    (s.map p).startsStatement = p.startsStatement := by
  simp [startsStatement]

@[simp] theorem map_expect (kind : Kind) (cause : Cause) (p : Parser) :
    (s.map p).expect kind cause = s.map (p.expect kind cause) := by
  simp only [expect, map_isAt, map_advance, map_report]
  split <;> rfl

@[simp] theorem map_eat (kind : Kind) (p : Parser) :
    (s.map p).eat kind = s.result (p.eat kind) := by
  simp only [eat, map_isAt, map_advance]
  split <;> rfl

@[simp] theorem map_dropStray (p : Parser) : (s.map p).dropStray = s.map p.dropStray := by
  simp only [dropStray, map_atBoundary, map_advance]
  split <;> rfl

theorem map_skipUntil (halt : Parser → Bool) (unseen : ∀ p, halt (s.map p) = halt p)
    (p : Parser) : (s.map p).skipUntil halt = s.map (p.skipUntil halt) := by
  fun_induction skipUntil halt p with
  | case1 p ends =>
    rw [skipUntil]
    simp only [unseen, map_isAt, ends, ↓reduceIte]
  | case2 p goes ih =>
    rw [skipUntil]
    simp only [unseen, map_isAt, goes, Bool.false_eq_true, ↓reduceIte, map_advance, ih]

@[simp] theorem map_identifier (p : Parser) :
    (s.map p).identifier = s.result p.identifier := by
  simp only [identifier, map_isAt, map_text, map_advance, map_report]
  split <;> rfl

theorem intValue?_current (p : Parser) :
    intValue? (s.map p).current = intValue? p.current := by
  simp [intValue?, s.map_kind]

@[simp] theorem map_intLiteral (p : Parser) :
    (s.map p).intLiteral = s.result p.intLiteral := by
  simp only [intLiteral, intValue?_current, map_text, map_advance, map_report]
  split <;> rfl

@[simp] theorem map_call (p : Parser) : (s.map p).call = s.result p.call := by
  simp [call, result]

@[simp] theorem map_expression (p : Parser) :
    (s.map p).expression = s.result p.expression := by
  simp only [expression, map_isAt, map_isBefore, map_call, map_identifier,
    map_intLiteral, map_report, map_dropStray]
  split
  · split <;> rfl
  · split <;> rfl

@[simp] theorem map_equals (p : Parser) : (s.map p).equals = s.map p.equals := by
  simp only [equals, map_isAt, map_advance, map_report, map_dropStray]
  split <;> rfl

@[simp] theorem map_semicolon (p : Parser) : (s.map p).semicolon = s.map p.semicolon :=
  map_expect s _ _ p

@[simp] theorem map_assignment (p : Parser) :
    (s.map p).assignment = s.result p.assignment := by
  simp [assignment, result]

@[simp] theorem map_returnStatement (p : Parser) :
    (s.map p).returnStatement = s.result p.returnStatement := by
  simp [returnStatement, result]

@[simp] theorem map_skipStatement (p : Parser) :
    (s.map p).skipStatement = s.map p.skipStatement :=
  map_skipUntil s _ (by simp) p

@[simp] theorem map_statement (p : Parser) :
    (s.map p).statement = s.result p.statement := by
  simp only [statement, map_isAt, map_startsStatement, map_returnStatement,
    map_assignment, map_report, map_skipStatement]
  split
  · rfl
  · split <;> rfl

@[simp] theorem map_statements (p : Parser) :
    (s.map p).statements = s.result p.statements := by
  fun_induction statements p with
  | case1 p ends =>
    rw [statements]
    simp only [map_isAt, ends, ↓reduceIte, result]
  | case2 p goes first more ih =>
    rw [statements]
    simp only [map_isAt, goes, map_statement, result] at ih ⊢
    simp only [Bool.false_eq_true, ↓reduceIte]
    rw [ih]

@[simp] theorem map_closeBlock (p : Parser) :
    (s.map p).closeBlock = s.map p.closeBlock := by
  simp only [closeBlock, map_isAt, map_advance, map_report]
  split <;> rfl

@[simp] theorem map_block (p : Parser) : (s.map p).block = s.result p.block := by
  simp only [block, map_isAt, map_advance, map_report, map_statements, result,
    map_closeBlock]
  split
  · rfl
  · split <;> rfl

@[simp] theorem map_parameters (p : Parser) :
    (s.map p).parameters = s.map p.parameters := by
  have skipped := map_skipUntil s (fun p => p.isAt .rightParen || p.isAt .leftBrace ||
    p.isAt .rightBrace) (by simp)
  simp only [parameters, map_isAt, map_isBefore, map_advance, map_report,
    skipped, map_eat, result]
  split
  · rfl
  · split <;> rfl

@[simp] theorem map_returnType (p : Parser) :
    (s.map p).returnType = s.result p.returnType := by
  simp only [returnType, map_isAt, map_identifier]
  split <;> rfl

@[simp] theorem map_function (p : Parser) : (s.map p).function = s.result p.function := by
  simp [function, result]

@[simp] theorem map_skipToFunction (p : Parser) :
    (s.map p).skipToFunction = s.map p.skipToFunction :=
  map_skipUntil s _ (by simp) p

theorem map_declarations (p : Parser) :
    (s.map p).declarations = s.result p.declarations := by
  fun_induction declarations p with
  | case1 p ended =>
    rw [declarations]
    simp only [map_isAt, ended, ↓reduceIte, result]
  | case2 p more here first others ih =>
    rw [declarations]
    simp only [map_isAt, more, here, map_function, result] at ih ⊢
    simp only [Bool.false_eq_true, ↓reduceIte]
    rw [ih]
  | case3 p more off ih =>
    rw [declarations]
    simp only [map_isAt, more, off, map_report, map_skipToFunction] at ih ⊢
    simp only [Bool.false_eq_true, ↓reduceIte]
    rw [ih]

end Simulation
end Minilang.Parser
