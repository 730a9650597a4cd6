import Minilang.Parser.Progress

namespace Minilang
namespace Parser

def statements (p : Parser) : List Statement × Parser :=
  if p.isAt .rightBrace || p.isAt .eof then ([], p)
  else
    let first := p.statement
    let more := statements first.2
    (first.1.toList ++ more.1, more.2)
termination_by p.upcoming.length
decreasing_by
  apply statement_length_lt <;> simp_all

theorem statements_length_le (p : Parser) :
    p.statements.2.upcoming.length ≤ p.upcoming.length := by
  fun_induction statements p with
  | case1 p _ => exact Nat.le_refl _
  | case2 p inside first more ih =>
    exact Nat.le_trans ih (Nat.le_of_lt (statement_length_lt (by simp_all) (by simp_all)))

theorem statements_ended (p : Parser) :
    p.statements.2.isAt .rightBrace = true ∨ p.statements.2.isAt .eof = true := by
  fun_induction statements p with
  | case1 p ended => simpa using ended
  | case2 p inside first more ih => exact ih

def closeBlock (p : Parser) : Parser :=
  if p.isAt .eof then p.report .unexpectedEof else p.advance

/-- A block without its opening brace is read as if the brace were there, unless the text ends. -/
def block (p : Parser) : Block × Parser :=
  if p.isAt .leftBrace then
    let inner := p.advance.statements
    (⟨inner.1⟩, inner.2.closeBlock)
  else if p.isAt .eof then (⟨[]⟩, p.report .expectedBlock)
  else
    let inner := (p.report .expectedBlock).statements
    (⟨inner.1⟩, inner.2.closeBlock)

/-- Parameters are reported once, and skipped with their closing parenthesis. -/
def parameters (p : Parser) : Parser :=
  if p.isAt .leftParen && p.isBefore .rightParen then p.advance.advance
  else
    let reported := p.report .expectedEmptyParameterList
    if reported.isAt .leftParen then
      let skipped := reported.advance.skipUntil fun p =>
        p.isAt .rightParen || p.isAt .leftBrace || p.isAt .rightBrace
      (skipped.eat .rightParen).2
    else reported

def returnType (p : Parser) : Identifier × Parser :=
  if p.isAt .ident then p.identifier else (.void, p)

/-- Takes the current token as the keyword. -/
def function (p : Parser) : FunctionDecl × Parser :=
  let name := p.advance.identifier
  let type := name.2.parameters.returnType
  let body := type.2.block
  (⟨name.1, type.1, body.1⟩, body.2)

def skipToFunction (p : Parser) : Parser := p.skipUntil (isAt (.keyword .fn))

theorem closeBlock_length_le (p : Parser) :
    p.closeBlock.upcoming.length ≤ p.upcoming.length := by
  unfold closeBlock
  split
  · exact Nat.le_refl _
  · exact advance_length_le p

theorem block_length_le (p : Parser) : p.block.2.upcoming.length ≤ p.upcoming.length := by
  unfold block
  split
  · exact Nat.le_trans (closeBlock_length_le _)
      (Nat.le_trans (statements_length_le _) (advance_length_le p))
  · split
    · exact Nat.le_refl _
    · exact Nat.le_trans (closeBlock_length_le _)
        (statements_length_le (p.report .expectedBlock))

theorem eat_length_le (kind : Kind) (p : Parser) :
    (p.eat kind).2.upcoming.length ≤ p.upcoming.length := by
  unfold eat
  split
  · exact advance_length_le p
  · exact Nat.le_refl _

theorem parameters_length_le (p : Parser) :
    p.parameters.upcoming.length ≤ p.upcoming.length := by
  unfold parameters
  split
  · exact Nat.le_trans (advance_length_le _) (advance_length_le p)
  · simp only
    split
    · exact Nat.le_trans (eat_length_le _ _) (Nat.le_trans (skipUntil_length_le _ _)
        (advance_length_le (p.report .expectedEmptyParameterList)))
    · exact Nat.le_refl _

theorem returnType_length_le (p : Parser) :
    p.returnType.2.upcoming.length ≤ p.upcoming.length := by
  unfold returnType
  split
  · exact identifier_length_le p
  · exact Nat.le_refl _

theorem function_length_lt {p : Parser} (more : p.isAt .eof = false) :
    p.function.2.upcoming.length < p.upcoming.length :=
  Nat.lt_of_le_of_lt (block_length_le _)
    (Nat.lt_of_le_of_lt (returnType_length_le _)
      (Nat.lt_of_le_of_lt (parameters_length_le _)
        (Nat.lt_of_le_of_lt (identifier_length_le _) (advance_length_lt more))))

theorem skipToFunction_length_lt {p : Parser} (far : p.isAt (.keyword .fn) = false)
    (more : p.isAt .eof = false) :
    (p.report .expectedTopLevelDeclaration).skipToFunction.upcoming.length <
      p.upcoming.length :=
  skipUntil_length_lt (p := p.report .expectedTopLevelDeclaration) far more

def declarations (p : Parser) : List FunctionDecl × Parser :=
  if p.isAt .eof then ([], p)
  else if p.isAt (.keyword .fn) then
    let first := p.function
    let more := declarations first.2
    (first.1 :: more.1, more.2)
  else declarations (p.report .expectedTopLevelDeclaration).skipToFunction
termination_by p.upcoming.length
decreasing_by
  · apply function_length_lt; simp_all
  · apply skipToFunction_length_lt <;> simp_all

theorem declarations_ended (p : Parser) : p.declarations.2.isAt .eof = true := by
  fun_induction declarations p with
  | case1 p ended => exact ended
  | case2 p more here first others ih => exact ih
  | case3 p _ _ ih => exact ih

theorem declarations_at_end {p : Parser} (ended : p.isAt .eof = true) :
    p.declarations = ([], p) := by
  rw [declarations, if_pos ended]

def program (p : Parser) : Program × Parser := (⟨p.declarations.1⟩, p.declarations.2)

end Parser

/-- The program that a text holds, and every error met on the way, in the order of the text. -/
def parse (text : Text) : Program × List SyntaxError :=
  let done := (Parser.ofText text).program
  (done.1, done.2.errors)

end Minilang
