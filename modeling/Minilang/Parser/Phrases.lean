import Minilang.Parser.State
import Minilang.Tree

/-!
The phrases of the language. Each is read from the current token on, gives a tree in any case, and
leaves the parser where the next phrase is looked for.
-/
namespace Minilang.Parser

def maxInt : Nat := Nat.pow 2 63 - 1

def intValue? (t : Token) : Option Int :=
  if t.kind = .int ∧ Text.decimalValue t.text ≤ maxInt then some (Text.decimalValue t.text)
  else none

def identifier (p : Parser) : Identifier × Parser :=
  if p.isAt .ident then (⟨p.current.text⟩, p.advance)
  else (⟨[]⟩, p.report .expectedIdentifier)

theorem identifier_at {p : Parser} (here : p.isAt .ident = true) :
    p.identifier = (⟨p.current.text⟩, p.advance) := if_pos here

/-- Takes the current token whatever it is. -/
def intLiteral (p : Parser) : IntLiteral × Parser :=
  match intValue? p.current with
  | some value => (⟨value, p.current.text⟩, p.advance)
  | none => (⟨0, p.current.text⟩, (p.report .invalidIntLiteral).advance)

theorem intLiteral_inRange {p : Parser} (here : p.isAt .int = true)
    (inRange : Text.decimalValue p.current.text ≤ maxInt) :
    p.intLiteral = (⟨Text.decimalValue p.current.text, p.current.text⟩, p.advance) := by
  have same : p.current.kind = .int := by simpa [isAt] using here
  simp [intLiteral, intValue?, same, inRange]

theorem intLiteral_great {p : Parser} (great : maxInt < Text.decimalValue p.current.text) :
    p.intLiteral = (⟨0, p.current.text⟩, (p.report .invalidIntLiteral).advance) := by
  have outOfRange : ¬ Text.decimalValue p.current.text ≤ maxInt := Nat.not_le.mpr great
  simp [intLiteral, intValue?, outOfRange]

def call (p : Parser) : Call × Parser :=
  let name := p.identifier
  let opened := name.2.expect .leftParen .expectedLeftParen
  (⟨name.1⟩, opened.expect .rightParen .expectedRightParen)

theorem call_at {p : Parser} (here : p.isAt .ident = true) (before : p.isBefore .leftParen = true) :
    p.call =
      (⟨⟨p.current.text⟩⟩, p.advance.advance.expect .rightParen .expectedRightParen) := by
  have opened : p.advance.expect .leftParen .expectedLeftParen = p.advance.advance := if_pos before
  simp only [call, identifier_at here, opened]

def expression (p : Parser) : Expression × Parser :=
  if p.isAt .ident then
    if p.isBefore .leftParen then (.call p.call.1, p.call.2)
    else (.identifier p.identifier.1, p.identifier.2)
  else if p.isAt .int then (.int p.intLiteral.1, p.intLiteral.2)
  else (.missing, (p.report .expectedExpression).dropStray)

def semicolon (p : Parser) : Parser := p.expect .semicolon .expectedSemicolon

def equals (p : Parser) : Parser :=
  if p.isAt .assign then p.advance else (p.report .expectedAssignment).dropStray

def assignment (p : Parser) : Assignment × Parser :=
  let target := p.identifier
  let value := target.2.equals.expression
  (⟨target.1, value.1⟩, value.2.semicolon)

theorem assignment_at {p : Parser} (here : p.isAt .ident = true)
    (before : p.isBefore .assign = true) :
    p.assignment = (⟨⟨p.current.text⟩, p.advance.advance.expression.1⟩,
      p.advance.advance.expression.2.semicolon) := by
  have equated : p.advance.equals = p.advance.advance := if_pos before
  simp only [assignment, identifier_at here, equated]

def returnStatement (p : Parser) : Return × Parser :=
  let value := p.advance.expression
  (⟨value.1⟩, value.2.semicolon)

/-- Advances to the next token that can begin a statement or end the block. -/
def skipStatement (p : Parser) : Parser :=
  p.skipUntil fun p => p.startsStatement || p.isAt .rightBrace

/-- Gives no statement where none begins, and skips to where the next may. -/
def statement (p : Parser) : Option Statement × Parser :=
  if p.isAt (.keyword .ret) then (some (.ret p.returnStatement.1), p.returnStatement.2)
  else if p.startsStatement then (some (.assignment p.assignment.1), p.assignment.2)
  else (none, (p.report .expectedStatement).skipStatement)

end Minilang.Parser
