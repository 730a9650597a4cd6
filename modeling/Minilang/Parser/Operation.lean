import Minilang.Parser.Declarations

namespace Minilang.Parser

inductive Operation
  | program
  | function
  | block
  | statement
  | assignment
  | returnStatement
  | expression
  | call
  | intLiteral
  | identifier
  | parameters
  | semicolon
  | skipStatement
  | startsStatement
  | atBoundary
  | advance
  | eat (kind : Kind)
  | report (cause : Cause)
deriving DecidableEq, Repr

inductive Outcome
  | program (node : Program)
  | function (node : FunctionDecl)
  | block (node : Block)
  | statement (node : Option Statement)
  | assignment (node : Assignment)
  | returnStatement (node : Return)
  | expression (node : Expression)
  | call (node : Call)
  | intLiteral (node : IntLiteral)
  | identifier (node : Identifier)
  | flag (holds : Bool)
  | token (taken : Token)
  | done
deriving DecidableEq, Repr

def Operation.run (p : Parser) : Operation → Outcome × Parser
  | .program => (.program p.program.1, p.program.2)
  | .function => (.function p.function.1, p.function.2)
  | .block => (.block p.block.1, p.block.2)
  | .statement => (.statement p.statement.1, p.statement.2)
  | .assignment => (.assignment p.assignment.1, p.assignment.2)
  | .returnStatement => (.returnStatement p.returnStatement.1, p.returnStatement.2)
  | .expression => (.expression p.expression.1, p.expression.2)
  | .call => (.call p.call.1, p.call.2)
  | .intLiteral => (.intLiteral p.intLiteral.1, p.intLiteral.2)
  | .identifier => (.identifier p.identifier.1, p.identifier.2)
  | .parameters => (.done, p.parameters)
  | .semicolon => (.done, p.semicolon)
  | .skipStatement => (.done, p.skipStatement)
  | .startsStatement => (.flag p.startsStatement, p)
  | .atBoundary => (.flag p.atBoundary, p)
  | .advance => (.token p.current, p.advance)
  | .eat kind => (.flag (p.eat kind).1, (p.eat kind).2)
  | .report cause => (.done, p.report cause)

def after (p : Parser) (operations : List Operation) : Parser :=
  operations.foldl (fun p o => (o.run p).2) p

end Minilang.Parser
