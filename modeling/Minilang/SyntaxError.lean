import Minilang.Diagnostic
import Minilang.Token

namespace Minilang

inductive Cause
  | expectedTopLevelDeclaration
  | expectedIdentifier
  | expectedEmptyParameterList
  | expectedBlock
  | unexpectedEof
  | expectedStatement
  | expectedAssignment
  | expectedSemicolon
  | expectedExpression
  | invalidIntLiteral
  | expectedLeftParen
  | expectedRightParen
deriving DecidableEq, Repr

structure SyntaxError where
  cause : Cause
  found : Kind
  span : Span
deriving DecidableEq, Repr

def Cause.describe : Cause → Text
  | .expectedTopLevelDeclaration => "expected a top-level declaration".toList
  | .expectedIdentifier => "expected an identifier".toList
  | .expectedEmptyParameterList => "expected empty parameter list".toList
  | .expectedBlock => "expected `\x7b`".toList
  | .unexpectedEof => "unexpected end of file".toList
  | .expectedStatement => "expected a statement".toList
  | .expectedAssignment => "expected `=`".toList
  | .expectedSemicolon => "expected `;`".toList
  | .expectedExpression => "expected an expression".toList
  | .invalidIntLiteral => "could not parse integer literal".toList
  | .expectedLeftParen => "expected `(`".toList
  | .expectedRightParen => "expected `)`".toList

/-- The end of the file is its own finding; every other message names what was found. -/
def SyntaxError.message (e : SyntaxError) : Text :=
  match e.cause with
  | .unexpectedEof => e.cause.describe
  | _ => e.cause.describe ++ ", found ".toList ++ e.found.name

/-- An illegal character is pointed out once more, whatever was expected in its place. -/
def SyntaxError.toDiagnostic (e : SyntaxError) (source : Nat) : Diagnostic where
  severity := .error
  message := some "syntax error".toList
  id := none
  snippets :=
    ⟨e.message, .primary, source, e.span⟩ ::
      if e.found = .illegal then [⟨"unexpected character".toList, .secondary, source, e.span⟩]
      else []

end Minilang
