import Minilang.Proofs.Acceptance
import Minilang.Proofs.Lookahead

namespace Minilang
namespace Grammar

inductive Phrase where
  | identifier (name : Leaf .ident)
  | int (digits : Numeral)
  | call (callee : Leaf .ident) (opening : Leaf .leftParen) (closing : Leaf .rightParen)
  | expression (value : Expression)
  | assignment (target : Leaf .ident) (equalsSign : Leaf .assign) (value : Expression)
      (semicolon : Leaf .semicolon)
  | ret (keyword : Leaf (.keyword .ret)) (value : Expression) (semicolon : Leaf .semicolon)
  | statement (whole : Statement)
  | block (whole : Block)
  | function (whole : Function)
  | parameters (opening : Leaf .leftParen) (closing : Leaf .rightParen)

namespace Phrase
open Minilang.Parser (Operation Outcome)

def yield : Phrase → List Token
  | .identifier name => [name.token]
  | .int digits => [digits.token]
  | .call callee opening closing => [callee.token, opening.token, closing.token]
  | .expression value => value.yield
  | .assignment target equalsSign value semicolon =>
    target.token :: equalsSign.token :: (value.yield ++ [semicolon.token])
  | .ret keyword value semicolon => keyword.token :: (value.yield ++ [semicolon.token])
  | .statement whole => whole.yield
  | .block whole => whole.yield
  | .function whole => whole.yield
  | .parameters opening closing => [opening.token, closing.token]

def operation : Phrase → Operation
  | .identifier _ => .identifier
  | .int _ => .intLiteral
  | .call _ _ _ => .call
  | .expression _ => .expression
  | .assignment _ _ _ _ => .assignment
  | .ret _ _ _ => .returnStatement
  | .statement _ => .statement
  | .block _ => .block
  | .function _ => .function
  | .parameters _ _ => .parameters

def outcome : Phrase → Outcome
  | .identifier name => .identifier name.identifier
  | .int digits => .intLiteral digits.tree
  | .call callee _ _ => .call ⟨callee.identifier⟩
  | .expression value => .expression value.tree
  | .assignment target _ value _ => .assignment ⟨target.identifier, value.tree⟩
  | .ret _ value _ => .returnStatement ⟨value.tree⟩
  | .statement whole => .statement (some whole.tree)
  | .block whole => .block whole.tree
  | .function whole => .function whole.tree
  | .parameters _ _ => .done

def EndsBefore (next : Token) : Phrase → Prop
  | .expression value => value.EndsBefore next
  | _ => True

end Phrase
end Grammar

namespace Parser
open Grammar (Phrase)
variable {stop : Nat} {rest : List Token}

theorem reads_phrase (w : Phrase) (ends : w.EndsBefore (upNext stop rest)) :
    Reads (fun p => w.operation.run p) stop w.yield rest w.outcome [] := by
  -- the operations return what the phrases do, so that each case is a reading of its phrase
  cases w with
  | identifier name => exact (reads_identifier name).map Outcome.identifier
  | int digits => exact (reads_intLiteral digits).map Outcome.intLiteral
  | call callee opening closing =>
    have closed : Moves (expect .rightParen .expectedRightParen) stop [closing.token] rest [] :=
      moves_expect .expectedRightParen closing
    exact (reads_call callee opening closed).map Outcome.call
  | expression value => exact (reads_expression value ends).map Outcome.expression
  | assignment target equalsSign value closing =>
    have valued : Reads expression stop value.yield ([closing.token] ++ rest) value.tree [] :=
      reads_value value closing
    exact (reads_assignment target equalsSign valued (moves_semicolon closing)).map
      Outcome.assignment
  | ret keyword value closing =>
    have valued : Reads expression stop value.yield ([closing.token] ++ rest) value.tree [] :=
      reads_value value closing
    exact (reads_returnStatement keyword valued (moves_semicolon closing)).map
      Outcome.returnStatement
  | statement whole =>
    have valued : Reads expression stop whole.value.yield ([whole.semicolon.token] ++ rest)
        whole.value.tree [] := reads_value whole.value whole.semicolon
    exact (reads_statement whole.lead valued (moves_semicolon whole.semicolon)).map
      Outcome.statement
  | block whole => exact (reads_derived_block whole).map Outcome.block
  | function whole => exact (reads_derived_function whole).map Outcome.function
  | parameters opening closing =>
    intro place errors
    exact congrArg (Prod.mk Outcome.done) (moves_parameters opening closing place errors)

/-- Whatever was asked for before, whatever was reported and whatever stands behind the phrase, its
tree is returned, its tokens are passed, and the errors stay as they are. -/
theorem phrase_is_read_whole (text : Text) (earlier : List Operation) (w : Phrase)
    (rest : List Token) {p : Parser} (reached : (ofText text).after earlier = p)
    (begins : p.upcoming = w.yield ++ rest)
    (ends : w.EndsBefore (upNext (Text.byteLength text) rest)) :
    w.operation.run p =
        (w.outcome, { p with upcoming := rest, position := p.position + w.yield.length }) ∧
      (w.operation.run p).2.current = upNext (Text.byteLength text) rest := by
  have within : p.Within text := reached ▸ (within_ofText text).reach (reaches_after _ earlier)
  obtain ⟨upcoming, stop, place, errors⟩ := p
  obtain rfl : upcoming = w.yield ++ rest := begins
  obtain rfl : stop = Text.byteLength text := within.endOfText
  have read : w.operation.run ⟨w.yield ++ rest, Text.byteLength text, place, errors⟩ =
      (w.outcome, ⟨rest, Text.byteLength text, place + w.yield.length, errors ++ []⟩) :=
    reads_phrase w ends place errors
  rw [List.append_nil] at read
  exact ⟨read, by rw [read]; rfl⟩

theorem value_behind_error_is_read :
    Operation.run ((ofText ['+', ' ', 'x', ' ', ')']).after [.expression]) .expression =
      (.expression (.identifier ⟨['x']⟩),
        ⟨[⟨.rightParen, [')'], ⟨4, 5⟩⟩], 5, 2, [⟨.expectedExpression, .plus, ⟨0, 1⟩⟩]⟩) := by
  have reached : (ofText ['+', ' ', 'x', ' ', ')']).after [.expression] =
      ⟨[⟨.ident, ['x'], ⟨2, 3⟩⟩, ⟨.rightParen, [')'], ⟨4, 5⟩⟩], 5, 1,
        [⟨.expectedExpression, .plus, ⟨0, 1⟩⟩]⟩ := by decide +kernel
  have ends : Kind.rightParen ≠ .leftParen := by decide
  have read := phrase_is_read_whole ['+', ' ', 'x', ' ', ')'] [.expression]
    (.expression (.identifier ⟨⟨.ident, ['x'], ⟨2, 3⟩⟩, rfl⟩)) [⟨.rightParen, [')'], ⟨4, 5⟩⟩]
    reached rfl ends
  rw [reached]
  exact read.1

end Parser
end Minilang
