import Minilang.Parser.Phrases

namespace Minilang.Parser

theorem expect_length_le (kind : Kind) (cause : Cause) (p : Parser) :
    (p.expect kind cause).upcoming.length ≤ p.upcoming.length := by
  unfold expect
  split
  · exact advance_length_le p
  · exact Nat.le_refl _

theorem dropStray_length_le (p : Parser) :
    p.dropStray.upcoming.length ≤ p.upcoming.length := by
  unfold dropStray
  split
  · exact Nat.le_refl _
  · exact advance_length_le p

theorem identifier_length_le (p : Parser) :
    p.identifier.2.upcoming.length ≤ p.upcoming.length := by
  unfold identifier
  split
  · exact advance_length_le p
  · exact Nat.le_refl _

theorem identifier_length_lt {p : Parser} (here : p.isAt .ident = true) :
    p.identifier.2.upcoming.length < p.upcoming.length := by
  rw [identifier_at here]
  exact advance_length_lt (isAt_unique here (by decide))

theorem intLiteral_length_le (p : Parser) :
    p.intLiteral.2.upcoming.length ≤ p.upcoming.length := by
  unfold intLiteral
  split
  · exact advance_length_le p
  · exact advance_length_le (p.report .invalidIntLiteral)

theorem call_length_le (p : Parser) : p.call.2.upcoming.length ≤ p.upcoming.length :=
  Nat.le_trans (expect_length_le _ _ _)
    (Nat.le_trans (expect_length_le _ _ _) (identifier_length_le p))

theorem expression_length_le (p : Parser) :
    p.expression.2.upcoming.length ≤ p.upcoming.length := by
  unfold expression
  split
  · split
    · exact call_length_le p
    · exact identifier_length_le p
  · split
    · exact intLiteral_length_le p
    · exact dropStray_length_le (p.report .expectedExpression)

theorem equals_length_le (p : Parser) : p.equals.upcoming.length ≤ p.upcoming.length := by
  unfold equals
  split
  · exact advance_length_le p
  · exact dropStray_length_le (p.report .expectedAssignment)

theorem semicolon_length_le (p : Parser) :
    p.semicolon.upcoming.length ≤ p.upcoming.length := expect_length_le _ _ p

theorem assignment_length_lt {p : Parser} (here : p.isAt .ident = true) :
    p.assignment.2.upcoming.length < p.upcoming.length :=
  Nat.lt_of_le_of_lt (semicolon_length_le _)
    (Nat.lt_of_le_of_lt (expression_length_le _)
      (Nat.lt_of_le_of_lt (equals_length_le _) (identifier_length_lt here)))

theorem returnStatement_length_lt {p : Parser} (more : p.isAt .eof = false) :
    p.returnStatement.2.upcoming.length < p.upcoming.length :=
  Nat.lt_of_le_of_lt (semicolon_length_le _)
    (Nat.lt_of_le_of_lt (expression_length_le _) (advance_length_lt more))

theorem statement_length_lt {p : Parser} (inside : p.isAt .rightBrace = false)
    (more : p.isAt .eof = false) :
    p.statement.2.upcoming.length < p.upcoming.length := by
  unfold statement
  split
  · exact returnStatement_length_lt more
  · split
    · rename_i noReturn start
      exact assignment_length_lt (assignment_ahead noReturn start).1
    · rename_i noReturn noStart
      have far : ((p.report .expectedStatement).startsStatement ||
          (p.report .expectedStatement).isAt .rightBrace) = false := by
        simpa [inside] using noStart
      exact skipUntil_length_lt (p := p.report .expectedStatement) far more

end Minilang.Parser
