import Minilang.SyntaxError
import Minilang.Token.Stream

/-!
The state of a parser: the tokens to come, and the errors reported so far. Behind the last token
stands the end of the text, for ever. Errors stop nothing; they are recorded at the current token.
-/
namespace Minilang

structure Parser where
  upcoming : List Token
  endOfText : Nat
  /-- How often the parser has advanced. -/
  position : Nat
  errors : List SyntaxError
deriving DecidableEq, Repr

namespace Parser

def ofTokens (tokens : List Token) (endOfText : Nat) : Parser := ⟨tokens, endOfText, 0, []⟩

def ofText (text : Text) : Parser := ofTokens (tokens text) (Text.byteLength text)

def current (p : Parser) : Token := p.upcoming.headD (.eof p.endOfText)

def peek (p : Parser) : Token := p.upcoming.tail.headD (.eof p.endOfText)

def advance (p : Parser) : Parser :=
  { p with upcoming := p.upcoming.tail, position := p.position + 1 }

def report (cause : Cause) (p : Parser) : Parser :=
  { p with errors := p.errors ++ [⟨cause, p.current.kind, p.current.span⟩] }

def isAt (kind : Kind) (p : Parser) : Bool := p.current.kind == kind

def isBefore (kind : Kind) (p : Parser) : Bool := p.peek.kind == kind

def eat (kind : Kind) (p : Parser) : Bool × Parser :=
  if p.isAt kind then (true, p.advance) else (false, p)

def expect (kind : Kind) (cause : Cause) (p : Parser) : Parser :=
  if p.isAt kind then p.advance else p.report cause

/-- No recovery goes beyond these: they end a statement, a block or the text. -/
def atBoundary (p : Parser) : Bool := p.isAt .semicolon || p.isAt .rightBrace || p.isAt .eof

def startsStatement (p : Parser) : Bool :=
  p.isAt (.keyword .ret) || p.isAt .ident && p.isBefore .assign

/-- Drops a token that stands where another should, unless recovery has to begin at it. -/
def dropStray (p : Parser) : Parser := if p.atBoundary then p else p.advance

theorem upcoming_ne_nil {p : Parser} (more : p.isAt .eof = false) : p.upcoming ≠ [] := by
  intro empty
  simp [isAt, current, empty, Token.eof] at more

theorem upcoming_eq_nil {p : Parser} (ended : p.isAt .eof = true)
    (proper : ∀ t ∈ p.upcoming, t.kind ≠ .eof) : p.upcoming = [] := by
  cases h : p.upcoming with
  | nil => rfl
  | cons t ts =>
    simp only [isAt, current, h, List.headD_cons, beq_iff_eq] at ended
    exact absurd ended (proper t (by simp [h]))

@[simp] theorem report_isAt (cause : Cause) (kind : Kind) (p : Parser) :
    (p.report cause).isAt kind = p.isAt kind := rfl

@[simp] theorem report_isBefore (cause : Cause) (kind : Kind) (p : Parser) :
    (p.report cause).isBefore kind = p.isBefore kind := rfl

@[simp] theorem report_startsStatement (cause : Cause) (p : Parser) :
    (p.report cause).startsStatement = p.startsStatement := rfl

theorem assignment_ahead {p : Parser} (noReturn : ¬ p.isAt (.keyword .ret) = true)
    (starts : p.startsStatement = true) : p.isAt .ident = true ∧ p.isBefore .assign = true := by
  simpa [startsStatement, noReturn] using starts

theorem advance_length_le (p : Parser) : p.advance.upcoming.length ≤ p.upcoming.length := by
  simp [advance]

theorem advance_length_lt {p : Parser} (more : p.isAt .eof = false) :
    p.advance.upcoming.length < p.upcoming.length := by
  have := List.length_pos_iff.mpr (upcoming_ne_nil more)
  simp only [advance, List.length_tail]
  omega

theorem isAt_unique {p : Parser} {k l : Kind} (here : p.isAt k = true) (other : k ≠ l) :
    p.isAt l = false := by
  simp_all [isAt]

def skipUntil (stop : Parser → Bool) (p : Parser) : Parser :=
  if stop p || p.isAt .eof then p else skipUntil stop p.advance
termination_by p.upcoming.length
decreasing_by
  apply advance_length_lt
  simp_all

theorem skipUntil_length_le (stop : Parser → Bool) (p : Parser) :
    (p.skipUntil stop).upcoming.length ≤ p.upcoming.length := by
  fun_induction skipUntil stop p with
  | case1 p _ => exact Nat.le_refl _
  | case2 p _ ih => exact Nat.le_trans ih (advance_length_le p)

theorem skipUntil_length_lt {stop : Parser → Bool} {p : Parser} (far : stop p = false)
    (more : p.isAt .eof = false) :
    (p.skipUntil stop).upcoming.length < p.upcoming.length := by
  rw [skipUntil]
  simp only [far, more, Bool.or_self, Bool.false_eq_true, ↓reduceIte]
  exact Nat.lt_of_le_of_lt (skipUntil_length_le stop _) (advance_length_lt more)

end Parser
end Minilang
