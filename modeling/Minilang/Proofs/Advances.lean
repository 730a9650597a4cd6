import Minilang.Proofs.Reach

namespace Minilang

/-- The place of a cause among the reports at one token. -/
def Cause.rank : Cause → Nat
  | .expectedTopLevelDeclaration | .expectedIdentifier => 0
  | .expectedAssignment | .expectedExpression | .invalidIntLiteral => 0
  | .expectedLeftParen | .expectedRightParen => 0
  | .expectedEmptyParameterList | .expectedSemicolon => 1
  | .expectedBlock | .unexpectedEof => 2
  | .expectedStatement => 3

theorem Cause.rank_lt (cause : Cause) : cause.rank < 4 := by
  cases cause <;> decide

namespace Parser
variable {p q r : Parser} {low k l : Nat} {kind : Kind} {cause : Cause}

/-- The reports at the current token stay below a rank: below `low` at first, below the second number
at last. Only a cause below the highest rank is reported at the end of the text. -/
inductive Proceeds (p : Parser) (low : Nat) : Parser → Nat → Prop where
  | start : Proceeds p low p low
  | advance {q : Parser} {k : Nat} (earlier : Proceeds p low q k) (more : q.isAt .eof = false) :
      Proceeds p low q.advance 0
  | report {q : Parser} {k : Nat} (cause : Cause) (earlier : Proceeds p low q k)
      (ordered : k ≤ cause.rank) (inside : q.isAt .eof = true → cause.rank < 3) :
      Proceeds p low (q.report cause) (cause.rank + 1)
  | relax {q : Parser} {k l : Nat} (earlier : Proceeds p low q k) (weaker : k ≤ l) :
      Proceeds p low q l

def Clears (p : Parser) (low : Nat) (q : Parser) : Prop :=
  q.isAt .eof = true ∧ Proceeds p low q 3 ∨ Proceeds p low q 0

theorem Proceeds.trans (first : Proceeds p low q k) (second : Proceeds q k r l) :
    Proceeds p low r l := by
  induction second with
  | start => exact first
  | advance earlier more ih => exact .advance ih more
  | report cause earlier ordered inside ih => exact .report cause ih ordered inside
  | relax earlier weaker ih => exact .relax ih weaker

theorem Proceeds.clears (first : Proceeds p low q k) (second : Clears q k r) : Clears p low r := by
  rcases second with ⟨ended, second⟩ | second
  · exact Or.inl ⟨ended, first.trans second⟩
  · exact Or.inr (first.trans second)

theorem Proceeds.reaches (proceeds : Proceeds p low q k) : Reaches p q := by
  induction proceeds with
  | start => exact .start
  | advance earlier more ih => exact .advance ih
  | report cause earlier ordered inside ih => exact .report cause ih
  | relax earlier weaker ih => exact ih

theorem not_ended (here : p.isAt kind = true) (inside : kind ≠ .eof) : p.isAt .eof = false :=
  isAt_unique here inside

theorem proceeds_advance (low : Nat) (more : p.isAt .eof = false) : Proceeds p low p.advance 0 :=
  .advance .start more

theorem proceeds_report (ordered : low ≤ cause.rank) (small : cause.rank < 3) :
    Proceeds p low (p.report cause) (cause.rank + 1) :=
  .report cause .start ordered fun _ => small

theorem proceeds_expect (inside : kind ≠ .eof) (ordered : low ≤ cause.rank)
    (small : cause.rank < 3) : Proceeds p low (p.expect kind cause) (cause.rank + 1) := by
  unfold expect
  split
  · rename_i here
    exact (proceeds_advance low (not_ended here inside)).relax (Nat.zero_le _)
  · exact proceeds_report ordered small

theorem proceeds_dropStray (p : Parser) (low : Nat) : Proceeds p low p.dropStray low := by
  unfold dropStray
  split
  · exact .start
  · rename_i off
    have more : p.isAt .eof = false := by
      simp only [atBoundary, Bool.or_eq_true, not_or, Bool.not_eq_true] at off
      exact off.2
    exact (proceeds_advance low more).relax (Nat.zero_le low)

theorem proceeds_skipUntil (halt : Parser → Bool) (p : Parser) (low : Nat) :
    Proceeds p low (p.skipUntil halt) low := by
  fun_induction skipUntil halt p generalizing low with
  | case1 p _ => exact .start
  | case2 p goes ih =>
    have more : p.isAt .eof = false := by
      simp only [Bool.or_eq_true, not_or, Bool.not_eq_true] at goes
      exact goes.2
    exact ((proceeds_advance low more).trans (ih 0)).relax (Nat.zero_le low)

theorem proceeds_skipUntil_far {halt : Parser → Bool} (low : Nat) (far : halt p = false)
    (more : p.isAt .eof = false) : Proceeds p low (p.skipUntil halt) 0 := by
  rw [skipUntil]
  simp only [far, more, Bool.or_self, Bool.false_eq_true, ↓reduceIte]
  exact (proceeds_advance low more).trans (proceeds_skipUntil halt _ 0)

theorem proceeds_identifier (p : Parser) : Proceeds p 0 p.identifier.2 1 := by
  unfold identifier
  split
  · rename_i here
    exact (proceeds_advance 0 (not_ended here (by decide))).relax (Nat.zero_le 1)
  · exact proceeds_report (Nat.zero_le _) (by decide)

theorem proceeds_intLiteral (here : p.isAt .int = true) : Proceeds p 0 p.intLiteral.2 0 := by
  have more : p.isAt .eof = false := not_ended here (by decide)
  unfold intLiteral
  split
  · exact proceeds_advance 0 more
  · have reported : Proceeds p 0 (p.report .invalidIntLiteral) 1 :=
      proceeds_report (Nat.zero_le _) (by decide)
    exact .advance reported more

theorem proceeds_both {second : Kind} (low : Nat) (here : p.isAt kind = true)
    (before : p.isBefore second = true) (inside : kind ≠ .eof) (inside' : second ≠ .eof) :
    Proceeds p low p.advance.advance 0 := by
  have next : p.advance.isAt second = true := before
  exact .advance (proceeds_advance low (not_ended here inside)) (not_ended next inside')

theorem proceeds_call (here : p.isAt .ident = true) (before : p.isBefore .leftParen = true) :
    Proceeds p 0 p.call.2 1 := by
  rw [call_at here before]
  exact (proceeds_both 0 here before (by decide) (by decide)).trans
    (proceeds_expect (by decide) (Nat.zero_le _) (by decide))

theorem proceeds_expression (p : Parser) : Proceeds p 0 p.expression.2 1 := by
  unfold expression
  split
  · rename_i here
    split
    · rename_i before
      exact proceeds_call here before
    · exact proceeds_identifier p
  · split
    · rename_i here
      exact (proceeds_intLiteral here).relax (Nat.zero_le 1)
    · have reported : Proceeds p 0 (p.report .expectedExpression) 1 :=
        proceeds_report (Nat.zero_le _) (by decide)
      exact reported.trans (proceeds_dropStray _ 1)

theorem proceeds_semicolon (p : Parser) : Proceeds p 1 p.semicolon 2 :=
  proceeds_expect (by decide) (Nat.le_refl 1) (by decide)

theorem proceeds_assignment (low : Nat) (here : p.isAt .ident = true)
    (before : p.isBefore .assign = true) : Proceeds p low p.assignment.2 2 := by
  rw [assignment_at here before]
  exact (proceeds_both low here before (by decide) (by decide)).trans
    ((proceeds_expression _).trans (proceeds_semicolon _))

theorem proceeds_returnStatement (low : Nat) (more : p.isAt .eof = false) :
    Proceeds p low p.returnStatement.2 2 :=
  (proceeds_advance low more).trans ((proceeds_expression _).trans (proceeds_semicolon _))

theorem proceeds_statement (ordered : low ≤ 3) (inside : p.isAt .rightBrace = false)
    (more : p.isAt .eof = false) : Proceeds p low p.statement.2 2 := by
  unfold statement
  split
  · exact proceeds_returnStatement low more
  · rename_i noReturn
    split
    · rename_i starts
      have both := assignment_ahead noReturn starts
      exact proceeds_assignment low both.1 both.2
    · rename_i noStart
      have far : ((p.report .expectedStatement).startsStatement ||
          (p.report .expectedStatement).isAt .rightBrace) = false := by
        simpa [inside] using noStart
      have reported : Proceeds p low (p.report .expectedStatement) 4 :=
        .report _ .start ordered fun ended => by rw [more] at ended; contradiction
      have skipped : Proceeds (p.report .expectedStatement) 4
          (p.report .expectedStatement).skipStatement 0 := proceeds_skipUntil_far 4 far more
      exact (reported.trans skipped).relax (Nat.zero_le 2)

theorem proceeds_statements (p : Parser) : ∀ low, low ≤ 3 →
    p.statements.2 = p ∨ Proceeds p low p.statements.2 2 := by
  -- an empty run reports nothing, so that `low` may stay what a missed block has left of it
  fun_induction statements p with
  | case1 p _ => exact fun low _ => Or.inl rfl
  | case2 p goes first others ih =>
    intro low ordered
    simp only [Bool.or_eq_true, not_or, Bool.not_eq_true] at goes
    have own : Proceeds p low first.2 2 := proceeds_statement ordered goes.1 goes.2
    rcases ih 2 (by decide) with none | more
    · exact Or.inr (by rw [none]; exact own)
    · exact Or.inr (own.trans more)

theorem clears_closeBlock (ordered : p.isAt .eof = true → low ≤ 2) : Clears p low p.closeBlock := by
  unfold closeBlock
  split
  · rename_i ended
    exact Or.inl ⟨ended, proceeds_report (ordered ended) (by decide)⟩
  · rename_i inside
    exact Or.inr (proceeds_advance low (by simpa using inside))

theorem clears_inside (ordered : low ≤ 3) (early : p.isAt .eof = true → low ≤ 2) :
    Clears p low p.statements.2.closeBlock := by
  rcases proceeds_statements p low ordered with none | some
  · rw [none]
    exact clears_closeBlock early
  · exact some.clears (clears_closeBlock fun _ => Nat.le_refl 2)

theorem clears_block (p : Parser) : Clears p 2 p.block.2 := by
  have reported : Proceeds p 2 (p.report .expectedBlock) 3 :=
    proceeds_report (Nat.le_refl 2) (by decide)
  unfold block
  split
  · rename_i here
    exact (proceeds_advance 2 (not_ended here (by decide))).clears
      (clears_inside (by decide) fun _ => Nat.zero_le 2)
  · split
    · rename_i ended
      exact Or.inl ⟨ended, reported⟩
    · rename_i more
      exact reported.clears (clears_inside (Nat.le_refl 3) fun ended => absurd ended more)

theorem proceeds_parameters (p : Parser) : Proceeds p 1 p.parameters 2 := by
  unfold parameters
  split
  · rename_i both
    rw [Bool.and_eq_true] at both
    exact (proceeds_both 1 both.1 both.2 (by decide) (by decide)).relax (Nat.zero_le 2)
  · have reported : Proceeds p 1 (p.report .expectedEmptyParameterList) 2 :=
      proceeds_report (Nat.le_refl 1) (by decide)
    dsimp only
    split
    · rename_i here
      have opened := Proceeds.advance reported (not_ended here (by decide))
      have skipped := opened.trans (proceeds_skipUntil (fun p => p.isAt .rightParen ||
        p.isAt .leftBrace || p.isAt .rightBrace) _ 0)
      unfold eat
      split
      · rename_i closing
        exact (skipped.advance (not_ended closing (by decide))).relax (Nat.zero_le 2)
      · exact skipped.relax (Nat.zero_le 2)
    · exact reported

theorem proceeds_returnType (p : Parser) : Proceeds p 2 p.returnType.2 2 := by
  unfold returnType
  split
  · rename_i here
    rw [identifier_at here]
    exact (proceeds_advance 2 (not_ended here (by decide))).relax (Nat.zero_le 2)
  · exact .start

theorem clears_function (low : Nat) (more : p.isAt .eof = false) : Clears p low p.function.2 :=
  (((proceeds_advance low more).trans (proceeds_identifier _)).trans
    ((proceeds_parameters _).trans (proceeds_returnType _))).clears (clears_block _)

theorem proceeds_skipToFunction (far : p.isAt (.keyword .fn) = false) (more : p.isAt .eof = false) :
    Proceeds p 0 (p.report .expectedTopLevelDeclaration).skipToFunction 0 := by
  have reported : Proceeds p 0 (p.report .expectedTopLevelDeclaration) 1 :=
    proceeds_report (Nat.zero_le _) (by decide)
  exact reported.trans (proceeds_skipUntil_far 1 far more)

theorem proceeds_declarations (p : Parser) : Proceeds p 0 p.declarations.2 3 := by
  fun_induction declarations p with
  | case1 p _ => exact .relax .start (Nat.zero_le 3)
  | case2 p goes here first others ih =>
    rcases clears_function 0 (by simpa using goes) with ⟨ended, own⟩ | own
    · -- cut off by the end of the text, the function is the last
      have nothing : others = ([], p.function.2) := declarations_at_end ended
      rw [nothing]
      exact own
    · exact own.trans ih
  | case3 p goes off ih =>
    exact (proceeds_skipToFunction (by simpa using off) (by simpa using goes)).trans ih

end Parser
end Minilang
