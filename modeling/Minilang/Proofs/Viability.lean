import Minilang.Proofs.Acceptance
import Minilang.Proofs.Places
import Minilang.Proofs.Stages

/-!
Where the first error is reported. Up to the first error the parser goes through the stages of the
grammar, and it reports at the token that its stage refuses. So the tokens before the first error
can be the beginning of a program, and with the next they can not. Two errors are found one token
late, because they are reported at a token that is refused for what stands behind it.
-/
namespace Minilang

/-- A program may begin with the tokens. Behind a whole program stands the end of the text. -/
def Grammar.Viable (w : List Token) : Prop :=
  ∃ (d : Grammar.Program) (stop : Nat) (rest : List Token), d.yield ++ [.eof stop] = w ++ rest ∧
    ∀ t ∈ rest, t.kind = .eof ∨ t.kind.Spelled t.text

/-- Whether the token is refused for what stands behind it. -/
def Cause.looksAhead (cause : Cause) (kind : Kind) : Bool :=
  cause == .expectedEmptyParameterList && kind == .leftParen ||
    cause == .expectedStatement && kind == .ident

namespace Parser
open Grammar (Leaf Stage Viable)

variable {p q r : Parser} {s : Stage}

/-- The stage does not lead on to the token, or not to the two that stand there. -/
def Refused (s : Stage) (cause : Cause) (t : Token) (rest : List Token) : Prop :=
  if cause.looksAhead t.kind then
    ∃ after, s.next t = some after ∧ ∃ u ∈ rest.head?, after.next u = none
  else s.next t = none

/-- From one state to the other errors are reported, the first of them at a token refused. -/
def Breaks (s : Stage) (p q : Parser) : Prop :=
  ∃ w t rest cause more here, p.ahead = w ++ t :: rest ∧
    q.errors = p.errors ++ t.fault cause :: more ∧ s.run w = some here ∧ here ≠ .ended ∧
    Refused here cause t rest

/-- From one state to the other the stages are gone through up to the first error, if there is one. -/
structure Follows (s after : Stage) (p q : Parser) : Prop where
  reach : Reaches p q
  course : (q.errors = p.errors ∧ ∃ w, p.ahead = w ++ q.ahead ∧ s.run w = some after) ∨ Breaks s p q

theorem Breaks.reach (broken : Breaks s p q) (later : Reaches q r) : Breaks s p r := by
  obtain ⟨w, t, rest, cause, more, here, whole, errors, run, inside, refused⟩ := broken
  obtain ⟨others, longer⟩ := later.errors_prefix
  refine ⟨w, t, rest, cause, more ++ others, here, whole, ?_, run, inside, refused⟩
  rw [← longer, errors, List.append_assoc, List.cons_append]

theorem Follows.start (s : Stage) (p : Parser) : Follows s s p p :=
  ⟨.start, Or.inl ⟨rfl, [], rfl, rfl⟩⟩

theorem Follows.trans {between after : Stage} (first : Follows s between p q)
    (second : Follows between after q r) : Follows s after p r := by
  refine ⟨first.reach.trans second.reach, ?_⟩
  rcases first.course with ⟨quiet, v, taken, run⟩ | broken
  · rcases second.course with ⟨quiet', w, taken', run'⟩ | broken
    · refine Or.inl ⟨quiet'.trans quiet, v ++ w, ?_, by simp [run, run']⟩
      rw [taken, taken', List.append_assoc]
    · obtain ⟨w, t, rest, cause, more, here, whole, errors, run', inside, refused⟩ := broken
      refine Or.inr ⟨v ++ w, t, rest, cause, more, here, ?_, ?_, by simp [run, run'], inside, refused⟩
      · rw [taken, whole, List.append_assoc]
      · rw [errors, quiet]
  · exact Or.inr (broken.reach second.reach)

theorem follows_advance {after : Stage} (more : p.isAt .eof = false)
    (leads : s.next p.current = some after) : Follows s after p p.advance :=
  ⟨reaches_advance p, Or.inl ⟨rfl, [p.current], ahead_advance more, by simp [leads]⟩⟩

theorem follows_report {after : Stage} (cause : Cause) (inside : s ≠ .ended)
    (refused : ∀ rest, p.ahead = p.current :: rest → Refused s cause p.current rest)
    (later : Reaches (p.report cause) q) : Follows s after p q := by
  obtain ⟨rest, whole⟩ := ahead_current p
  have broken : Breaks s p (p.report cause) :=
    ⟨[], p.current, rest, cause, [], s, whole, rfl, rfl, inside, refused rest whole⟩
  exact ⟨(reaches_report cause p).trans later, Or.inr (broken.reach later)⟩

theorem follows_refusal {after : Stage} (cause : Cause) (inside : s ≠ .ended)
    (seen : cause.looksAhead p.current.kind = false) (refused : s.next p.current = none)
    (later : Reaches (p.report cause) q) : Follows s after p q :=
  follows_report cause inside (fun _ _ => by simp [Refused, seen, refused]) later

theorem next_here {after : Stage} {kind : Kind} (here : p.isAt kind = true) (small : kind ≠ .int)
    (leads : s.follow kind = some after) : s.next p.current = some after := by
  have same : p.current.kind = kind := by simpa [isAt] using here
  rw [Stage.next_of_ne_int (by rwa [same]), same, leads]

theorem follows_kind {after : Stage} {kind : Kind} (here : p.isAt kind = true)
    (inside : kind ≠ .eof) (small : kind ≠ .int) (leads : s.follow kind = some after) :
    Follows s after p p.advance :=
  follows_advance (isAt_unique here inside) (next_here here small leads)

theorem refused_behind {after : Stage} {cause : Cause} {rest : List Token}
    (late : cause.looksAhead p.current.kind = true) (more : p.isAt .eof = false)
    (leads : s.next p.current = some after) (stuck : after.follow p.peek.kind = none)
    (whole : p.ahead = p.current :: rest) : Refused s cause p.current rest := by
  obtain ⟨others, behind⟩ := ahead_current p.advance
  have follows : rest = p.peek :: others := by
    rw [ahead_advance more, List.cons.injEq] at whole
    exact whole.2.symm.trans behind
  rw [Refused, if_pos late]
  exact ⟨after, leads, p.peek, by simp [follows], Stage.next_eq_none stuck⟩

theorem follows_expect {after : Stage} {kind : Kind} (cause : Cause) (inside : kind ≠ .eof)
    (small : kind ≠ .int) (leads : s.follow kind = some after)
    (off : p.isAt kind = false → cause.looksAhead p.current.kind = false ∧
      s.follow p.current.kind = none) : Follows s after p (p.expect kind cause) := by
  have open_stage : s ≠ .ended := by
    rintro rfl
    simp [Stage.follow] at leads
  unfold expect
  split
  · rename_i here
    exact follows_kind here inside small leads
  · rename_i missing
    obtain ⟨seen, refused⟩ := off (by simpa using missing)
    exact follows_refusal cause open_stage seen (Stage.next_eq_none refused) .start

theorem identifier_state (p : Parser) :
    p.identifier.2 = p.expect .ident .expectedIdentifier := by
  unfold identifier expect
  split <;> rfl

theorem follows_name (p : Parser) : Follows .name .opening p p.identifier.2 := by
  rw [identifier_state]
  refine follows_expect _ (by decide) (by decide) rfl fun off => ⟨rfl, ?_⟩
  simp_all [isAt, Stage.follow]

theorem follows_call (here : p.isAt .ident = true) (before : p.isBefore .leftParen = true) :
    Follows .value .semicolon p p.call.2 := by
  have named : Follows .value .named p p.advance :=
    follows_kind here (by decide) (by decide) rfl
  have opened : Follows .named .callEnd p.advance p.advance.advance :=
    follows_kind before (by decide) (by decide) rfl
  rw [call_at here before]
  refine named.trans (opened.trans ?_)
  refine follows_expect _ (by decide) (by decide) rfl fun off => ⟨rfl, ?_⟩
  simp_all [isAt, Stage.follow]

theorem follows_intLiteral (here : p.isAt .int = true) :
    Follows .value .semicolon p p.intLiteral.2 := by
  have same : p.current.kind = .int := by simpa [isAt] using here
  have more : p.isAt .eof = false := isAt_unique here (by decide)
  by_cases great : Grammar.greatest < Text.decimalValue p.current.text
  · rw [intLiteral_great great]
    exact follows_refusal _ (by decide) rfl (by simp [Stage.next, same, great]) (reaches_advance _)
  · rw [intLiteral_inRange here (Nat.not_lt.mp great)]
    exact follows_advance more (by simp [Stage.next, same, great, Stage.follow])

theorem follows_value (p : Parser) : Follows .value .statements p p.expression.2.semicolon := by
  have ended : ∀ q : Parser, Follows .semicolon .statements q q.semicolon := by
    intro q
    refine follows_expect _ (by decide) (by decide) rfl fun off => ⟨rfl, ?_⟩
    simp_all [isAt, Stage.follow]
  -- only an identifier leaves open whether a call could be meant
  unfold expression
  split
  · rename_i here
    split
    · rename_i before
      exact (follows_call here before).trans (ended _)
    · rename_i before
      have named : Follows .value .named p p.advance :=
        follows_kind here (by decide) (by decide) rfl
      have noCall : p.advance.isAt .leftParen = false := Bool.eq_false_iff.mpr before
      rw [identifier_at here]
      refine named.trans (follows_expect _ (by decide) (by decide) rfl fun off => ⟨rfl, ?_⟩)
      simp_all [isAt, Stage.follow]
  · rename_i noIdent
    split
    · rename_i here
      exact (follows_intLiteral here).trans (ended _)
    · rename_i noInt
      refine follows_refusal .expectedExpression (by decide) rfl (Stage.next_eq_none ?_)
        ((reaches_dropStray _).trans (reaches_semicolon _))
      simp_all [isAt, Stage.follow]

theorem follows_assignment (here : p.isAt .ident = true) (before : p.isBefore .assign = true) :
    Follows .statements .statements p p.assignment.2 := by
  have target : Follows .statements .equals p p.advance :=
    follows_kind here (by decide) (by decide) rfl
  have sign : Follows .equals .value p.advance p.advance.advance :=
    follows_kind before (by decide) (by decide) rfl
  rw [assignment_at here before]
  exact target.trans (sign.trans (follows_value _))

theorem follows_statement (inside : p.isAt .rightBrace = false) (more : p.isAt .eof = false) :
    Follows .statements .statements p p.statement.2 := by
  unfold statement
  split
  · rename_i here
    have keyword : Follows .statements .value p p.advance :=
      follows_kind here (by decide) (by decide) rfl
    exact keyword.trans (follows_value _)
  · rename_i noReturn
    split
    · rename_i starts
      have both := assignment_ahead noReturn starts
      exact follows_assignment both.1 both.2
    · rename_i noStart
      refine follows_report .expectedStatement (by decide) ?_ (reaches_skipUntil _ _)
      intro rest whole
      -- an identifier is refused only for the token behind it
      by_cases ident : p.isAt .ident = true
      · have same : p.current.kind = .ident := by simpa [isAt] using ident
        have noAssign : p.peek.kind ≠ .assign := by
          simpa [startsStatement, noReturn, ident, isBefore] using noStart
        exact refused_behind (by simp [Cause.looksAhead, same]) more
          (next_here ident (by decide) rfl) (by simp [Stage.follow, noAssign]) whole
      · have off : p.current.kind ≠ .ident := by simpa [isAt] using ident
        rw [Refused, if_neg (by simp [Cause.looksAhead, off])]
        refine Stage.next_eq_none ?_
        simp_all [isAt, Stage.follow]

theorem follows_statements (p : Parser) : Follows .statements .statements p p.statements.2 := by
  fun_induction statements p with
  | case1 p _ => exact .start _ p
  | case2 p inside first more ih =>
    exact (follows_statement (by simp_all) (by simp_all)).trans ih

theorem follows_closeBlock (ended : p.isAt .rightBrace = true ∨ p.isAt .eof = true) :
    Follows .statements .declarations p p.closeBlock := by
  unfold closeBlock
  split
  · rename_i atEnd
    refine follows_refusal .unexpectedEof (by decide) rfl (Stage.next_eq_none ?_) .start
    simp_all [isAt, Stage.follow]
  · rename_i more
    exact follows_kind (ended.resolve_right more) (by decide) (by decide) rfl

theorem follows_block (leads : s.follow .leftBrace = some .statements)
    (only : p.isAt .leftBrace = false → s.follow p.current.kind = none) :
    Follows s .declarations p p.block.2 := by
  have open_stage : s ≠ .ended := by
    rintro rfl
    simp [Stage.follow] at leads
  have refused : p.isAt .leftBrace = false → ∀ {q}, Reaches (p.report .expectedBlock) q →
      Follows s .declarations p q := fun off _ later =>
    follows_refusal .expectedBlock open_stage rfl (Stage.next_eq_none (only off)) later
  unfold block
  split
  · rename_i here
    have opened : Follows s .statements p p.advance :=
      follows_kind here (by decide) (by decide) leads
    exact opened.trans ((follows_statements _).trans (follows_closeBlock (statements_ended _)))
  · rename_i off
    have missing : p.isAt .leftBrace = false := by simpa using off
    split
    · exact refused missing .start
    · exact refused missing ((reaches_statements _).trans (reaches_closeBlock _))

theorem follows_typed_block (p : Parser) :
    Follows .type .declarations p p.returnType.2.block.2 := by
  unfold returnType
  split
  · rename_i here
    have named : Follows .type .body p p.advance :=
      follows_kind here (by decide) (by decide) rfl
    rw [identifier_at here]
    refine named.trans (follows_block rfl fun off => ?_)
    simp_all [isAt, Stage.follow]
  · rename_i noIdent
    refine follows_block rfl fun off => ?_
    simp_all [isAt, Stage.follow]

theorem follows_parameters (p : Parser) : Follows .opening .type p p.parameters := by
  unfold parameters
  split
  · rename_i here
    rw [Bool.and_eq_true] at here
    have opened : Follows .opening .closing p p.advance :=
      follows_kind here.1 (by decide) (by decide) rfl
    have closed : Follows .closing .type p.advance p.advance.advance :=
      follows_kind here.2 (by decide) (by decide) rfl
    exact opened.trans closed
  · rename_i off
    have later : ∀ {q}, Reaches (p.report .expectedEmptyParameterList) q →
        Follows .opening .type p q := by
      intro q later
      refine follows_report .expectedEmptyParameterList (by decide) ?_ later
      intro rest whole
      -- a parenthesis is refused only for the token behind it
      by_cases opens : p.isAt .leftParen = true
      · have same : p.current.kind = .leftParen := by simpa [isAt] using opens
        have unclosed : p.peek.kind ≠ .rightParen := by simpa [opens, isBefore] using off
        exact refused_behind (by simp [Cause.looksAhead, same]) (isAt_unique opens (by decide))
          (next_here opens (by decide) rfl) (by simp [Stage.follow, unclosed]) whole
      · have noParen : p.current.kind ≠ .leftParen := by simpa [isAt] using opens
        rw [Refused, if_neg (by simp [Cause.looksAhead, noParen])]
        exact Stage.next_eq_none (by simp [Stage.follow, noParen])
    dsimp only
    split
    · exact later ((reaches_advance _).trans ((reaches_skipUntil _ _).trans (reaches_eat _ _)))
    · exact later .start

theorem follows_function (here : p.isAt (.keyword .fn) = true) :
    Follows .declarations .declarations p p.function.2 := by
  have keyword : Follows .declarations .name p p.advance :=
    follows_kind here (by decide) (by decide) rfl
  exact keyword.trans ((follows_name _).trans ((follows_parameters _).trans
    (follows_typed_block _)))

theorem follows_declarations (p : Parser) :
    Follows .declarations .declarations p p.declarations.2 := by
  fun_induction declarations p with
  | case1 p _ => exact .start _ p
  | case2 p more here first others ih => exact (follows_function here).trans ih
  | case3 p more off ih =>
    have refused : Stage.declarations.follow p.current.kind = none := by
      simp_all [isAt, Stage.follow]
    exact follows_refusal .expectedTopLevelDeclaration (by decide) rfl (Stage.next_eq_none refused)
      ((reaches_skipUntil _ _).trans (reaches_declarations _))

theorem Refused.run_eq_none {cause : Cause} {t : Token} {rest : List Token}
    (refused : Refused s cause t rest) : s.run (t :: rest) = none := by
  unfold Refused at refused
  split at refused
  · obtain ⟨after, leads, u, first, stuck⟩ := refused
    obtain ⟨others, rfl⟩ : ∃ others, rest = u :: others := List.head?_eq_some_iff.mp first
    simp [leads, stuck]
  · simp [refused]

end Parser

namespace Grammar
open Minilang.Parser (Follows Refused)

variable {w rest : List Token} {s : Stage}

theorem derived_of_run (reached : Stage.declarations.run w = some .declarations) :
    ∃ d : Program, d.yield = w := by
  have proper := Stage.run_inside reached (by decide)
  -- the parser finds nothing to report: what it refused could not be run through
  rcases (Parser.follows_declarations (.ofTokens w 0)).course with ⟨quiet, -⟩ | broken
  · exact Parser.derived_of_declarations quiet proper
  · obtain ⟨v, t, rest, cause, more, here, whole, -, run, -, refused⟩ := broken
    have whole : w ++ [Token.eof 0] = v ++ t :: rest := whole
    have through : Stage.declarations.run (w ++ [Token.eof 0]) = some .ended := by
      rw [Stage.run_append, reached]
      rfl
    rw [whole, Stage.run_append, run, Option.bind_some, refused.run_eq_none] at through
    contradiction

theorem viable_of_run (reached : Stage.declarations.run w = some s) (more : s ≠ .ended) :
    Viable w := by
  have through : Stage.declarations.run (w ++ s.completion) = some .declarations := by
    rw [Stage.run_append, reached, Option.bind_some, Stage.run_completion s more]
  obtain ⟨d, derived⟩ := derived_of_run through
  refine ⟨d, 0, s.completion ++ [.eof 0], by rw [derived, List.append_assoc], ?_⟩
  intro t member
  rcases List.mem_append.mp member with inside | last
  · exact Or.inr (Stage.completion_spelled s t inside)
  · exact Or.inl (by rw [List.mem_singleton.mp last]; rfl)

theorem not_viable_of_run (stuck : Stage.declarations.run w = none) : ¬ Viable w := by
  rintro ⟨d, stop, rest, whole, -⟩
  have through : Stage.declarations.run (d.yield ++ [.eof stop]) = some .ended := by
    rw [Stage.run_append, Stage.run_program]
    rfl
  rw [whole, Stage.run_append, stuck] at through
  contradiction

structure CeasesAt (text : Text) (e : SyntaxError) (before : List Token) (t : Token)
    (after : List Token) : Prop where
  whole : scanned text = before ++ t :: after
  found : e.found = t.kind
  span : e.span = t.span
  unique : ∀ u ∈ before ++ after, u.span ≠ e.span
  viable : Viable before
  refused :
    if e.cause.looksAhead t.kind then
      Viable (before ++ [t]) ∧ ∃ u ∈ after.head?, ¬ Viable (before ++ [t, u])
    else ¬ Viable (before ++ [t])

theorem refused_not_viable {cause : Cause} {t : Token}
    (reached : Stage.declarations.run w = some s) (refused : Refused s cause t rest) :
    if cause.looksAhead t.kind then
      Viable (w ++ [t]) ∧ ∃ u ∈ rest.head?, ¬ Viable (w ++ [t, u])
    else ¬ Viable (w ++ [t]) := by
  unfold Refused at refused
  split at refused
  · rename_i late
    rw [if_pos late]
    obtain ⟨after, leads, u, first, stuck⟩ := refused
    have inside : t.kind ≠ .eof := by
      intro ending
      simp [Cause.looksAhead, ending] at late
    have open_stage : after ≠ .ended := by
      rintro rfl
      exact Stage.next_ne_ended inside leads
    refine ⟨viable_of_run (s := after) (by simp [reached, leads]) open_stage, u, first, ?_⟩
    exact not_viable_of_run (by simp [reached, leads, stuck])
  · rename_i early
    rw [if_neg early]
    exact not_viable_of_run (by simp [reached, refused])

end Grammar

/-- The first error is reported where the text ceases to be the beginning of a program. -/
theorem first_error_ends_viability {text : Text} {e : SyntaxError} {more : List SyntaxError}
    (reported : (parse text).2 = e :: more) :
    ∃ before t after, Grammar.CeasesAt text e before t after := by
  rcases (Parser.follows_declarations (.ofText text)).course with ⟨quiet, -⟩ | broken
  · have none : (parse text).2 = [] := quiet
    rw [none] at reported
    contradiction
  · obtain ⟨before, t, after, cause, others, here, whole, errors, run, inside, refused⟩ := broken
    have whole : scanned text = before ++ t :: after := whole
    have first : e = t.fault cause := by
      have listed : (parse text).2 = t.fault cause :: others := errors
      rw [reported, List.cons.injEq] at listed
      exact listed.1
    subst first
    exact ⟨before, t, after, whole, rfl, rfl, span_tells whole, Grammar.viable_of_run run inside,
      Grammar.refused_not_viable run refused⟩

theorem first_error_ends_viability_parameters :
    (parse "fn f(x) \x7b\x7d".toList).2 =
        [⟨.expectedEmptyParameterList, .leftParen, ⟨4, 5⟩⟩] ∧
      ∃ before t after, Grammar.CeasesAt "fn f(x) \x7b\x7d".toList
        ⟨.expectedEmptyParameterList, .leftParen, ⟨4, 5⟩⟩ before t after := by
  have reported : (parse "fn f(x) \x7b\x7d".toList).2 =
      [⟨.expectedEmptyParameterList, .leftParen, ⟨4, 5⟩⟩] := by decide +kernel
  exact ⟨reported, first_error_ends_viability reported⟩

end Minilang
