import Minilang.Proofs.Advances
import Minilang.Proofs.Places

namespace Minilang
namespace Parser

variable {p q : Parser} {ts : List Token} {low k : Nat}

/-- From one state to another the tokens are advanced over, none of them the end of the text. -/
inductive Consumes (p : Parser) : List Token → Parser → Prop where
  | start : Consumes p [] p
  | advance {ts : List Token} {q : Parser} (earlier : Consumes p ts q) (more : q.isAt .eof = false) :
      Consumes p (ts ++ [q.current]) q.advance
  | report {ts : List Token} {q : Parser} (cause : Cause) (earlier : Consumes p ts q) :
      Consumes p ts (q.report cause)

inductive Loops (halt : Parser → Bool) (turn : Parser → Parser) : Parser → Parser → Prop where
  | halted {p : Parser} (ended : halt p = true) : Loops halt turn p p
  | turned {p q : Parser} (goes : halt p = false) (forward : p.position < (turn p).position)
      (later : Loops halt turn (turn p) q) : Loops halt turn p q

def declarationTurn (p : Parser) : Parser :=
  if p.isAt (.keyword .fn) then p.function.2
  else (p.report .expectedTopLevelDeclaration).skipToFunction

def statementTurn (p : Parser) : Parser := p.statement.2

theorem Consumes.ahead (consumes : Consumes p ts q) : p.ahead = ts ++ q.ahead := by
  induction consumes with
  | start => rfl
  | advance earlier more ih => rw [ih, ahead_advance more, List.append_assoc, List.singleton_append]
  | report cause earlier ih => exact ih

theorem Consumes.position (consumes : Consumes p ts q) : q.position = p.position + ts.length := by
  induction consumes with
  | start => rfl
  | advance earlier more ih =>
    rw [List.length_append, List.length_singleton, ← Nat.add_assoc, ← ih]
    rfl
  | report cause earlier ih => exact ih

theorem Proceeds.consumes (proceeds : Proceeds p low q k) : ∃ ts, Consumes p ts q := by
  induction proceeds with
  | start => exact ⟨[], .start⟩
  | advance earlier more ih =>
    obtain ⟨ts, taken⟩ := ih
    exact ⟨_, taken.advance more⟩
  | report cause earlier ordered inside ih =>
    obtain ⟨ts, taken⟩ := ih
    exact ⟨ts, taken.report cause⟩
  | relax earlier weaker ih => exact ih

theorem Proceeds.forward (proceeds : Proceeds p low q k)
    (shorter : q.upcoming.length < p.upcoming.length) : p.position < q.position := by
  obtain ⟨ts, taken⟩ := proceeds.consumes
  have whole := congrArg List.length taken.ahead
  simp only [Parser.ahead, List.length_append, List.length_singleton] at whole
  rw [taken.position]
  omega

theorem Clears.forward (clears : Clears p low q)
    (shorter : q.upcoming.length < p.upcoming.length) : p.position < q.position := by
  rcases clears with ⟨-, proceeds⟩ | proceeds
  · exact proceeds.forward shorter
  · exact proceeds.forward shorter

theorem statementTurn_forward (inside : p.isAt .rightBrace = false) (more : p.isAt .eof = false) :
    p.position < p.statementTurn.position :=
  (proceeds_statement (Nat.zero_le 3) inside more).forward (statement_length_lt inside more)

theorem declarationTurn_forward (more : p.isAt .eof = false) :
    p.position < p.declarationTurn.position := by
  unfold declarationTurn
  split
  · exact (clears_function 0 more).forward (function_length_lt more)
  · rename_i off
    have far : p.isAt (.keyword .fn) = false := by simpa using off
    exact (proceeds_skipToFunction far more).forward (skipToFunction_length_lt far more)

theorem loops_statements (p : Parser) :
    Loops (fun p => p.isAt .rightBrace || p.isAt .eof) statementTurn p p.statements.2 := by
  fun_induction statements p with
  | case1 p ended => exact .halted ended
  | case2 p goes first others ih =>
    have inside : p.isAt .rightBrace = false ∧ p.isAt .eof = false := by simpa using goes
    exact .turned (by simpa using goes) (statementTurn_forward inside.1 inside.2) ih

theorem loops_declarations (p : Parser) :
    Loops (isAt .eof) declarationTurn p p.declarations.2 := by
  fun_induction declarations p with
  | case1 p ended => exact .halted ended
  | case2 p goes here first others ih =>
    have more : p.isAt .eof = false := by simpa using goes
    have turn : p.declarationTurn = first.2 := if_pos here
    exact .turned more (declarationTurn_forward more) (by rw [turn]; exact ih)
  | case3 p goes off ih =>
    have more : p.isAt .eof = false := by simpa using goes
    have turn : p.declarationTurn = (p.report .expectedTopLevelDeclaration).skipToFunction :=
      if_neg off
    exact .turned more (declarationTurn_forward more) (by rw [turn]; exact ih)

def afterText (text : Text) : Parser := (ofText text).program.2

theorem afterText_ended (text : Text) : (afterText text).isAt .eof = true :=
  declarations_ended (ofText text)

theorem consumes_tokens (text : Text) :
    Consumes (ofText text) (Minilang.tokens text) (afterText text) := by
  obtain ⟨ts, taken⟩ := (proceeds_declarations (ofText text)).consumes
  have taken : Consumes (ofText text) ts (afterText text) := taken
  have left : (afterText text).upcoming = [] := by
    apply upcoming_eq_nil (afterText_ended text)
    intro t member
    have suffix := (reaches_declarations (ofText text)).upcoming_suffix
    exact ne_eof_of_mem_tokens (suffix.subset member)
  have all : Minilang.tokens text = ts := by
    have whole := taken.ahead
    rw [Parser.ahead, Parser.ahead, left, List.nil_append] at whole
    exact (List.append_inj' whole rfl).1
  rw [all]
  exact taken

/-- The parse takes the text as it is, and its loops get on in every turn. -/
structure TakesAll (text : Text) : Prop where
  ended : (afterText text).isAt .eof = true
  tokens : Consumes (ofText text) (Minilang.tokens text) (afterText text)
  advances : (afterText text).position = (Minilang.tokens text).length
  declarations : Loops (isAt .eof) declarationTurn (ofText text) (afterText text)
  statements : ∀ p : Parser,
    Loops (fun p => p.isAt .rightBrace || p.isAt .eof) statementTurn p p.statements.2

theorem every_token_is_taken_once (text : Text) : TakesAll text := by
  constructor
  · exact afterText_ended text
  · exact consumes_tokens text
  · rw [(consumes_tokens text).position]
    exact Nat.zero_add _
  · exact loops_declarations (ofText text)
  · exact loops_statements

end Parser
end Minilang
