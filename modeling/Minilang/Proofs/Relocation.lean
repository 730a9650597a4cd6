import Minilang.Proofs.Reach
import Minilang.Proofs.Reading
import Minilang.Proofs.Simulation
import Minilang.Proofs.Spelling

namespace Minilang

/-- A change of places that keeps empty places empty. -/
structure Relocation where
  span : Span → Span
  stop : Nat → Nat
  span_empty : ∀ n, span (.empty n) = .empty (stop n)

namespace Relocation
variable (r : Relocation)

def token (t : Token) : Token := { t with span := r.span t.span }

def error (e : SyntaxError) : SyntaxError := { e with span := r.span e.span }

def parser (p : Parser) : Parser :=
  ⟨p.upcoming.map r.token, r.stop p.endOfText, p.position, p.errors.map r.error⟩

theorem token_eof (n : Nat) : r.token (.eof n) = .eof (r.stop n) := by
  simp [token, Token.eof, r.span_empty]

theorem token_current (p : Parser) : (r.parser p).current = r.token p.current := by
  cases h : p.upcoming <;> simp [parser, Parser.current, h, token_eof]

theorem token_peek (p : Parser) : (r.parser p).peek = r.token p.peek := by
  simp only [parser, Parser.peek, ← List.map_tail]
  cases h : p.upcoming.tail <;> simp [token_eof]

def simulation : Parser.Simulation where
  map := r.parser
  map_kind p := by rw [token_current]; rfl
  map_text p := by rw [token_current]; rfl
  map_peek p := by rw [token_peek]; rfl
  map_advance p := by simp [parser, Parser.advance]
  map_report cause p := by
    simp only [Parser.report, token_current]
    simp [parser, error, token]

theorem parser_declarations (p : Parser) :
    (r.parser p).declarations = (p.declarations.1, r.parser p.declarations.2) :=
  r.simulation.map_declarations p

def erase : Relocation := ⟨fun _ => .empty 0, fun _ => 0, fun _ => rfl⟩

end Relocation

def Token.ofLexeme (l : Kind × Text) : Token := ⟨l.1, l.2, .empty 0⟩

theorem erase_tokens (text : Text) :
    (tokens text).map Relocation.erase.token = (lexemes text).map Token.ofLexeme := by
  rw [lexemes, List.map_map]
  rfl

theorem parse_of_lexemes {text : Text} {declared : List FunctionDecl} {fs : List SyntaxError}
    (reading : Parser.Reads Parser.declarations 0 ((lexemes text).map Token.ofLexeme) []
      declared fs) :
    (parse text).1 = ⟨declared⟩ ∧ (parse text).2.map Relocation.erase.error = fs := by
  have moved := Relocation.parser_declarations .erase (.ofText text)
  have start : Relocation.erase.parser (.ofText text) =
      ⟨(lexemes text).map Token.ofLexeme, 0, 0, []⟩ := by
    rw [← erase_tokens]
    rfl
  have read := reading 0 []
  rw [start] at moved
  rw [List.append_nil, moved, Prod.mk.injEq] at read
  constructor
  · exact congrArg Program.mk read.1
  · have errors := congrArg Parser.errors read.2
    exact errors

end Minilang
