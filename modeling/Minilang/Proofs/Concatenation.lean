import Minilang.Proofs.Acceptance
import Minilang.Proofs.Relocation
import Minilang.Proofs.Tokenization

namespace Minilang
open Text (byteLength)

def Span.shift (n : Nat) (s : Span) : Span := ⟨s.start + n, s.stop + n⟩

def Token.shift (n : Nat) (t : Token) : Token := { t with span := t.span.shift n }

def SyntaxError.shift (n : Nat) (e : SyntaxError) : SyntaxError := { e with span := e.span.shift n }

def shifting (n : Nat) : Relocation := ⟨Span.shift n, (· + n), fun _ => rfl⟩

namespace Tokenization
variable {place : Nat} {a b text : Text} {ts us : List Token}

theorem shift (n : Nat) (cut : Tokenization place text ts) :
    Tokenization (place + n) text (ts.map (Token.shift n)) := by
  induction cut with
  | finished blank => exact .finished blank
  | @token place gap rest t ts blank spelled span maximal later ih =>
    have moved : (t.shift n).span = ⟨place + n + byteLength gap,
        place + n + byteLength gap + byteLength (t.shift n).text⟩ := by
      simp only [Token.shift, Span.shift, span, Span.mk.injEq]
      omega
    exact .token (t := t.shift n) blank spelled moved maximal ih

theorem eq_nil (cut : Tokenization place text ts) (empty : text = []) : ts = [] := by
  cases cut with
  | finished blank => rfl
  | token blank spelled span maximal later =>
    have nonempty := text_ne_nil_of_spelled spelled
    simp [nonempty] at empty

theorem behind_gap {gap : Text} (blank : IsGap gap)
    (cut : Tokenization (place + byteLength gap) text ts) : Tokenization place (gap ++ text) ts := by
  generalize start : place + byteLength gap = inner at cut
  cases cut with
  | finished other => exact .finished (blank.append other)
  | @token _ gap' rest t ts other spelled span maximal later =>
    rw [← List.append_assoc]
    refine .token (blank.append other) spelled ?_ maximal later
    rw [span, ← start, Text.byteLength_append]
    simp only [Span.mk.injEq]
    omega

theorem append (first : Tokenization place a ts)
    (second : Tokenization (place + byteLength a) b us)
    (closed : ∀ t ∈ ts.getLast?, ∀ c, t.kind.continues c = false) :
    Tokenization place (a ++ b) (ts ++ us) := by
  induction first with
  | finished blank => exact behind_gap blank second
  | @token place gap rest t ts blank spelled span maximal later ih =>
    have reached : t.span.stop + byteLength rest =
        place + byteLength (gap ++ (t.text ++ rest)) := by
      simp only [span, Text.byteLength_append]
      omega
    have inner : ∀ u ∈ ts.getLast?, ∀ c, u.kind.continues c = false := by
      intro u last
      apply closed u
      obtain ⟨others, rfl⟩ := List.getLast?_eq_some_iff.mp last
      exact List.getLast?_eq_some_iff.mpr ⟨t :: others, rfl⟩
    have ends : ∀ c ∈ (rest ++ b).head?, t.kind.continues c = false := by
      cases rest with
      | nil =>
        obtain rfl := later.eq_nil rfl
        intro c _
        exact closed t rfl c
      | cons d rest => exact maximal
    rw [← reached] at second
    rw [List.append_assoc, List.append_assoc, List.cons_append]
    exact .token blank spelled span ends (ih second inner)

end Tokenization

theorem function_ends (f : Grammar.Function) :
    ∃ w : List Token, f.yield = w ++ [f.body.closing.token] := by
  rw [Grammar.Function.yield, Grammar.Block.yield, ← List.append_assoc]
  exact ⟨_, rfl⟩

theorem program_closed (d : Grammar.Program) :
    ∀ t ∈ d.yield.getLast?, ∀ c, t.kind.continues c = false := by
  intro t last c
  obtain ⟨fs⟩ := d
  rcases List.eq_nil_or_concat fs with rfl | ⟨others, f, rfl⟩
  · contradiction
  · obtain ⟨w, whole⟩ := function_ends f
    have final : f.body.closing.token = t := by
      simpa [Grammar.Program.yield, whole] using last
    rw [← final, f.body.closing.isKind]
    rfl

theorem tokens_append {a : Text} {d : Grammar.Program} (derives : d.yield = tokens a) (b : Text) :
    tokens (a ++ b) = tokens a ++ (tokens b).map (Token.shift (byteLength a)) := by
  have first : Tokenization 0 a (tokens a) := (TokenStream.ofText a).tokens_tokenize
  have second : Tokenization 0 b (tokens b) := (TokenStream.ofText b).tokens_tokenize
  have closed : ∀ t ∈ (tokens a).getLast?, ∀ c, t.kind.continues c = false := by
    rw [← derives]
    exact program_closed d
  exact tokens_of_tokenization (first.append (second.shift (byteLength a)) closed)

namespace Parser

def onward (place : Nat) (errors : List SyntaxError) : Simulation where
  map p := { p with position := place + p.position, errors := errors ++ p.errors }
  map_kind _ := rfl
  map_text _ := rfl
  map_peek _ := rfl
  map_advance _ := rfl
  map_report cause p := by
    simp only [report, List.append_assoc]
    rfl

/-- Behind whole functions the parser goes on with what follows them. -/
theorem declarations_behind (fs : List Grammar.Function) {rest : List Token} {stop place : Nat}
    {errors : List SyntaxError} {later : List FunctionDecl × Parser}
    (goes : (Parser.mk rest stop (place + (fs.flatMap Grammar.Function.yield).length)
      errors).declarations = later) :
    (Parser.mk (fs.flatMap Grammar.Function.yield ++ rest) stop place errors).declarations =
      (fs.map Grammar.Function.tree ++ later.1, later.2) := by
  induction fs generalizing place with
  | nil => exact goes
  | cons f fs ih =>
    have one : Reads function stop f.yield (fs.flatMap Grammar.Function.yield ++ rest) f.tree [] :=
      reads_derived_function f
    have keyword : (upNext stop (f.yield ++ (fs.flatMap Grammar.Function.yield ++ rest))).kind =
        .keyword .fn := by
      simp [Grammar.Function.yield, f.keyword.isKind]
    rw [List.flatMap_cons, List.length_append, ← Nat.add_assoc] at goes
    have others := ih goes
    rw [List.flatMap_cons, List.append_assoc, declarations]
    simp only [isAt_mk, keyword, one place errors, List.append_nil, others]
    rfl

end Parser

theorem declarations_append {a : Text} {d : Grammar.Program} (derives : d.yield = tokens a)
    (b : Text) :
    (Parser.ofText (a ++ b)).declarations =
      (d.tree.declarations ++ (Parser.ofText b).declarations.1,
        (Parser.onward d.yield.length []).map
          ((shifting (byteLength a)).parser (Parser.ofText b).declarations.2)) := by
  let rest := (tokens b).map (Token.shift (byteLength a))
  let stop := byteLength b + byteLength a
  have start : Parser.ofText (a ++ b) = ⟨d.yield ++ rest, stop, 0, []⟩ := by
    rw [Parser.ofText, tokens_append derives, ← derives, Text.byteLength_append, Nat.add_comm]
    rfl
  -- the parser of the second text, moved behind the tokens and the places of the first
  have moved := (Parser.onward d.yield.length []).map_declarations
    ((shifting (byteLength a)).parser (.ofText b))
  rw [Relocation.parser_declarations] at moved
  have goes : (Parser.mk rest stop (0 + d.yield.length) []).declarations =
      (Parser.onward d.yield.length []).result ((Parser.ofText b).declarations.1,
        (shifting (byteLength a)).parser (Parser.ofText b).declarations.2) := by
    rw [Nat.zero_add]
    exact moved
  rw [start]
  exact Parser.declarations_behind d.functions goes

/-- Behind a whole program a text is read as if it stood alone. -/
theorem parse_concatenation {a : Text} (quiet : (parse a).2 = []) (b : Text) :
    (parse (a ++ b)).1.declarations = (parse a).1.declarations ++ (parse b).1.declarations ∧
      (parse (a ++ b)).2 = (parse b).2.map (SyntaxError.shift (byteLength a)) := by
  obtain ⟨d, derives⟩ := derived_of_quiet quiet
  have read := declarations_append derives b
  constructor
  · rw [parse_derived derives]
    exact congrArg Prod.fst read
  · exact congrArg (fun r => r.2.errors) read

theorem parse_concatenation_faulty :
    let a : Text := "fn f() \x7b\x7d\n".toList
    let b : Text := "é fn g( \x7b x = ;".toList
    (parse a).2 = [] ∧ (parse b).2.map SyntaxError.cause = [.expectedTopLevelDeclaration,
        .expectedEmptyParameterList, .expectedExpression, .unexpectedEof] ∧
      (parse (a ++ b)).1.declarations = (parse a).1.declarations ++ (parse b).1.declarations ∧
      (parse (a ++ b)).2 = (parse b).2.map (SyntaxError.shift 10) := by
  intro a b
  have quiet : (parse a).2 = [] := by decide +kernel
  exact ⟨quiet, by decide +kernel, parse_concatenation quiet b⟩

end Minilang
