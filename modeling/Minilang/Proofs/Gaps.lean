import Mathlib.Data.List.Chain
import Mathlib.Data.List.Forall2
import Minilang.Proofs.Relocation
import Minilang.Proofs.Tokenization

/-!
Gaps between tokens. What blanks stand there is not seen, if two words or two integers keep at least
one of them apart. Programs and errors come from the tokens in their order: with numbers in place of
their places, two texts of the same lexemes have the same tokens.
-/
namespace Minilang
open Text (byteLength)

def Kind.isWord : Kind → Bool
  | .ident | .keyword _ => true
  | _ => false

/-- Whether tokens of these kinds are read as one where no gap parts them. -/
def Kind.merges (k l : Kind) : Bool := k.isWord && l.isWord || k == .int && l == .int

/-- The text in which each token stands behind its gap. -/
def weave : List (Text × Token) → Text → Text
  | [], last => last
  | (gap, t) :: more, last => gap ++ (t.text ++ weave more last)

section Weaving
variable {c : Char} {w : Text} {k l : Kind}

theorem isWord_of_letter (spelled : l.Spelled (c :: w)) (letter : isLetter c = true) :
    l.isWord = true := by
  cases l with
  | eof => contradiction
  | illegal =>
    obtain ⟨d, same, -, -, -, noLetter⟩ := spelled
    obtain ⟨rfl, rfl⟩ := List.cons.inj same
    rw [noLetter] at letter
    contradiction
  | keyword word => rfl
  | ident => rfl
  | int =>
    rw [digit_not_letter (spelled.2 c List.mem_cons_self)] at letter
    contradiction
  | _ =>
    obtain ⟨d, same, sign⟩ := spelled
    obtain ⟨rfl, rfl⟩ := List.cons.inj same
    rw [(punctuation_apart sign).2.2] at letter
    contradiction

theorem isInt_of_digit (spelled : l.Spelled (c :: w)) (digit : isDigit c = true) : l = .int := by
  have noLetter := digit_not_letter digit
  cases l with
  | eof => contradiction
  | illegal =>
    obtain ⟨d, same, -, -, noDigit, -⟩ := spelled
    obtain ⟨rfl, rfl⟩ := List.cons.inj same
    rw [noDigit] at digit
    contradiction
  | keyword word =>
    have whole : c :: w = word.text := spelled
    have letter := keyword_letters word c (by simp [← whole])
    rw [noLetter] at letter
    contradiction
  | ident =>
    have letter := spelled.2.1 c List.mem_cons_self
    rw [noLetter] at letter
    contradiction
  | int => rfl
  | _ =>
    obtain ⟨d, same, sign⟩ := spelled
    obtain ⟨rfl, rfl⟩ := List.cons.inj same
    rw [(punctuation_apart sign).2.1] at digit
    contradiction

theorem merges_of_continues (spelled : l.Spelled (c :: w)) (carries : k.continues c = true) :
    k.merges l = true := by
  cases k with
  | ident =>
    have word := isWord_of_letter spelled carries
    rw [Kind.merges, word]
    rfl
  | keyword word =>
    have word := isWord_of_letter spelled carries
    rw [Kind.merges, word]
    rfl
  | int => simp [Kind.merges, isInt_of_digit spelled carries]
  | _ => contradiction

theorem blank_continues (k : Kind) (blank : isBlank c = true) : k.continues c = false := by
  cases k with
  | ident => exact blank_not_letter blank
  | keyword word => exact blank_not_letter blank
  | int => exact blank_not_digit blank
  | _ => rfl

theorem lexemes_gap {gap : Text} (blank : IsGap gap) (rest : Text) :
    lexemes (gap ++ rest) = lexemes rest :=
  TokenStream.lexemes_agree (blank.dropWhile rest)

theorem weave_ends {t : Token} {more : List (Text × Token)} {last : Text}
    (spelled : ∀ p ∈ more, p.2.kind.Spelled p.2.text) (blank : ∀ p ∈ more, IsGap p.1)
    (blankEnd : IsGap last)
    (apart : ∀ p ∈ more.head?, t.kind.merges p.2.kind = true → p.1 ≠ []) :
    ∀ c ∈ (weave more last).head?, t.kind.continues c = false := by
  intro c first
  cases more with
  | nil => exact blank_continues _ (blankEnd c (List.mem_of_mem_head? first))
  | cons p more =>
    obtain ⟨gap, u⟩ := p
    cases gap with
    | cons d gap =>
      obtain rfl : d = c := by simpa [weave] using first
      exact blank_continues _ (blank _ List.mem_cons_self d List.mem_cons_self)
    | nil =>
      have written := spelled _ List.mem_cons_self
      obtain ⟨d, w, same⟩ := List.exists_cons_of_ne_nil (text_ne_nil_of_spelled written)
      dsimp only at same
      obtain rfl : d = c := by simpa [weave, same] using first
      rw [same] at written
      apply Bool.eq_false_iff.mpr
      intro carries
      exact apart _ rfl (merges_of_continues written carries) rfl

theorem lexemes_weave {pieces : List (Text × Token)} {last : Text}
    (spelled : ∀ p ∈ pieces, p.2.kind.Spelled p.2.text) (blank : ∀ p ∈ pieces, IsGap p.1)
    (blankEnd : IsGap last)
    (apart : pieces.IsChain fun p q => p.2.kind.merges q.2.kind = true → q.1 ≠ []) :
    lexemes (weave pieces last) = pieces.map fun p => p.2.lexeme := by
  induction pieces with
  | nil =>
    have read := lexemes_gap blankEnd []
    rwa [List.append_nil, lexemes_nil] at read
  | cons p more ih =>
    obtain ⟨gap, t⟩ := p
    obtain ⟨written, others⟩ := List.forall_mem_cons.mp spelled
    obtain ⟨before, gaps⟩ := List.forall_mem_cons.mp blank
    have next : ∀ q ∈ more.head?, t.kind.merges q.2.kind = true → q.1 ≠ [] := by
      intro q first
      obtain ⟨rest, rfl⟩ := List.head?_eq_some_iff.mp first
      exact (List.isChain_cons_cons.mp apart).1
    rw [weave, lexemes_gap before, lexemes_spelled _ written (weave_ends others gaps blankEnd next),
      ih others gaps apart.tail]
    rfl

end Weaving

def numbered (ls : List (Kind × Text)) : List Token :=
  ls.mapIdx fun i l => ⟨l.1, l.2, ⟨i, i + 1⟩⟩

def seats (text : Text) : Relocation where
  span s :=
    if s.start < s.stop then ((tokens text)[s.start]?.map Token.span).getD (.empty (byteLength text))
    else .empty (byteLength text)
  stop _ := byteLength text
  span_empty n := by simp [Span.empty]

theorem numbered_seats (text : Text) :
    (numbered (lexemes text)).map (seats text).token = tokens text := by
  apply List.ext_getElem
  · simp [numbered, lexemes]
  · intro i inside inside'
    simp [numbered, lexemes, Token.lexeme, Relocation.token, seats, inside']

def readNumbered (ls : List (Kind × Text)) : List FunctionDecl × Parser :=
  (Parser.ofTokens (numbered ls) 0).declarations

theorem parse_numbered (text : Text) :
    parse text = (⟨(readNumbered (lexemes text)).1⟩,
      (readNumbered (lexemes text)).2.errors.map (seats text).error) := by
  have start : Parser.ofText text =
      (seats text).parser (.ofTokens (numbered (lexemes text)) 0) := by
    simp only [Relocation.parser, Parser.ofTokens, numbered_seats]
    rfl
  rw [parse, Parser.program, start, Relocation.parser_declarations]
  rfl

theorem seat_of_error {ls : List (Kind × Text)} {e : SyntaxError}
    (reported : e ∈ (readNumbered ls).2.errors) :
    ∃ i : Nat, ∀ text, lexemes text = ls →
      ((scanned text)[i]?).map Token.span = some ((seats text).span e.span) := by
  -- the number is found among the numbered tokens, before any text comes in
  have reach := Parser.reaches_declarations (.ofTokens (numbered ls) 0)
  obtain ⟨t, member, -, span⟩ := (reach.errors_at_tokens e reported).resolve_left
    (by simp [Parser.ofTokens])
  rcases List.mem_append.mp member with inside | last
  · obtain ⟨i, within, rfl⟩ := List.getElem_of_mem inside
    refine ⟨i, ?_⟩
    rintro text rfl
    have short : i < (tokens text).length := by
      simpa [Parser.ofTokens, numbered, lexemes] using within
    simp [span, scanned, Parser.ofTokens, numbered, seats, List.getElem?_append_left short, short]
  · obtain rfl := List.mem_singleton.mp last
    refine ⟨ls.length, ?_⟩
    rintro text rfl
    simp [span, scanned, lexemes, Parser.ofTokens, Token.eof, Span.empty, seats]

/-- Errors of two texts at the tokens of one number. -/
structure AtSameToken (text text' : Text) (e e' : SyntaxError) : Prop where
  cause : e'.cause = e.cause
  found : e'.found = e.found
  place : ∃ (i : Nat) (t t' : Token), (scanned text)[i]? = some t ∧ (scanned text')[i]? = some t' ∧
    e.span = t.span ∧ e'.span = t'.span

theorem parse_of_same_lexemes {text text' : Text} (same : lexemes text' = lexemes text) :
    (parse text').1 = (parse text).1 ∧
      List.Forall₂ (AtSameToken text text') (parse text).2 (parse text').2 := by
  rw [parse_numbered text, parse_numbered text', same]
  constructor
  · rfl
  · rw [List.forall₂_map_left_iff, List.forall₂_map_right_iff, List.forall₂_same]
    intro e reported
    obtain ⟨i, seat⟩ := seat_of_error reported
    obtain ⟨t, here, span⟩ := Option.map_eq_some_iff.mp (seat text rfl)
    obtain ⟨t', here', span'⟩ := Option.map_eq_some_iff.mp (seat text' same)
    exact ⟨rfl, rfl, i, t, t', here, here', span.symm, span'.symm⟩

/-- Gaps are not seen, as long as no two tokens are made one. -/
theorem gaps_are_not_seen {text : Text} {pieces : List (Text × Token)} {last : Text}
    (same : pieces.map Prod.snd = tokens text) (blank : ∀ p ∈ pieces, IsGap p.1)
    (blankEnd : IsGap last)
    (apart : pieces.IsChain fun p q => p.2.kind.merges q.2.kind = true → q.1 ≠ []) :
    lexemes (weave pieces last) = lexemes text ∧
      (parse (weave pieces last)).1 = (parse text).1 ∧
      List.Forall₂ (AtSameToken text (weave pieces last)) (parse text).2
        (parse (weave pieces last)).2 := by
  have spelled : ∀ p ∈ pieces, p.2.kind.Spelled p.2.text := by
    intro p member
    have listed : p.2 ∈ tokens text := by
      rw [← same]
      exact List.mem_map_of_mem member
    exact spelled_of_mem_tokens listed
  have alike : lexemes (weave pieces last) = lexemes text := by
    rw [lexemes_weave spelled blank blankEnd apart, lexemes, ← same, List.map_map]
    rfl
  exact ⟨alike, parse_of_same_lexemes alike⟩

theorem gaps_are_not_seen_around_foreign :
    let text : Text := "fn f()\x7breturn 1 é;\x7d".toList
    let gaps : List Text := [[], ['\t', ' '], [], ['\n'], [], ['\r'], [], [], [], ['\n']]
    let pieces : List (Text × Token) := gaps.zip (tokens text)
    pieces.map Prod.snd = tokens text ∧ (parse text).2.length = 2 ∧
      weave pieces [' '] = "fn\t f(\n)\x7b\rreturn1é;\n\x7d ".toList ∧
      lexemes (weave pieces [' ']) = lexemes text ∧
      (parse (weave pieces [' '])).1 = (parse text).1 ∧
      List.Forall₂ (AtSameToken text (weave pieces [' '])) (parse text).2
        (parse (weave pieces [' '])).2 := by
  intro text gaps pieces
  have same : pieces.map Prod.snd = tokens text := by decide +kernel
  have blank : ∀ p ∈ pieces, IsGap p.1 := by decide +kernel
  have apart : pieces.IsChain fun p q => p.2.kind.merges q.2.kind = true → q.1 ≠ [] := by
    decide +kernel
  have errors : (parse text).2.length = 2 := by decide +kernel
  have written : weave pieces [' '] = "fn\t f(\n)\x7b\rreturn1é;\n\x7d ".toList := by
    decide +kernel
  exact ⟨same, errors, written, gaps_are_not_seen same blank (by decide) apart⟩

end Minilang
