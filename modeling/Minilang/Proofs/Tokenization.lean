import Minilang.Proofs.Places

/-!
The tokens of a text as a cut of it. A tokenization leaves blanks only between the tokens, gives each
token the range of bytes that it was cut from, and breaks off no run of letters or digits. A text has
one tokenization, and the stream calls give it, token by token, with the end of the text ever after.
-/
namespace Minilang
open Text (byteLength)

def IsGap (w : Text) : Prop := ∀ c ∈ w, isBlank c = true

instance (w : Text) : Decidable (IsGap w) :=
  decidable_of_iff (w.all isBlank = true) List.all_eq_true

/-- The tokens are cut from the text, which begins at the given place. -/
inductive Tokenization : Nat → Text → List Token → Prop where
  | finished {place : Nat} {gap : Text} (blank : IsGap gap) : Tokenization place gap []
  | token {place : Nat} {gap rest : Text} {t : Token} {ts : List Token} (blank : IsGap gap)
      (spelled : t.kind.Spelled t.text)
      (span : t.span =
        ⟨place + byteLength gap, place + byteLength gap + byteLength t.text⟩)
      (maximal : ∀ c ∈ rest.head?, t.kind.continues c = false)
      (later : Tokenization t.span.stop rest ts) :
      Tokenization place (gap ++ (t.text ++ rest)) (t :: ts)

theorem IsGap.append {v w : Text} (first : IsGap v) (second : IsGap w) : IsGap (v ++ w) :=
  List.forall_mem_append.mpr ⟨first, second⟩

theorem IsGap.dropWhile {w : Text} (blank : IsGap w) (rest : Text) :
    (w ++ rest).dropWhile isBlank = rest.dropWhile isBlank :=
  List.dropWhile_append_of_pos blank

theorem IsGap.takeWhile_solid {w rest : Text} (blank : IsGap w)
    (solid : ∀ c ∈ rest.head?, isBlank c = false) : (w ++ rest).takeWhile isBlank = w :=
  takeWhile_run blank solid

theorem isGap_takeWhile (t : Text) : IsGap (t.takeWhile isBlank) := takeWhile_all isBlank t

theorem takeWhile_of_dropWhile {t : Text} (ended : t.dropWhile isBlank = []) :
    t.takeWhile isBlank = t := by
  have whole := List.takeWhile_append_dropWhile (p := isBlank) (l := t)
  rwa [ended, List.append_nil] at whole

theorem isGap_of_dropWhile {t : Text} (ended : t.dropWhile isBlank = []) : IsGap t := by
  rw [← takeWhile_of_dropWhile ended]
  exact isGap_takeWhile t

theorem dropWhile_of_isGap {t : Text} (blank : IsGap t) : t.dropWhile isBlank = [] := by
  have dropped := blank.dropWhile []
  rwa [List.append_nil] at dropped

theorem head?_dropWhile (test : Char → Bool) (t : Text) :
    ∀ c ∈ (t.dropWhile test).head?, test c = false := by
  intro c first
  have stops := List.head?_dropWhile_not test t
  rw [Option.mem_def.mp first] at stops
  simpa using stops

theorem ofWord_continues (w : Text) (c : Char) : (Kind.ofWord w).continues c = isLetter c := by
  unfold Kind.ofWord
  split
  · rfl
  · split <;> rfl

theorem punctuation_continues {d : Char} {kind : Kind} (sign : Kind.ofPunctuation? d = some kind)
    (c : Char) : kind.continues c = false := by
  unfold Kind.ofPunctuation? at sign
  split at sign
  all_goals first
    | contradiction
    | (obtain rfl := Option.some.inj sign; rfl)

theorem drop_run (test : Char → Bool) (c : Char) (cs : Text) :
    (c :: cs).drop (c :: cs.takeWhile test).length = cs.dropWhile test := by
  have parts := List.takeWhile_append_dropWhile (p := test) (l := cs)
  calc (c :: cs).drop (c :: cs.takeWhile test).length
    _ = (cs.takeWhile test ++ cs.dropWhile test).drop (cs.takeWhile test).length := by
      rw [parts, List.length_cons, List.drop_succ_cons]
    _ = cs.dropWhile test := List.drop_left

theorem lexeme_maximal (c : Char) (cs : Text) :
    ∀ d ∈ ((c :: cs).drop (lexeme c cs).2.length).head?, (lexeme c cs).1.continues d = false := by
  unfold lexeme
  split
  · rename_i kind sign
    intro d _
    exact punctuation_continues sign d
  · split
    · rw [drop_run]
      exact head?_dropWhile isDigit cs
    · split
      · rw [drop_run]
        intro d first
        rw [ofWord_continues]
        exact head?_dropWhile isLetter cs d first
      · intro d _
        rfl

namespace TokenStream
variable {s : TokenStream}

theorem next_maximal (more : s.rest.dropWhile isBlank ≠ []) :
    ∀ c ∈ s.next.2.rest.head?, s.next.1.kind.continues c = false := by
  obtain ⟨c, cs, begins⟩ := List.exists_cons_of_ne_nil more
  have kind : s.next.1.kind = (Minilang.lexeme c cs).1 := congrArg Prod.fst (next_lexeme begins)
  rw [next_rest begins, kind]
  exact lexeme_maximal c cs

theorem tokens_tokenize (s : TokenStream) : Tokenization s.offset s.rest s.tokens := by
  fun_induction tokens s with
  | case1 s ended => exact .finished (isGap_of_dropWhile ended)
  | case2 s more ih =>
    obtain ⟨span, follows⟩ := next_span more
    rw [follows] at ih
    rw [next_whole more]
    exact .token (isGap_takeWhile _) (next_spelled more) span (next_maximal more) ih

end TokenStream

namespace Tokenization
variable {place : Nat} {text : Text} {ts : List Token}

theorem next_of_token {s : TokenStream} {gap rest : Text} {t : Token} (blank : IsGap gap)
    (spelled : t.kind.Spelled t.text)
    (span : t.span = ⟨s.offset + byteLength gap, s.offset + byteLength gap + byteLength t.text⟩)
    (maximal : ∀ c ∈ rest.head?, t.kind.continues c = false)
    (whole : s.rest = gap ++ (t.text ++ rest)) :
    s.rest.dropWhile isBlank ≠ [] ∧ s.next = (t, ⟨rest, t.span.stop, t.span⟩) := by
  obtain ⟨kind, text, span'⟩ := t
  dsimp only at spelled span maximal whole
  obtain ⟨c, w, rfl⟩ := List.exists_cons_of_ne_nil (text_ne_nil_of_spelled spelled)
  have solid : isBlank c = false := solid_of_spelled spelled c List.mem_cons_self
  have begins : s.rest.dropWhile isBlank = c :: (w ++ rest) := by
    rw [whole, blank.dropWhile]
    simp [solid]
  have blanks : s.rest.takeWhile isBlank = gap := by
    rw [whole]
    exact blank.takeWhile_solid (by simpa using solid)
  have read := lexeme_of_spelled spelled maximal
  constructor
  · simp [begins]
  · simp only [TokenStream.next, begins, blanks, read]
    rw [← List.cons_append, List.drop_left, span]

theorem unique (cut : Tokenization place text ts) (s : TokenStream) (at_place : s.offset = place)
    (whole : s.rest = text) : s.tokens = ts := by
  induction cut generalizing s with
  | finished blank =>
    have ended : s.rest.dropWhile isBlank = [] := by
      rw [whole]
      exact dropWhile_of_isGap blank
    rw [TokenStream.tokens, if_pos ended]
  | token blank spelled span maximal later ih =>
    subst at_place
    obtain ⟨more, found⟩ := next_of_token blank spelled span maximal whole
    rw [TokenStream.tokens, if_neg more, found, ih _ rfl rfl]

theorem length_le (cut : Tokenization place text ts) : ts.length ≤ text.length := by
  induction cut with
  | finished blank => exact Nat.zero_le _
  | token blank spelled span maximal later ih =>
    have wide := List.length_pos_iff.mpr (text_ne_nil_of_spelled spelled)
    simp only [List.length_cons, List.length_append]
    omega

end Tokenization

theorem tokens_of_tokenization {text : Text} {ts : List Token} (cut : Tokenization 0 text ts) :
    tokens text = ts :=
  cut.unique (.ofText text) rfl rfl

namespace TokenStream
variable {s : TokenStream}

def stop (s : TokenStream) : Nat := s.offset + byteLength s.rest

theorem next_previous (s : TokenStream) : s.next.2.previous = s.next.1.span := by
  unfold next
  split <;> rfl

theorem next_ended (ended : s.rest.dropWhile isBlank = []) :
    s.next = (.eof s.stop, ⟨[], s.stop, .empty s.stop⟩) := by
  simp [next, ended, stop, takeWhile_of_dropWhile ended]

theorem next_stop (s : TokenStream) : s.next.2.stop = s.stop := by
  by_cases ended : s.rest.dropWhile isBlank = []
  · rw [next_ended ended]
    rfl
  · have parts := congrArg byteLength (next_whole ended)
    obtain ⟨span, follows⟩ := next_span ended
    rw [Text.byteLength_append, Text.byteLength_append] at parts
    rw [stop, stop, follows, span]
    dsimp only
    omega

theorem take_next (k : Nat) (s : TokenStream) :
    (s.take k).2.next.1 = s.tokens[k]?.getD (.eof s.stop) := by
  induction k generalizing s with
  | zero =>
    rw [tokens, take]
    split
    · rename_i ended
      exact congrArg Prod.fst (next_ended ended)
    · rfl
  | succ k ih =>
    rw [take, ih, next_stop, tokens.eq_def s]
    split
    · rename_i ended
      have nothing : s.next.2.rest.dropWhile isBlank = [] := by
        rw [next_ended ended]
        rfl
      rw [tokens, if_pos nothing]
      rfl
    · rfl

theorem take_succ (k : Nat) (s : TokenStream) : (s.take (k + 1)).2 = (s.take k).2.next.2 := by
  induction k generalizing s with
  | zero => rfl
  | succ k ih =>
    rw [take, ih]
    rfl

end TokenStream

structure ScansAs (text : Text) (ts : List Token) : Prop where
  tokenization : Tokenization 0 text ts
  unique : ∀ us, Tokenization 0 text us → us = ts
  bounded : ts.length ≤ text.length
  token : ∀ k, ∀ t ∈ ts[k]?, ((TokenStream.ofText text).take k).2.next.1 = t
  ended : ∀ k, ts.length ≤ k →
    ((TokenStream.ofText text).take k).2.next.1 = ⟨.eof, [], .empty (byteLength text)⟩
  span : ∀ k, ((TokenStream.ofText text).take (k + 1)).2.previous =
    (((TokenStream.ofText text).take k).2.next.1).span

/-- The stream gives the one tokenization of the text and then, for ever, the end of the text. -/
theorem scanning_is_maximal_munch (text : Text) : ScansAs text (tokens text) := by
  have cut : Tokenization 0 text (tokens text) := TokenStream.tokens_tokenize (.ofText text)
  have stop : (TokenStream.ofText text).stop = byteLength text := Nat.zero_add _
  have call : ∀ k, ((TokenStream.ofText text).take k).2.next.1 =
      (tokens text)[k]?.getD (.eof (byteLength text)) := by
    intro k
    rw [TokenStream.take_next, stop]
    rfl
  constructor
  · exact cut
  · intro us other
    exact (tokens_of_tokenization other).symm
  · exact cut.length_le
  · intro k t here
    rw [call, Option.mem_def.mp here]
    rfl
  · intro k behind
    rw [call, List.getElem?_eq_none behind]
    rfl
  · intro k
    rw [TokenStream.take_succ, TokenStream.next_previous]

end Minilang
