import Minilang.Token.Stream

namespace Minilang

def IsName (w : Text) : Prop :=
  w ≠ [] ∧ (∀ c ∈ w, isLetter c = true) ∧ w ≠ Keyword.fn.text ∧ w ≠ Keyword.ret.text

def IsNumber (w : Text) : Prop := w ≠ [] ∧ ∀ c ∈ w, isDigit c = true

instance (w : Text) : Decidable (IsName w) :=
  decidable_of_iff (w ≠ [] ∧ w.all isLetter = true ∧ w ≠ Keyword.fn.text ∧ w ≠ Keyword.ret.text)
    (by rw [List.all_eq_true]; rfl)

instance (w : Text) : Decidable (IsNumber w) :=
  decidable_of_iff (w ≠ [] ∧ w.all isDigit = true) (by rw [List.all_eq_true]; rfl)

def IsForeign (c : Char) : Prop :=
  isBlank c = false ∧ Kind.ofPunctuation? c = none ∧ isDigit c = false ∧ isLetter c = false

instance (c : Char) : Decidable (IsForeign c) := inferInstanceAs (Decidable (_ ∧ _ ∧ _ ∧ _))

def Kind.Spelled (w : Text) : Kind → Prop
  | .eof => False
  | .illegal => ∃ c, w = [c] ∧ IsForeign c
  | .keyword word => w = word.text
  | .ident => IsName w
  | .int => IsNumber w
  | kind => ∃ c, w = [c] ∧ Kind.ofPunctuation? c = some kind

theorem spelled_punctuation {c : Char} {kind : Kind} (sign : Kind.ofPunctuation? c = some kind) :
    kind.Spelled [c] := by
  unfold Kind.ofPunctuation? at sign
  split at sign
  all_goals first
    | contradiction
    | (obtain rfl := Option.some.inj sign; exact ⟨_, rfl, rfl⟩)

theorem text_of_sign {c : Char} {kind : Kind} {w : Text} (sign : Kind.ofPunctuation? c = some kind)
    (spelled : kind.Spelled w) : w = [c] := by
  unfold Kind.ofPunctuation? at sign
  split at sign
  all_goals first
    | contradiction
    | obtain rfl := Option.some.inj sign
      obtain ⟨d, rfl, same⟩ := spelled
      unfold Kind.ofPunctuation? at same
      split at same <;> first | rfl | contradiction

theorem spelled_word {w : Text} (nonempty : w ≠ []) (letters : ∀ c ∈ w, isLetter c = true) :
    (Kind.ofWord w).Spelled w := by
  unfold Kind.ofWord
  split
  · assumption
  · split
    · assumption
    · rename_i noFn noReturn
      exact ⟨nonempty, letters, noFn, noReturn⟩

theorem takeWhile_all (test : Char → Bool) (cs : Text) : ∀ c ∈ cs.takeWhile test, test c = true :=
  List.all_eq_true.mp List.all_takeWhile

theorem lexeme_spelled {c : Char} (cs : Text) (solid : isBlank c = false) :
    (lexeme c cs).1.Spelled (lexeme c cs).2 := by
  unfold lexeme
  split
  · rename_i kind sign
    exact spelled_punctuation sign
  · rename_i noSign
    split
    · rename_i digit
      exact ⟨by simp, List.forall_mem_cons.mpr ⟨digit, takeWhile_all isDigit cs⟩⟩
    · rename_i noDigit
      split
      · rename_i letter
        exact spelled_word (by simp) (List.forall_mem_cons.mpr ⟨letter, takeWhile_all isLetter cs⟩)
      · rename_i noLetter
        exact ⟨c, rfl, solid, noSign, by simpa using noDigit, by simpa using noLetter⟩

def Token.lexeme (t : Token) : Kind × Text := (t.kind, t.text)

namespace TokenStream

theorem next_lexeme {s : TokenStream} {c : Char} {cs : Text}
    (begins : s.rest.dropWhile isBlank = c :: cs) : s.next.1.lexeme = Minilang.lexeme c cs := by
  simp [next, begins, Token.lexeme]

theorem next_rest {s : TokenStream} {c : Char} {cs : Text}
    (begins : s.rest.dropWhile isBlank = c :: cs) :
    s.next.2.rest = (c :: cs).drop (Minilang.lexeme c cs).2.length := by
  simp [next, begins]

theorem solid_of_dropWhile {t cs : Text} {c : Char} (begins : t.dropWhile isBlank = c :: cs) :
    isBlank c = false := by
  have := List.head?_dropWhile_not isBlank t
  simpa [begins] using this

theorem next_spelled {s : TokenStream} (more : s.rest.dropWhile isBlank ≠ []) :
    s.next.1.kind.Spelled s.next.1.text := by
  obtain ⟨c, cs, begins⟩ := List.exists_cons_of_ne_nil more
  have spelled := lexeme_spelled cs (solid_of_dropWhile begins)
  rw [← next_lexeme begins] at spelled
  exact spelled

theorem tokens_spelled (s : TokenStream) : ∀ t ∈ s.tokens, t.kind.Spelled t.text := by
  fun_induction tokens s with
  | case1 s _ => simp
  | case2 s more ih => exact List.forall_mem_cons.mpr ⟨next_spelled more, ih⟩

theorem lexemes_agree {s u : TokenStream}
    (same : s.rest.dropWhile isBlank = u.rest.dropWhile isBlank) :
    s.tokens.map Token.lexeme = u.tokens.map Token.lexeme := by
  fun_induction tokens s generalizing u with
  | case1 s ended =>
    rw [same] at ended
    rw [tokens]
    simp [ended]
  | case2 s more ih =>
    obtain ⟨c, cs, begins⟩ := List.exists_cons_of_ne_nil more
    have begins' := begins
    rw [same] at begins'
    -- both begin with the same lexeme, and the same text is left behind it
    have first : s.next.1.lexeme = u.next.1.lexeme := by
      rw [next_lexeme begins, next_lexeme begins']
    have later : s.next.2.rest = u.next.2.rest := by rw [next_rest begins, next_rest begins']
    rw [tokens.eq_def u]
    simp only [begins', reduceCtorEq, ↓reduceIte, List.map_cons, first]
    rw [ih (congrArg _ later)]

end TokenStream

theorem spelled_of_mem_tokens {text : Text} {t : Token} (member : t ∈ tokens text) :
    t.kind.Spelled t.text :=
  TokenStream.tokens_spelled _ t member

theorem ne_eof_of_mem_tokens {text : Text} {t : Token} (member : t ∈ tokens text) :
    t.kind ≠ .eof := by
  intro ended
  have spelled := spelled_of_mem_tokens member
  rw [ended] at spelled
  exact spelled

def lexemes (text : Text) : List (Kind × Text) := (tokens text).map Token.lexeme

theorem lexemes_nil : lexemes [] = [] := by
  rw [lexemes, tokens, TokenStream.tokens]
  rfl

theorem lexemes_blank {c : Char} (cs : Text) (blank : isBlank c = true) :
    lexemes (c :: cs) = lexemes cs := by
  apply TokenStream.lexemes_agree
  simp [TokenStream.ofText, blank]

theorem lexemes_solid {c : Char} (cs : Text) (solid : isBlank c = false) :
    lexemes (c :: cs) = lexeme c cs :: lexemes ((c :: cs).drop (lexeme c cs).2.length) := by
  have begins : (TokenStream.ofText (c :: cs)).rest.dropWhile isBlank = c :: cs := by
    simp [TokenStream.ofText, solid]
  rw [lexemes, tokens, TokenStream.tokens]
  simp only [begins, reduceCtorEq, ↓reduceIte, List.map_cons, TokenStream.next_lexeme begins]
  congr 1
  exact TokenStream.lexemes_agree (congrArg _ (TokenStream.next_rest begins))

theorem punctuation_apart {c : Char} {kind : Kind} (sign : Kind.ofPunctuation? c = some kind) :
    isBlank c = false ∧ isDigit c = false ∧ isLetter c = false := by
  unfold Kind.ofPunctuation? at sign
  split at sign
  all_goals first
    | contradiction
    | decide

theorem blank_not_letter {c : Char} (blank : isBlank c = true) : isLetter c = false := by
  simp only [isBlank, Bool.or_eq_true, beq_iff_eq] at blank
  rcases blank with ((rfl | rfl) | rfl) | rfl <;> decide

theorem blank_not_digit {c : Char} (blank : isBlank c = true) : isDigit c = false := by
  simp only [isBlank, Bool.or_eq_true, beq_iff_eq] at blank
  rcases blank with ((rfl | rfl) | rfl) | rfl <;> decide

theorem digit_not_letter {c : Char} (digit : isDigit c = true) : isLetter c = false := by
  simp only [isDigit, Bool.and_eq_true, decide_eq_true_eq, Char.le_def, UInt32.le_iff_toNat_le]
    at digit
  simp only [isLetter, Bool.or_eq_false_iff, Bool.and_eq_false_iff, decide_eq_false_iff_not,
    beq_eq_false_iff_ne, Char.le_def, UInt32.le_iff_toNat_le]
  have nine : c.val.toNat ≤ 57 := digit.2
  have underscore : c ≠ '_' := by
    rintro rfl
    exact absurd nine (by decide)
  refine ⟨⟨Or.inl ?_, Or.inl ?_⟩, underscore⟩
  · change ¬ 97 ≤ c.val.toNat
    omega
  · change ¬ 65 ≤ c.val.toNat
    omega

theorem letter_apart {c : Char} (letter : isLetter c = true) :
    isBlank c = false ∧ Kind.ofPunctuation? c = none ∧ isDigit c = false := by
  refine ⟨?_, ?_, ?_⟩
  · refine Bool.eq_false_iff.mpr fun blank => ?_
    rw [blank_not_letter blank] at letter
    contradiction
  · cases sign : Kind.ofPunctuation? c with
    | none => rfl
    | some kind =>
      rw [(punctuation_apart sign).2.2] at letter
      contradiction
  · refine Bool.eq_false_iff.mpr fun digit => ?_
    rw [digit_not_letter digit] at letter
    contradiction

theorem digit_apart {c : Char} (digit : isDigit c = true) :
    isBlank c = false ∧ Kind.ofPunctuation? c = none := by
  constructor
  · refine Bool.eq_false_iff.mpr fun blank => ?_
    rw [blank_not_digit blank] at digit
    contradiction
  · cases sign : Kind.ofPunctuation? c with
    | none => rfl
    | some kind =>
      rw [(punctuation_apart sign).2.1] at digit
      contradiction

theorem solid_of_spelled {kind : Kind} {w : Text} (spelled : kind.Spelled w) :
    ∀ c ∈ w, isBlank c = false := by
  cases kind with
  | eof => contradiction
  | illegal =>
    obtain ⟨c, rfl, foreign⟩ := spelled
    simpa using foreign.1
  | keyword word =>
    obtain rfl := spelled
    have solid : (word.text.all fun c => !isBlank c) = true := by cases word <;> decide
    simpa using List.all_eq_true.mp solid
  | ident => exact fun c member => (letter_apart (spelled.2.1 c member)).1
  | int => exact fun c member => (digit_apart (spelled.2 c member)).1
  | _ =>
    obtain ⟨c, rfl, sign⟩ := spelled
    simpa using (punctuation_apart sign).1

theorem takeWhile_run {test : Char → Bool} {w rest : Text} (run : ∀ c ∈ w, test c = true)
    (ends : ∀ c ∈ rest.head?, test c = false) : (w ++ rest).takeWhile test = w := by
  rw [List.takeWhile_append_of_pos run]
  cases rest with
  | nil => simp
  | cons c rest => simp [ends c rfl]

/-- Whether the character would carry on a token of the kind. -/
def Kind.continues (c : Char) : Kind → Bool
  | .ident | .keyword _ => isLetter c
  | .int => isDigit c
  | _ => false

section Reading
variable {c : Char} {w rest : Text}

theorem lexeme_letters (letters : ∀ d ∈ c :: w, isLetter d = true)
    (ends : ∀ d ∈ rest.head?, isLetter d = false) :
    lexeme c (w ++ rest) = (Kind.ofWord (c :: w), c :: w) := by
  obtain ⟨first, others⟩ := List.forall_mem_cons.mp letters
  obtain ⟨solid, noSign, noDigit⟩ := letter_apart first
  simp [lexeme, noSign, noDigit, first, takeWhile_run others ends]

theorem lexeme_digits (digits : ∀ d ∈ c :: w, isDigit d = true)
    (ends : ∀ d ∈ rest.head?, isDigit d = false) :
    lexeme c (w ++ rest) = (.int, c :: w) := by
  obtain ⟨first, others⟩ := List.forall_mem_cons.mp digits
  obtain ⟨solid, noSign⟩ := digit_apart first
  simp [lexeme, noSign, first, takeWhile_run others ends]

theorem keyword_letters (word : Keyword) : ∀ d ∈ word.text, isLetter d = true := by
  cases word <;> exact List.all_eq_true.mp (by decide)

theorem ofWord_keyword (word : Keyword) : Kind.ofWord word.text = .keyword word := by
  cases word <;> decide

theorem lexeme_of_spelled {kind : Kind} (spelled : kind.Spelled (c :: w))
    (ends : ∀ d ∈ rest.head?, kind.continues d = false) :
    lexeme c (w ++ rest) = (kind, c :: w) := by
  cases kind with
  | eof => contradiction
  | illegal =>
    obtain ⟨d, same, solid, noSign, noDigit, noLetter⟩ := spelled
    obtain ⟨rfl, rfl⟩ := List.cons.inj same
    simp [lexeme, noSign, noDigit, noLetter]
  | keyword word =>
    have whole : c :: w = word.text := spelled
    have letters : ∀ d ∈ c :: w, isLetter d = true := by
      rw [whole]
      exact keyword_letters word
    rw [lexeme_letters letters ends, whole, ofWord_keyword]
  | ident =>
    obtain ⟨-, letters, noFn, noReturn⟩ := spelled
    rw [lexeme_letters letters ends]
    simp [Kind.ofWord, noFn, noReturn]
  | int => exact lexeme_digits spelled.2 ends
  | _ =>
    obtain ⟨d, same, sign⟩ := spelled
    obtain ⟨rfl, rfl⟩ := List.cons.inj same
    simp [lexeme, sign]

theorem text_ne_nil_of_spelled {kind : Kind} (spelled : kind.Spelled w) : w ≠ [] := by
  rintro rfl
  cases kind <;> simp [Kind.Spelled, IsName, IsNumber] at spelled
  rename_i word
  cases word <;> exact absurd spelled (by decide)

theorem lexemes_spelled (kind : Kind) (spelled : kind.Spelled w)
    (ends : ∀ d ∈ rest.head?, kind.continues d = false) :
    lexemes (w ++ rest) = (kind, w) :: lexemes rest := by
  have solid := solid_of_spelled spelled
  obtain ⟨c, w, rfl⟩ := List.exists_cons_of_ne_nil (text_ne_nil_of_spelled spelled)
  rw [List.cons_append, lexemes_solid _ (solid c List.mem_cons_self),
    lexeme_of_spelled spelled ends, ← List.cons_append, List.drop_left]

theorem lexemes_punctuation (c : Char) (kind : Kind) (rest : Text)
    (sign : Kind.ofPunctuation? c = some kind) :
    lexemes (c :: rest) = (kind, [c]) :: lexemes rest := by
  rw [lexemes_solid rest (punctuation_apart sign).1]
  simp [lexeme, sign]

theorem lexemes_foreign (rest : Text) (foreign : IsForeign c) :
    lexemes (c :: rest) = (.illegal, [c]) :: lexemes rest :=
  lexemes_spelled .illegal ⟨c, rfl, foreign⟩ (fun _ _ => rfl)

end Reading

end Minilang
