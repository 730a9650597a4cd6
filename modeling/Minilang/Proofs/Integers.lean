import Minilang.Proofs.Lookahead
import Minilang.Proofs.Shape

namespace Minilang
namespace Text

def digitsWithin (limit : Nat) : Nat → Text → Option Nat
  | n, [] => some n
  | n, c :: cs =>
    let grown := 10 * n + (c.toNat - '0'.toNat)
    if isDigit c ∧ grown ≤ limit then digitsWithin limit grown cs else none

def magnitude? (limit : Nat) (t : Text) : Option Nat :=
  if t = [] then none else digitsWithin limit 0 t

/-- A number of 64 bits: a sign may stand in front, and there is a digit at least. -/
def int64? : Text → Option Int
  | '+' :: t => (magnitude? (Nat.pow 2 63 - 1) t).map Int.ofNat
  | '-' :: t => (magnitude? (Nat.pow 2 63) t).map fun n => -Int.ofNat n
  | t => (magnitude? (Nat.pow 2 63 - 1) t).map Int.ofNat

variable {limit : Nat} {t : Text}

theorem le_ofDigitChars (n : Nat) (t : Text) : n ≤ Nat.ofDigitChars 10 t n := by
  rw [Nat.ofDigitChars_eq_ofDigitChars_zero]
  have grows := Nat.le_mul_of_pos_left n (Nat.pow_pos (n := t.length) (show 0 < 10 by omega))
  omega

theorem digitsWithin_of_digits {n : Nat} (digits : ∀ c ∈ t, isDigit c = true) (small : n ≤ limit) :
    digitsWithin limit n t =
      if Nat.ofDigitChars 10 t n ≤ limit then some (Nat.ofDigitChars 10 t n) else none := by
  induction t generalizing n with
  | nil => rw [digitsWithin, Nat.ofDigitChars_nil, if_pos small]
  | cons c cs ih =>
    obtain ⟨first, others⟩ := List.forall_mem_cons.mp digits
    rw [digitsWithin, Nat.ofDigitChars_cons]
    by_cases fits : 10 * n + (c.toNat - '0'.toNat) ≤ limit
    · rw [if_pos ⟨first, fits⟩, ih others fits]
    · have above := le_ofDigitChars (10 * n + (c.toNat - '0'.toNat)) cs
      rw [if_neg fun both => fits both.2, if_neg (by omega)]

theorem magnitude?_of_number (number : IsNumber t) : magnitude? limit t =
    if decimalValue t ≤ limit then some (decimalValue t) else none := by
  rw [magnitude?, if_neg number.1, digitsWithin_of_digits number.2 (Nat.zero_le limit)]
  rfl

theorem int64?_of_unsigned (plus : t.head? ≠ some '+') (minus : t.head? ≠ some '-') :
    int64? t = (magnitude? (Nat.pow 2 63 - 1) t).map Int.ofNat := by
  unfold int64?
  split
  · exact absurd rfl plus
  · exact absurd rfl minus
  · rfl

theorem int64?_of_number (number : IsNumber t) : int64? t =
    if decimalValue t ≤ Nat.pow 2 63 - 1 then some (Int.ofNat (decimalValue t)) else none := by
  have unsigned : ∀ sign, isDigit sign = false → t.head? ≠ some sign := by
    intro sign noDigit first
    rw [number.2 sign (List.mem_of_head? first)] at noDigit
    contradiction
  rw [int64?_of_unsigned (unsigned '+' rfl) (unsigned '-' rfl), magnitude?_of_number number]
  split <;> rfl

theorem int64?_eq_none {c : Char} {cs : Text} (noDigit : isDigit c = false)
    (alone : c = '+' ∨ c = '-' → cs = []) : int64? (c :: cs) = none := by
  by_cases sign : c = '+' ∨ c = '-'
  · rw [alone sign]
    rcases sign with rfl | rfl <;> rfl
  · have plus : (c :: cs).head? ≠ some '+' := fun first => sign (Or.inl (Option.some.inj first))
    have minus : (c :: cs).head? ≠ some '-' := fun first => sign (Or.inr (Option.some.inj first))
    rw [int64?_of_unsigned plus minus, magnitude?, if_neg (List.cons_ne_nil c cs), digitsWithin,
      if_neg (by simp [noDigit])]
    rfl

end Text

theorem int64?_of_letters {w : Text} (some : w ≠ []) (letters : ∀ c ∈ w, isLetter c = true) :
    Text.int64? w = none := by
  obtain ⟨c, cs, rfl⟩ := List.exists_cons_of_ne_nil some
  have letter := letters c List.mem_cons_self
  apply Text.int64?_eq_none (letter_apart letter).2.2
  rintro (rfl | rfl) <;> contradiction

theorem int64?_of_spelled {kind : Kind} {w : Text} (spelled : kind.Spelled w)
    (other : kind ≠ .int) : Text.int64? w = none := by
  cases kind with
  | eof => contradiction
  | int => contradiction
  | illegal =>
    obtain ⟨c, rfl, foreign⟩ := spelled
    exact Text.int64?_eq_none foreign.2.2.1 fun _ => rfl
  | keyword word =>
    obtain rfl := spelled
    exact int64?_of_letters (by cases word <;> decide) (keyword_letters word)
  | ident => exact int64?_of_letters spelled.1 spelled.2.1
  | _ =>
    obtain ⟨c, rfl, sign⟩ := spelled
    exact Text.int64?_eq_none (punctuation_apart sign).2.1 fun _ => rfl

namespace Parser
variable {p : Parser}

theorem spelled_after (text : Text) (earlier : List Operation) :
    ((ofText text).after earlier).Spelled := by
  have start : (ofText text).Spelled := fun t member => spelled_of_mem_tokens member
  exact start.keep (reaches_after _ earlier)

theorem intValue?_of_spelled {t : Token} (spelled : t.kind.Spelled t.text) :
    intValue? t = Text.int64? t.text := by
  by_cases isInt : t.kind = .int
  · rw [isInt] at spelled
    rw [Text.int64?_of_number spelled, intValue?]
    simp only [isInt, true_and]
    rfl
  · rw [int64?_of_spelled spelled isInt, intValue?, if_neg fun both => isInt both.1]

theorem Spelled.intValue?_eq (spelled : p.Spelled) :
    intValue? p.current = Text.int64? p.current.text := by
  by_cases ended : p.isAt .eof = true
  · have none : p.upcoming = [] := by
      apply upcoming_eq_nil ended
      intro t member isEof
      have written := spelled t member
      rw [isEof] at written
      exact written
    have last : p.current = .eof p.endOfText := by rw [Parser.current, none, List.headD_nil]
    rw [last]
    rfl
  · exact intValue?_of_spelled (spelled.current (Bool.eq_false_iff.mpr ended))

theorem intValue?_eq_some_iff {t : Token} {v : Int} : intValue? t = some v ↔
    t.kind = .int ∧ Text.decimalValue t.text ≤ Nat.pow 2 63 - 1 ∧
      Int.ofNat (Text.decimalValue t.text) = v := by
  rw [intValue?]
  split
  · rename_i both
    rw [Option.some.injEq]
    constructor
    · exact fun same => ⟨both.1, both.2, same⟩
    · exact fun found => found.2.2
  · rename_i neither
    constructor
    · intro found
      contradiction
    · rintro ⟨isInt, small, -⟩
      exact absurd ⟨isInt, small⟩ neither

structure ReadsInteger (p : Parser) : Prop where
  byText : p.intLiteral = match Text.int64? p.current.text with
    | some value => (⟨value, p.current.text⟩, p.advance)
    | none => (⟨0, p.current.text⟩, (p.report .invalidIntLiteral).advance)
  upcoming : p.intLiteral.2.upcoming = p.upcoming.tail
  position : p.intLiteral.2.position = p.position + 1
  literal : p.intLiteral.1.literal = p.current.text
  digits : p.current.kind = .int → IsNumber p.current.text
  accepted : ∀ v, p.intLiteral.2.errors = p.errors ∧ p.intLiteral.1.value = v ↔
    p.current.kind = .int ∧ Text.decimalValue p.current.text ≤ Nat.pow 2 63 - 1 ∧
      Int.ofNat (Text.decimalValue p.current.text) = v
  refused : ¬ (p.current.kind = .int ∧ Text.decimalValue p.current.text ≤ Nat.pow 2 63 - 1) →
    p.intLiteral.1.value = 0 ∧ p.intLiteral.2.errors =
      p.errors ++ [⟨.invalidIntLiteral, p.current.kind, p.current.span⟩]

theorem integers_are_read_exactly (text : Text) (earlier : List Operation) :
    ((ofText text).after earlier).ReadsInteger := by
  have spelled := spelled_after text earlier
  generalize (ofText text).after earlier = p at spelled
  have reading := spelled.intValue?_eq
  constructor
  · rw [← reading]
    rfl
  · unfold intLiteral
    split <;> rfl
  · unfold intLiteral
    split <;> rfl
  · unfold intLiteral
    split <;> rfl
  · intro isInt
    exact spelled.current_of_isAt (by simpa [isAt] using isInt) (by decide)
  · intro v
    rw [← intValue?_eq_some_iff]
    unfold intLiteral
    cases intValue? p.current with
    | some value => simp [advance]
    | none => simp [advance, report]
  · intro unfit
    have none : intValue? p.current = none := by
      refine Option.eq_none_iff_forall_ne_some.mpr fun v found => unfit ?_
      obtain ⟨isInt, small, -⟩ := intValue?_eq_some_iff.mp found
      exact ⟨isInt, small⟩
    rw [intLiteral, none]
    exact ⟨rfl, rfl⟩

end Parser
end Minilang
