import Mathlib.Data.List.Nodup
import Minilang.Form
import Minilang.Proofs.Places
import Minilang.Proofs.Spelling

namespace Minilang

theorem flatMap_tells {α β γ : Type} {f : α → List β} {as bs : List α} {rest rest' : List β}
    (key : α → γ)
    (tells : ∀ a b s t, f a ++ s = f b ++ t → key a = key b ∧ s = t)
    (ends : ∀ a s, f a ++ s ≠ rest) (ends' : ∀ a s, f a ++ s ≠ rest')
    (same : as.flatMap f ++ rest = bs.flatMap f ++ rest') :
    as.map key = bs.map key ∧ rest = rest' := by
  induction as generalizing bs with
  | nil =>
    cases bs with
    | nil => exact ⟨rfl, same⟩
    | cons b bs =>
      rw [List.flatMap_cons, List.append_assoc] at same
      exact absurd same.symm (ends b _)
  | cons a as ih =>
    cases bs with
    | nil =>
      rw [List.flatMap_cons, List.append_assoc] at same
      exact absurd same (ends' a _)
    | cons b bs =>
      rw [List.flatMap_cons, List.flatMap_cons, List.append_assoc, List.append_assoc] at same
      obtain ⟨first, behind⟩ := tells a b _ _ same
      obtain ⟨others, last⟩ := ih behind
      exact ⟨by rw [List.map_cons, List.map_cons, first, others], last⟩

theorem first_tells {c : Char} {u v s t : Text} (first : c ∉ u) (first' : c ∉ v)
    (same : u ++ c :: s = v ++ c :: t) : u = v ∧ s = t := by
  have front : ∀ {w rest : Text}, c ∉ w → (w ++ c :: rest).takeWhile (· ≠ c) = w := by
    intro w rest absent
    apply takeWhile_run
    · exact fun d member => decide_eq_true fun same => absent (same ▸ member)
    · simp
  have fronts := congrArg (List.takeWhile (· ≠ c)) same
  rw [front first, front first'] at fronts
  rw [fronts] at same
  exact ⟨fronts, (List.cons.inj (List.append_cancel_left same)).2⟩

namespace Text

theorem digitChar_injective : ∀ d < 16, ∀ e < 16, Nat.digitChar d = Nat.digitChar e → d = e := by
  decide

theorem toDigits_injective {m n : Nat} (same : Nat.toDigits 16 m = Nat.toDigits 16 n) : m = n := by
  have base : 1 < 16 := by omega
  induction m using Nat.strongRecOn generalizing n with
  | ind m ih =>
    rw [Nat.toDigits_eq_if base, Nat.toDigits_eq_if base (n := n)] at same
    split at same
    · split at same
      · exact digitChar_injective m ‹_› n ‹_› (List.singleton_inj.mp same)
      · have lengths := congrArg List.length same
        have some := List.length_pos_iff.mpr (@Nat.toDigits_ne_nil (n / 16) 16)
        simp only [List.length_append, List.length_singleton] at lengths
        omega
    · split at same
      · have lengths := congrArg List.length same
        have some := List.length_pos_iff.mpr (@Nat.toDigits_ne_nil (m / 16) 16)
        simp only [List.length_append, List.length_singleton] at lengths
        omega
      · obtain ⟨more, last⟩ := List.append_singleton_inj.mp same
        have high := ih (m / 16) (by omega) more
        have low := digitChar_injective _ (Nat.mod_lt m (by omega)) _ (Nat.mod_lt n (by omega)) last
        omega

theorem not_mem_toDigits {c : Char} (foreign : ∀ d < 16, Nat.digitChar d ≠ c) (n : Nat) :
    c ∉ Nat.toDigits 16 n := by
  induction n using Nat.strongRecOn with
  | ind n ih =>
    rw [Nat.toDigits_eq_if (by omega)]
    split
    · rename_i small
      exact fun member => foreign n small (List.mem_singleton.mp member).symm
    · intro member
      rcases List.mem_append.mp member with high | low
      · exact ih (n / 16) (by omega) high
      · exact foreign _ (Nat.mod_lt n (by omega)) (List.mem_singleton.mp low).symm

def meaning : Char → Char
  | '0' => '\x00'
  | 't' => '\t'
  | 'n' => '\n'
  | 'r' => '\r'
  | c => c

inductive Quotes (c : Char) : Text → Prop where
  | plain (noFeed : c ≠ '\n') (noQuote : c ≠ '"') (noEscape : c ≠ '\\') : Quotes c [c]
  | named {letter : Char} (means : meaning letter = c) (other : letter ≠ 'u')
      (noFeed : letter ≠ '\n') : Quotes c ['\\', letter]
  | coded : Quotes c (codePointEscape c)

theorem quotes_escape (hidden : Char → Bool) (c : Char) : Quotes c (escape hidden c) := by
  unfold escape
  split
  case h_7 =>
    split
    · exact .coded
    · exact .plain ‹_› ‹_› ‹_›
  all_goals exact .named (by decide) (by decide) (by decide)

namespace Quotes
variable {c d : Char} {v w s t : Text}

theorem not_mem_feed (quotes : Quotes c w) : '\n' ∉ w := by
  cases quotes with
  | plain noFeed _ _ => simpa using noFeed.symm
  | named _ _ noFeed => simpa using noFeed.symm
  | coded =>
    have digits := not_mem_toDigits (c := '\n') (by decide) c.toNat
    simp [codePointEscape, digits]

theorem begins (quotes : Quotes c w) : (∃ more, w = '\\' :: more) ∨ (w = [c] ∧ c ≠ '\\') := by
  cases quotes with
  | plain _ _ noEscape => exact Or.inr ⟨rfl, noEscape⟩
  | named _ _ _ => exact Or.inl ⟨_, rfl⟩
  | coded => exact Or.inl ⟨_, rfl⟩

theorem not_closing (quotes : Quotes c w) (s t : Text) : w ++ s ≠ '"' :: t := by
  cases quotes with
  | plain _ noQuote _ => exact fun same => noQuote (List.cons.inj same).1
  | named _ _ _ => exact fun same => absurd (List.cons.inj same).1 (by decide)
  | coded => exact fun same => absurd (List.cons.inj same).1 (by decide)

theorem coded_tells (same : codePointEscape c ++ s = codePointEscape d ++ t) : c = d ∧ s = t := by
  have closing : ∀ n, '\x7d' ∉ Nat.toDigits 16 n := not_mem_toDigits (by decide)
  have behind : ∀ (e : Char) (u : Text), codePointEscape e ++ u =
      "\\u\x7b".toList ++ (Nat.toDigits 16 e.toNat ++ '\x7d' :: u) := by
    intro e u
    simp [codePointEscape]
  rw [behind, behind] at same
  obtain ⟨digits, rest⟩ := first_tells (closing _) (closing _) (List.append_cancel_left same)
  exact ⟨Char.toNat_inj.mp (toDigits_injective digits), rest⟩

theorem tells (first : Quotes c v) (second : Quotes d w) (same : v ++ s = w ++ t) :
    c = d ∧ s = t := by
  cases first with
  | plain _ _ noEscape =>
    rcases second.begins with ⟨more, rfl⟩ | ⟨rfl, -⟩
    · exact absurd (List.cons.inj same).1 noEscape
    · exact List.cons.inj same
  | @named letter means other _ =>
    cases second with
    | plain _ _ noEscape => exact absurd (List.cons.inj same).1.symm noEscape
    | named means' _ _ =>
      obtain ⟨rfl, rest⟩ := List.cons.inj (List.cons.inj same).2
      exact ⟨means.symm.trans means', rest⟩
    | coded => exact absurd (List.cons.inj (List.cons.inj same).2).1 other
  | coded =>
    cases second with
    | plain _ _ noEscape => exact absurd (List.cons.inj same).1.symm noEscape
    | named _ other _ => exact absurd (List.cons.inj (List.cons.inj same).2).1.symm other
    | coded => exact coded_tells same

end Quotes

variable {hidden : Char → Bool}

theorem quote_tells {v w s t : Text} (same : quote hidden v ++ s = quote hidden w ++ t) :
    v = w ∧ s = t := by
  have inner : v.flatMap (escape hidden) ++ '"' :: s = w.flatMap (escape hidden) ++ '"' :: t := by
    simpa [quote] using same
  have tells : ∀ c d s t, escape hidden c ++ s = escape hidden d ++ t → c = d ∧ s = t :=
    fun c d _ _ => (quotes_escape hidden c).tells (quotes_escape hidden d)
  have ends : ∀ rest c s, escape hidden c ++ s ≠ '"' :: rest :=
    fun rest c s => (quotes_escape hidden c).not_closing s rest
  obtain ⟨texts, rest⟩ := flatMap_tells id tells (ends s) (ends t) inner
  rw [List.map_id, List.map_id] at texts
  exact ⟨texts, (List.cons.inj rest).2⟩

theorem not_mem_quote (hidden : Char → Bool) (t : Text) : '\n' ∉ quote hidden t := by
  intro member
  rcases List.mem_append.mp member with front | closing
  · rcases List.mem_cons.mp front with opening | inner
    · contradiction
    · obtain ⟨c, -, among⟩ := List.mem_flatMap.mp inner
      exact (quotes_escape hidden c).not_mem_feed among
  · simp at closing

end Text

namespace Kind

def all : List Kind :=
  [.illegal, .eof, .keyword .fn, .keyword .ret, .ident, .int, .plus, .minus, .star, .slash,
    .leftParen, .rightParen, .leftBrace, .rightBrace, .assign, .comma, .semicolon]

theorem mem_all (k : Kind) : k ∈ all := by
  cases k with
  | keyword word => cases word <;> decide
  | _ => decide

theorem name_injective {k l : Kind} (same : k.name = l.name) : k = l :=
  List.inj_on_of_nodup_map (by decide : (all.map name).Nodup) (mem_all k) (mem_all l) same

theorem not_mem_name {c : Char} (absent : ∀ k ∈ all, c ∉ k.name) (k : Kind) : c ∉ k.name :=
  absent k (mem_all k)

end Kind

namespace Token
variable {hidden : Char → Bool} {t u : Token} {s s' : Text}

def entry (hidden : Char → Bool) (t : Token) : Text := t.kind.name ++ ' ' :: Text.quote hidden t.text

theorem listingLine_eq (hidden : Char → Bool) (t : Token) :
    t.listingLine hidden = t.entry hidden ++ ['\n'] := rfl

theorem not_mem_entry (hidden : Char → Bool) (t : Token) : '\n' ∉ t.entry hidden := by
  intro member
  rcases List.mem_append.mp member with named | quoted
  · exact Kind.not_mem_name (by decide) t.kind named
  · rcases List.mem_cons.mp quoted with space | inside
    · contradiction
    · exact Text.not_mem_quote hidden t.text inside

theorem entry_tells (same : t.entry hidden ++ s = u.entry hidden ++ s') :
    t.lexeme = u.lexeme ∧ s = s' := by
  have unmarked : ∀ k : Kind, '"' ∉ k.name ++ [' '] := by
    intro k member
    rcases List.mem_append.mp member with named | space
    · exact Kind.not_mem_name (by decide) k named
    · simp at space
  have opens : ∀ (v : Token) (r : Text), v.entry hidden ++ r =
      (v.kind.name ++ [' ']) ++ '"' :: (v.text.flatMap (Text.escape hidden) ++ '"' :: r) := by
    intro v r
    simp [entry, Text.quote]
  rw [opens, opens] at same
  obtain ⟨names, quoted⟩ := first_tells (unmarked _) (unmarked _) same
  have kinds : t.kind = u.kind := Kind.name_injective (List.append_cancel_right names)
  have behind : Text.quote hidden t.text ++ s = Text.quote hidden u.text ++ s' := by
    simpa [Text.quote] using quoted
  obtain ⟨texts, rest⟩ := Text.quote_tells behind
  exact ⟨by rw [lexeme, lexeme, kinds, texts], rest⟩

theorem listingLine_tells (same : t.listingLine hidden ++ s = u.listingLine hidden ++ s') :
    t.lexeme = u.lexeme ∧ s = s' := by
  rw [listingLine_eq, listingLine_eq, List.append_assoc, List.append_assoc] at same
  obtain ⟨lexemes, feeds⟩ := entry_tells same
  exact ⟨lexemes, (List.cons.inj feeds).2⟩

theorem count_listingLine (hidden : Char → Bool) (t : Token) :
    (t.listingLine hidden).count '\n' = 1 := by
  rw [listingLine_eq, List.count_append, List.count_eq_zero.mpr (not_mem_entry hidden t)]
  rfl

end Token

structure Listed (hidden : Char → Bool) (text : Text) : Prop where
  lines : listing hidden text = ((scanned text).map (Token.entry hidden)).flatMap (· ++ ['\n'])
  unbroken : ∀ line ∈ (scanned text).map (Token.entry hidden), '\n' ∉ line
  count : (listing hidden text).count '\n' = (scanned text).length

theorem listing_eq (hidden : Char → Bool) (text : Text) :
    listing hidden text = (scanned text).flatMap (Token.listingLine hidden) := rfl

theorem listed (hidden : Char → Bool) (text : Text) : Listed hidden text where
  lines := by rw [listing_eq, List.flatMap_map]; rfl
  unbroken := by
    intro line member
    obtain ⟨t, -, rfl⟩ := List.mem_map.mp member
    exact Token.not_mem_entry hidden t
  count := by
    rw [listing_eq, List.count_flatMap]
    simp [Function.comp_def, Token.count_listingLine]

/-- The same lines are listed just for the same lexemes. -/
theorem listing_eq_iff (hidden : Char → Bool) (a b : Text) :
    listing hidden a = listing hidden b ↔
      (scanned a).map Token.lexeme = (scanned b).map Token.lexeme := by
  rw [listing_eq, listing_eq]
  constructor
  · intro same
    have some : ∀ t s, Token.listingLine hidden t ++ s ≠ [] := by simp [Token.listingLine]
    have ended : (scanned a).flatMap (Token.listingLine hidden) ++ [] =
        (scanned b).flatMap (Token.listingLine hidden) ++ [] := by
      rw [same]
    exact (flatMap_tells Token.lexeme (fun _ _ _ _ => Token.listingLine_tells) some some ended).1
  · intro same
    have by_lexemes : ∀ text, (scanned text).flatMap (Token.listingLine hidden) =
        ((scanned text).map Token.lexeme).flatMap fun l =>
          l.1.name ++ ' ' :: Text.quote hidden l.2 ++ ['\n'] := by
      intro text
      rw [List.flatMap_map]
      rfl
    rw [by_lexemes, by_lexemes, same]

theorem listing_tells_tokens (hidden : Char → Bool) :
    (∀ a b, listing hidden a = listing hidden b ↔
      (scanned a).map Token.lexeme = (scanned b).map Token.lexeme) ∧
    ∀ text, Listed hidden text :=
  ⟨listing_eq_iff hidden, listed hidden⟩

example : listing Text.isHidden "x\"".toList =
    "identifier \"x\"\nillegal character \"\\\"\"\nend of file \"\"\n".toList := by
  decide +kernel

end Minilang
