import Minilang.Text.Basic

/-!
A reading position in a text with one character of lookahead. Tests may carry state: each call
takes the state and a character, and gives a verdict and the next state.
-/
namespace Minilang

structure Cursor where
  rest : Text
deriving DecidableEq, Repr

namespace Cursor
variable {σ : Type}

def peek (c : Cursor) : Option Char := c.rest.head?

def next (c : Cursor) : Option Char × Cursor := (c.rest.head?, ⟨c.rest.tail⟩)

def atEnd (c : Cursor) : Bool := c.rest.isEmpty

def eatIf (test : σ → Char → Bool × σ) (s : σ) (c : Cursor) : Option Char × σ × Cursor :=
  match c.rest with
  | [] => (none, s, c)
  | ch :: cs =>
    let verdict := test s ch
    if verdict.1 then (some ch, verdict.2, ⟨cs⟩) else (none, verdict.2, c)

/-- Takes characters off a text up to the first that the test rejects. -/
def eatFrom (test : σ → Char → Bool × σ) : σ → Text → Nat × σ × Cursor
  | s, [] => (0, s, ⟨[]⟩)
  | s, ch :: cs =>
    let verdict := test s ch
    if verdict.1 then
      let more := eatFrom test verdict.2 cs
      (more.1 + 1, more.2)
    else (0, verdict.2, ⟨ch :: cs⟩)

def eatWhile (test : σ → Char → Bool × σ) (s : σ) (c : Cursor) : Nat × σ × Cursor :=
  eatFrom test s c.rest

/-- A test that also counts how often it was called. -/
def counted (test : σ → Char → Bool × σ) (s : σ × Nat) (ch : Char) : Bool × σ × Nat :=
  let verdict := test s.1 ch
  (verdict.1, verdict.2, s.2 + 1)

theorem eatWhile_unfold (test : σ → Char → Bool × σ) (s : σ) (c : Cursor) :
    eatWhile test s c =
      match eatIf test s c with
      | (none, s', c') => (0, s', c')
      | (some _, s', c') => ((eatWhile test s' c').1 + 1, (eatWhile test s' c').2) := by
  obtain ⟨rest⟩ := c
  cases rest with
  | nil => rfl
  | cons ch cs => cases h : (test s ch).1 <;> simp [eatWhile, eatFrom, eatIf, h]

theorem eatWhile_stateless (accepts : Char → Bool) (c : Cursor) :
    eatWhile (fun u ch => (accepts ch, u)) () c =
      ((c.rest.takeWhile accepts).length, (), ⟨c.rest.dropWhile accepts⟩) := by
  obtain ⟨rest⟩ := c
  induction rest with
  | nil => rfl
  | cons ch cs ih =>
    rw [eatWhile_unfold]
    by_cases accepted : accepts ch = true
    · simp [eatIf, accepted, ih]
    · simp [eatIf, accepted]

end Cursor
end Minilang
