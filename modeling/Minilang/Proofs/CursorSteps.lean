import Mathlib.Data.List.Basic
import Minilang.Text.Cursor

namespace Minilang.Cursor
variable {σ τ : Type} {test : σ → Char → Bool × σ} {s : σ} {t u eaten rest : Text}

def stateAfter (test : σ → Char → Bool × σ) (s : σ) : Text → σ
  | [] => s
  | ch :: cs => stateAfter test (test s ch).2 cs

def calls (test : σ → Char → Bool × σ) (s : σ) : Text → List (σ × Char)
  | [] => []
  | ch :: cs => (s, ch) :: calls test (test s ch).2 cs

def accepts (test : σ → Char → Bool × σ) (call : σ × Char) : Bool := (test call.1 call.2).1

/-- A test that also keeps a list of its calls. -/
def recorded (test : σ → Char → Bool × σ) (s : σ × List (σ × Char)) (ch : Char) :
    Bool × σ × List (σ × Char) :=
  let verdict := test s.1 ch
  (verdict.1, verdict.2, s.2 ++ [(s.1, ch)])

theorem calls_append (test : σ → Char → Bool × σ) (s : σ) (t u : Text) :
    calls test s (t ++ u) = calls test s t ++ calls test (stateAfter test s t) u := by
  induction t generalizing s with
  | nil => rfl
  | cons ch cs ih => simp [calls, stateAfter, ih]

theorem map_calls (test : σ → Char → Bool × σ) (s : σ) (t : Text) :
    (calls test s t).map (·.2) = t := by
  induction t generalizing s with
  | nil => rfl
  | cons ch cs ih => rw [calls, List.map_cons, ih]

theorem stateAfter_recorded (log : List (σ × Char)) :
    stateAfter (recorded test) (s, log) t = (stateAfter test s t, log ++ calls test s t) := by
  induction t generalizing s log with
  | nil => simp [stateAfter, calls]
  | cons ch cs ih =>
    rw [stateAfter, recorded, ih]
    simp [stateAfter, calls]

theorem stateAfter_counted (n : Nat) :
    stateAfter (counted test) (s, n) t = (stateAfter test s t, n + t.length) := by
  induction t generalizing s n with
  | nil => rfl
  | cons ch cs ih =>
    rw [stateAfter, counted, ih, List.length_cons]
    simp only [stateAfter, Prod.mk.injEq, true_and]
    omega

/-- The test accepts the first part, called with it character by character, and then refuses the
character behind it if there is one. -/
structure Splits (test : σ → Char → Bool × σ) (s : σ) (t eaten rest : Text) : Prop where
  whole : t = eaten ++ rest
  accepted : ∀ call ∈ calls test s eaten, accepts test call = true
  refused : ∀ ch ∈ rest.head?, accepts test (stateAfter test s eaten, ch) = false

structure Extends (test' : τ → Char → Bool × τ) (test : σ → Char → Bool × σ) (view : τ → σ) :
    Prop where
  verdict : ∀ x ch, (test' x ch).1 = (test (view x) ch).1
  state : ∀ x ch, view (test' x ch).2 = (test (view x) ch).2

theorem recorded_extends (test : σ → Char → Bool × σ) : Extends (recorded test) test Prod.fst :=
  ⟨fun _ _ => rfl, fun _ _ => rfl⟩

theorem counted_extends (test : σ → Char → Bool × σ) : Extends (counted test) test Prod.fst :=
  ⟨fun _ _ => rfl, fun _ _ => rfl⟩

section
variable {test' : τ → Char → Bool × τ} {view : τ → σ}

theorem Extends.stateAfter (extended : Extends test' test view) (x : τ) (t : Text) :
    view (stateAfter test' x t) = stateAfter test (view x) t := by
  induction t generalizing x with
  | nil => rfl
  | cons ch cs ih => rw [Cursor.stateAfter, ih, extended.state, Cursor.stateAfter]

theorem Extends.calls (extended : Extends test' test view) (x : τ) (t : Text) :
    (calls test' x t).map (Prod.map view id) = calls test (view x) t := by
  induction t generalizing x with
  | nil => rfl
  | cons ch cs ih =>
    rw [Cursor.calls, List.map_cons, ih, extended.state]
    rfl

theorem Extends.splits (extended : Extends test' test view) {x : τ}
    (splits : Splits test (view x) t eaten rest) : Splits test' x t eaten rest where
  whole := splits.whole
  accepted := by
    intro call member
    have seen := List.mem_map_of_mem (f := Prod.map view id) member
    rw [extended.calls] at seen
    exact (extended.verdict _ _).trans (splits.accepted _ seen)
  refused := by
    intro ch first
    have refused := splits.refused ch first
    rw [← extended.stateAfter] at refused
    exact (extended.verdict _ _).trans refused

end

theorem exists_splits (test : σ → Char → Bool × σ) (s : σ) (t : Text) :
    ∃ eaten rest, Splits test s t eaten rest := by
  induction t generalizing s with
  | nil => exact ⟨[], [], rfl, by simp [calls], by simp⟩
  | cons ch cs ih =>
    cases verdict : accepts test (s, ch) with
    | false => exact ⟨[], ch :: cs, rfl, by simp [calls], by simpa [stateAfter] using verdict⟩
    | true =>
      obtain ⟨eaten, rest, splits⟩ := ih (test s ch).2
      refine ⟨ch :: eaten, rest, ?_, ?_, splits.refused⟩
      · rw [splits.whole, List.cons_append]
      · exact List.forall_mem_cons.mpr ⟨verdict, splits.accepted⟩

namespace Splits

theorem eatFrom_eq (splits : Splits test s t eaten rest) : eatFrom test s t =
    (eaten.length, stateAfter test s (eaten ++ rest.head?.toList), ⟨rest⟩) := by
  obtain ⟨rfl, accepted, refused⟩ := splits
  induction eaten generalizing s with
  | nil =>
    cases rest with
    | nil => rfl
    | cons ch cs =>
      have verdict : (test s ch).1 = false := refused ch rfl
      simp [eatFrom, stateAfter, verdict]
  | cons ch cs ih =>
    obtain ⟨own, others⟩ := List.forall_mem_cons.mp accepted
    have verdict : (test s ch).1 = true := own
    have more := ih others refused
    simp [eatFrom, stateAfter, verdict, more]

theorem longest (splits : Splits test s t eaten rest) (begins : u <+: t)
    (accepted : ∀ call ∈ calls test s u, accepts test call = true) : u.length ≤ eaten.length := by
  by_contra longer
  have extends' : eaten <+: u :=
    List.prefix_of_prefix_length_le ⟨rest, splits.whole.symm⟩ begins (by omega)
  obtain ⟨more, rfl⟩ := extends'
  cases more with
  | nil => simp at longer
  | cons ch cs =>
    -- the character behind the first part is both accepted and refused
    rw [splits.whole, List.prefix_append_right_inj] at begins
    obtain ⟨others, rfl⟩ := begins
    have refused := splits.refused ch rfl
    rw [accepted (stateAfter test s eaten, ch) (by simp [calls_append, calls])] at refused
    contradiction

end Splits

/-- Taking many takes the longest prefix that the test accepts. It calls the test with each character
taken and with the one behind them, in this order and once each, and leaves the latter. -/
structure TakesAccepted (test : σ → Char → Bool × σ) (s : σ) (c : Cursor) (eaten rest : Text) :
    Prop where
  splits : Splits test s c.rest eaten rest
  longest : ∀ u, u <+: c.rest → (∀ call ∈ calls test s u, accepts test call = true) →
    u.length ≤ eaten.length
  answer : eatWhile test s c =
    (eaten.length, stateAfter test s (eaten ++ rest.head?.toList), ⟨rest⟩)
  calls : eatWhile (recorded test) (s, []) c =
    (eaten.length, (stateAfter test s (eaten ++ rest.head?.toList),
      calls test s (eaten ++ rest.head?.toList)), ⟨rest⟩)
  count : (eatWhile (counted test) (s, 0) c).2.1.2 =
    if rest = [] then eaten.length else eaten.length + 1

theorem takesAccepted_of_splits {c : Cursor} (splits : Splits test s c.rest eaten rest) :
    c.TakesAccepted test s eaten rest where
  splits := splits
  longest := fun _ begins accepted => splits.longest begins accepted
  answer := splits.eatFrom_eq
  calls := by
    have recording : Splits (recorded test) (s, []) c.rest eaten rest :=
      (recorded_extends test).splits splits
    rw [eatWhile, recording.eatFrom_eq, stateAfter_recorded, List.nil_append]
  count := by
    have counting : Splits (counted test) (s, 0) c.rest eaten rest :=
      (counted_extends test).splits splits
    rw [eatWhile, counting.eatFrom_eq, stateAfter_counted]
    cases rest <;> simp

inductive Step (σ : Type)
  | peek
  | next
  | atEnd
  | eatIf (test : σ → Char → Bool × σ)
  | eatWhile (test : σ → Char → Bool × σ)

def Step.run (s : σ) (c : Cursor) : Step σ → Text × σ × Cursor
  | .peek => ([], s, c)
  | .next => (c.next.1.toList, s, c.next.2)
  | .atEnd => ([], s, c)
  | .eatIf test => ((c.eatIf test s).1.toList, (c.eatIf test s).2)
  | .eatWhile test =>
    let taken := c.eatWhile (recorded test) (s, [])
    ((taken.2.1.2.filter (accepts test)).map (·.2), taken.2.1.1, taken.2.2)

def run (s : σ) (c : Cursor) : List (Step σ) → Text × σ × Cursor
  | [] => ([], s, c)
  | step :: steps =>
    let first := step.run s c
    let others := run first.2.1 first.2.2 steps
    (first.1 ++ others.1, others.2)

theorem filter_calls (splits : Splits test s t eaten rest) :
    (calls test s (eaten ++ rest.head?.toList)).filter (accepts test) = calls test s eaten := by
  rw [calls_append, List.filter_append, List.filter_eq_self.mpr splits.accepted]
  cases rest with
  | nil => simp [calls]
  | cons ch cs =>
    have refused := splits.refused ch rfl
    simp [calls, refused]

theorem step_keeps (s : σ) (c : Cursor) (step : Step σ) :
    (step.run s c).1 ++ (step.run s c).2.2.rest = c.rest := by
  obtain ⟨t⟩ := c
  cases step with
  | peek => rfl
  | next => cases t <;> rfl
  | atEnd => rfl
  | eatIf test =>
    cases t with
    | nil => rfl
    | cons ch cs => cases verdict : (test s ch).1 <;> simp [Step.run, eatIf, verdict]
  | eatWhile test =>
    obtain ⟨eaten, rest, splits⟩ := exists_splits test s t
    have taken := takesAccepted_of_splits (c := ⟨t⟩) splits
    simp only [Step.run, taken.calls, filter_calls splits, map_calls]
    exact splits.whole.symm

theorem run_keeps (s : σ) (c : Cursor) (steps : List (Step σ)) :
    (run s c steps).1 ++ (run s c steps).2.2.rest = c.rest := by
  induction steps generalizing s c with
  | nil => rfl
  | cons step steps ih =>
    rw [run, List.append_assoc, ih]
    exact step_keeps s c step

theorem eatWhile_takes_longest_accepted (test : σ → Char → Bool × σ) (s : σ) (c : Cursor) :
    (∃ eaten rest, c.TakesAccepted test s eaten rest) ∧
      ∀ steps : List (Step σ), (run s c steps).1 ++ (run s c steps).2.2.rest = c.rest := by
  obtain ⟨eaten, rest, splits⟩ := exists_splits test s c.rest
  exact ⟨⟨eaten, rest, takesAccepted_of_splits splits⟩, run_keeps s c⟩

example : eatWhile (counted fun n _ => (decide (n < 2), n + 1)) (0, 0) ⟨['a', 'b', 'c', 'd']⟩ =
    (2, (3, 3), ⟨['c', 'd']⟩) := by decide

end Minilang.Cursor
