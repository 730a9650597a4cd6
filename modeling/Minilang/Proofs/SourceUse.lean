import Mathlib.Data.List.Forall2
import Minilang.Proofs.Drawing

namespace Minilang

theorem rel_cases {α β : Type} {R : α → β → Prop} {o : Option α} {o' : Option β}
    (related : Option.Rel R o o') :
    o = none ∧ o' = none ∨ ∃ a b, o = some a ∧ o' = some b ∧ R a b := by
  cases related with
  | none => exact Or.inl ⟨rfl, rfl⟩
  | some pair => exact Or.inr ⟨_, _, rfl, rfl, pair⟩

theorem filterMap_related {α β γ : Type} {R : β → γ → Prop} {f : α → Option β} {g : α → Option γ}
    {as : List α} (each : ∀ a ∈ as, Option.Rel R (f a) (g a)) :
    List.Forall₂ R (as.filterMap f) (as.filterMap g) := by
  induction as with
  | nil => exact .nil
  | cons a as ih =>
    obtain ⟨own, others⟩ := List.forall_mem_cons.mp each
    rcases rel_cases own with ⟨first, second⟩ | ⟨b, c, first, second, pair⟩
    · rw [List.filterMap_cons_none first, List.filterMap_cons_none second]
      exact ih others
    · rw [List.filterMap_cons_some first, List.filterMap_cons_some second]
      exact .cons pair (ih others)

namespace Source
variable {a b : Source}

theorem lineCount_of_text (same : a.text = b.text) : a.lineCount = b.lineCount := by
  rw [lineCount, lineCount, lineBreaks, lineBreaks, same]

theorem lineIndex?_of_text (same : a.text = b.text) (byte : Nat) :
    a.lineIndex? byte = b.lineIndex? byte := by
  rw [lineIndex?, lineIndex?, lineBreaks, lineBreaks, same]

theorem lineStart?_of_text (same : a.text = b.text) (line : Nat) :
    a.lineStart? line = b.lineStart? line := by
  cases line with
  | zero => rfl
  | succ line => rw [lineStart?, lineStart?, lineBreaks, lineBreaks, same]

theorem line?_of_text (same : a.text = b.text) (line : Nat) : a.line? line = b.line? line := by
  rw [line?, line?, fullLine?, fullLine?]
  simp only [lineStart?_of_text same, same]

theorem place?_of_text (same : a.text = b.text) (s : Snippet) : a.place? s = b.place? s := by
  rw [place?, place?, lineColumn?, lineColumn?]
  simp only [lineIndex?_of_text same, lineStart?_of_text same]

end Source

theorem Group.rows_of_text {a b : Source} (same : a.text = b.text) (g : Group) :
    g.rows a = g.rows b := by
  have lines : g.lineRows a = g.lineRows b := by
    funext line
    rw [lineRows, lineRows, Source.line?_of_text same, Source.lineStart?_of_text same]
  rw [rows, rows, lines]

namespace Diagnostic
variable {d : Diagnostic} {sources sources' : Sources} {R : Source → Source → Prop}

theorem placed_related (sameText : ∀ a b, R a b → a.text = b.text)
    (known : ∀ s ∈ d.snippets, Option.Rel R sources[s.source]? sources'[s.source]?) :
    d.placed sources = d.placed sources' := by
  apply List.filterMap_congr
  intro s listed
  rcases rel_cases (known s listed) with ⟨first, second⟩ | ⟨a, b, first, second, pair⟩
  · rw [first, second]
  · rw [first, second]
    exact Source.place?_of_text (sameText a b pair) s

theorem exhibits_related (sameText : ∀ a b, R a b → a.text = b.text)
    (known : ∀ s ∈ d.snippets, Option.Rel R sources[s.source]? sources'[s.source]?) :
    List.Forall₂ (fun e e' => R e.source e'.source ∧ e.snippets = e'.snippets)
      (d.exhibits sources) (d.exhibits sources') := by
  have placed := placed_related sameText known
  have ids : d.sourceIds sources' = d.sourceIds sources := by rw [sourceIds, sourceIds, placed]
  rw [exhibits, exhibits, ids, ← placed]
  apply filterMap_related
  intro id listed
  obtain ⟨p, member, rfl⟩ := List.mem_map.mp (List.mem_eraseDups.mp listed)
  obtain ⟨s, given, source, -, place⟩ := mem_placed.mp member
  rw [Source.place?_snippet place]
  rcases rel_cases (known s given) with ⟨first, second⟩ | ⟨a, b, first, second, pair⟩
  · rw [first, second]
    exact .none
  · rw [first, second]
    exact .some ⟨pair, rfl⟩

/-- Sources that no snippet names are not looked at. -/
theorem pieces_of_known (known : ∀ s ∈ d.snippets, sources[s.source]? = sources'[s.source]?)
    (config : Config) : d.pieces sources config = d.pieces sources' config := by
  have related : ∀ s ∈ d.snippets, Option.Rel Eq sources[s.source]? sources'[s.source]? := by
    intro s listed
    rw [known s listed]
    cases sources'[s.source]? with
    | none => exact .none
    | some source => exact .some rfl
  have same := exhibits_related (fun a b equal => congrArg Source.text equal) related
  have exhibits : d.exhibits sources = d.exhibits sources' := by
    rw [← List.forall₂_eq_eq_eq]
    apply same.imp
    rintro ⟨a, ps⟩ ⟨b, qs⟩ ⟨source, snippets⟩
    exact congrArg₂ Exhibit.mk source snippets
  rw [pieces, pieces, exhibits]

theorem render_of_known (known : ∀ s ∈ d.snippets, sources[s.source]? = sources'[s.source]?)
    (config : Config) (colored : Bool) :
    d.render sources config colored = d.render sources' config colored := by
  have same := pieces_of_known known config
  rw [render, render, renderColored, renderColored, renderPlain, renderPlain, same]

end Diagnostic
end Minilang
