import Minilang.Proofs.SourceUse

namespace Minilang

/-- Two texts, line by line. The lines are the same, or both tell the same place, each in the way of
its own text. -/
inductive AlikeButLocations (locate locate' : Nat × Nat → Text) : Text → Text → Prop where
  | done : AlikeButLocations locate locate' [] []
  | line {line s t : Text} (whole : '\n' ∉ line) (more : AlikeButLocations locate locate' s t) :
      AlikeButLocations locate locate' (line ++ '\n' :: s) (line ++ '\n' :: t)
  | location {s t : Text} (place : Nat × Nat) (more : AlikeButLocations locate locate' s t) :
      AlikeButLocations locate locate' (locate place ++ '\n' :: s) (locate' place ++ '\n' :: t)

namespace AlikeButLocations
variable {locate locate' : Nat × Nat → Text} {s t s' t' : Text}

theorem append (first : AlikeButLocations locate locate' s t)
    (second : AlikeButLocations locate locate' s' t') :
    AlikeButLocations locate locate' (s ++ s') (t ++ t') := by
  induction first with
  | done => exact second
  | line whole more ih =>
    rw [List.append_assoc, List.append_assoc]
    exact .line whole ih
  | location place more ih =>
    rw [List.append_assoc, List.append_assoc]
    exact .location place ih

theorem flatMap {α β : Type} {f : α → Text} {g : β → Text} {as : List α} {bs : List β}
    (each : List.Forall₂ (fun a b => AlikeButLocations locate locate' (f a) (g b)) as bs) :
    AlikeButLocations locate locate' (as.flatMap f) (bs.flatMap g) := by
  induction each with
  | nil => exact .done
  | cons own others ih =>
    rw [List.flatMap_cons, List.flatMap_cons]
    exact own.append ih

theorem refl (t : Text) : AlikeButLocations locate locate' (t ++ ['\n']) (t ++ ['\n']) := by
  induction feeds : t.count '\n' generalizing t with
  | zero => exact .line (List.count_eq_zero.mp feeds) .done
  | succ n ih =>
    have feed : '\n' ∈ t := List.count_pos_iff.mp (by omega)
    obtain ⟨line, rest, rfl, whole⟩ := List.eq_append_cons_of_mem feed
    rw [List.count_append, List.count_eq_zero.mpr whole, List.count_cons_self] at feeds
    rw [List.append_assoc]
    exact .line whole (ih rest (by omega))

end AlikeButLocations

def Source.locationLine (source : Source) (config : Config) (colored : Bool) (place : Nat × Nat) :
    Text :=
  (if colored then config.subtle.sequence else []) ++ "In ".toList ++
    locationText source.name place ++
    (source.path.elim [] fun path => " (".toList ++ locationText path place ++ ")".toList) ++
    (if colored then resetSequence else [])

theorem written_location (source : Source) (config : Config) (colored : Bool) (severity : Severity)
    (numberWidth : Nat) (place : Nat × Nat) :
    ((Row.location place).pieces config severity source numberWidth).flatMap
      (Piece.written colored) = source.locationLine config colored place ++ '\n' :: [] := by
  cases path : source.path <;> cases colored <;>
    simp [Row.pieces, Source.locationLine, path, Piece.written, Piece.plain, Piece.colored, newline]

def DrawnAlike (a b : Source) (config : Config) (colored : Bool) (ps qs : List Piece) : Prop :=
  AlikeButLocations (a.locationLine config colored) (b.locationLine config colored)
    (ps.flatMap (Piece.written colored)) (qs.flatMap (Piece.written colored))

section
variable {a b : Source} {config : Config} {colored : Bool} {ps qs ps' qs' : List Piece}

theorem DrawnAlike.append (first : DrawnAlike a b config colored ps qs)
    (second : DrawnAlike a b config colored ps' qs') :
    DrawnAlike a b config colored (ps ++ ps') (qs ++ qs') := by
  rw [DrawnAlike, List.flatMap_append, List.flatMap_append]
  exact AlikeButLocations.append first second

theorem DrawnAlike.flatMap {α β : Type} {f : α → List Piece} {g : β → List Piece} {as : List α}
    {bs : List β} (each : List.Forall₂ (fun x y => DrawnAlike a b config colored (f x) (g y)) as bs) :
    DrawnAlike a b config colored (as.flatMap f) (bs.flatMap g) := by
  rw [DrawnAlike, List.flatMap_assoc, List.flatMap_assoc]
  exact AlikeButLocations.flatMap each

theorem DrawnAlike.refl (ended : ps.getLast? = some newline) :
    DrawnAlike a b config colored ps ps := by
  obtain ⟨qs, rfl⟩ := List.getLast?_eq_some_iff.mp ended
  rw [DrawnAlike, List.flatMap_append, List.flatMap_singleton, written_newline]
  exact .refl _

theorem Row.drawn_alike (row : Row) (severity : Severity) (numberWidth : Nat) :
    DrawnAlike a b config colored (row.pieces config severity a numberWidth)
      (row.pieces config severity b numberWidth) := by
  cases row with
  | location place =>
    rw [DrawnAlike, written_location, written_location]
    exact .location place .done
  | sourceLine number text => exact .refl List.getLast?_concat
  | underline offset width snippet => exact .refl List.getLast?_append

namespace Diagnostic

theorem group_drawn_alike (d : Diagnostic) (same : a.text = b.text) (g : Group) :
    DrawnAlike a b config colored (d.groupPieces config a g) (d.groupPieces config b g) := by
  rw [groupPieces, groupPieces, g.rows_of_text same]
  apply DrawnAlike.flatMap
  exact List.forall₂_same.mpr fun row _ => row.drawn_alike d.severity g.numberWidth

/-- A text is drawn from under any name. Only the locations are told under that name. -/
theorem render_alike (d : Diagnostic) (same : a.text = b.text) (config : Config) (colored : Bool) :
    AlikeButLocations (a.locationLine config colored) (b.locationLine config colored)
      (d.render [a] config colored) (d.render [b] config colored) := by
  have known : ∀ s ∈ d.snippets,
      Option.Rel (fun c c' => c = a ∧ c' = b) [a][s.source]? [b][s.source]? := by
    intro s _
    cases s.source with
    | zero => exact .some ⟨rfl, rfl⟩
    | succ id => exact .none
  have exhibits := exhibits_related (by rintro _ _ ⟨rfl, rfl⟩; exact same) known
  have drawn : List.Forall₂ (fun e e' => DrawnAlike a b config colored
      ((e.groups config.contextSize).flatMap (d.groupPieces config e.source))
      ((e'.groups config.contextSize).flatMap (d.groupPieces config e'.source)))
      (d.exhibits [a]) (d.exhibits [b]) := by
    apply exhibits.imp
    rintro ⟨_, ps⟩ ⟨_, qs⟩ ⟨⟨rfl, rfl⟩, equal⟩
    rw [Exhibit.groups, Exhibit.groups, ← equal, Source.lineCount_of_text same]
    apply DrawnAlike.flatMap
    exact List.forall₂_same.mpr fun g _ => d.group_drawn_alike same g
  have header : DrawnAlike a b config colored (d.headerPieces config) (d.headerPieces config) :=
    .refl List.getLast?_concat
  have last : DrawnAlike a b config colored [newline] [newline] := .refl rfl
  rw [render_eq, render_eq]
  exact (header.append (.flatMap drawn)).append last

end Diagnostic
end
end Minilang
