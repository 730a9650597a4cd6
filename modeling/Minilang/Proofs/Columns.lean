import Minilang.Proofs.Drawing

/-!
Underlines and tabs. A tab is printed as four spaces, and four columns more than its own one are
set aside for it. So an underline lies to the right of the text that it marks by one column for each
tab in front of that text, and is longer than that text by one for each tab in it; without tabs the
two agree.
-/
namespace Minilang
namespace Text

/-- Columns counted already that a letter in front may take back. -/
def Ligature.owed : Ligature → Int
  | .khmerLetter | .joinedTifinagh => 1
  | _ => 0

def EmojiSequence.owed : EmojiSequence → Int
  | .joinedFlag | .joinedFlagsOdd => 1
  | _ => 0

def Joint.owed : Joint → Int
  | .free => 0
  | .ligature l => l.owed
  | .emoji s => s.owed

theorem Ligature.owed_bounds (l : Ligature) : 0 ≤ l.owed ∧ l.owed ≤ 1 := by
  cases l <;> simp [owed]

theorem EmojiSequence.owed_bounds (s : EmojiSequence) : 0 ≤ s.owed ∧ s.owed ≤ 1 := by
  cases s <;> simp [owed]

theorem Joint.owed_bounds (j : Joint) : 0 ≤ j.owed ∧ j.owed ≤ 1 := by
  cases j with
  | free => decide
  | ligature l => exact l.owed_bounds
  | emoji s => exact s.owed_bounds

theorem Joint.owed_acrossSelector (j : Joint) : j.acrossSelector.owed ≤ j.owed := by
  cases j with
  | free => exact Int.le_refl _
  | ligature l => exact Int.le_refl _
  | emoji s => exact s.owed_bounds.1

theorem khmer_not_zeroWidth : ∀ k < 0x30, inRanges zeroWidthRanges (0x1780 + k) = false := by
  decide +kernel

theorem khmerLetter_width {c : Char} (letter : isKhmerLetter c = true) : 1 ≤ charWidth c := by
  have bounds : 0x1780 ≤ c.toNat ∧ c.toNat < 0x1780 + 0x30 := by
    simp only [isKhmerLetter, listedIn, inRanges] at letter
    grind
  obtain ⟨k, place⟩ := Nat.exists_eq_add_of_le bounds.1
  have wide : isZeroWidth c = false := by
    rw [isZeroWidth, listedIn, place]
    exact khmer_not_zeroWidth k (by omega)
  have high : ¬ c.toNat ≤ 0xA0 := by omega
  simp only [charWidth, high, wide, ↓reduceIte, Bool.false_eq_true]
  split
  · decide
  · split
    · decide
    · split <;> decide

theorem Joint.owed_ofChar (c : Char) : (Joint.ofChar c).owed ≤ charWidth c := by
  by_cases letter : isKhmerLetter c = true
  · have one := khmerLetter_width letter
    have most := (Joint.ofChar c).owed_bounds.2
    omega
  · have none : (Joint.ofChar c).owed = 0 := by
      simp only [ofChar, Ligature.endingIn, EmojiSequence.endingIn, letter]
      grind [Joint.owed, Ligature.owed, EmojiSequence.owed]
    omega

theorem Ligature.owed_join (l : Ligature) : l.join.owed = l.owed := by
  cases l <;> rfl

theorem Ligature.takesLetter_owed {l : Ligature} {c : Char} {columns : Int}
    {next : Option Ligature} (taken : l.takesLetter c = some (columns, next)) :
    ((next.map Joint.ligature).getD .free).owed ≤ columns + l.owed := by
  unfold takesLetter at taken
  split at taken <;> grind [owed, Joint.owed]

theorem Ligature.takes_owed {l : Ligature} {c : Char} {columns : Int} {next : Option Ligature}
    (taken : l.takes c = some (columns, next)) :
    ((next.map Joint.ligature).getD .free).owed ≤ columns + l.owed := by
  have letter := @takesLetter_owed l c columns next
  have joined := l.owed_join
  unfold takes at taken
  grind [Joint.owed]

theorem EmojiSequence.takes_owed {s next : EmojiSequence} {c : Char} {columns : Int}
    (taken : s.takes c = some (columns, next)) : next.owed ≤ columns + s.owed := by
  cases s <;> grind [takes, takesJoined, owed]

theorem Joint.takes_owed {j next : Joint} {c : Char} {columns : Int}
    (taken : j.takes c = some (columns, next)) : next.owed ≤ columns + j.owed := by
  cases j with
  | free => simp [takes] at taken
  | ligature l =>
    simp only [takes, Option.map_eq_some_iff, Prod.mk.injEq] at taken
    obtain ⟨⟨k, l'⟩, taken, rfl, rfl⟩ := taken
    exact Ligature.takes_owed taken
  | emoji s =>
    simp only [takes, Option.map_eq_some_iff, Prod.mk.injEq] at taken
    obtain ⟨⟨k, s'⟩, taken, rfl, rfl⟩ := taken
    exact EmojiSequence.takes_owed taken

namespace Ending

theorem owed_free : free.joint.owed = 0 := rfl

theorem owed_picture : (ofJoint (.emoji .picture)).joint.owed = 0 := rfl

theorem beforeJoint_owed (c : Char) (j : Joint) :
    (beforeJoint c j).2.joint.owed ≤ (beforeJoint c j).1 + j.owed := by
  have kept := j.owed_bounds.1
  have across := j.owed_acrossSelector
  unfold beforeJoint
  split
  · simp only [owed_free]
    omega
  · split
    · split <;> simp only <;> omega
    · split
      · simpa using across
      · split
        · rename_i taken
          exact Joint.takes_owed taken
        · have own := Joint.owed_ofChar c
          simp only [ofJoint]
          omega

theorem before_owed (c : Char) (e : Ending) :
    (before c e).2.joint.owed ≤ (before c e).1 + e.joint.owed := by
  have kept := e.joint.owed_bounds.1
  have across := e.joint.owed_acrossSelector
  have apart := beforeJoint_owed c e.joint.acrossSelector
  unfold before
  split
  · exact beforeJoint_owed c e.joint
  · split
    · simp only [owed_picture]
      split <;> omega
    · omega
  · split
    · simp only [owed_free]
      omega
    · omega

end Ending

theorem measure_owed (t : Text) : (measure t).2.joint.owed ≤ (measure t).1 := by
  induction t with
  | nil => decide
  | cons c cs ih =>
    have step := Ending.before_owed c (measure cs).2
    simp only [measure]
    omega

theorem measure_nonneg (t : Text) : 0 ≤ (measure t).1 :=
  Int.le_trans (Joint.owed_bounds _).1 (measure_owed t)

theorem before_blank {c : Char} (blank : c = '\t' ∨ c = ' ') (e : Ending) :
    Ending.before c e = (1, .free) := by
  have plain : ∀ j, Ending.beforeJoint c j = (1, .free) := by
    intro j
    rcases blank with rfl | rfl <;> rfl
  have noPicture : heedsPictureSelector c = false := by
    rcases blank with rfl | rfl <;> decide +kernel
  have noText : heedsTextSelector c = false := by simp [heedsTextSelector, noPicture]
  unfold Ending.before
  split
  · exact plain _
  · simp [noPicture, plain]
  · simp [noText, plain]

theorem expandTabs_cons (c : Char) (cs : Text) :
    expandTabs (c :: cs) =
      (if c = '\t' then List.replicate 4 ' ' else [c]) ++ expandTabs cs := rfl

/-- Printing a tab as four spaces makes a text three columns wider, and changes nothing else. -/
theorem measure_expandTabs (t : Text) :
    measure (expandTabs t) = ((measure t).1 + 3 * t.count '\t', (measure t).2) := by
  induction t with
  | nil => rfl
  | cons c cs ih =>
    rw [expandTabs_cons]
    by_cases tab : c = '\t'
    · subst tab
      simp only [↓reduceIte, List.replicate, List.cons_append, List.nil_append, measure, ih,
        before_blank (Or.inr rfl), before_blank (Or.inl rfl), List.count_cons_self,
        Prod.mk.injEq, and_true]
      omega
    · simp only [tab, ↓reduceIte, List.cons_append, List.nil_append, measure, ih,
        List.count_cons_of_ne tab, Prod.mk.injEq, and_true]
      omega

/-- The columns set aside for a text are those of its printed form, and one for each tab. -/
theorem columns_eq (t : Text) : columns t = displayWidth (expandTabs t) + t.count '\t' := by
  have positive := measure_nonneg t
  simp only [columns, displayWidth, measure_expandTabs]
  omega

end Text

/-- Where a span is a part of the displayed text of a line, the row of that line is followed, behind
other underlines at most, by its underline. That has a blank for each column of the printed text in
front of the span and one more for each tab there, and its length exceeds the span in the same way. -/
theorem underline_exceeds_by_tabs {d : Diagnostic} {sources : Sources} {source : Source}
    {s : Snippet} {config : Config} {front line back a b c : Text}
    (fits : config.contextSize + source.lineCount < 2 ^ 64) (listed : s ∈ d.snippets)
    (known : sources[s.source]? = some source) (l : Text.Line source.text front line back)
    (shown : Text.dropLast? '\r' line = a ++ (b ++ c))
    (start : s.span.start = Text.byteLength front + Text.byteLength a)
    (stop : s.span.stop = Text.byteLength front + Text.byteLength a + Text.byteLength b) :
    let blanks := Text.displayWidth (Text.expandTabs a) + a.count '\t'
    let glyphs := max 1 (Text.displayWidth (Text.expandTabs b) + b.count '\t')
    ∃ (numberWidth : Nat) (others : List Row),
      (∀ r ∈ others, ∃ offset width t, r = .underline offset width t) ∧
      let rows := Row.sourceLine (front.count '\n' + 1) (a ++ (b ++ c)) ::
        (others ++ [.underline blanks glyphs s])
      rows.flatMap (Row.pieces config d.severity source numberWidth) <:+: d.pieces sources config ∧
        ∀ colored, rows.flatMap (Row.written config colored d.severity source numberWidth) <:+:
          d.render sources config colored := by
  intro blanks glyphs
  obtain ⟨ending, whole, -⟩ := Source.dropLast?_eq '\r' line
  rw [shown, List.append_assoc] at whole
  rw [whole] at l
  have text := Source.line?_of_line l
  rw [← whole, shown] at text
  have place := Source.place?_of_line l start
  obtain ⟨e, -, rfl, g, -, shows, drawn⟩ := Diagnostic.pieces_show fits listed known place
  obtain ⟨others, behind, underlines, rows⟩ := shows.underlined e.source
  have marks : s.Marks (Text.byteLength front) (a ++ (b ++ c)) a b := Snippet.marks_of_parts start stop
  have under : s.underline (Text.byteLength front) (a ++ (b ++ c)) = .underline blanks glyphs s := by
    rw [marks.underline, Text.columns_eq, Text.columns_eq]
  dsimp only at rows
  rw [text, Source.lineStart?_of_line l, Option.getD_some, Option.getD_some, under] at rows
  rw [rows, List.flatMap_append] at drawn
  have part := (List.prefix_append _ _).isInfix.trans drawn
  exact ⟨g.numberWidth, others, underlines, part, fun colored =>
    Diagnostic.written_infix colored part⟩

theorem underline_exceeds_by_tabs_in_span :
    let source : Source := ⟨"a".toList, none, "f\n\tx\ty;\r\n".toList⟩
    let s : Snippet := ⟨"l".toList, .secondary, 0, ⟨3, 6⟩⟩
    let d : Diagnostic := ⟨.error, none, none, [s]⟩
    ({ } : Config).contextSize + source.lineCount < 2 ^ 64 ∧
    ∃ (numberWidth : Nat) (others : List Row),
      (∀ r ∈ others, ∃ offset width t, r = .underline offset width t) ∧
      let rows := Row.sourceLine 2 "\tx\ty;".toList :: (others ++ [.underline 5 7 s])
      rows.flatMap (Row.pieces {} .error source numberWidth) <:+: d.pieces [source] {} ∧
        ∀ colored, rows.flatMap (Row.written {} colored .error source numberWidth) <:+:
          d.render [source] {} colored := by
  intro source s d
  have fits : ({ } : Config).contextSize + source.lineCount < 2 ^ 64 := by decide
  have line : Text.Line source.text "f\n".toList "\tx\ty;\r".toList ['\n'] :=
    ⟨rfl, Or.inr ⟨['f'], rfl⟩, by decide, Or.inr ⟨[], rfl⟩⟩
  have blanks : Text.displayWidth (Text.expandTabs ['\t']) + ['\t'].count '\t' = 5 := by
    decide +kernel
  have glyphs : max 1 (Text.displayWidth (Text.expandTabs "x\ty".toList) +
      "x\ty".toList.count '\t') = 7 := by
    decide +kernel
  have known : [source][s.source]? = some source := rfl
  have drawn := underline_exceeds_by_tabs (d := d) (a := ['\t']) (b := "x\ty".toList) (c := [';'])
    fits (List.mem_singleton_self s) known line rfl rfl rfl
  rw [blanks, glyphs] at drawn
  exact ⟨fits, drawn⟩

/-- Behind a tab, printed as four spaces, the underline has five blanks in front. -/
theorem underline_not_below_text_behind_tab :
    let source : Source := ⟨"a".toList, none, "\tx".toList⟩
    let s : Snippet := ⟨"l".toList, .primary, 0, ⟨1, 2⟩⟩
    (Diagnostic.mk .error none none [s]).renderPlain [source] {} =
        "error:\nIn a:1:2\n1 │     x\n  │      ^  l\n\n".toList ∧
      Text.displayWidth (Text.expandTabs ['\t']) = 4 := by
  decide +kernel

end Minilang
