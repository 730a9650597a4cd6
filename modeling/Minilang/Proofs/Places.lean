import Minilang.Proofs.Spelling

namespace Minilang

def scanned (text : Text) : List Token := tokens text ++ [.eof (Text.byteLength text)]

/-- The token stands in the source between the two parts. -/
structure Token.Stands (t : Token) (before after source : Text) : Prop where
  whole : source = before ++ (t.text ++ after)
  span : t.span = ⟨Text.byteLength before, Text.byteLength before + Text.byteLength t.text⟩

theorem Text.byteLength_pos {t : Text} (nonempty : t ≠ []) : 0 < Text.byteLength t := by
  obtain ⟨c, cs, rfl⟩ := List.exists_cons_of_ne_nil nonempty
  have := c.utf8Size_pos
  simp only [Text.byteLength]
  omega

theorem lexeme_prefix (c : Char) (cs : Text) : (lexeme c cs).2 <+: c :: cs := by
  unfold lexeme
  split
  · simp
  · split
    · exact (List.cons_prefix_cons).mpr ⟨rfl, List.takeWhile_prefix _⟩
    · split
      · exact (List.cons_prefix_cons).mpr ⟨rfl, List.takeWhile_prefix _⟩
      · simp

namespace TokenStream
variable {s : TokenStream}

theorem next_whole (more : s.rest.dropWhile isBlank ≠ []) :
    s.rest = s.rest.takeWhile isBlank ++ (s.next.1.text ++ s.next.2.rest) := by
  obtain ⟨c, cs, begins⟩ := List.exists_cons_of_ne_nil more
  have lexed : s.next.1.text = (lexeme c cs).2 := by simp [next, begins]
  obtain ⟨others, parts⟩ := lexeme_prefix c cs
  rw [lexed, next_rest begins, ← parts, List.drop_left, parts, ← begins,
    List.takeWhile_append_dropWhile]

theorem next_span (more : s.rest.dropWhile isBlank ≠ []) :
    s.next.1.span =
        ⟨s.offset + Text.byteLength (s.rest.takeWhile isBlank),
          s.offset + Text.byteLength (s.rest.takeWhile isBlank) + Text.byteLength s.next.1.text⟩ ∧
      s.next.2.offset = s.next.1.span.stop := by
  obtain ⟨c, cs, begins⟩ := List.exists_cons_of_ne_nil more
  simp [next, begins]

theorem next_text_ne_nil (more : s.rest.dropWhile isBlank ≠ []) : s.next.1.text ≠ [] := by
  obtain ⟨c, cs, begins⟩ := List.exists_cons_of_ne_nil more
  simpa [next, begins] using lexeme_text_ne_nil c cs

theorem tokens_stand (s : TokenStream) {front : Text} (here : s.offset = Text.byteLength front) :
    ∀ t ∈ s.tokens, ∃ before after, t.Stands before after (front ++ s.rest) := by
  fun_induction tokens s generalizing front with
  | case1 s _ => simp
  | case2 s more ih =>
    have parts := next_whole more
    obtain ⟨span, follows⟩ := next_span more
    have moved : s.next.2.offset =
        Text.byteLength (front ++ (s.rest.takeWhile isBlank ++ s.next.1.text)) := by
      rw [follows, span, here]
      simp only [Text.byteLength_append]
      omega
    have rebuilt : front ++ s.rest =
        (front ++ (s.rest.takeWhile isBlank ++ s.next.1.text)) ++ s.next.2.rest := by
      rw [List.append_assoc, List.append_assoc, ← parts]
    refine List.forall_mem_cons.mpr ⟨⟨front ++ s.rest.takeWhile isBlank, s.next.2.rest, ?_, ?_⟩, ?_⟩
    · rw [List.append_assoc, ← parts]
    · rw [span, here, Text.byteLength_append]
    · rw [rebuilt]
      exact ih moved

theorem tokens_from (s : TokenStream) : ∀ t ∈ s.tokens, s.offset ≤ t.span.start := by
  fun_induction tokens s with
  | case1 s _ => simp
  | case2 s more ih =>
    obtain ⟨span, follows⟩ := next_span more
    rw [follows, span] at ih
    refine List.forall_mem_cons.mpr ⟨?_, fun t member => ?_⟩
    · rw [span]
      exact Nat.le_add_right _ _
    · have later := ih t member
      dsimp only at later
      omega

theorem tokens_ordered (s : TokenStream) :
    s.tokens.Pairwise fun a b => a.span.start < b.span.start := by
  fun_induction tokens s with
  | case1 s _ => exact .nil
  | case2 s more ih =>
    obtain ⟨span, follows⟩ := next_span more
    have wide := Text.byteLength_pos (next_text_ne_nil more)
    refine List.pairwise_cons.mpr ⟨fun t member => ?_, ih⟩
    have later := tokens_from s.next.2 t member
    rw [follows, span] at later
    rw [span]
    dsimp only at later ⊢
    omega

end TokenStream

theorem mem_scanned {text : Text} {t : Token} (member : t ∈ scanned text) :
    t ∈ tokens text ∨ t = .eof (Text.byteLength text) := by
  simpa [scanned] using member

theorem scanned_stands {text : Text} {t : Token} (member : t ∈ scanned text) :
    ∃ before after, t.Stands before after text := by
  rcases mem_scanned member with inside | rfl
  · exact @TokenStream.tokens_stand (TokenStream.ofText text) [] rfl t inside
  · exact ⟨text, [], by simp [Token.eof], by simp [Token.eof, Span.empty, Text.byteLength]⟩

theorem scanned_ordered (text : Text) :
    (scanned text).Pairwise fun a b => a.span.start < b.span.start := by
  refine List.pairwise_append.mpr ⟨TokenStream.tokens_ordered _, List.pairwise_singleton _ _, ?_⟩
  intro t member u last
  obtain rfl : u = .eof (Text.byteLength text) := by simpa using last
  obtain ⟨before, after, whole, span⟩ := scanned_stands (List.mem_append_left _ member)
  have wide := Text.byteLength_pos (text_ne_nil_of_spelled (spelled_of_mem_tokens member))
  have long : Text.byteLength text =
      Text.byteLength before + (Text.byteLength t.text + Text.byteLength after) := by
    rw [← Text.byteLength_append, ← Text.byteLength_append, ← whole]
  rw [span]
  change Text.byteLength before < Text.byteLength text
  omega

theorem span_tells {text : Text} {front back : List Token} {t : Token}
    (parts : scanned text = front ++ t :: back) : ∀ u ∈ front ++ back, u.span ≠ t.span := by
  have ordered := scanned_ordered text
  rw [parts, List.pairwise_append, List.pairwise_cons] at ordered
  obtain ⟨-, ⟨later, -⟩, earlier⟩ := ordered
  intro u member same
  rcases List.mem_append.mp member with inFront | inBack
  · have := earlier u inFront t List.mem_cons_self
    rw [same] at this
    exact Nat.lt_irrefl _ this
  · have := later u inBack
    rw [same] at this
    exact Nat.lt_irrefl _ this

end Minilang
