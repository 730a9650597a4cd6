import Minilang.Proofs.Drawing
import Minilang.Proofs.Places
import Minilang.Proofs.Reach

namespace Minilang
open Text (byteLength)

theorem error_at_token {text : Text} {e : SyntaxError} (reported : e ∈ (parse text).2) :
    ∃ t ∈ scanned text, e.found = t.kind ∧ e.span = t.span := by
  rcases (Parser.reaches_declarations (.ofText text)).errors_at_tokens e reported with older | found
  · contradiction
  · exact found

theorem no_feed_in_token {text : Text} {t : Token} (member : t ∈ scanned text) :
    '\n' ∉ t.text ∧ '\r' ∉ t.text := by
  rcases mem_scanned member with inside | rfl
  · have solid := solid_of_spelled (spelled_of_mem_tokens inside)
    exact ⟨fun feed => absurd (solid _ feed) (by decide),
      fun carriage => absurd (solid _ carriage) (by decide)⟩
  · exact ⟨List.not_mem_nil, List.not_mem_nil⟩

structure Token.OnLine (t : Token) (text front left right back : Text) : Prop where
  line : text.Line front (left ++ (t.text ++ right)) back
  start : t.span.start = byteLength front + byteLength left
  stop : t.span.stop = byteLength front + byteLength left + byteLength t.text
  last : t.kind = .eof → t.text = [] ∧ right = [] ∧ back = []

theorem scanned_on_line {text : Text} {t : Token} (member : t ∈ scanned text) :
    ∃ front left right back, t.OnLine text front left right back := by
  obtain ⟨before, after, ⟨whole, span⟩, last⟩ : ∃ before after, t.Stands before after text ∧
      (t.kind = .eof → t.text = [] ∧ after = []) := by
    rcases mem_scanned member with inside | rfl
    · obtain ⟨before, after, stands⟩ := scanned_stands member
      exact ⟨before, after, stands, fun ended => absurd ended (ne_eof_of_mem_tokens inside)⟩
    · exact ⟨text, [], ⟨by simp [Token.eof], by simp [Token.eof, Span.empty, byteLength]⟩,
        fun _ => ⟨rfl, rfl⟩⟩
  obtain ⟨front, left, found, back, rfl, parts, line⟩ := Text.exists_line before (t.text ++ after)
  -- the line goes on behind the token, for it ends at a line feed or at the end of the text
  obtain ⟨right, rfl, rest⟩ : ∃ right, found = t.text ++ right ∧ after = right ++ back := by
    rcases List.append_eq_append_iff.mp parts with ⟨right, inside, rest⟩ | ⟨excess, token, behind⟩
    · exact ⟨right, inside, rest⟩
    · rcases line.ends with rfl | ⟨w, rfl⟩
      · obtain ⟨rfl, rfl⟩ : excess = [] ∧ after = [] := by simpa using behind.symm
        exact ⟨[], by simp [token], rfl⟩
      · cases excess with
        | nil => exact ⟨[], by simpa using token.symm, by simpa using behind.symm⟩
        | cons c cs =>
          obtain ⟨rfl, -⟩ := List.cons.inj behind
          exact absurd (by simp [token]) (no_feed_in_token member).1
  refine ⟨front, left, right, back, by rw [whole]; exact line, ?_, ?_, fun ended => ?_⟩
  · rw [span, Text.byteLength_append]
  · rw [span, Text.byteLength_append]
  · obtain ⟨none, rfl⟩ := last ended
    simpa [none] using rest.symm

namespace Token.OnLine
variable {t : Token} {text front left right back : Text}

theorem stands (on : t.OnLine text front left right back) :
    t.Stands (front ++ left) (right ++ back) text := by
  have stop := on.stop
  rw [← on.start] at stop
  refine ⟨?_, ?_⟩
  · rw [on.line.whole]
    simp only [List.append_assoc]
  · rw [Text.byteLength_append, ← on.start, ← stop]

theorem sameLine (on : t.OnLine text front left right back) : '\n' ∉ left :=
  fun feed => on.line.solid (List.mem_append_left _ feed)

theorem count_eq (on : t.OnLine text front left right back) :
    (front ++ left).count '\n' = front.count '\n' := by
  rw [List.count_append, List.count_eq_zero.mpr on.sameLine, Nat.add_zero]

end Token.OnLine

theorem toDiagnostic_snippets {e : SyntaxError} {id : Nat} {s : Snippet}
    (listed : s ∈ (e.toDiagnostic id).snippets) : s.source = id ∧ s.span = e.span := by
  simp only [SyntaxError.toDiagnostic, List.mem_cons] at listed
  rcases listed with rfl | extra
  · exact ⟨rfl, rfl⟩
  · split at extra
    · obtain rfl := List.mem_singleton.mp extra
      exact ⟨rfl, rfl⟩
    · contradiction

theorem toDiagnostic_at_one_place {e : SyntaxError} {start : Nat} (id : Nat)
    (begins : e.span.start = start) : (e.toDiagnostic id).AtOnePlace id start := by
  refine ⟨List.cons_ne_nil _ _, fun s listed => ?_⟩
  obtain ⟨own, span⟩ := toDiagnostic_snippets listed
  exact ⟨own, by rw [span, begins]⟩

section
variable {text front left right back : Text} {t : Token} {e : SyntaxError}

end

end Minilang
