import Minilang.Proofs.Drawing
import Minilang.Proofs.Escapes

/-!
Colored drawings. If no text that is drawn holds an escape character, colors are all that the colored
form adds to the plain one, and every line of it ends in reset state.
-/
namespace Minilang

/-- The characters that a drawing puts between the texts it is given, line feeds apart. -/
def isOwn (c : Char) : Bool := ' ' ≤ c && c ≤ '~'

namespace Text
variable {c : Char} {t : Text}

theorem not_mem_own (foreign : isOwn c = false) (own : t.all isOwn = true) : c ∉ t := by
  intro member
  have inside := List.all_eq_true.mp own c member
  rw [foreign] at inside
  contradiction

theorem digit_own (digit : c.isDigit = true) : isOwn c = true := by
  simp only [Char.isDigit, isOwn, Char.le_def, UInt32.le_iff_toNat_le, Bool.and_eq_true,
    decide_eq_true_eq, ge_iff_le] at *
  change 48 ≤ c.val.toNat ∧ c.val.toNat ≤ 57 at digit
  change 32 ≤ c.val.toNat ∧ c.val.toNat ≤ 126
  omega

theorem not_mem_decimal (foreign : isOwn c = false) (n : Nat) : c ∉ decimal n := by
  apply not_mem_own foreign
  rw [List.all_eq_true]
  intro d member
  exact digit_own (Nat.isDigit_of_mem_toDigits (by omega) (by omega) member)

theorem not_mem_padLeft (foreign : isOwn c = false) (absent : c ∉ t) (width : Nat) :
    c ∉ padLeft width t := by
  intro member
  rcases List.mem_append.mp member with blank | inside
  · rw [(List.mem_replicate.mp blank).2] at foreign
    contradiction
  · exact absent inside

theorem not_mem_times (absent : c ∉ t) (n : Nat) : c ∉ times n t := by
  intro member
  obtain ⟨s, copy, inside⟩ := List.mem_flatten.mp member
  rw [(List.mem_replicate.mp copy).2] at inside
  exact absent inside

theorem not_mem_expandTabs (foreign : isOwn c = false) (absent : c ∉ t) : c ∉ expandTabs t := by
  intro member
  obtain ⟨d, inside, shown⟩ := List.mem_flatMap.mp member
  split at shown
  · rw [(List.mem_replicate.mp shown).2] at foreign
    contradiction
  · rw [List.mem_singleton.mp shown] at absent
    exact absent inside

theorem not_mem_dropLast? (absent : c ∉ t) (d : Char) : c ∉ dropLast? d t := by
  obtain ⟨ending, parts, -⟩ := Source.dropLast?_eq d t
  rw [parts, List.mem_append, not_or] at absent
  exact absent.1

end Text

theorem not_mem_locationText {c : Char} {name : Text} (foreign : isOwn c = false) (absent : c ∉ name)
    (place : Nat × Nat) : c ∉ locationText name place := by
  have colon : c ∉ [':'] := Text.not_mem_own foreign (by decide)
  have line := Text.not_mem_decimal foreign place.1
  have column := Text.not_mem_decimal foreign place.2
  rw [List.mem_singleton] at colon
  simp [locationText, absent, colon, line, column]

theorem Source.not_mem_line? {c : Char} {source : Source} (absent : c ∉ source.text) (line : Nat) :
    c ∉ (source.line? line).getD [] := by
  by_cases inside : line < source.lineCount
  · rw [lineCount_eq] at inside
    have counted : line ≤ source.text.count '\n' := by omega
    obtain ⟨front, shown, back, l, number⟩ := Text.exists_line_at counted
    rw [← number, line?_of_line l]
    apply Text.not_mem_dropLast?
    rw [l.whole] at absent
    simp only [List.mem_append, not_or] at absent
    exact absent.2.1
  · rw [line?_eq_none (Nat.le_of_not_lt inside)]
    exact List.not_mem_nil

namespace Style

theorem decimal_parameters (n : Nat) : (Text.decimal n).all isParameter = true := by
  rw [List.all_eq_true]
  intro c member
  have digit := Nat.isDigit_of_mem_toDigits (by omega) (by omega) member
  simp [isParameter, digit]

theorem colorParameters_all {layer : Char} (parameter : isParameter layer = true) (intense : Bool)
    (color : Color) : (colorParameters layer intense color).all isParameter = true := by
  have palette : ('8' :: ";5;".toList).all isParameter = true := by decide
  unfold colorParameters
  split
  · rw [List.all_append, List.all_cons, parameter, palette, decimal_parameters]
    rfl
  · rw [List.all_cons, parameter, decimal_parameters]
    rfl

theorem parameters_all (s : Style) :
    ∀ parameters ∈ s.parameters, ∀ c ∈ parameters, isParameter c = true := by
  have flag : ∀ (on : Bool) (c : Char), isParameter c = true →
      ∀ parameters ∈ (if on then [[c]] else []), parameters.all isParameter = true := by
    intro on c parameter parameters member
    split at member
    · simp [List.mem_singleton.mp member, parameter]
    · contradiction
  have layer : ∀ (color : Option Color) (c : Char), isParameter c = true →
      ∀ parameters ∈ (color.map (colorParameters c s.intense)).toList,
        parameters.all isParameter = true := by
    intro color c parameter parameters member
    cases color with
    | none => exact absurd member List.not_mem_nil
    | some color =>
      rw [List.mem_singleton.mp member]
      exact colorParameters_all parameter s.intense color
  intro parameters member
  rw [← List.all_eq_true]
  simp only [Style.parameters, List.mem_append] at member
  rcases member with ((((bold | dimmed) | italic) | underlined) | foreground) | background
  · exact flag s.bold '1' rfl parameters bold
  · exact flag s.dimmed '2' rfl parameters dimmed
  · exact flag s.italic '3' rfl parameters italic
  · exact flag s.underlined '4' rfl parameters underlined
  · exact layer s.foreground '3' rfl parameters foreground
  · exact layer s.background '4' rfl parameters background

end Style

namespace Piece
open Glyph (Settled)

variable {c : Char} {styled : Bool} {ps qs : List Piece}

def glyphs : Piece → List Glyph
  | .text t => t.map .char
  | .style s => .sequence ['0'] :: s.parameters.map .sequence
  | .reset => [.sequence ['0']]

/-- Under a style there is no line feed, and none is left open. The pieces begin under a style or not. -/
def Closed : Bool → List Piece → Prop
  | styled, [] => styled = false
  | styled, .text t :: ps => (styled = true → '\n' ∉ t) ∧ Closed styled ps
  | _, .style _ :: ps => Closed true ps
  | _, .reset :: ps => Closed false ps

def Lack (c : Char) (ps : List Piece) : Prop := ∀ p ∈ ps, c ∉ p.plain

theorem chars_glyphs (p : Piece) : p.glyphs.filterMap Glyph.char? = p.plain := by
  cases p with
  | text t =>
    have shown : Glyph.char? ∘ Glyph.char = some := rfl
    rw [glyphs, List.filterMap_map, shown, List.filterMap_some]
    rfl
  | style s => simp [glyphs, plain, Glyph.char?]
  | reset => rfl

theorem glyphs_sequences {parameters : List Text}
    (all : ∀ ps ∈ parameters, ∀ c ∈ ps, isParameter c = true) (rest : Text) :
    Minilang.glyphs (parameters.flatMap escapeSequence ++ rest) =
      parameters.map .sequence ++ Minilang.glyphs rest := by
  induction parameters with
  | nil => rfl
  | cons ps more ih =>
    obtain ⟨own, others⟩ := List.forall_mem_cons.mp all
    rw [List.flatMap_cons, List.append_assoc, glyphs_sequence own, ih others]
    rfl

theorem glyphs_colored {p : Piece} (clean : '\x1b' ∉ p.plain) (rest : Text) :
    Minilang.glyphs (p.colored ++ rest) = p.glyphs ++ Minilang.glyphs rest := by
  have reset : ∀ c ∈ ['0'], isParameter c = true := by
    intro c zero
    rw [List.mem_singleton.mp zero]
    rfl
  cases p with
  | text t => exact glyphs_append clean rest
  | style s =>
    rw [colored, Style.sequence, resetSequence, List.append_assoc, glyphs_sequence reset,
      glyphs_sequences s.parameters_all]
    rfl
  | reset => exact glyphs_sequence reset rest

theorem glyphs_flatMap (clean : Lack '\x1b' ps) :
    Minilang.glyphs (ps.flatMap colored) = ps.flatMap glyphs := by
  induction ps with
  | nil => rw [List.flatMap_nil, List.flatMap_nil, Minilang.glyphs]
  | cons p ps ih =>
    obtain ⟨own, others⟩ := List.forall_mem_cons.mp clean
    rw [List.flatMap_cons, glyphs_colored own, ih others]
    rfl

theorem Closed.settled {last : Option Text} (closed : Closed styled ps)
    (reset : styled = false → last = some ['0']) : Settled last (ps.flatMap glyphs) := by
  induction ps generalizing styled last with
  | nil => exact reset closed
  | cons p ps ih =>
    cases p with
    | text t =>
      apply Glyph.settled_chars
      · intro feed
        apply reset
        by_contra open_style
        exact closed.1 (by simpa using open_style) feed
      · exact ih closed.2 reset
    | style s =>
      apply Glyph.settled_sequences
      intro last
      exact ih closed (by simp)
    | reset => exact ih closed fun _ => rfl

theorem Closed.append (first : Closed styled ps) (second : Closed false qs) :
    Closed styled (ps ++ qs) := by
  induction ps generalizing styled with
  | nil =>
    obtain rfl : styled = false := first
    exact second
  | cons p ps ih =>
    cases p with
    | text t => exact ⟨first.1, ih first.2⟩
    | style s => exact ih first
    | reset => exact ih first

theorem closed_flatMap {α : Type} {as : List α} {f : α → List Piece}
    (each : ∀ a ∈ as, Closed false (f a)) : Closed false (as.flatMap f) := by
  induction as with
  | nil => rfl
  | cons a as ih =>
    obtain ⟨own, others⟩ := List.forall_mem_cons.mp each
    exact own.append (ih others)

theorem Lack.append (first : Lack c ps) (second : Lack c qs) : Lack c (ps ++ qs) := by
  intro p member
  rcases List.mem_append.mp member with inFirst | inSecond
  · exact first p inFirst
  · exact second p inSecond

theorem lack_flatMap {α : Type} {as : List α} {f : α → List Piece}
    (each : ∀ a ∈ as, Lack c (f a)) : Lack c (as.flatMap f) := by
  intro p member
  obtain ⟨a, listed, inside⟩ := List.mem_flatMap.mp member
  exact each a listed p inside

end Piece

open Piece (Closed Lack)

structure Spares (c : Char) (config : Config) (source : Source) : Prop where
  name : c ∉ source.name
  path : ∀ path ∈ source.path, c ∉ path
  gutter : c ∉ config.gutter
  underline : c ∉ config.underline
  underlineAfter : c ∉ config.underlineAfter

inductive Row.From (g : Group) (source : Source) : Row → Prop where
  | location (place : Nat × Nat) : From g source (.location place)
  | sourceLine (line : Nat) :
      From g source (.sourceLine (line + 1) ((source.line? line).getD []))
  | underline {p : Placed} (member : p ∈ g.snippets) (offset width : Nat) :
      From g source (.underline offset width p.snippet)

section
variable {c : Char} {config : Config} {source : Source} {g : Group} {row : Row} {number : Text}

theorem mem_rows (member : row ∈ g.rows source) : row.From g source := by
  rcases List.mem_cons.mp member with rfl | among
  · exact .location _
  · obtain ⟨line, -, here⟩ := List.mem_flatMap.mp among
    rcases List.mem_cons.mp here with rfl | below
    · exact .sourceLine line
    · obtain ⟨p, listed, rfl⟩ := List.mem_map.mp below
      exact .underline (List.mem_filter.mp listed).1 _ _

theorem lack_gutter (foreign : isOwn c = false) (spares : Spares c config source)
    (numberWidth : Nat) (absent : c ∉ number) : Lack c (gutterPieces config numberWidth number) := by
  have blank : c ∉ [' '] := Text.not_mem_own foreign (by decide)
  have padded := Text.not_mem_padLeft foreign absent numberWidth
  rw [List.mem_singleton] at blank
  simp [Lack, gutterPieces, Piece.plain, padded, blank, spares.gutter]

theorem closed_gutter (spares : Spares '\n' config source) (numberWidth : Nat)
    (absent : '\n' ∉ number) : Closed false (gutterPieces config numberWidth number) := by
  have padded := Text.not_mem_padLeft (by decide) absent numberWidth
  simp [Closed, gutterPieces, padded, spares.gutter]

theorem Row.From.lack (drawn : row.From g source) (foreign : isOwn c = false) (noFeed : c ≠ '\n')
    (spares : Spares c config source) (labels : ∀ p ∈ g.snippets, c ∉ p.snippet.label)
    (text : c ∉ source.text) (severity : Severity) (numberWidth : Nat) :
    Lack c (row.pieces config severity source numberWidth) := by
  have blank : c ∉ [' '] := Text.not_mem_own foreign (by decide)
  rw [List.mem_singleton] at blank
  cases drawn with
  | location place =>
    have name := not_mem_locationText foreign spares.name place
    have front : c ∉ "In ".toList := Text.not_mem_own foreign (by decide)
    have opened : c ∉ " (".toList := Text.not_mem_own foreign (by decide)
    have ended : c ∉ ")".toList := Text.not_mem_own foreign (by decide)
    cases given : source.path with
    | none => simp_all [Lack, Row.pieces, Piece.plain, newline]
    | some path =>
      have path := not_mem_locationText foreign (spares.path path given) place
      simp_all [Lack, Row.pieces, Piece.plain, newline]
  | sourceLine line =>
    have digits := Text.not_mem_decimal foreign (line + 1)
    have line := Text.not_mem_expandTabs foreign (source.not_mem_line? text line)
    rw [Row.pieces, List.append_assoc]
    apply (lack_gutter foreign spares numberWidth digits).append
    split <;> simp [Lack, Piece.plain, newline, noFeed, blank, line]
  | underline member offset width =>
    have marks := Text.not_mem_times spares.underline width
    have skipped : c ∉ List.replicate offset ' ' :=
      fun member => blank (List.mem_replicate.mp member).2
    rw [Row.pieces]
    apply (lack_gutter foreign spares numberWidth List.not_mem_nil).append
    simp [Lack, Piece.plain, newline, noFeed, blank, skipped, marks, spares.underlineAfter,
      labels _ member]

theorem Row.From.closed (drawn : row.From g source) (spares : Spares '\n' config source)
    (labels : ∀ p ∈ g.snippets, '\n' ∉ p.snippet.label) (severity : Severity) (numberWidth : Nat) :
    Closed false (row.pieces config severity source numberWidth) := by
  have foreign : isOwn '\n' = false := by decide
  cases drawn with
  | location place =>
    have name := not_mem_locationText foreign spares.name place
    cases given : source.path with
    | none => simp [Row.pieces, given, Closed, newline, name]
    | some path =>
      have path := not_mem_locationText foreign (spares.path path given) place
      simp [Row.pieces, given, Closed, newline, name, path]
  | sourceLine line =>
    rw [Row.pieces, List.append_assoc]
    apply (closed_gutter spares numberWidth (Text.not_mem_decimal foreign (line + 1))).append
    split <;> simp [Closed, newline]
  | underline member offset width =>
    rw [Row.pieces]
    apply (closed_gutter spares numberWidth List.not_mem_nil).append
    have marks := Text.not_mem_times spares.underline width
    simp [Closed, newline, marks, spares.underlineAfter, labels _ member]

end

namespace Diagnostic
variable {c : Char} {d : Diagnostic} {sources : Sources} {config : Config} {e : Exhibit}

def lineTexts (d : Diagnostic) (sources : Sources) (config : Config) : List Text :=
  d.id.toList ++ d.snippets.map (·.label) ++
    sources.flatMap (fun source => source.name :: source.path.toList) ++
    [config.gutter, config.underline, config.underlineAfter]

def blockTexts (d : Diagnostic) (sources : Sources) : List Text :=
  d.message.toList ++ sources.map (·.text)

theorem exhibit_snippets (member : e ∈ d.exhibits sources) :
    ∀ p ∈ e.snippets, p.snippet ∈ d.snippets := by
  obtain ⟨id, -, found⟩ := List.mem_filterMap.mp member
  obtain ⟨source, -, rfl⟩ := Option.map_eq_some_iff.mp found
  intro p among
  obtain ⟨s, listed, _, -, place⟩ := mem_placed.mp (List.mem_filter.mp among).1
  rw [Source.place?_snippet place]
  exact listed

theorem spares_of_absent (absent : ∀ t ∈ d.lineTexts sources config, c ∉ t) {source : Source}
    (known : source ∈ sources) : Spares c config source := by
  have own : ∀ t ∈ source.name :: source.path.toList, c ∉ t := by
    intro t member
    apply absent
    simp only [lineTexts, List.mem_append, List.mem_flatMap]
    exact Or.inl (Or.inr ⟨source, known, member⟩)
  constructor
  · exact own _ List.mem_cons_self
  · intro path given
    exact own path (List.mem_cons_of_mem _ (by simpa using given))
  · exact absent _ (by simp [lineTexts])
  · exact absent _ (by simp [lineTexts])
  · exact absent _ (by simp [lineTexts])

theorem label_of_absent (absent : ∀ t ∈ d.lineTexts sources config, c ∉ t) {s : Snippet}
    (listed : s ∈ d.snippets) : c ∉ s.label := by
  apply absent
  have label := List.mem_map_of_mem (f := Snippet.label) listed
  simp only [lineTexts, List.mem_append]
  exact Or.inl (Or.inl (Or.inr label))

theorem severity_own (severity : Severity) : severity.text.all isOwn = true := by
  cases severity <;> decide

theorem lack_header (foreign : isOwn c = false) (noFeed : c ≠ '\n') (id : ∀ id ∈ d.id, c ∉ id)
    (message : ∀ message ∈ d.message, c ∉ message) : Lack c (d.headerPieces config) := by
  have severity := Text.not_mem_own foreign (severity_own d.severity)
  have signs : c ∉ "[] :".toList := Text.not_mem_own foreign (by decide)
  cases givenId : d.id <;> cases givenMessage : d.message <;>
    simp_all [Lack, headerPieces, Piece.plain, newline]

theorem closed_header (id : ∀ id ∈ d.id, '\n' ∉ id) : Closed true (d.headerPieces config) := by
  have severity := Text.not_mem_own (c := '\n') (by decide) (severity_own d.severity)
  have behind : Closed false ((d.message.map fun m => Piece.text (' ' :: m)).toList ++ [newline]) := by
    cases d.message <;> simp [Closed, newline]
  cases given : d.id with
  | none => simpa [Closed, headerPieces, given, severity] using behind
  | some own => simpa [Closed, headerPieces, given, severity, id own given] using behind

theorem lack_pieces (absent : ∀ t ∈ d.lineTexts sources config ++ d.blockTexts sources, c ∉ t)
    (foreign : isOwn c = false) (noFeed : c ≠ '\n') : Lack c (d.pieces sources config) := by
  obtain ⟨lines, blocks⟩ := List.forall_mem_append.mp absent
  have header : Lack c (d.headerPieces config) := by
    apply lack_header foreign noFeed
    · intro id given
      exact lines id (by simp [lineTexts, Option.mem_def.mp given])
    · intro message given
      exact blocks message (by simp [blockTexts, Option.mem_def.mp given])
  rw [pieces]
  apply (header.append (Piece.lack_flatMap _)).append
  · simp [Lack, Piece.plain, newline, noFeed]
  · intro e exhibited
    have known := exhibit_source exhibited
    have spares := spares_of_absent lines known
    have text : c ∉ e.source.text := by
      apply blocks
      exact List.mem_append_right _ (List.mem_map_of_mem known)
    apply Piece.lack_flatMap
    intro g grouped
    have labels : ∀ p ∈ g.snippets, c ∉ p.snippet.label := fun p member =>
      label_of_absent lines (exhibit_snippets exhibited p (Group.mem_ofSnippets grouped member))
    apply Piece.lack_flatMap
    intro row member
    exact (mem_rows member).lack foreign noFeed spares labels text d.severity g.numberWidth

theorem closed_pieces (absent : ∀ t ∈ d.lineTexts sources config, '\n' ∉ t) :
    Closed true (d.pieces sources config) := by
  have header : Closed true (d.headerPieces config) := by
    apply closed_header
    intro id given
    exact absent id (by simp [lineTexts, Option.mem_def.mp given])
  rw [pieces]
  apply (header.append (Piece.closed_flatMap _)).append
  · simp [Closed, newline]
  · intro e exhibited
    have spares := spares_of_absent absent (exhibit_source exhibited)
    apply Piece.closed_flatMap
    intro g grouped
    have labels : ∀ p ∈ g.snippets, '\n' ∉ p.snippet.label := fun p member =>
      label_of_absent absent (exhibit_snippets exhibited p (Group.mem_ofSnippets grouped member))
    apply Piece.closed_flatMap
    intro row member
    exact (mem_rows member).closed spares labels d.severity g.numberWidth

/-- Colors add escape sequences to a drawing and nothing else, and no style goes on behind the end of
a line. -/
theorem color_only_adds
    (clean : ∀ t ∈ d.lineTexts sources config ++ d.blockTexts sources, '\x1b' ∉ t) :
    withoutSequences (d.renderColored sources config) = d.renderPlain sources config ∧
      ((∀ t ∈ d.lineTexts sources config, '\n' ∉ t) →
        EndsReset (d.renderColored sources config)) := by
  have read : glyphs (d.renderColored sources config) =
      (d.pieces sources config).flatMap Piece.glyphs :=
    Piece.glyphs_flatMap (lack_pieces clean (by decide) (by decide))
  constructor
  · rw [withoutSequences, read, List.filterMap_flatMap, renderPlain]
    apply List.flatMap_congr
    intro p _
    exact p.chars_glyphs
  · intro single
    have settled : Glyph.Settled none (glyphs (d.renderColored sources config)) := by
      rw [read]
      exact (closed_pieces single).settled (by simp)
    constructor
    · intro before after parts
      rw [parts, glyphs_feed] at settled
      have last := settled.behind.1 rfl
      rw [Option.or_none] at last
      exact last
    · rw [← List.append_nil (glyphs _)] at settled
      have last := settled.behind
      rw [Option.or_none] at last
      exact last

theorem color_only_adds_two_lines :
    let text := "fn f() \x7b\n\treturn é;\n".toList
    let d : Diagnostic := ⟨.error, some "not\nplain".toList, some "E1".toList,
      [⟨"here".toList, .primary, 0, ⟨16, 18⟩⟩, ⟨"there".toList, .secondary, 0, ⟨0, 2⟩⟩]⟩
    let sources : Sources := [⟨"a".toList, some "b/a".toList, text⟩]
    let config : Config := {}
    (∀ t ∈ d.lineTexts sources config ++ d.blockTexts sources, '\x1b' ∉ t) ∧
      (∀ t ∈ d.lineTexts sources config, '\n' ∉ t) ∧
      d.renderColored sources config ≠ d.renderPlain sources config ∧
      withoutSequences (d.renderColored sources config) = d.renderPlain sources config ∧
      EndsReset (d.renderColored sources config) := by
  intro text d sources config
  have clean : ∀ t ∈ d.lineTexts sources config ++ d.blockTexts sources, '\x1b' ∉ t := by decide
  have single : ∀ t ∈ d.lineTexts sources config, '\n' ∉ t := by decide
  have adds := color_only_adds clean
  exact ⟨clean, single, by decide +kernel, adds.1, adds.2 single⟩

end Diagnostic
end Minilang
