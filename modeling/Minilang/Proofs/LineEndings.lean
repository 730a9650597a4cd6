import Mathlib.Data.List.Forall2
import Minilang.Proofs.ErrorPlaces
import Minilang.Proofs.Relocation

/-!
Line endings. A carriage return in front of each line feed moves the tokens and is a part of none, and
it is not shown at the end of a line. So the programs, the errors and their drawings stay what they
are.
-/
namespace Minilang
open Text (byteLength)

namespace Text

def toCrlf (t : Text) : Text := t.flatMap fun c => if c = '\n' then ['\r', '\n'] else [c]

theorem toCrlf_feed (cs : Text) : toCrlf ('\n' :: cs) = '\r' :: '\n' :: toCrlf cs := rfl

theorem toCrlf_cons {c : Char} (cs : Text) (other : c ≠ '\n') :
    toCrlf (c :: cs) = c :: toCrlf cs := by
  simp [toCrlf, other]

theorem toCrlf_append (s t : Text) : toCrlf (s ++ t) = toCrlf s ++ toCrlf t := List.flatMap_append

theorem toCrlf_solid {t : Text} (solid : '\n' ∉ t) : toCrlf t = t := by
  induction t with
  | nil => rfl
  | cons c cs ih =>
    obtain ⟨first, rest⟩ : '\n' ≠ c ∧ '\n' ∉ cs := by simpa using solid
    rw [toCrlf_cons cs (Ne.symm first), ih rest]

theorem count_toCrlf (t : Text) : (toCrlf t).count '\n' = t.count '\n' := by
  induction t with
  | nil => rfl
  | cons c cs ih =>
    by_cases feed : c = '\n'
    · subst feed
      simp [toCrlf_feed, ih]
    · rw [toCrlf_cons cs feed, List.count_cons_of_ne feed, List.count_cons_of_ne feed, ih]

theorem byteLength_toCrlf (t : Text) : byteLength (toCrlf t) = byteLength t + t.count '\n' := by
  induction t with
  | nil => rfl
  | cons c cs ih =>
    by_cases feed : c = '\n'
    · subst feed
      have one : '\r'.utf8Size = 1 := rfl
      simp only [toCrlf_feed, byteLength, ih, List.count_cons_self, one]
      omega
    · simp only [toCrlf_cons cs feed, byteLength, ih, List.count_cons_of_ne feed]
      omega

theorem takeWhile_blank_toCrlf (t : Text) :
    (toCrlf t).takeWhile isBlank = toCrlf (t.takeWhile isBlank) := by
  induction t with
  | nil => rfl
  | cons c cs ih =>
    by_cases feed : c = '\n'
    · subst feed
      have carriage : isBlank '\r' = true := by decide
      have line : isBlank '\n' = true := by decide
      simp [toCrlf_feed, carriage, line, ih]
    · cases blank : isBlank c <;> simp [toCrlf_cons _ feed, blank, ih]
      rfl

theorem dropWhile_blank_toCrlf (t : Text) :
    (toCrlf t).dropWhile isBlank = toCrlf (t.dropWhile isBlank) := by
  have whole := congrArg toCrlf (List.takeWhile_append_dropWhile (p := isBlank) (l := t))
  have parts := List.takeWhile_append_dropWhile (p := isBlank) (l := toCrlf t)
  rw [toCrlf_append, ← takeWhile_blank_toCrlf] at whole
  exact List.append_cancel_left (parts.trans whole.symm)

theorem takeWhile_toCrlf {test : Char → Bool} (feed : test '\n' = false) (carriage : test '\r' = false)
    (t : Text) : (toCrlf t).takeWhile test = t.takeWhile test := by
  induction t with
  | nil => rfl
  | cons c cs ih =>
    by_cases ends : c = '\n'
    · subst ends
      simp [toCrlf_feed, feed, carriage]
    · simp [toCrlf_cons cs ends, List.takeWhile_cons, ih]

theorem lexeme_toCrlf (c : Char) (cs : Text) : lexeme c (toCrlf cs) = lexeme c cs := by
  have digits : (toCrlf cs).takeWhile isDigit = cs.takeWhile isDigit :=
    takeWhile_toCrlf (by decide) (by decide) cs
  have letters : (toCrlf cs).takeWhile isLetter = cs.takeWhile isLetter :=
    takeWhile_toCrlf (by decide) (by decide) cs
  simp only [lexeme, digits, letters]

theorem Line.toCrlf {text front line back : Text} (l : Line text front line back) :
    ∃ ending back', (ending = [] ∨ ending = ['\r']) ∧
      Line (Text.toCrlf text) (Text.toCrlf front) (line ++ ending) back' := by
  have begins : Text.toCrlf front = [] ∨ ∃ w, Text.toCrlf front = w ++ ['\n'] := by
    rcases l.begins with rfl | ⟨w, rfl⟩
    · exact Or.inl rfl
    · exact Or.inr ⟨Text.toCrlf w ++ ['\r'], by simp [toCrlf_append]; rfl⟩
  have whole := congrArg Text.toCrlf l.whole
  rw [toCrlf_append, toCrlf_append, toCrlf_solid l.solid] at whole
  rcases l.ends with rfl | ⟨w, rfl⟩
  · refine ⟨[], [], Or.inl rfl, ?_, begins, by simpa using l.solid, Or.inl rfl⟩
    rw [whole, List.append_nil]
    rfl
  · refine ⟨['\r'], '\n' :: Text.toCrlf w, Or.inr rfl, ?_, begins, ?_, Or.inr ⟨_, rfl⟩⟩
    · rw [whole, toCrlf_feed]
      simp
    · simpa using l.solid

theorem dropLast?_ending {line ending : Text} (plain : '\r' ∉ line)
    (ends : ending = [] ∨ ending = ['\r']) : dropLast? '\r' (line ++ ending) = line := by
  rcases ends with rfl | rfl
  · rw [List.append_nil, Source.dropLast?_self plain]
  · exact Source.dropLast?_append _ line

/-- Where a byte goes: on by one for each line feed before it. -/
def crlfPlace (text : Text) (byte : Nat) : Nat :=
  byte + ((lineBreaksFrom 0 text).takeWhile (· < byte)).length

theorem crlfPlace_append (before after : Text) :
    crlfPlace (before ++ after) (byteLength before) = byteLength (toCrlf before) := by
  rw [crlfPlace, length_breaks_before (Nat.le_refl _), byteLength_toCrlf]
  exact fun b member => (lineBreaksFrom_bounds _ after b member).1

end Text

def crlfMove (text : Text) : Relocation :=
  ⟨fun s => ⟨text.crlfPlace s.start, text.crlfPlace s.stop⟩, text.crlfPlace, fun _ => rfl⟩

theorem crlfMove_span (before w after : Text) (solid : '\n' ∉ w) :
    (crlfMove (before ++ (w ++ after))).span
        ⟨byteLength before, byteLength before + byteLength w⟩ =
      ⟨byteLength before.toCrlf, byteLength before.toCrlf + byteLength w⟩ := by
  have start := Text.crlfPlace_append before (w ++ after)
  have stop := Text.crlfPlace_append (before ++ w) after
  rw [List.append_assoc, Text.byteLength_append, Text.toCrlf_append, Text.toCrlf_solid solid,
    Text.byteLength_append] at stop
  simp only [crlfMove, start, stop]

structure TokenStream.Mirrors (text front : Text) (s u : TokenStream) : Prop where
  whole : text = front ++ s.rest
  place : s.offset = byteLength front
  copy : u.rest = s.rest.toCrlf
  place' : u.offset = byteLength front.toCrlf

namespace TokenStream.Mirrors
open Text (toCrlf toCrlf_append toCrlf_solid)

variable {text front : Text} {s u : TokenStream}

theorem more (m : Mirrors text front s u) (more : s.rest.dropWhile isBlank ≠ []) :
    u.rest.dropWhile isBlank ≠ [] ∧ u.next.1.lexeme = s.next.1.lexeme := by
  obtain ⟨c, cs, begins⟩ := List.exists_cons_of_ne_nil more
  have other : c ≠ '\n' := by
    rintro rfl
    exact absurd (solid_of_dropWhile begins) (by decide)
  have begins' : u.rest.dropWhile isBlank = c :: toCrlf cs := by
    rw [m.copy, Text.dropWhile_blank_toCrlf, begins, Text.toCrlf_cons cs other]
  refine ⟨by simp [begins'], ?_⟩
  rw [next_lexeme begins, next_lexeme begins', Text.lexeme_toCrlf]

theorem next (m : Mirrors text front s u) (more : s.rest.dropWhile isBlank ≠ []) :
    u.next.1 = (crlfMove text).token s.next.1 ∧
      Mirrors text (front ++ s.rest.takeWhile isBlank ++ s.next.1.text) s.next.2 u.next.2 := by
  obtain ⟨more', same⟩ := m.more more
  have kind : u.next.1.kind = s.next.1.kind := congrArg Prod.fst same
  have token : u.next.1.text = s.next.1.text := congrArg Prod.snd same
  have solid : '\n' ∉ s.next.1.text := fun feed =>
    absurd (solid_of_spelled (next_spelled more) _ feed) (by decide)
  have blanks : u.rest.takeWhile isBlank = toCrlf (s.rest.takeWhile isBlank) := by
    rw [m.copy, Text.takeWhile_blank_toCrlf]
  have parts := next_whole more
  have parts' := next_whole more'
  obtain ⟨span, follows⟩ := next_span more
  obtain ⟨span', follows'⟩ := next_span more'
  -- both spans, told by what stands in front of the token
  rw [m.place, ← Text.byteLength_append] at span
  rw [m.place', blanks, token, ← Text.byteLength_append, ← toCrlf_append] at span'
  have whole : text =
      front ++ s.rest.takeWhile isBlank ++ (s.next.1.text ++ s.next.2.rest) := by
    rw [List.append_assoc, ← parts]
    exact m.whole
  have moved : (crlfMove text).span s.next.1.span = u.next.1.span := by
    rw [span, span', whole]
    exact crlfMove_span _ _ _ solid
  refine ⟨?_, ⟨by rw [List.append_assoc, ← whole], ?_, ?_, ?_⟩⟩
  · change (⟨u.next.1.kind, u.next.1.text, u.next.1.span⟩ : Token) = _
    rw [kind, token, ← moved]
    rfl
  · rw [follows, span, Text.byteLength_append _ s.next.1.text]
  · have copy := m.copy.trans (congrArg toCrlf parts)
    rw [toCrlf_append, toCrlf_append, toCrlf_solid solid, parts', blanks, token] at copy
    exact List.append_cancel_left (List.append_cancel_left copy)
  · rw [follows', span', toCrlf_append _ s.next.1.text, toCrlf_solid solid, Text.byteLength_append]

theorem tokens (m : Mirrors text front s u) :
    u.tokens = s.tokens.map (crlfMove text).token := by
  fun_induction TokenStream.tokens s generalizing u front with
  | case1 s ended =>
    have ended' : u.rest.dropWhile isBlank = [] := by
      rw [m.copy, Text.dropWhile_blank_toCrlf, ended]
      rfl
    rw [TokenStream.tokens, if_pos ended', List.map_nil]
  | case2 s more ih =>
    obtain ⟨moved, later⟩ := m.next more
    rw [TokenStream.tokens, if_neg (m.more more).1, moved, ih later, List.map_cons]

end TokenStream.Mirrors

theorem ofText_toCrlf (text : Text) :
    Parser.ofText text.toCrlf = (crlfMove text).parser (.ofText text) := by
  have start : TokenStream.Mirrors text [] (.ofText text) (.ofText text.toCrlf) :=
    ⟨rfl, rfl, rfl, rfl⟩
  have stop : byteLength text.toCrlf = text.crlfPlace (byteLength text) := by
    simpa using (Text.crlfPlace_append text []).symm
  rw [Parser.ofText, tokens, start.tokens, stop]
  rfl

theorem parse_toCrlf (text : Text) :
    (parse text.toCrlf).1 = (parse text).1 ∧
      (parse text.toCrlf).2 = (parse text).2.map (crlfMove text).error := by
  have moved := Relocation.parser_declarations (crlfMove text) (.ofText text)
  rw [← ofText_toCrlf] at moved
  constructor
  · exact congrArg (fun r => Program.mk r.1) moved
  · exact congrArg (fun r => r.2.errors) moved

namespace Source

def toCrlf (s : Source) : Source := { s with text := s.text.toCrlf }

theorem lineCount_toCrlf (s : Source) : s.toCrlf.lineCount = s.lineCount := by
  rw [lineCount_eq, lineCount_eq, toCrlf, Text.count_toCrlf]

theorem line?_toCrlf {s : Source} (plain : '\r' ∉ s.text) (n : Nat) :
    s.toCrlf.line? n = s.line? n := by
  by_cases inside : n ≤ s.text.count '\n'
  · obtain ⟨front, line, back, l, rfl⟩ := Text.exists_line_at inside
    obtain ⟨ending, back', ends, l'⟩ := l.toCrlf
    have l' : s.toCrlf.text.Line front.toCrlf (line ++ ending) back' := l'
    have plain' : '\r' ∉ line := by
      intro carriage
      exact plain (by rw [l.whole]; simp [carriage])
    have shown := line?_of_line l'
    rw [Text.count_toCrlf, Text.dropLast?_ending plain' ends] at shown
    rw [shown, line?_of_line l, dropLast?_self plain']
  · have beyond : s.lineCount ≤ n := by
      rw [lineCount_eq]
      omega
    rw [line?_eq_none beyond, line?_eq_none (by rw [lineCount_toCrlf]; exact beyond)]

end Source

theorem pieces_toCrlf (config : Config) (severity : Severity) (source : Source) (numberWidth : Nat) :
    Row.pieces config severity source.toCrlf numberWidth =
      Row.pieces config severity source numberWidth := by
  funext row
  cases row <;> rfl

theorem marks_pieces {s s' : Snippet} {start start' : Nat} {line left w : Text}
    (m : s.Marks start line left w) (m' : s'.Marks start' line left w) (label : s'.label = s.label)
    (kind : s'.kind = s.kind) (config : Config) (severity : Severity) (source : Source)
    (numberWidth : Nat) :
    (s'.underline start' line).pieces config severity source numberWidth =
      (s.underline start line).pieces config severity source numberWidth := by
  rw [m.underline, m'.underline]
  simp [Row.pieces, label, kind]

def Snippet.moved (r : Relocation) (id : Nat) (s : Snippet) : Snippet :=
  { s with source := id, span := r.span s.span }

theorem toDiagnostic_moved (r : Relocation) (e : SyntaxError) (id id' : Nat) :
    (r.error e).toDiagnostic id' = { e.toDiagnostic id with
      snippets := (e.toDiagnostic id).snippets.map (.moved r id') } := by
  have message : (r.error e).message = e.message := rfl
  have found : (r.error e).found = e.found := rfl
  have span : (r.error e).span = r.span e.span := rfl
  by_cases illegal : e.found = .illegal <;>
    simp [SyntaxError.toDiagnostic, message, found, span, illegal, Snippet.moved]

def Placed.moved (r : Relocation) (id : Nat) (p : Placed) : Placed :=
  { p with snippet := p.snippet.moved r id }

def Placed.MarkedAlike (source : Source) (r : Relocation) (id : Nat) (p : Placed) : Prop :=
  let shown := (source.line? p.line).getD []
  ∃ left w, p.snippet.Marks ((source.lineStart? p.line).getD 0) shown left w ∧
    (p.snippet.moved r id).Marks ((source.toCrlf.lineStart? p.line).getD 0) shown left w

namespace Group
variable {contextSize lineCount id : Nat} {r : Relocation} {source : Source} {g : Group}

def moved (r : Relocation) (id : Nat) (g : Group) : Group := ⟨g.snippets.map (.moved r id), g.lines⟩

theorem gather_moved (g : Group) (more : List Placed) :
    gather contextSize lineCount (g.moved r id) (more.map (.moved r id)) =
      (gather contextSize lineCount g more).map (.moved r id) := by
  induction more generalizing g with
  | nil => rfl
  | cons p ps ih =>
    have line : (p.moved r id).line = p.line := rfl
    rw [List.map_cons, gather, gather, line, moved]
    split
    · have grown : (g.moved r id).add contextSize lineCount (p.moved r id) =
          (g.add contextSize lineCount p).moved r id := by
        simp [moved, add, line]
      rw [← ih, ← grown, moved]
    · rw [List.map_cons, ← ih]
      rfl

theorem ofSnippets_moved {snippets : List Placed} (sorted : snippets.Pairwise (·.before · = true))
    (sorted' : (snippets.map (Placed.moved r id)).Pairwise (·.before · = true)) :
    ofSnippets contextSize lineCount (snippets.map (Placed.moved r id)) =
      (ofSnippets contextSize lineCount snippets).map (.moved r id) := by
  rw [ofSnippets, ofSnippets, List.mergeSort_of_pairwise sorted, List.mergeSort_of_pairwise sorted']
  cases snippets with
  | nil => rfl
  | cons p ps => exact gather_moved (ofSnippet contextSize lineCount p) ps

theorem lineRows_toCrlf (plain : '\r' ∉ source.text)
    (alike : ∀ p ∈ g.snippets, p.MarkedAlike source r id) (config : Config) (severity : Severity)
    (numberWidth n : Nat) :
    ((g.moved r id).lineRows source.toCrlf n).flatMap
        (Row.pieces config severity source.toCrlf numberWidth) =
      (g.lineRows source n).flatMap (Row.pieces config severity source numberWidth) := by
  rw [pieces_toCrlf, lineRows, lineRows, Source.line?_toCrlf plain, List.flatMap_cons,
    List.flatMap_cons, moved, List.filter_map, List.map_map, List.flatMap_map, List.flatMap_map]
  congr 1
  apply List.flatMap_congr
  intro p member
  obtain ⟨listed, here⟩ := List.mem_filter.mp member
  obtain ⟨left, w, marks, marks'⟩ := alike p listed
  have here : p.line = n := beq_iff_eq.mp here
  rw [here] at marks marks'
  exact marks_pieces marks marks' rfl rfl config severity source numberWidth

theorem rows_toCrlf (plain : '\r' ∉ source.text)
    (alike : ∀ p ∈ g.snippets, p.MarkedAlike source r id) (config : Config) (severity : Severity)
    (numberWidth : Nat) :
    ((g.moved r id).rows source.toCrlf).flatMap
        (Row.pieces config severity source.toCrlf numberWidth) =
      (g.rows source).flatMap (Row.pieces config severity source numberWidth) := by
  have place : (g.moved r id).snippets.head?.map (·.lineColumn) =
      g.snippets.head?.map (·.lineColumn) := by
    rw [moved, List.head?_map, Option.map_map]
    rfl
  rw [rows, rows, place, List.flatMap_cons, List.flatMap_cons, List.flatMap_assoc,
    List.flatMap_assoc, pieces_toCrlf]
  congr 1
  apply List.flatMap_congr
  intro n _
  rw [← pieces_toCrlf]
  exact lineRows_toCrlf plain alike config severity numberWidth n

end Group

namespace Diagnostic
variable {d : Diagnostic} {sources sources' : Sources} {source : Source} {r : Relocation}
  {id id' : Nat} {front left right back w : Text}

theorem exhibits_toCrlf_one_place {back' : Text}
    (one : Diagnostic.AtOnePlace { d with snippets := d.snippets.map (.moved r id') } id'
      (byteLength front.toCrlf + byteLength left))
    (known : sources'[id']? = some source.toCrlf)
    (l : source.toCrlf.text.Line front.toCrlf (left ++ right) back') :
    Diagnostic.exhibits { d with snippets := d.snippets.map (.moved r id') } sources' =
      [⟨source.toCrlf, (d.snippets.map (⟨·, front.count '\n',
        (front.count '\n' + 1, byteLength left + 1)⟩)).map (.moved r id')⟩] := by
  rw [exhibits_one_place one known fun s begins => Source.place?_of_line l begins,
    Text.count_toCrlf, List.map_map, List.map_map]
  rfl

theorem marked_alike_one_place {back' ending : Text} {place : Nat × Nat} (plain : '\r' ∉ source.text)
    (l : source.text.Line front (left ++ right) back)
    (l' : source.toCrlf.text.Line front.toCrlf (left ++ right ++ ending) back')
    (marks : ∀ s ∈ d.snippets, s.Marks (byteLength front) (left ++ right) left w ∧
      (s.moved r id').Marks (byteLength front.toCrlf) (left ++ right) left w) :
    ∀ p ∈ d.snippets.map (⟨·, front.count '\n', place⟩ : Snippet → Placed),
      p.MarkedAlike source r id' := by
  have plainLine : '\r' ∉ left ++ right := by
    intro carriage
    apply plain
    rw [l.whole]
    exact List.mem_append_right _ (List.mem_append_left _ carriage)
  have text := Source.line?_of_line l
  rw [Source.dropLast?_self plainLine] at text
  have start := Source.lineStart?_of_line l
  have start' := Source.lineStart?_of_line l'
  rw [Text.count_toCrlf] at start'
  intro p member
  obtain ⟨s, listed, rfl⟩ := List.mem_map.mp member
  refine ⟨left, w, ?_⟩
  rw [text, start, start']
  exact marks s listed

theorem pieces_toCrlf_one_place {ending back' : Text} (config : Config) (plain : '\r' ∉ source.text)
    (one : d.AtOnePlace id (byteLength front + byteLength left))
    (one' : Diagnostic.AtOnePlace { d with snippets := d.snippets.map (.moved r id') } id'
      (byteLength front.toCrlf + byteLength left))
    (known : sources[id]? = some source) (known' : sources'[id']? = some source.toCrlf)
    (l : source.text.Line front (left ++ right) back)
    (l' : source.toCrlf.text.Line front.toCrlf (left ++ right ++ ending) back')
    (marks : ∀ s ∈ d.snippets, s.Marks (byteLength front) (left ++ right) left w ∧
      (s.moved r id').Marks (byteLength front.toCrlf) (left ++ right) left w) :
    Diagnostic.pieces { d with snippets := d.snippets.map (.moved r id') } sources' config =
      d.pieces sources config := by
  have exhibited := exhibits_one_place one known fun s begins => Source.place?_of_line l begins
  have exhibited' := exhibits_toCrlf_one_place one' known' (by rwa [List.append_assoc] at l')
  let line := front.count '\n'
  let place := (line + 1, byteLength left + 1)
  let placed := d.snippets.map (⟨·, line, place⟩ : Snippet → Placed)
  have sorted : placed.Pairwise (·.before · = true) := Group.sorted_one_place (placed_same one)
  have sorted' : (placed.map (Placed.moved r id')).Pairwise (·.before · = true) := by
    have copies : ∀ p ∈ (d.snippets.map (.moved r id')).map (⟨·, line, place⟩ : Snippet → Placed),
        p.line = line ∧ p.snippet.span.start = byteLength front.toCrlf + byteLength left :=
      placed_same one'
    rw [List.map_map] at copies ⊢
    exact Group.sorted_one_place copies
  have alike : ∀ p ∈ placed, p.MarkedAlike source r id' := marked_alike_one_place plain l l' marks
  rw [pieces, pieces, exhibited, exhibited', List.flatMap_singleton, List.flatMap_singleton,
    Exhibit.groups, Exhibit.groups, Source.lineCount_toCrlf, Group.ofSnippets_moved sorted sorted',
    List.flatMap_map]
  congr 2
  apply List.flatMap_congr
  intro g grouped
  exact Group.rows_toCrlf plain (fun p member => alike p (Group.mem_ofSnippets grouped member))
    config d.severity g.numberWidth

end Diagnostic

theorem Token.OnLine.moved {t : Token} {text front left right back : Text}
    (on : t.OnLine text front left right back) (solid : '\n' ∉ t.text) :
    (crlfMove text).span t.span = ⟨byteLength front.toCrlf + byteLength left,
      byteLength front.toCrlf + byteLength left + byteLength t.text⟩ := by
  have moved := crlfMove_span (front ++ left) t.text (right ++ back) solid
  rw [← on.stands.whole, ← on.stands.span] at moved
  rw [moved, Text.toCrlf_append, Text.toCrlf_solid on.sameLine, Text.byteLength_append]

/-- The same error in a text and in its copy. -/
structure SeenAlike (text text' : Text) (e e' : SyntaxError) : Prop where
  cause : e'.cause = e.cause
  found : e'.found = e.found
  rendered : ∀ (name : Text) (path : Option Text) (config : Config) (colored : Bool)
    (sources sources' : Sources) (id id' : Nat),
    sources[id]? = some ⟨name, path, text⟩ → sources'[id']? = some ⟨name, path, text'⟩ →
    (e'.toDiagnostic id').render sources' config colored =
      (e.toDiagnostic id).render sources config colored

theorem error_marks_alike {text front left right back : Text} {t : Token} {e : SyntaxError}
    {s : Snippet} {id : Nat} (id' : Nat) (on : t.OnLine text front left right back)
    (solid : '\n' ∉ t.text) (span : e.span = t.span) (listed : s ∈ (e.toDiagnostic id).snippets) :
    s.Marks (byteLength front) (left ++ (t.text ++ right)) left t.text ∧
      (s.moved (crlfMove text) id').Marks (byteLength front.toCrlf) (left ++ (t.text ++ right))
        left t.text := by
  obtain ⟨-, own⟩ := toDiagnostic_snippets listed
  have place : (s.moved (crlfMove text) id').span = (crlfMove text).span t.span := by
    rw [Snippet.moved, own, span]
  constructor
  · exact Snippet.marks_of_parts (by rw [own, span, on.start]) (by rw [own, span, on.stop])
  · exact Snippet.marks_of_parts (by rw [place, on.moved solid]) (by rw [place, on.moved solid])

theorem pieces_seen_alike {text name : Text} {path : Option Text} {sources sources' : Sources}
    {id id' : Nat} {e : SyntaxError} (plain : '\r' ∉ text) (reported : e ∈ (parse text).2)
    (config : Config) (known : sources[id]? = some ⟨name, path, text⟩)
    (known' : sources'[id']? = some ⟨name, path, text.toCrlf⟩) :
    (((crlfMove text).error e).toDiagnostic id').pieces sources' config =
      (e.toDiagnostic id).pieces sources config := by
  obtain ⟨t, member, found, span⟩ := error_at_token reported
  obtain ⟨front, left, right, back, on⟩ := scanned_on_line member
  obtain ⟨solid, -⟩ := no_feed_in_token member
  let source : Source := ⟨name, path, text⟩
  have known' : sources'[id']? = some source.toCrlf := known'
  -- the line and its copy, which may end in a carriage return
  have line : source.text.Line front (left ++ (t.text ++ right)) back := on.line
  obtain ⟨ending, back', -, line'⟩ := line.toCrlf
  have begins : ((crlfMove text).error e).span.start = byteLength front.toCrlf + byteLength left := by
    rw [Relocation.error, span, on.moved solid]
  have one := toDiagnostic_at_one_place id ((congrArg Span.start span).trans on.start)
  have one' := toDiagnostic_at_one_place id' begins
  rw [toDiagnostic_moved _ e id] at one' ⊢
  exact Diagnostic.pieces_toCrlf_one_place config plain one one' known known' line line'
    fun s listed => error_marks_alike id' on solid span listed

/-- Whether lines end at line feeds or at carriage returns with line feeds is not seen. -/
theorem line_endings_are_not_seen {text : Text} (plain : '\r' ∉ text) :
    (parse text.toCrlf).1 = (parse text).1 ∧
      List.Forall₂ (SeenAlike text text.toCrlf) (parse text).2 (parse text.toCrlf).2 := by
  obtain ⟨program, errors⟩ := parse_toCrlf text
  refine ⟨program, ?_⟩
  rw [errors, List.forall₂_map_right_iff, List.forall₂_same]
  intro e reported
  refine ⟨rfl, rfl, fun name path config colored sources sources' id id' known known' => ?_⟩
  have pieces := pieces_seen_alike plain reported config known known'
  simp only [Diagnostic.render, Diagnostic.renderColored, Diagnostic.renderPlain, pieces]

theorem line_endings_are_not_seen_two_errors :
    let text : Text := "fn f() \x7b\n\treturn é;\n".toList
    text.toCrlf = "fn f() \x7b\r\n\treturn é;\r\n".toList ∧ (parse text).2.length = 2 ∧
      (parse text.toCrlf).1 = (parse text).1 ∧
      List.Forall₂ (SeenAlike text text.toCrlf) (parse text).2 (parse text.toCrlf).2 := by
  intro text
  exact ⟨by decide, by decide +kernel, line_endings_are_not_seen (by decide)⟩

end Minilang
