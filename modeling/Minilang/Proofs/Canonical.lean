import Minilang.Proofs.Acceptance
import Minilang.Proofs.RoundTrip

namespace Minilang

def missingType : List (Kind × Text) → List (Kind × Text)
  | (.ident, _) :: _ => []
  | _ => [(.ident, Identifier.void.name)]

/-- The type `void` is put into every header of a function that declares no type. -/
def withTypes : List (Kind × Text) → List (Kind × Text)
  | (.keyword .fn, word) :: (.ident, name) :: (.leftParen, opening) :: (.rightParen, closing) ::
      rest =>
    (.keyword .fn, word) :: (.ident, name) :: (.leftParen, opening) :: (.rightParen, closing) ::
      (missingType rest ++ withTypes rest)
  | l :: rest => l :: withTypes rest
  | [] => []

theorem withTypes_cons {l : Kind × Text} (off : l.1 ≠ .keyword .fn) (rest : List (Kind × Text)) :
    withTypes (l :: rest) = l :: withTypes rest := by
  rw [withTypes]
  rintro word name opening closing rest rfl
  exact absurd rfl off

theorem withTypes_append {ls : List (Kind × Text)} (free : ∀ l ∈ ls, l.1 ≠ .keyword .fn)
    (rest : List (Kind × Text)) : withTypes (ls ++ rest) = ls ++ withTypes rest := by
  induction ls with
  | nil => rfl
  | cons l ls ih =>
    obtain ⟨first, others⟩ := List.forall_mem_cons.mp free
    rw [List.cons_append, withTypes_cons first, ih others, List.cons_append]

theorem filter_withTypes {test : Kind × Text → Bool}
    (unseen : test (.ident, Identifier.void.name) = false) (ls : List (Kind × Text)) :
    (withTypes ls).filter test = ls.filter test := by
  fun_induction withTypes ls with
  | case1 word name opening closing rest ih =>
    have added : (missingType rest).filter test = [] := by
      unfold missingType
      split
      · rfl
      · simp [unseen]
    simp [List.filter_cons, added, ih]
  | case2 l rest _ ih => simp [List.filter_cons, ih]
  | case3 => rfl

namespace Grammar

def Spelled (ts : List Token) : Prop := ∀ t ∈ ts, t.kind.Spelled t.text

theorem spelled_cons {t : Token} {ts : List Token} :
    Spelled (t :: ts) ↔ t.kind.Spelled t.text ∧ Spelled ts := List.forall_mem_cons

theorem spelled_append {ts us : List Token} : Spelled (ts ++ us) ↔ Spelled ts ∧ Spelled us :=
  List.forall_mem_append

theorem Leaf.lexeme {kind : Kind} (leaf : Leaf kind) :
    leaf.token.lexeme = (kind, leaf.token.text) := by
  rw [Token.lexeme, leaf.isKind]

theorem Leaf.lexeme_sign {kind : Kind} (leaf : Leaf kind) (c : Char)
    (sign : Kind.ofPunctuation? c = some kind)
    (spelled : leaf.token.kind.Spelled leaf.token.text) : leaf.token.lexeme = (kind, [c]) := by
  rw [leaf.isKind] at spelled
  rw [leaf.lexeme, text_of_sign sign spelled]

theorem Leaf.lexeme_keyword {word : Keyword} (leaf : Leaf (.keyword word))
    (spelled : leaf.token.kind.Spelled leaf.token.text) :
    leaf.token.lexeme = (.keyword word, word.text) := by
  rw [leaf.isKind] at spelled
  have written : leaf.token.text = word.text := spelled
  rw [leaf.lexeme, written]

theorem expression_keeps_lexemes (e : Expression) (spelled : Spelled e.yield) :
    e.tree.lexemes = e.yield.map Token.lexeme := by
  cases e with
  | identifier name =>
    simp [Expression.yield, Expression.tree, Minilang.Expression.lexemes, name.lexeme,
      Leaf.identifier]
  | int digits =>
    have read : digits.token.lexeme = (.int, digits.token.text) := digits.leaf.lexeme
    simp [Expression.yield, Expression.tree, Minilang.Expression.lexemes, Numeral.tree, read]
  | call function opening closing =>
    simp only [Expression.yield, spelled_cons] at spelled
    obtain ⟨-, opened, closed, -⟩ := spelled
    simp [Expression.yield, Expression.tree, Minilang.Expression.lexemes, function.lexeme,
      Leaf.identifier, opening.lexeme_sign '(' rfl opened, closing.lexeme_sign ')' rfl closed]

theorem statement_keeps_lexemes (s : Statement) (spelled : Spelled s.yield) :
    s.tree.lexemes = s.yield.map Token.lexeme := by
  obtain ⟨lead, value, semicolon⟩ := s
  simp only [Statement.yield, spelled_append, spelled_cons] at spelled
  obtain ⟨led, valued, ended, -⟩ := spelled
  have kept := expression_keeps_lexemes value valued
  cases lead with
  | assignment target equals =>
    simp only [Lead.yield, spelled_cons] at led
    obtain ⟨-, equated, -⟩ := led
    simp [Statement.yield, Statement.tree, Lead.yield, Lead.statement, Minilang.Statement.lexemes,
      target.lexeme, Leaf.identifier, equals.lexeme_sign '=' rfl equated, kept,
      semicolon.lexeme_sign ';' rfl ended]
  | ret keyword =>
    simp only [Lead.yield, spelled_cons] at led
    simp [Statement.yield, Statement.tree, Lead.yield, Lead.statement, Minilang.Statement.lexemes,
      keyword.lexeme_keyword led.1, kept, semicolon.lexeme_sign ';' rfl ended]

theorem statements_keep_lexemes (ss : List Statement)
    (spelled : Spelled (ss.flatMap Statement.yield)) :
    (ss.map Statement.tree).flatMap Minilang.Statement.lexemes =
      (ss.flatMap Statement.yield).map Token.lexeme := by
  induction ss with
  | nil => rfl
  | cons s ss ih =>
    rw [List.flatMap_cons, spelled_append] at spelled
    rw [List.map_cons, List.flatMap_cons, List.flatMap_cons, List.map_append,
      statement_keeps_lexemes s spelled.1, ih spelled.2]

theorem block_keeps_lexemes (b : Block) (spelled : Spelled b.yield) :
    b.tree.lexemes = b.yield.map Token.lexeme := by
  simp only [Block.yield, spelled_append, spelled_cons] at spelled
  obtain ⟨⟨opened, filled⟩, closed, -⟩ := spelled
  simp [Block.yield, Block.tree, Minilang.Block.lexemes, b.opening.lexeme_sign '\x7b' rfl opened,
    b.closing.lexeme_sign '\x7d' rfl closed, statements_keep_lexemes b.statements filled]

theorem expression_lexemes_free (e : Minilang.Expression) :
    ∀ l ∈ e.lexemes, l.1 ≠ .keyword .fn := by
  cases e <;> simp [Minilang.Expression.lexemes]

theorem statement_lexemes_free (s : Minilang.Statement) :
    ∀ l ∈ s.lexemes, l.1 ≠ .keyword .fn := by
  have ended : ∀ l ∈ [((.semicolon, [';']) : Kind × Text)], l.1 ≠ .keyword .fn := by simp
  cases s with
  | assignment a =>
    have whole := List.forall_mem_append.mpr ⟨expression_lexemes_free a.value, ended⟩
    exact List.forall_mem_cons.mpr ⟨by simp, List.forall_mem_cons.mpr ⟨by simp, whole⟩⟩
  | ret r =>
    have whole := List.forall_mem_append.mpr ⟨expression_lexemes_free r.value, ended⟩
    exact List.forall_mem_cons.mpr ⟨by simp, whole⟩

theorem block_lexemes_free (b : Minilang.Block) : ∀ l ∈ b.lexemes, l.1 ≠ .keyword .fn := by
  have filled : ∀ l ∈ b.statements.flatMap Minilang.Statement.lexemes, l.1 ≠ .keyword .fn :=
    List.forall_mem_flatMap.mpr fun s _ => statement_lexemes_free s
  exact List.forall_mem_append.mpr ⟨List.forall_mem_cons.mpr ⟨by simp, filled⟩, by simp⟩

theorem withTypes_behind_header (type : Option (Leaf .ident)) (body : Minilang.Block)
    (rest : List (Kind × Text)) :
    missingType ((typeYield type).map Token.lexeme ++ (body.lexemes ++ rest)) ++
      withTypes ((typeYield type).map Token.lexeme ++ (body.lexemes ++ rest)) =
        (.ident, (typeTree type).name) :: (body.lexemes ++ withTypes rest) := by
  -- what comes first behind the parentheses is the type or the brace of the body
  cases type with
  | none =>
    rw [typeYield, Option.map_none, Option.toList_none, List.map_nil, List.nil_append,
      withTypes_append (block_lexemes_free body)]
    rfl
  | some type =>
    rw [typeYield, Option.map_some, Option.toList_some, List.map_singleton, List.singleton_append,
      type.lexeme, withTypes_cons (by simp), withTypes_append (block_lexemes_free body)]
    rfl

theorem function_keeps_lexemes (f : Function) (spelled : Spelled f.yield)
    (rest : List (Kind × Text)) :
    withTypes (f.yield.map Token.lexeme ++ rest) = f.tree.lexemes ++ withTypes rest := by
  simp only [Function.yield, spelled_append, spelled_cons] at spelled
  obtain ⟨⟨⟨begun, named, opened, closed, -⟩, typed⟩, filled⟩ := spelled
  have body := block_keeps_lexemes f.body filled
  have header : f.yield.map Token.lexeme ++ rest =
      (.keyword .fn, Keyword.fn.text) :: (.ident, f.name.token.text) :: (.leftParen, ['(']) ::
        (.rightParen, [')']) ::
          ((typeYield f.type).map Token.lexeme ++ (f.body.tree.lexemes ++ rest)) := by
    simp [Function.yield, f.keyword.lexeme_keyword begun, f.name.lexeme,
      f.opening.lexeme_sign '(' rfl opened, f.closing.lexeme_sign ')' rfl closed, body]
  have name : f.name.identifier.lexemes = [(.ident, f.name.token.text)] :=
    if_neg (text_ne_nil_of_spelled named)
  rw [header, withTypes, withTypes_behind_header]
  simp [FunctionDecl.lexemes, Function.tree, name]

theorem functions_keep_lexemes (fs : List Function)
    (spelled : Spelled (fs.flatMap Function.yield)) :
    withTypes ((fs.flatMap Function.yield).map Token.lexeme) =
      (fs.map Function.tree).flatMap FunctionDecl.lexemes := by
  induction fs with
  | nil => rfl
  | cons f fs ih =>
    rw [List.flatMap_cons, spelled_append] at spelled
    rw [List.flatMap_cons, List.map_append, function_keeps_lexemes f spelled.1, ih spelled.2]
    rfl

theorem expression_whole (e : Expression) : e.tree.Whole := by
  cases e with
  | identifier name => trivial
  | int digits => exact Nat.lt_of_le_of_lt digits.inRange (by decide)
  | call function opening closing => trivial

theorem statement_whole (s : Statement) : s.tree.Whole := by
  obtain ⟨lead, value, semicolon⟩ := s
  cases lead with
  | assignment target equals => exact expression_whole value
  | ret keyword => exact expression_whole value

theorem program_whole (d : Program) (spelled : Spelled d.yield) : d.tree.Whole := by
  intro tree member
  obtain ⟨f, inside, rfl⟩ := List.mem_map.mp member
  have named : f.name.token.kind.Spelled f.name.token.text :=
    spelled _ (List.mem_flatMap.mpr ⟨f, inside, by simp [Function.yield]⟩)
  refine ⟨text_ne_nil_of_spelled named, ?_⟩
  intro statement member
  obtain ⟨s, _, rfl⟩ := List.mem_map.mp member
  exact statement_whole s

end Grammar

/-- What the program prints as, against the text that it was read from. -/
structure PrintsBack (text : Text) : Prop where
  kept : lexemes (parse text).1.toText = withTypes (lexemes text)
  integers : (lexemes (parse text).1.toText).filter (·.1 = .int) =
    (lexemes text).filter (·.1 = .int)
  parsed : parse (parse text).1.toText = parse text
  printed : (parse (parse text).1.toText).1.toText = (parse text).1.toText

/-- A text without errors is printed as its own lexemes, and the printed text as itself. -/
theorem printed_in_canonical_form {text : Text} (quiet : (parse text).2 = []) :
    PrintsBack text := by
  -- text and tree are linked by the derivation: its yield are the tokens, its tree is printed
  obtain ⟨d, derives⟩ := derived_of_quiet quiet
  have read : parse text = (d.tree, []) := parse_derived derives
  have spelled : Grammar.Spelled d.yield := by
    rw [derives]
    exact fun _ member => spelled_of_mem_tokens member
  have shaped : d.tree.Shaped := by simpa [read] using parse_shaped text
  have kept : lexemes d.tree.toText = withTypes (lexemes text) := by
    have source : lexemes text = d.yield.map Token.lexeme := by rw [lexemes, derives]
    rw [source]
    exact (lexemes_functions shaped).trans (Grammar.functions_keep_lexemes d.functions spelled).symm
  obtain ⟨same, errors⟩ := parse_printed shaped
  have again : parse d.tree.toText = (d.tree, []) :=
    Prod.ext same (errors.mpr (Grammar.program_whole d spelled))
  constructor
  · rw [read, kept]
  · rw [read, kept, filter_withTypes rfl]
  · rw [read, again]
  · rw [read, again]

theorem untyped_header_is_completed :
    PrintsBack "fn f()\x7bx=007;\x7dfn g()int\x7breturn f();\x7d".toList ∧
      (parse "fn f()\x7bx=007;\x7dfn g()int\x7breturn f();\x7d".toList).1.toText =
        "fn f() void \x7b\nx = 007;\n\x7d\nfn g() int \x7b\nreturn f();\n\x7d\n".toList := by
  have quiet : (parse "fn f()\x7bx=007;\x7dfn g()int\x7breturn f();\x7d".toList).2 = [] := by
    decide +kernel
  exact ⟨printed_in_canonical_form quiet, by decide +kernel⟩

end Minilang
