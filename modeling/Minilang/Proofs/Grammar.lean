import Minilang.Token.Stream
import Minilang.Tree

/-!
The grammar of the language, apart from the parser. A derivation has tokens at its leaves: its
yield is the token sequence that it derives, and its tree is the program that it stands for.
A token sequence has at most one derivation.
-/
namespace Minilang.Grammar

@[ext] structure Leaf (kind : Kind) where
  token : Token
  isKind : token.kind = kind

def Leaf.scanned {kind : Kind} (word : String) (place : Nat) : Leaf kind :=
  ⟨⟨kind, word.toList, ⟨place, place + Text.byteLength word.toList⟩⟩, rfl⟩

/-- Greater numbers than this are tokens too, but no phrases. -/
def greatest : Nat := Nat.pow 2 63 - 1

@[ext] structure Numeral where
  token : Token
  isInt : token.kind = .int
  inRange : Text.decimalValue token.text ≤ greatest

/-- `Expression := Ident | Int | Ident "(" ")"` -/
inductive Expression where
  | identifier (name : Leaf .ident)
  | int (digits : Numeral)
  | call (function : Leaf .ident) (opening : Leaf .leftParen) (closing : Leaf .rightParen)

/-- `Lead := Ident "=" | "return"` -/
inductive Lead where
  | assignment (target : Leaf .ident) (equals : Leaf .assign)
  | ret (keyword : Leaf (.keyword .ret))

/-- `Statement := Lead Expression ";"` -/
structure Statement where
  lead : Lead
  value : Expression
  semicolon : Leaf .semicolon

/-- `Block := "{" { Statement } "}"` -/
structure Block where
  opening : Leaf .leftBrace
  statements : List Statement
  closing : Leaf .rightBrace

/-- `Function := "fn" Ident "(" ")" [ Ident ] Block` -/
structure Function where
  keyword : Leaf (.keyword .fn)
  name : Leaf .ident
  opening : Leaf .leftParen
  closing : Leaf .rightParen
  type : Option (Leaf .ident)
  body : Block

/-- `Program := { Function }` -/
structure Program where
  functions : List Function

def Expression.yield : Expression → List Token
  | .identifier name => [name.token]
  | .int digits => [digits.token]
  | .call function opening closing => [function.token, opening.token, closing.token]

/-- An identifier by itself is a value only where no call could be meant. -/
def Expression.EndsBefore (next : Token) : Expression → Prop
  | .identifier _ => next.kind ≠ .leftParen
  | .int _ => True
  | .call _ _ _ => True

theorem Expression.endsBefore {next : Token} (e : Expression) (off : next.kind ≠ .leftParen) :
    e.EndsBefore next := by
  cases e with
  | identifier name => exact off
  | int digits => trivial
  | call function opening closing => trivial

def Lead.yield : Lead → List Token
  | .assignment target equals => [target.token, equals.token]
  | .ret keyword => [keyword.token]

def Statement.yield (s : Statement) : List Token :=
  s.lead.yield ++ (s.value.yield ++ [s.semicolon.token])

def Block.yield (b : Block) : List Token :=
  b.opening.token :: b.statements.flatMap Statement.yield ++ [b.closing.token]

def typeYield (type : Option (Leaf .ident)) : List Token := (type.map Leaf.token).toList

def Function.yield (f : Function) : List Token :=
  [f.keyword.token, f.name.token, f.opening.token, f.closing.token] ++ typeYield f.type ++
    f.body.yield

def Program.yield (p : Program) : List Token := p.functions.flatMap Function.yield

def Leaf.identifier (name : Leaf .ident) : Identifier := ⟨name.token.text⟩

def Numeral.tree (n : Numeral) : IntLiteral := ⟨Text.decimalValue n.token.text, n.token.text⟩

def Expression.tree : Expression → Minilang.Expression
  | .identifier name => .identifier name.identifier
  | .int digits => .int digits.tree
  | .call function _ _ => .call ⟨function.identifier⟩

def Lead.statement (value : Minilang.Expression) : Lead → Minilang.Statement
  | .assignment target _ => .assignment ⟨target.identifier, value⟩
  | .ret _ => .ret ⟨value⟩

def Statement.tree (s : Statement) : Minilang.Statement := s.lead.statement s.value.tree

def Block.tree (b : Block) : Minilang.Block := ⟨b.statements.map Statement.tree⟩

def typeTree : Option (Leaf .ident) → Identifier
  | some name => name.identifier
  | none => .void

def Function.tree (f : Function) : FunctionDecl :=
  ⟨f.name.identifier, typeTree f.type, f.body.tree⟩

def Program.tree (p : Program) : Minilang.Program := ⟨p.functions.map Function.tree⟩

theorem kinds_agree {k l : Kind} (a : Leaf k) (b : Leaf l) (same : a.token = b.token) : k = l := by
  rw [← a.isKind, ← b.isKind, same]

def Numeral.leaf (n : Numeral) : Leaf .int := ⟨n.token, n.isInt⟩

theorem expression_unique {d e : Expression} {s t : Leaf .semicolon} {v w : List Token}
    (same : d.yield ++ s.token :: v = e.yield ++ t.token :: w) : d = e ∧ s = t ∧ v = w := by
  -- two different phrases disagree in the kind of their first token, or of their second
  cases d <;> cases e <;>
    simp only [Expression.yield, List.cons_append, List.nil_append, List.cons.injEq] at same
  case identifier.identifier a b => exact ⟨by rw [Leaf.ext same.1], Leaf.ext same.2.1, same.2.2⟩
  case identifier.int a n => exact absurd (kinds_agree a n.leaf same.1) (by decide)
  case identifier.call opening _ => exact absurd (kinds_agree s opening same.2.1) (by decide)
  case int.identifier n a => exact absurd (kinds_agree n.leaf a same.1) (by decide)
  case int.int m n => exact ⟨by rw [Numeral.ext same.1], Leaf.ext same.2.1, same.2.2⟩
  case int.call n a _ _ => exact absurd (kinds_agree n.leaf a same.1) (by decide)
  case call.identifier opening _ _ => exact absurd (kinds_agree opening t same.2.1) (by decide)
  case call.int a _ _ n => exact absurd (kinds_agree a n.leaf same.1) (by decide)
  case call.call =>
    obtain ⟨name, opening, closing, semicolon, rest⟩ := same
    exact ⟨by rw [Leaf.ext name, Leaf.ext opening, Leaf.ext closing], Leaf.ext semicolon, rest⟩

theorem lead_unique {d e : Lead} {v w : List Token} (same : d.yield ++ v = e.yield ++ w) :
    d = e ∧ v = w := by
  cases d <;> cases e <;>
    simp only [Lead.yield, List.cons_append, List.nil_append, List.cons.injEq] at same
  case assignment.assignment =>
    obtain ⟨target, equals, rest⟩ := same
    exact ⟨by rw [Leaf.ext target, Leaf.ext equals], rest⟩
  case assignment.ret a _ k => exact absurd (kinds_agree a k same.1) (by decide)
  case ret.assignment k a _ => exact absurd (kinds_agree k a same.1) (by decide)
  case ret.ret => exact ⟨by rw [Leaf.ext same.1], same.2⟩

theorem statement_unique {d e : Statement} {v w : List Token}
    (same : d.yield ++ v = e.yield ++ w) : d = e ∧ v = w := by
  obtain ⟨lead, value, semicolon⟩ := d
  obtain ⟨lead', value', semicolon'⟩ := e
  simp only [Statement.yield, List.append_assoc, List.singleton_append] at same
  obtain ⟨rfl, after⟩ := lead_unique same
  obtain ⟨rfl, rfl, rest⟩ := expression_unique after
  exact ⟨rfl, rest⟩

theorem statement_ne_brace (s : Statement) (c : Leaf .rightBrace) (v w : List Token) :
    s.yield ++ v ≠ c.token :: w := by
  obtain ⟨lead, value, semicolon⟩ := s
  intro same
  cases lead <;>
    simp only [Statement.yield, Lead.yield, List.cons_append, List.cons.injEq] at same
  case assignment a _ => exact absurd (kinds_agree a c same.1) (by decide)
  case ret k => exact absurd (kinds_agree k c same.1) (by decide)

theorem statements_unique {ds es : List Statement} {c k : Leaf .rightBrace} {v w : List Token}
    (same : ds.flatMap Statement.yield ++ c.token :: v = es.flatMap Statement.yield ++ k.token :: w) :
    ds = es ∧ c = k ∧ v = w := by
  -- no statement begins with the brace, so that both lists end at once
  induction ds generalizing es with
  | nil =>
    cases es with
    | nil =>
      simp only [List.flatMap_nil, List.nil_append, List.cons.injEq] at same
      exact ⟨rfl, Leaf.ext same.1, same.2⟩
    | cons e es =>
      simp only [List.flatMap_nil, List.nil_append, List.flatMap_cons, List.append_assoc] at same
      exact absurd same.symm (statement_ne_brace e c _ _)
  | cons d ds ih =>
    cases es with
    | nil =>
      simp only [List.flatMap_nil, List.nil_append, List.flatMap_cons, List.append_assoc] at same
      exact absurd same (statement_ne_brace d k _ _)
    | cons e es =>
      simp only [List.flatMap_cons, List.append_assoc] at same
      obtain ⟨rfl, more⟩ := statement_unique same
      obtain ⟨rfl, closing, rest⟩ := ih more
      exact ⟨rfl, closing, rest⟩

theorem block_unique {d e : Block} {v w : List Token} (same : d.yield ++ v = e.yield ++ w) :
    d = e ∧ v = w := by
  obtain ⟨opening, statements, closing⟩ := d
  obtain ⟨opening', statements', closing'⟩ := e
  simp only [Block.yield, List.cons_append, List.append_assoc, List.nil_append,
    List.cons.injEq] at same
  obtain ⟨rfl, rfl, rest⟩ := statements_unique same.2
  exact ⟨by rw [Leaf.ext same.1], rest⟩

theorem type_unique {d e : Option (Leaf .ident)} {a b : Block} {v w : List Token}
    (same : typeYield d ++ (a.yield ++ v) = typeYield e ++ (b.yield ++ w)) :
    d = e ∧ a.yield ++ v = b.yield ++ w := by
  cases d <;> cases e <;>
    simp only [typeYield, Option.map_none, Option.map_some, Option.toList_none, Option.toList_some,
      List.nil_append, List.cons_append] at same
  case none.none => exact ⟨rfl, same⟩
  case none.some t =>
    simp only [Block.yield, List.cons_append, List.cons.injEq] at same
    exact absurd (kinds_agree a.opening t same.1) (by decide)
  case some.none t =>
    simp only [Block.yield, List.cons_append, List.cons.injEq] at same
    exact absurd (kinds_agree t b.opening same.1) (by decide)
  case some.some =>
    rw [List.cons.injEq] at same
    exact ⟨by rw [Leaf.ext same.1], same.2⟩

theorem function_unique {d e : Function} {v w : List Token} (same : d.yield ++ v = e.yield ++ w) :
    d = e ∧ v = w := by
  obtain ⟨keyword, name, opening, closing, type, body⟩ := d
  obtain ⟨keyword', name', opening', closing', type', body'⟩ := e
  simp only [Function.yield, List.append_assoc, List.cons_append, List.nil_append,
    List.cons.injEq] at same
  obtain ⟨first, second, third, fourth, typed⟩ := same
  obtain ⟨rfl, bodies⟩ := type_unique typed
  obtain ⟨rfl, rest⟩ := block_unique bodies
  exact ⟨by rw [Leaf.ext first, Leaf.ext second, Leaf.ext third, Leaf.ext fourth], rest⟩

theorem function_yield_ne_nil (f : Function) : f.yield ≠ [] := by
  simp [Function.yield]

/-- The grammar is unambiguous: a token sequence has at most one derivation. -/
theorem derivation_unique {d e : Program} (same : d.yield = e.yield) : d = e := by
  obtain ⟨ds⟩ := d
  obtain ⟨es⟩ := e
  simp only [Program.yield] at same
  rw [Program.mk.injEq]
  induction ds generalizing es with
  | nil =>
    cases es with
    | nil => rfl
    | cons e es =>
      simp only [List.flatMap_nil, List.flatMap_cons] at same
      exact absurd (List.append_eq_nil_iff.mp same.symm).1 (function_yield_ne_nil e)
  | cons d ds ih =>
    cases es with
    | nil =>
      simp only [List.flatMap_nil, List.flatMap_cons] at same
      exact absurd (List.append_eq_nil_iff.mp same).1 (function_yield_ne_nil d)
    | cons e es =>
      simp only [List.flatMap_cons] at same
      obtain ⟨rfl, more⟩ := function_unique same
      rw [ih es more]

end Minilang.Grammar
