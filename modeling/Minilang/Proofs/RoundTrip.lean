import Minilang.Form
import Minilang.Proofs.Relocation
import Minilang.Proofs.Shape

namespace Minilang
open Grammar (Leaf Numeral Lead)

/-- An expression that can be read without an error. -/
def Expression.Whole : Expression → Prop
  | .identifier _ => True
  | .int n => Text.decimalValue n.literal < Nat.pow 2 63
  | .call _ => True
  | .missing => False

def Statement.Whole : Statement → Prop
  | .assignment a => a.value.Whole
  | .ret r => r.value.Whole

def FunctionDecl.Whole (f : FunctionDecl) : Prop :=
  f.name.name ≠ [] ∧ ∀ s ∈ f.body.statements, s.Whole

def Program.Whole (p : Program) : Prop := ∀ f ∈ p.declarations, f.Whole

instance : DecidablePred Expression.Whole
  | .identifier _ => .isTrue trivial
  | .int n => inferInstanceAs (Decidable (Text.decimalValue n.literal < Nat.pow 2 63))
  | .call _ => .isTrue trivial
  | .missing => .isFalse id

instance : DecidablePred Statement.Whole
  | .assignment a => inferInstanceAs (Decidable a.value.Whole)
  | .ret r => inferInstanceAs (Decidable r.value.Whole)

instance (f : FunctionDecl) : Decidable f.Whole :=
  inferInstanceAs (Decidable (_ ∧ ∀ s ∈ f.body.statements, s.Whole))

instance (p : Program) : Decidable p.Whole :=
  inferInstanceAs (Decidable (∀ f ∈ p.declarations, f.Whole))

def Expression.lexemes : Expression → List (Kind × Text)
  | .identifier i => [(.ident, i.name)]
  | .int n => [(.int, n.literal)]
  | .call c => [(.ident, c.function.name), (.leftParen, ['(']), (.rightParen, [')'])]
  | .missing => [(.illegal, ['<']), (.ident, "error".toList), (.illegal, ['>'])]

def Statement.lexemes : Statement → List (Kind × Text)
  | .assignment a =>
    (.ident, a.target.name) :: (.assign, ['=']) :: a.value.lexemes ++ [(.semicolon, [';'])]
  | .ret r => (.keyword .ret, Keyword.ret.text) :: r.value.lexemes ++ [(.semicolon, [';'])]

def Block.lexemes (b : Block) : List (Kind × Text) :=
  (.leftBrace, ['\x7b']) :: b.statements.flatMap Statement.lexemes ++ [(.rightBrace, ['\x7d'])]

def Identifier.lexemes (i : Identifier) : List (Kind × Text) :=
  if i.name = [] then [] else [(.ident, i.name)]

def FunctionDecl.lexemes (f : FunctionDecl) : List (Kind × Text) :=
  (.keyword .fn, Keyword.fn.text) :: f.name.lexemes ++
    ((.leftParen, ['(']) :: (.rightParen, [')']) :: (.ident, f.returnType.name) :: f.body.lexemes)

section Printing
variable {rest : Text}

theorem lexemes_name_before {w : Text} (c : Char) (rest : Text) (name : IsName w)
    (ends : isLetter c = false) :
    lexemes (w ++ c :: rest) = (.ident, w) :: lexemes (c :: rest) :=
  lexemes_spelled .ident name (by simpa [Kind.continues] using ends)

theorem lexemes_space : lexemes (' ' :: rest) = lexemes rest := lexemes_blank rest rfl

theorem lexemes_newline : lexemes ('\n' :: rest) = lexemes rest := lexemes_blank rest rfl

theorem lexemes_expression {e : Expression} (shaped : e.Shaped) :
    lexemes (e.toText ++ ';' :: rest) = e.lexemes ++ lexemes (';' :: rest) := by
  cases e with
  | identifier i => exact lexemes_name_before ';' rest shaped (by decide)
  | int n => exact lexemes_spelled .int shaped.1 (by simp [Kind.continues]; decide)
  | call c =>
    have named := lexemes_name_before '(' (')' :: ';' :: rest) shaped (by decide)
    change lexemes (c.function.name ++ ['(', ')'] ++ ';' :: rest) = _
    rw [List.append_assoc]
    change lexemes (c.function.name ++ '(' :: ')' :: ';' :: rest) = _
    rw [named, lexemes_punctuation '(' .leftParen _ rfl,
      lexemes_punctuation ')' .rightParen _ rfl]
    rfl
  | missing =>
    have named := lexemes_name_before (w := "error".toList) '>' (';' :: rest) (by decide)
      (by decide)
    change lexemes ('<' :: ("error".toList ++ '>' :: ';' :: rest)) = _
    rw [lexemes_foreign _ (by decide), named,
      lexemes_foreign _ (by decide)]
    rfl

theorem lexemes_keyword (word : Keyword) :
    lexemes (word.text ++ ' ' :: rest) = (.keyword word, word.text) :: lexemes rest := by
  have blank : isLetter ' ' = false := by decide
  rw [lexemes_spelled (.keyword word) rfl (by simpa [Kind.continues] using blank), lexemes_space]

theorem lexemes_end : lexemes (';' :: '\n' :: rest) = (.semicolon, [';']) :: lexemes rest := by
  rw [lexemes_punctuation ';' .semicolon _ rfl, lexemes_newline]

theorem lexemes_statement {s : Statement} (shaped : s.Shaped) :
    lexemes (s.toText ++ rest) = s.lexemes ++ lexemes rest := by
  cases s with
  | assignment a =>
    have written : (Statement.assignment a).toText ++ rest =
        a.target.name ++ ' ' :: '=' :: ' ' :: (a.value.toText ++ ';' :: '\n' :: rest) := by
      change a.target.name ++ " = ".toList ++ a.value.toText ++ ";\n".toList ++ rest = _
      simp
    rw [written, lexemes_name_before _ _ shaped.1 (by decide), lexemes_space,
      lexemes_punctuation '=' .assign _ rfl, lexemes_space, lexemes_expression shaped.2, lexemes_end]
    simp [Statement.lexemes]
  | ret r =>
    have spaced : "return ".toList = Keyword.ret.text ++ [' '] := by decide
    have written : (Statement.ret r).toText ++ rest =
        Keyword.ret.text ++ ' ' :: (r.value.toText ++ ';' :: '\n' :: rest) := by
      change "return ".toList ++ r.value.toText ++ ";\n".toList ++ rest = _
      rw [spaced]
      simp
    rw [written, lexemes_keyword, lexemes_expression shaped, lexemes_end]
    simp [Statement.lexemes]

theorem lexemes_statements {ss : List Statement} (shaped : ∀ s ∈ ss, s.Shaped) :
    lexemes (ss.flatMap Statement.toText ++ rest) =
      ss.flatMap Statement.lexemes ++ lexemes rest := by
  induction ss with
  | nil => rfl
  | cons s ss ih =>
    obtain ⟨first, others⟩ := List.forall_mem_cons.mp shaped
    rw [List.flatMap_cons, List.append_assoc, lexemes_statement first, ih others,
      List.flatMap_cons, List.append_assoc]

theorem lexemes_block {b : Block} (shaped : b.Shaped) :
    lexemes (b.toText ++ rest) = b.lexemes ++ lexemes rest := by
  have written : b.toText ++ rest = '\x7b' :: '\n' ::
      (b.statements.flatMap Statement.toText ++ '\x7d' :: '\n' :: rest) := by
    change "\x7b\n".toList ++ b.statements.flatMap Statement.toText ++ "\x7d\n".toList ++ rest = _
    simp
  rw [written, lexemes_punctuation '\x7b' .leftBrace _ rfl, lexemes_newline,
    lexemes_statements shaped, lexemes_punctuation '\x7d' .rightBrace _ rfl, lexemes_newline]
  simp [Block.lexemes]

theorem lexemes_function {f : FunctionDecl} (shaped : f.Shaped) :
    lexemes (f.toText ++ rest) = f.lexemes ++ lexemes rest := by
  obtain ⟨named, typed, filled⟩ := shaped
  have spaced : "fn ".toList = Keyword.fn.text ++ [' '] := by decide
  have written : f.toText ++ rest = Keyword.fn.text ++ ' ' ::
      (f.name.name ++ '(' :: ')' :: ' ' :: (f.returnType.name ++ ' ' :: (f.body.toText ++ rest))) := by
    change "fn ".toList ++ f.name.name ++ "() ".toList ++ f.returnType.name ++ " ".toList ++
      f.body.toText ++ rest = _
    rw [spaced]
    simp
  have headed : lexemes ('(' :: ')' :: ' ' :: (f.returnType.name ++ ' ' :: (f.body.toText ++ rest))) =
      (.leftParen, ['(']) :: (.rightParen, [')']) :: (.ident, f.returnType.name) ::
        (f.body.lexemes ++ lexemes rest) := by
    rw [lexemes_punctuation '(' .leftParen _ rfl,
      lexemes_punctuation ')' .rightParen _ rfl, lexemes_space,
      lexemes_name_before _ _ typed (by decide), lexemes_space, lexemes_block filled]
  rw [written, lexemes_keyword]
  rcases named with noName | name
  · simp [FunctionDecl.lexemes, Identifier.lexemes, noName, headed]
  · rw [lexemes_name_before _ _ name (by decide), headed]
    simp [FunctionDecl.lexemes, Identifier.lexemes, name.1]

theorem lexemes_functions {fs : List FunctionDecl} (shaped : ∀ f ∈ fs, f.Shaped) :
    lexemes (fs.flatMap FunctionDecl.toText) = fs.flatMap FunctionDecl.lexemes := by
  induction fs with
  | nil => exact lexemes_nil
  | cons f fs ih =>
    obtain ⟨first, others⟩ := List.forall_mem_cons.mp shaped
    rw [List.flatMap_cons, lexemes_function first, ih others, List.flatMap_cons]

end Printing

namespace Parser

def leafOf (kind : Kind) (text : Text) : Leaf kind := ⟨Token.ofLexeme (kind, text), rfl⟩

def printed (ls : List (Kind × Text)) : List Token := ls.map Token.ofLexeme

section Rereading
variable {v rest : List Token} {more : List Statement} {gs : List SyntaxError}

theorem reads_between_great (lead : Lead) {t : Token} (isInt : t.kind = .int)
    (great : Grammar.greatest < Text.decimalValue t.text) (semicolon : Leaf .semicolon)
    (others : Reads statements 0 v rest more gs) :
    Reads statements 0 (lead.yield ++ ([t] ++ [semicolon.token]) ++ v) rest
      (lead.statement (.int ⟨0, t.text⟩) :: more) (t.fault .invalidIntLiteral :: gs) := by
  have valued : Reads expression 0 [t] ([semicolon.token] ++ (v ++ rest)) (.int ⟨0, t.text⟩)
      [t.fault .invalidIntLiteral] := reads_great_int isInt great
  exact reads_statements_led lead valued (moves_semicolon semicolon) others

theorem reads_between_missing (lead : Lead) (semicolon : Leaf .semicolon)
    (ready : resumes 0 (v ++ rest) = true) (others : Reads statements 0 v rest more gs) :
    ∃ a b c, Reads statements 0 (lead.yield ++ (printed Expression.missing.lexemes ++
      [semicolon.token]) ++ v) rest (lead.statement .missing :: more) (a :: b :: c :: gs) := by
  let less := Token.ofLexeme (.illegal, ['<'])
  let word := Token.ofLexeme (.ident, "error".toList)
  let greater := Token.ofLexeme (.illegal, ['>'])
  have stray : Stray [word, greater, semicolon.token] := by
    refine ⟨?_, ?_⟩
    · simp [word, greater, Token.ofLexeme, semicolon.isKind]
    · simp [word, greater, Token.ofLexeme, semicolon.isKind]
  -- only the first token is dropped for the value: the semicolon is missed at the second, and the
  -- others are skipped up to the next statement
  have skipped := reads_statements_strayed stray ready others
  have valued : Reads expression 0 [less] ([] ++ (word :: greater :: semicolon.token :: v ++ rest))
      .missing [less.fault .expectedExpression] :=
    reads_stray_expression (by decide) (by decide) (by decide)
  have ended : Moves Parser.semicolon 0 [] (word :: greater :: semicolon.token :: v ++ rest)
      [word.fault .expectedSemicolon] :=
    moves_expect_missing .expectedSemicolon (by simp [word, Token.ofLexeme])
  have read := reads_statements_led lead valued ended skipped
  refine ⟨less.fault .expectedExpression, word.fault .expectedSemicolon,
    word.fault .expectedStatement, ?_⟩
  simpa [printed, Expression.lexemes, less, word, greater] using read

theorem reads_printed_between (lead : Lead) {e : Expression} (shaped : e.Shaped)
    (semicolon : Leaf .semicolon) (ready : resumes 0 (v ++ rest) = true)
    (others : Reads statements 0 v rest more gs) :
    ∃ fs, Reads statements 0 (lead.yield ++ (printed e.lexemes ++ [semicolon.token]) ++ v) rest
      (lead.statement e :: more) fs ∧ (fs = [] ↔ e.Whole ∧ gs = []) := by
  cases e with
  | identifier i =>
    let name := leafOf .ident i.name
    have read := reads_derived_statement ⟨lead, .identifier name, semicolon⟩ others
    exact ⟨gs, read, by simp [Expression.Whole]⟩
  | call c =>
    let function := leafOf .ident c.function.name
    have read := reads_derived_statement
      ⟨lead, .call function (leafOf .leftParen ['(']) (leafOf .rightParen [')']), semicolon⟩ others
    exact ⟨gs, read, by simp [Expression.Whole]⟩
  | int n =>
    obtain ⟨value, literal⟩ := n
    obtain ⟨digits, valued⟩ := shaped
    dsimp only at digits valued
    -- a number in range is printed as one of the grammar, any other as the fault it was
    by_cases small : Text.decimalValue literal < Nat.pow 2 63
    · rw [if_pos small] at valued
      subst valued
      have inRange : Text.decimalValue literal ≤ Grammar.greatest := Nat.le_sub_one_of_lt small
      let digits : Numeral := ⟨Token.ofLexeme (.int, literal), rfl, inRange⟩
      have read := reads_derived_statement ⟨lead, .int digits, semicolon⟩ others
      exact ⟨gs, read, fun none => ⟨small, none⟩, And.right⟩
    · rw [if_neg small] at valued
      subst valued
      have great : Grammar.greatest < Text.decimalValue literal :=
        Nat.lt_of_lt_of_le (by decide) (Nat.le_of_not_lt small)
      have read := reads_between_great lead (t := Token.ofLexeme (.int, literal)) rfl great
        semicolon others
      exact ⟨_, read, nofun, fun whole => absurd whole.1 small⟩
  | missing =>
    obtain ⟨a, b, c, read⟩ := reads_between_missing lead semicolon ready others
    exact ⟨_, read, by simp [Expression.Whole]⟩

theorem reads_printed_statement {s : Statement} (shaped : s.Shaped)
    (ready : resumes 0 (v ++ rest) = true) (others : Reads statements 0 v rest more gs) :
    ∃ fs, Reads statements 0 (printed s.lexemes ++ v) rest (s :: more) fs ∧
      (fs = [] ↔ s.Whole ∧ gs = []) := by
  cases s with
  | assignment a =>
    let lead : Lead := .assignment (leafOf .ident a.target.name) (leafOf .assign ['='])
    have parts : printed (Statement.assignment a).lexemes =
        lead.yield ++ (printed a.value.lexemes ++ [(leafOf .semicolon [';']).token]) := by
      simp [printed, Statement.lexemes, Lead.yield, lead, leafOf]
    rw [parts]
    exact reads_printed_between lead shaped.2 _ ready others
  | ret r =>
    let lead : Lead := .ret (leafOf (.keyword .ret) Keyword.ret.text)
    have parts : printed (Statement.ret r).lexemes =
        lead.yield ++ (printed r.value.lexemes ++ [(leafOf .semicolon [';']).token]) := by
      simp [printed, Statement.lexemes, Lead.yield, lead, leafOf]
    rw [parts]
    exact reads_printed_between lead shaped _ ready others

theorem resumes_printed (ss : List Statement) (closing : Leaf .rightBrace) :
    resumes 0 (printed (ss.flatMap Statement.lexemes) ++ closing.token :: rest) = true := by
  cases ss with
  | nil => exact resumes_brace closing
  | cons s ss =>
    cases s <;> simp [printed, Statement.lexemes, resumes, startsStatement, Token.ofLexeme]

theorem reads_printed_statements (rest : List Token) {ss : List Statement}
    (shaped : ∀ s ∈ ss, s.Shaped) (closing : Leaf .rightBrace) :
    ∃ fs, Reads statements 0 (printed (ss.flatMap Statement.lexemes)) (closing.token :: rest) ss fs ∧
      (fs = [] ↔ ∀ s ∈ ss, s.Whole) := by
  induction ss with
  | nil => exact ⟨[], reads_statements_end (Or.inl closing.isKind), by simp⟩
  | cons s ss ih =>
    obtain ⟨first, later⟩ := List.forall_mem_cons.mp shaped
    obtain ⟨gs, others, all⟩ := ih later
    obtain ⟨fs, read, whole⟩ := reads_printed_statement first (resumes_printed ss closing) others
    refine ⟨fs, ?_, ?_⟩
    · simpa [printed] using read
    · rw [whole, all, List.forall_mem_cons]

theorem reads_printed_block (rest : List Token) {b : Block} (shaped : b.Shaped) :
    ∃ fs, Reads block 0 (printed b.lexemes) rest b fs ∧
      (fs = [] ↔ ∀ s ∈ b.statements, s.Whole) := by
  obtain ⟨fs, read, whole⟩ := reads_printed_statements rest shaped
    (leafOf .rightBrace ['\x7d'])
  have closed : Moves closeBlock 0 [(leafOf .rightBrace ['\x7d']).token] rest [] :=
    moves_closeBlock _
  have filled := reads_block (leafOf .leftBrace ['\x7b']) read closed
  refine ⟨fs, ?_, whole⟩
  simpa [printed, Block.lexemes, leafOf] using filled

theorem reads_printed_name (rest : List Token) {i : Identifier}
    (shaped : i.name = [] ∨ IsName i.name) (opening : Leaf .leftParen) :
    ∃ fs, Reads identifier 0 (printed i.lexemes) (opening.token :: rest) i fs ∧
      (fs = [] ↔ i.name ≠ []) := by
  obtain ⟨name⟩ := i
  rcases shaped with empty | named
  · dsimp only at empty
    subst empty
    have off : (upNext 0 (opening.token :: rest)).kind ≠ .ident := by simp [opening.isKind]
    exact ⟨_, reads_no_identifier off, by simp⟩
  · refine ⟨[], ?_, by simpa using named.1⟩
    have read : Reads identifier 0 [(leafOf .ident name).token] (opening.token :: rest) ⟨name⟩ [] :=
      reads_identifier (leafOf .ident name)
    simpa [Identifier.lexemes, named.1, printed, leafOf] using read

theorem reads_printed_function (rest : List Token) {f : FunctionDecl} (shaped : f.Shaped) :
    ∃ fs, Reads function 0 (printed f.lexemes) rest f fs ∧ (fs = [] ↔ f.Whole) := by
  obtain ⟨named, typed, filled⟩ := shaped
  let keyword := leafOf (.keyword .fn) Keyword.fn.text
  let opening := leafOf .leftParen ['(']
  let closing := leafOf .rightParen [')']
  let type := leafOf .ident f.returnType.name
  obtain ⟨gs, body, whole⟩ := reads_printed_block rest filled
  obtain ⟨fs, name, hasName⟩ := reads_printed_name
    (closing.token :: type.token :: (printed f.body.lexemes ++ rest)) named opening
  have ended : Reads returnType 0 [type.token] (printed f.body.lexemes ++ rest) f.returnType [] :=
    reads_returnType (some type) (by simp [printed, Block.lexemes, Token.ofLexeme])
  have read := reads_function keyword name (moves_parameters opening closing) ended body
  have parts : printed f.lexemes = keyword.token :: (printed f.name.lexemes ++
      ([opening.token, closing.token] ++ ([type.token] ++ printed f.body.lexemes))) := by
    simp [printed, FunctionDecl.lexemes, keyword, opening, closing, type, leafOf]
  refine ⟨fs ++ gs, ?_, ?_⟩
  · rw [parts]
    exact read
  · rw [List.append_eq_nil_iff, hasName, whole]
    rfl

theorem reads_printed_functions {fs : List FunctionDecl} (shaped : ∀ f ∈ fs, f.Shaped) :
    ∃ gs, Reads declarations 0 (printed (fs.flatMap FunctionDecl.lexemes)) [] fs gs ∧
      (gs = [] ↔ ∀ f ∈ fs, f.Whole) := by
  induction fs with
  | nil => exact ⟨[], reads_declarations_end rfl, by simp⟩
  | cons f fs ih =>
    obtain ⟨first, later⟩ := List.forall_mem_cons.mp shaped
    obtain ⟨gs, one, whole⟩ := reads_printed_function
      (printed (fs.flatMap FunctionDecl.lexemes) ++ []) first
    obtain ⟨hs, others, all⟩ := ih later
    have read := reads_declarations_next (by simp [printed, FunctionDecl.lexemes, Token.ofLexeme])
      one others
    refine ⟨gs ++ hs, ?_, ?_⟩
    · simpa [printed] using read
    · rw [List.append_eq_nil_iff, whole, all, List.forall_mem_cons]

end Rereading

end Parser

theorem parse_printed {p : Program} (shaped : p.Shaped) :
    (parse p.toText).1 = p ∧ ((parse p.toText).2 = [] ↔ p.Whole) := by
  obtain ⟨fs, read, whole⟩ := Parser.reads_printed_functions shaped
  have scanned : lexemes p.toText = p.declarations.flatMap FunctionDecl.lexemes :=
    lexemes_functions shaped
  rw [← scanned] at read
  obtain ⟨same, errors⟩ := parse_of_lexemes read
  refine ⟨same, ?_⟩
  rw [← List.map_eq_nil_iff, errors, whole]
  rfl

/-- Parsing gives programs of the parser's shape, and printing such a program and parsing the
text gives it back; errors return just where a piece was lost. -/
theorem parse_inverts_printing :
    (∀ text, (parse text).1.Shaped) ∧
      ∀ p : Program, p.Shaped →
        (parse p.toText).1 = p ∧ ((parse p.toText).2 = [] ↔ p.Whole) :=
  ⟨parse_shaped, fun _ shaped => parse_printed shaped⟩

def Program.damaged : Program :=
  let great : Expression := .int ⟨0, "9223372036854775808".toList⟩
  ⟨[⟨⟨[]⟩, .void, ⟨[.assignment ⟨⟨"x".toList⟩, .missing⟩, .ret ⟨great⟩]⟩⟩]⟩

theorem parse_inverts_printing_damaged :
    Program.damaged.Shaped ∧ (parse Program.damaged.toText).1 = Program.damaged ∧
      (parse Program.damaged.toText).2 ≠ [] := by
  have shaped : Program.damaged.Shaped := by decide +kernel
  obtain ⟨same, errors⟩ := parse_inverts_printing.2 Program.damaged shaped
  have broken : ¬ Program.damaged.Whole := by decide +kernel
  exact ⟨shaped, same, fun none => broken (errors.mp none)⟩

end Minilang
