import Mathlib.Data.List.Chain
import Minilang.Parser.Declarations
import Minilang.Proofs.Grammar

/-!
What the phrases of the parser read, whole or damaged. A reading holds before any tokens that
follow, at any place and after any errors, so that readings can be put one after the other.
-/
namespace Minilang

def Token.fault (t : Token) (cause : Cause) : SyntaxError := ⟨cause, t.kind, t.span⟩

namespace Parser
open Grammar (Leaf Numeral Lead)

def upNext (stop : Nat) (rest : List Token) : Token := rest.headD (.eof stop)

/-- In front of `rest` the phrase takes just the tokens `w`, gives `value` and reports `faults`. -/
def Reads {α : Type} (phrase : Parser → α × Parser) (stop : Nat) (w rest : List Token) (value : α)
    (faults : List SyntaxError) : Prop :=
  ∀ place errors, phrase ⟨w ++ rest, stop, place, errors⟩ =
    (value, ⟨rest, stop, place + w.length, errors ++ faults⟩)

def Moves (step : Parser → Parser) (stop : Nat) (w rest : List Token)
    (faults : List SyntaxError) : Prop :=
  ∀ place errors, step ⟨w ++ rest, stop, place, errors⟩ =
    ⟨rest, stop, place + w.length, errors ++ faults⟩

theorem Reads.map {α β : Type} {phrase : Parser → α × Parser} {stop : Nat} {w rest : List Token}
    {value : α} {faults : List SyntaxError} (wrap : α → β)
    (reading : Reads phrase stop w rest value faults) :
    Reads (fun p => (wrap (phrase p).1, (phrase p).2)) stop w rest (wrap value) faults := by
  intro place errors
  simp only [reading place errors]

variable {stop place : Nat} {t : Token} {w v rest : List Token} {errors fs gs hs : List SyntaxError}

@[simp] theorem upNext_nil : upNext stop [] = .eof stop := rfl

@[simp] theorem upNext_cons : upNext stop (t :: rest) = t := rfl

@[simp] theorem current_mk : (Parser.mk rest stop place errors).current = upNext stop rest := rfl

@[simp] theorem isAt_mk (kind : Kind) :
    (Parser.mk rest stop place errors).isAt kind = ((upNext stop rest).kind == kind) := rfl

@[simp] theorem isBefore_mk (kind : Kind) :
    (Parser.mk (t :: rest) stop place errors).isBefore kind = ((upNext stop rest).kind == kind) :=
  rfl

@[simp] theorem advance_mk :
    (Parser.mk (t :: rest) stop place errors).advance = ⟨rest, stop, place + 1, errors⟩ := rfl

@[simp] theorem report_mk (cause : Cause) : (Parser.mk rest stop place errors).report cause =
    ⟨rest, stop, place, errors ++ [(upNext stop rest).fault cause]⟩ := rfl

theorem moves_expect {kind : Kind} (cause : Cause) (leaf : Leaf kind) :
    Moves (expect kind cause) stop [leaf.token] rest [] := by
  intro place errors
  simp [expect, leaf.isKind]

theorem moves_expect_missing {kind : Kind} (cause : Cause) (off : (upNext stop rest).kind ≠ kind) :
    Moves (expect kind cause) stop [] rest [(upNext stop rest).fault cause] := by
  intro place errors
  simp [expect, off]

theorem reads_identifier (name : Leaf .ident) :
    Reads identifier stop [name.token] rest name.identifier [] := by
  intro place errors
  simp [identifier, name.isKind, Leaf.identifier]

theorem reads_no_identifier (off : (upNext stop rest).kind ≠ .ident) :
    Reads identifier stop [] rest ⟨[]⟩ [(upNext stop rest).fault .expectedIdentifier] := by
  intro place errors
  simp [identifier, off]

theorem reads_call (function : Leaf .ident) (opening : Leaf .leftParen)
    (closing : Moves (expect .rightParen .expectedRightParen) stop w rest fs) :
    Reads call stop (function.token :: opening.token :: w) rest ⟨function.identifier⟩ fs := by
  intro place errors
  have here : (Parser.mk (function.token :: opening.token :: w ++ rest) stop place errors).isAt
      .ident = true := by simp [function.isKind]
  have before : (Parser.mk (function.token :: opening.token :: w ++ rest) stop place errors).isBefore
      .leftParen = true := by simp [opening.isKind]
  have read := closing (place + 1 + 1) errors
  rw [call_at here before]
  simp [read, Leaf.identifier]
  omega

theorem reads_call_expression (function : Leaf .ident) (opening : Leaf .leftParen)
    (closing : Moves (expect .rightParen .expectedRightParen) stop w rest fs) :
    Reads expression stop (function.token :: opening.token :: w) rest
      (.call ⟨function.identifier⟩) fs := by
  intro place errors
  have called := reads_call function opening closing place errors
  simp only [List.cons_append] at called ⊢
  simp [expression, function.isKind, opening.isKind, called]

theorem reads_intLiteral (n : Numeral) : Reads intLiteral stop [n.token] rest n.tree [] := by
  intro place errors
  have here : (Parser.mk ([n.token] ++ rest) stop place errors).isAt .int = true := by
    simp [n.isInt]
  rw [intLiteral_inRange here n.inRange]
  simp [Numeral.tree]

theorem reads_expression (e : Grammar.Expression) (ends : e.EndsBefore (upNext stop rest)) :
    Reads expression stop e.yield rest e.tree [] := by
  cases e with
  | identifier name =>
    intro place errors
    have off : (upNext stop rest).kind ≠ .leftParen := ends
    have named : Reads identifier stop [name.token] rest name.identifier [] :=
      reads_identifier name
    simp only [Reads, List.singleton_append] at named
    simp [Grammar.Expression.yield, Grammar.Expression.tree, expression, name.isKind, off, named]
  | int n =>
    intro place errors
    have read : Reads intLiteral stop [n.token] rest n.tree [] := reads_intLiteral n
    simp only [Reads, List.singleton_append] at read
    simp [Grammar.Expression.yield, Grammar.Expression.tree, expression, n.isInt, read]
  | call function opening closing =>
    exact reads_call_expression function opening (moves_expect .expectedRightParen closing)

theorem reads_unclosed_call (function : Leaf .ident) (opening : Leaf .leftParen)
    (off : (upNext stop rest).kind ≠ .rightParen) :
    Reads expression stop [function.token, opening.token] rest (.call ⟨function.identifier⟩)
      [(upNext stop rest).fault .expectedRightParen] :=
  reads_call_expression function opening (moves_expect_missing .expectedRightParen off)

def isBoundary (kind : Kind) : Bool := kind == .semicolon || kind == .rightBrace || kind == .eof

theorem reads_no_expression (here : isBoundary (upNext stop rest).kind = true) :
    Reads expression stop [] rest .missing [(upNext stop rest).fault .expectedExpression] := by
  intro place errors
  simp only [isBoundary, Bool.or_eq_true, beq_iff_eq] at here
  rcases here with (here | here) | here <;> simp [expression, dropStray, atBoundary, here]

theorem reads_stray_expression (unfit : isBoundary t.kind = false) (noIdent : t.kind ≠ .ident)
    (noInt : t.kind ≠ .int) :
    Reads expression stop [t] rest .missing [t.fault .expectedExpression] := by
  intro place errors
  simp only [isBoundary, Bool.or_eq_false_iff, beq_eq_false_iff_ne] at unfit
  simp [expression, dropStray, atBoundary, noIdent, noInt, unfit]

theorem reads_great_int (isInt : t.kind = .int)
    (great : Grammar.greatest < Text.decimalValue t.text) :
    Reads expression stop [t] rest (.int ⟨0, t.text⟩) [t.fault .invalidIntLiteral] := by
  intro place errors
  have outOfRange : ¬ Text.decimalValue t.text ≤ maxInt := Nat.not_le.mpr great
  simp [expression, intLiteral, intValue?, isInt, outOfRange]

theorem reads_assignment (target : Leaf .ident) (equalsSign : Leaf .assign) {value : Expression}
    (valued : Reads expression stop w (v ++ rest) value fs)
    (ended : Moves semicolon stop v rest gs) :
    Reads assignment stop (target.token :: equalsSign.token :: (w ++ v)) rest
      ⟨target.identifier, value⟩ (fs ++ gs) := by
  intro place errors
  have here : (Parser.mk (target.token :: equalsSign.token :: (w ++ v) ++ rest) stop place
      errors).isAt .ident = true := by simp [target.isKind]
  have before : (Parser.mk (target.token :: equalsSign.token :: (w ++ v) ++ rest) stop place
      errors).isBefore .assign = true := by simp [equalsSign.isKind]
  have expressed := valued (place + 1 + 1) errors
  have last := ended (place + 1 + 1 + w.length) (errors ++ fs)
  rw [assignment_at here before]
  simp [expressed, last, Leaf.identifier]
  omega

theorem reads_returnStatement (keyword : Leaf (.keyword .ret)) {value : Expression}
    (valued : Reads expression stop w (v ++ rest) value fs)
    (ended : Moves semicolon stop v rest gs) :
    Reads returnStatement stop (keyword.token :: (w ++ v)) rest ⟨value⟩ (fs ++ gs) := by
  intro place errors
  have expressed := valued (place + 1) errors
  have last := ended (place + 1 + w.length) (errors ++ fs)
  simp [returnStatement, expressed, last]
  omega

theorem reads_statement (lead : Lead) {value : Expression}
    (valued : Reads expression stop w (v ++ rest) value fs)
    (ended : Moves semicolon stop v rest gs) :
    Reads statement stop (lead.yield ++ (w ++ v)) rest (some (lead.statement value)) (fs ++ gs) := by
  intro place errors
  cases lead with
  | assignment target equalsSign =>
    have read := reads_assignment target equalsSign valued ended place errors
    simp only [List.cons_append, List.append_assoc] at read
    simp [Lead.yield, Lead.statement, statement, startsStatement, target.isKind, equalsSign.isKind,
      read]
  | ret keyword =>
    have read := reads_returnStatement keyword valued ended place errors
    simp only [List.cons_append, List.append_assoc] at read
    simp [Lead.yield, Lead.statement, statement, keyword.isKind, read]

theorem moves_skipUntil {halt : Parser → Bool}
    (passes : ∀ u, u <:+ w → u ≠ [] → ∀ place errors,
      halt ⟨u ++ rest, stop, place, errors⟩ = false ∧ (upNext stop u).kind ≠ .eof)
    (halts : ∀ place errors,
      halt ⟨rest, stop, place, errors⟩ = true ∨ (upNext stop rest).kind = .eof) :
    Moves (skipUntil halt) stop w rest [] := by
  -- the test is asked in front of every suffix that is passed, and each of them is one of `t :: w`
  induction w with
  | nil =>
    intro place errors
    rw [List.nil_append, skipUntil]
    rcases halts place errors with here | here <;> simp [here]
  | cons t w ih =>
    intro place errors
    have later := ih fun u suffix => passes u (suffix.trans (List.suffix_cons t w))
    obtain ⟨off, more⟩ := passes (t :: w) List.suffix_rfl (by simp) place errors
    rw [skipUntil]
    simp only [List.cons_append, upNext_cons] at off more ⊢
    simp only [off, isAt_mk, upNext_cons, beq_eq_false_iff_ne.mpr more, Bool.or_self,
      Bool.false_eq_true, ↓reduceIte, advance_mk]
    rw [later (place + 1) errors]
    simp only [List.length_cons, Parser.mk.injEq, true_and, and_true]
    omega

/-- Tokens among which no statement begins and no block ends. -/
structure Stray (w : List Token) : Prop where
  inside : ∀ t ∈ w, t.kind ≠ .keyword .ret ∧ t.kind ≠ .rightBrace ∧ t.kind ≠ .eof
  noAssignment : w.IsChain fun a b => ¬ (a.kind = .ident ∧ b.kind = .assign)

def resumes (stop : Nat) (rest : List Token) : Bool :=
  (Parser.mk rest stop 0 []).startsStatement || (upNext stop rest).kind == .rightBrace ||
    (upNext stop rest).kind == .eof

theorem resumes_lead (lead : Lead) : resumes stop (lead.yield ++ rest) = true := by
  cases lead with
  | assignment target equalsSign =>
    simp [Lead.yield, resumes, startsStatement, target.isKind, equalsSign.isKind]
  | ret keyword => simp [Lead.yield, resumes, startsStatement, keyword.isKind]

theorem resumes_brace (closing : Leaf .rightBrace) : resumes stop (closing.token :: rest) = true := by
  simp [resumes, closing.isKind]

theorem resumes_ne {kind : Kind} (ready : resumes stop rest = true)
    (unfit : kind ≠ .keyword .ret ∧ kind ≠ .ident ∧ kind ≠ .rightBrace ∧ kind ≠ .eof) :
    (upNext stop rest).kind ≠ kind := by
  intro here
  simp [resumes, startsStatement, here, unfit] at ready

theorem startsStatement_mk (t : Token) (rest : List Token) :
    (Parser.mk (t :: rest) stop place errors).startsStatement =
      (t.kind == .keyword .ret || t.kind == .ident && (upNext stop rest).kind == .assign) := rfl

theorem stray_passes (place : Nat) (errors : List SyntaxError) (stray : Stray (t :: w))
    (ready : (upNext stop rest).kind ≠ .assign) :
    (Parser.mk (t :: (w ++ rest)) stop place errors).startsStatement = false := by
  have off := stray.inside t List.mem_cons_self
  have apart := stray.noAssignment
  rw [startsStatement_mk]
  -- behind the token stands the next stray one or, after the last of them, what follows
  cases w with
  | nil => simp [off.1, ready]
  | cons u w =>
    rw [List.isChain_cons_cons] at apart
    have different := apart.1
    simp only [List.cons_append, upNext_cons, Bool.or_eq_false_iff, Bool.and_eq_false_imp,
      beq_iff_eq, beq_eq_false_iff_ne]
    exact ⟨off.1, fun ident assign => different ⟨ident, assign⟩⟩

theorem Stray.suffix {u : List Token} (stray : Stray w) (short : u <:+ w) : Stray u :=
  ⟨fun t member => stray.inside t (short.subset member), stray.noAssignment.suffix short⟩

theorem moves_skipStatement (stray : Stray w) (ready : resumes stop rest = true) :
    Moves skipStatement stop w rest [] := by
  have follow : (upNext stop rest).kind ≠ .assign := resumes_ne ready (by decide)
  apply moves_skipUntil
  · intro u short nonempty place errors
    cases u with
    | nil => contradiction
    | cons t u =>
      have off := (stray.suffix short).inside t List.mem_cons_self
      have passed := stray_passes place errors (stray.suffix short) follow
      simp [passed, off]
  · intro place errors
    have same : (Parser.mk rest stop place errors).startsStatement =
        (Parser.mk rest stop 0 []).startsStatement := rfl
    rw [resumes, Bool.or_eq_true, beq_iff_eq] at ready
    rcases ready with ready | ready
    · exact Or.inl (by rw [same, isAt_mk]; exact ready)
    · exact Or.inr ready

theorem reads_stray (stray : Stray (t :: w)) (ready : resumes stop rest = true) :
    Reads statement stop (t :: w) rest none [t.fault .expectedStatement] := by
  intro place errors
  have off := stray.inside t List.mem_cons_self
  have passed := stray_passes place errors stray (resumes_ne ready (by decide))
  have skipped := moves_skipStatement stray ready place (errors ++ [t.fault .expectedStatement])
  simp only [List.cons_append, List.append_nil] at skipped ⊢
  simp [statement, off.1, passed, skipped]

theorem reads_statements_end
    (here : (upNext stop rest).kind = .rightBrace ∨ (upNext stop rest).kind = .eof) :
    Reads statements stop [] rest [] [] := by
  intro place errors
  rw [List.nil_append, statements]
  rcases here with here | here <;> simp [here]

theorem reads_statements_next {first : Option Statement} {more : List Statement}
    (inside : (upNext stop (w ++ (v ++ rest))).kind ≠ .rightBrace)
    (unended : (upNext stop (w ++ (v ++ rest))).kind ≠ .eof)
    (one : Reads statement stop w (v ++ rest) first fs)
    (others : Reads statements stop v rest more gs) :
    Reads statements stop (w ++ v) rest (first.toList ++ more) (fs ++ gs) := by
  intro place errors
  rw [statements, List.append_assoc]
  simp [inside, unended, one place errors, others (place + w.length) (errors ++ fs), Nat.add_assoc]

theorem lead_kind (stop : Nat) (lead : Lead) (rest : List Token) :
    (upNext stop (lead.yield ++ rest)).kind ≠ .rightBrace ∧
      (upNext stop (lead.yield ++ rest)).kind ≠ .eof := by
  cases lead with
  | assignment target equalsSign => simp [Lead.yield, target.isKind]
  | ret keyword => simp [Lead.yield, keyword.isKind]

theorem reads_statements_led (lead : Lead) {u : List Token} {value : Expression}
    {more : List Statement} (valued : Reads expression stop w (v ++ (u ++ rest)) value fs)
    (ended : Moves semicolon stop v (u ++ rest) gs) (others : Reads statements stop u rest more hs) :
    Reads statements stop (lead.yield ++ (w ++ v) ++ u) rest (lead.statement value :: more)
      (fs ++ gs ++ hs) := by
  have inside := lead_kind stop lead ((w ++ v) ++ (u ++ rest))
  rw [← List.append_assoc] at inside
  exact reads_statements_next inside.1 inside.2 (reads_statement lead valued ended) others

theorem reads_value (e : Grammar.Expression) (semicolon : Leaf .semicolon) :
    Reads expression stop e.yield ([semicolon.token] ++ rest) e.tree [] :=
  reads_expression e (e.endsBefore (by simp [semicolon.isKind]))

theorem moves_semicolon (closing : Leaf .semicolon) : Moves semicolon stop [closing.token] rest [] :=
  moves_expect .expectedSemicolon closing

theorem reads_derived_statement (s : Grammar.Statement) {more : List Statement}
    (others : Reads statements stop v rest more gs) :
    Reads statements stop (s.yield ++ v) rest (s.tree :: more) gs :=
  reads_statements_led s.lead (reads_value s.value s.semicolon) (moves_semicolon s.semicolon) others

theorem reads_statements_strayed {more : List Statement} (stray : Stray (t :: w))
    (ready : resumes stop (v ++ rest) = true) (others : Reads statements stop v rest more gs) :
    Reads statements stop (t :: w ++ v) rest more (t.fault .expectedStatement :: gs) := by
  have off := stray.inside t List.mem_cons_self
  exact reads_statements_next (w := t :: w) off.2.1 off.2.2 (reads_stray stray ready) others

theorem moves_closeBlock (closing : Leaf .rightBrace) :
    Moves closeBlock stop [closing.token] rest [] := by
  intro place errors
  simp [closeBlock, closing.isKind]

theorem moves_unclosed (ended : (upNext stop rest).kind = .eof) :
    Moves closeBlock stop [] rest [(upNext stop rest).fault .unexpectedEof] := by
  intro place errors
  simp [closeBlock, ended]

theorem reads_block {inner : List Statement} (opening : Leaf .leftBrace)
    (filled : Reads statements stop w (v ++ rest) inner fs)
    (closed : Moves closeBlock stop v rest gs) :
    Reads block stop (opening.token :: (w ++ v)) rest ⟨inner⟩ (fs ++ gs) := by
  intro place errors
  have ended := closed (place + 1 + w.length) (errors ++ fs)
  simp [block, opening.isKind, filled (place + 1) errors, ended]
  omega

theorem moves_parameters (opening : Leaf .leftParen) (closing : Leaf .rightParen) :
    Moves parameters stop [opening.token, closing.token] rest [] := by
  intro place errors
  simp [parameters, opening.isKind, closing.isKind]

theorem moves_no_parameters (off : (upNext stop rest).kind ≠ .leftParen) :
    Moves parameters stop [] rest [(upNext stop rest).fault .expectedEmptyParameterList] := by
  intro place errors
  simp [parameters, off]

def endsParameters (kind : Kind) : Bool :=
  kind == .rightParen || kind == .leftBrace || kind == .rightBrace || kind == .eof

theorem moves_filled_parameters (opening : Leaf .leftParen) (closing : Leaf .rightParen)
    (nonempty : w ≠ []) (free : ∀ t ∈ w, endsParameters t.kind = false) :
    Moves parameters stop (opening.token :: (w ++ [closing.token])) rest
      [opening.token.fault .expectedEmptyParameterList] := by
  intro place errors
  have skipped : Moves (skipUntil fun p => p.isAt .rightParen || p.isAt .leftBrace ||
      p.isAt .rightBrace) stop w (closing.token :: rest) [] := by
    apply moves_skipUntil
    · intro u short nonempty place errors
      cases u with
      | nil => contradiction
      | cons t u =>
        have off := free t (short.subset List.mem_cons_self)
        simp only [endsParameters, Bool.or_eq_false_iff, beq_eq_false_iff_ne] at off
        simp [off]
    · intro place errors
      exact Or.inl (by simp [closing.isKind])
  have reached := skipped (place + 1) (errors ++ [opening.token.fault .expectedEmptyParameterList])
  have first : (upNext stop (w ++ closing.token :: rest)).kind ≠ .rightParen := by
    cases w with
    | nil => contradiction
    | cons t w =>
      have off := free t List.mem_cons_self
      simp only [endsParameters, Bool.or_eq_false_iff, beq_eq_false_iff_ne] at off
      simp [off]
  simp [parameters, opening.isKind, first, reached, eat, closing.isKind]
  omega

theorem reads_returnType (type : Option (Leaf .ident)) (off : (upNext stop rest).kind ≠ .ident) :
    Reads returnType stop (Grammar.typeYield type) rest (Grammar.typeTree type) [] := by
  intro place errors
  cases type with
  | none => simp [Grammar.typeYield, Grammar.typeTree, returnType, off]
  | some name =>
    have named : Reads identifier stop [name.token] rest name.identifier [] :=
      reads_identifier name
    simp only [Reads, List.singleton_append] at named
    simp [Grammar.typeYield, Grammar.typeTree, returnType, name.isKind, named]

theorem type_ne_paren (type : Option (Leaf .ident)) (opening : Leaf .leftBrace) :
    (upNext stop (Grammar.typeYield type ++ opening.token :: rest)).kind ≠ .leftParen := by
  cases type with
  | none => simp [Grammar.typeYield, opening.isKind]
  | some name => simp [Grammar.typeYield, name.isKind]

theorem reads_function {a b c d : List Token} {name type : Identifier} {body : Block}
    {is : List SyntaxError} (keyword : Leaf (.keyword .fn))
    (named : Reads identifier stop a (b ++ (c ++ (d ++ rest))) name fs)
    (parameterized : Moves parameters stop b (c ++ (d ++ rest)) gs)
    (typed : Reads returnType stop c (d ++ rest) type hs)
    (filled : Reads block stop d rest body is) :
    Reads function stop (keyword.token :: (a ++ (b ++ (c ++ d)))) rest ⟨name, type, body⟩
      (fs ++ (gs ++ (hs ++ is))) := by
  intro place errors
  have first := named (place + 1) errors
  have second := parameterized (place + 1 + a.length) (errors ++ fs)
  have third := typed (place + 1 + a.length + b.length) (errors ++ fs ++ gs)
  have fourth := filled (place + 1 + a.length + b.length + c.length) (errors ++ fs ++ gs ++ hs)
  simp only [List.append_assoc] at second third fourth
  simp [function, first, second, third, fourth]
  omega

theorem reads_declarations_end (ended : (upNext stop rest).kind = .eof) :
    Reads declarations stop [] rest [] [] := by
  intro place errors
  rw [List.nil_append, declarations]
  simp [ended]

theorem reads_declarations_next {first : FunctionDecl} {more : List FunctionDecl}
    (keyword : (upNext stop (w ++ (v ++ rest))).kind = .keyword .fn)
    (one : Reads function stop w (v ++ rest) first fs)
    (others : Reads declarations stop v rest more gs) :
    Reads declarations stop (w ++ v) rest (first :: more) (fs ++ gs) := by
  intro place errors
  rw [declarations, List.append_assoc]
  simp [keyword, one place errors, others (place + w.length) (errors ++ fs), Nat.add_assoc]

theorem reads_declarations_skip {more : List FunctionDecl}
    (off : ∀ u ∈ t :: w, u.kind ≠ .keyword .fn ∧ u.kind ≠ .eof)
    (ready : (upNext stop (v ++ rest)).kind = .keyword .fn ∨ (upNext stop (v ++ rest)).kind = .eof)
    (others : Reads declarations stop v rest more gs) :
    Reads declarations stop ((t :: w) ++ v) rest more
      (t.fault .expectedTopLevelDeclaration :: gs) := by
  intro place errors
  have skipped : Moves skipToFunction stop (t :: w) (v ++ rest) [] := by
    apply moves_skipUntil
    · intro u short nonempty place errors
      cases u with
      | nil => contradiction
      | cons s u =>
        have passed := off s (short.subset List.mem_cons_self)
        simp [passed]
    · intro place errors
      simpa using ready
  have here := off t List.mem_cons_self
  have reached := skipped place (errors ++ [t.fault .expectedTopLevelDeclaration])
  have later := others (place + (t :: w).length)
    (errors ++ [t.fault .expectedTopLevelDeclaration])
  simp only [List.append_nil, List.cons_append, List.length_cons] at reached later
  rw [declarations, List.append_assoc]
  simp [here, reached, later]
  omega

theorem program_of_reads {declared : List FunctionDecl}
    (reading : Reads declarations stop w [] declared fs) :
    (ofTokens w stop).program = (⟨declared⟩, ⟨[], stop, w.length, fs⟩) := by
  have read := reading 0 []
  simp only [List.append_nil, List.nil_append, Nat.zero_add] at read
  simp [program, ofTokens, read]

theorem parse_of_reads {text : Text} {declared : List FunctionDecl} (scanned : tokens text = w)
    (reading : Reads declarations (Text.byteLength text) w [] declared fs) :
    parse text = (⟨declared⟩, fs) := by
  simp [parse, ofText, scanned, program_of_reads reading]

end Parser
end Minilang
