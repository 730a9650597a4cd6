import Minilang.Proofs.Grammar
import Minilang.Proofs.Spelling

/-!
The grammar token by token. What has been read of a program comes to one of thirteen stages, and
the stage says which tokens may follow. The end of the text is a token here, behind which nothing
follows. A derived sequence runs through the stages, and from every stage there is a way to the end
of a program.
-/
namespace Minilang.Grammar

inductive Stage
  | declarations
  | name
  | opening
  | closing
  | type
  | body
  | statements
  | equals
  | value
  /-- Behind an identifier that is a value, or the name of a function that is called. -/
  | named
  | callEnd
  | semicolon
  | ended
deriving DecidableEq

namespace Stage

def follow (kind : Kind) : Stage → Option Stage
  | .declarations =>
    if kind = .keyword .fn then some .name else if kind = .eof then some .ended else none
  | .name => if kind = .ident then some .opening else none
  | .opening => if kind = .leftParen then some .closing else none
  | .closing => if kind = .rightParen then some .type else none
  | .type =>
    if kind = .ident then some .body else if kind = .leftBrace then some .statements else none
  | .body => if kind = .leftBrace then some .statements else none
  | .statements =>
    if kind = .ident then some .equals
    else if kind = .keyword .ret then some .value
    else if kind = .rightBrace then some .declarations
    else none
  | .equals => if kind = .assign then some .value else none
  | .value =>
    if kind = .ident then some .named else if kind = .int then some .semicolon else none
  | .named =>
    if kind = .leftParen then some .callEnd
    else if kind = .semicolon then some .statements
    else none
  | .callEnd => if kind = .rightParen then some .semicolon else none
  | .semicolon => if kind = .semicolon then some .statements else none
  | .ended => none

def next (s : Stage) (t : Token) : Option Stage :=
  if t.kind = .int ∧ greatest < Text.decimalValue t.text then none else s.follow t.kind

def run (s : Stage) (w : List Token) : Option Stage := w.foldlM next s

variable {s r : Stage} {t : Token} {w : List Token}

@[simp] theorem run_nil (s : Stage) : s.run [] = some s := rfl

@[simp] theorem run_cons (s : Stage) (t : Token) (w : List Token) :
    s.run (t :: w) = (s.next t).bind (·.run w) := rfl

@[simp] theorem run_append (s : Stage) (v w : List Token) :
    s.run (v ++ w) = (s.run v).bind (·.run w) := by
  simp only [run, List.foldlM_append]
  rfl

theorem next_of_ne_int (small : t.kind ≠ .int) : s.next t = s.follow t.kind := by
  simp [next, small]

theorem next_eq_none (refused : s.follow t.kind = none) : s.next t = none := by
  simp [next, refused]

@[simp] theorem next_leaf {kind : Kind} (leaf : Leaf kind) (small : kind ≠ .int) :
    s.next leaf.token = s.follow kind := by
  have off : leaf.token.kind ≠ .int := by rw [leaf.isKind]; exact small
  rw [next_of_ne_int off, leaf.isKind]

@[simp] theorem next_numeral (n : Numeral) : Stage.value.next n.token = some .semicolon := by
  have inRange : ¬ greatest < Text.decimalValue n.token.text := Nat.not_lt.mpr n.inRange
  simp [next, n.isInt, inRange, follow]

theorem run_lead (lead : Lead) : Stage.statements.run lead.yield = some .value := by
  cases lead with
  | assignment target equals => simp [Lead.yield, follow]
  | ret keyword => simp [Lead.yield, follow]

theorem run_value (e : Expression) (semicolon : Leaf .semicolon) :
    Stage.value.run (e.yield ++ [semicolon.token]) = some .statements := by
  cases e with
  | identifier name => simp [Expression.yield, follow]
  | int digits => simp [Expression.yield, follow]
  | call function opening closing => simp [Expression.yield, follow]

theorem run_statement (s : Statement) : Stage.statements.run s.yield = some .statements := by
  rw [Statement.yield, run_append, run_lead, Option.bind_some, run_value]

theorem run_statements (ss : List Statement) :
    Stage.statements.run (ss.flatMap Statement.yield) = some .statements := by
  induction ss with
  | nil => rfl
  | cons s ss ih => simp [run_statement, ih]

theorem run_typed_block (type : Option (Leaf .ident)) (b : Block) :
    Stage.type.run (typeYield type ++ b.yield) = some .declarations := by
  cases type with
  | none => simp [typeYield, Block.yield, follow, run_statements]
  | some name => simp [typeYield, Block.yield, follow, run_statements]

theorem run_function (f : Function) : Stage.declarations.run f.yield = some .declarations := by
  have rest := run_typed_block f.type f.body
  rw [Function.yield, List.append_assoc]
  simpa [follow] using rest

theorem run_program (d : Program) : Stage.declarations.run d.yield = some .declarations := by
  obtain ⟨fs⟩ := d
  rw [Program.yield]
  induction fs with
  | nil => rfl
  | cons f fs ih => simp [run_function, ih]

theorem next_ne_ended (more : t.kind ≠ .eof) : s.next t ≠ some .ended := by
  unfold next
  split
  · simp
  · cases s <;> grind [follow]

theorem run_inside (reached : s.run w = some r) (more : r ≠ .ended) : ∀ t ∈ w, t.kind ≠ .eof := by
  induction w generalizing s with
  | nil => simp
  | cons t w ih =>
    rw [run_cons, Option.bind_eq_some_iff] at reached
    obtain ⟨q, first, later⟩ := reached
    refine List.forall_mem_cons.mpr ⟨?_, ih later⟩
    intro ending
    have here : s.next t = s.follow .eof := by rw [next_of_ne_int (by simp [ending]), ending]
    rw [here] at first
    -- only the stage that is behind everything follows, and nothing leads out of it
    obtain rfl : q = .ended := by cases s <;> simp_all [follow]
    cases w with
    | nil => exact more (by simpa using later.symm)
    | cons u w => simp [next, follow] at later

/-- The shortest way to the end of a program. -/
def finish : Stage → List Kind
  | .declarations | .ended => []
  | .name => [.ident, .leftParen, .rightParen, .leftBrace, .rightBrace]
  | .opening => [.leftParen, .rightParen, .leftBrace, .rightBrace]
  | .closing => [.rightParen, .leftBrace, .rightBrace]
  | .type | .body => [.leftBrace, .rightBrace]
  | .statements => [.rightBrace]
  | .equals => [.assign, .ident, .semicolon, .rightBrace]
  | .value => [.ident, .semicolon, .rightBrace]
  | .named | .semicolon => [.semicolon, .rightBrace]
  | .callEnd => [.rightParen, .semicolon, .rightBrace]

def written : Kind → Text
  | .ident => "x".toList
  | .leftParen => "(".toList
  | .rightParen => ")".toList
  | .leftBrace => "\x7b".toList
  | .rightBrace => "\x7d".toList
  | .assign => "=".toList
  | .semicolon => ";".toList
  | _ => []

def completion (s : Stage) : List Token := s.finish.map fun kind => ⟨kind, written kind, .empty 0⟩

theorem run_completion (s : Stage) (more : s ≠ .ended) :
    s.run s.completion = some .declarations := by
  cases s <;> first | contradiction | rfl

theorem completion_spelled (s : Stage) : ∀ t ∈ s.completion, t.kind.Spelled t.text := by
  have name : IsName ['x'] := by decide
  cases s <;> simp [completion, finish, written, Kind.Spelled, Kind.ofPunctuation?, name]

end Stage
end Minilang.Grammar
