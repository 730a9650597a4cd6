import Minilang.Text.Basic

/-!
Programs as trees. A tree is built whatever the text looks like: an expression that could not be
read is `missing`, and a function that has no name carries the empty one.
-/
namespace Minilang

structure Identifier where
  name : Text
deriving DecidableEq, Repr

/-- The literal keeps its digits as written, because they are printed again. -/
structure IntLiteral where
  value : Int
  literal : Text
deriving DecidableEq, Repr

structure Call where
  function : Identifier
deriving DecidableEq, Repr

inductive Expression
  | identifier (name : Identifier)
  | int (literal : IntLiteral)
  | call (call : Call)
  | missing
deriving DecidableEq, Repr

structure Assignment where
  target : Identifier
  value : Expression
deriving DecidableEq, Repr

structure Return where
  value : Expression
deriving DecidableEq, Repr

inductive Statement
  | assignment (statement : Assignment)
  | ret (statement : Return)
deriving DecidableEq, Repr

structure Block where
  statements : List Statement
deriving DecidableEq, Repr

structure FunctionDecl where
  name : Identifier
  returnType : Identifier
  body : Block
deriving DecidableEq, Repr

structure Program where
  declarations : List FunctionDecl
deriving DecidableEq, Repr

def Identifier.void : Identifier := ⟨"void".toList⟩

end Minilang
