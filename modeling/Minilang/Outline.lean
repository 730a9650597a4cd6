import Minilang.Text.Basic

namespace Minilang

inductive Bracket
  | brace
  | paren
  | square
deriving DecidableEq, Repr

inductive Outline
  | leaf (text : Text)
  | part (name : Text) (value : Outline)
  | group (head : Text) (bracket : Bracket) (items : List Outline)

namespace Bracket

def opening : Bracket → Text
  | .brace => " \x7b".toList
  | .paren => "(".toList
  | .square => "[".toList

def closing : Bracket → Text
  | .brace => "\x7d".toList
  | .paren => ")".toList
  | .square => "]".toList

/-- Between the bracket and a part on the same line. -/
def inset : Bracket → Text
  | .brace => " ".toList
  | .paren => []
  | .square => []

end Bracket

namespace Outline

def record (name : String) (parts : List (String × Outline)) : Outline :=
  .group name.toList .brace (parts.map fun p => .part p.1.toList p.2)

def wrapped (name : String) (value : Outline) : Outline := .group name.toList .paren [value]

def list (items : List Outline) : Outline := .group [] .square items

mutual

def inline : Outline → Text
  | .leaf text => text
  | .part name value => name ++ ": ".toList ++ inline value
  | .group head bracket items =>
    head ++ bracket.opening ++ bracket.inset ++ inlineItems items ++ bracket.inset ++
      bracket.closing

def inlineItems : List Outline → Text
  | [] => []
  | [item] => inline item
  | item :: next :: more => inline item ++ ", ".toList ++ inlineItems (next :: more)

end

def newline (depth : Nat) : Text := '\n' :: List.replicate (4 * depth) ' '

mutual

/-- Each part on a line of its own, four spaces deeper than the group. -/
def tall (depth : Nat) : Outline → Text
  | .leaf text => text
  | .part name value => name ++ ": ".toList ++ tall depth value
  | .group head bracket [] => head ++ bracket.opening ++ bracket.closing
  | .group head bracket (item :: more) =>
    head ++ bracket.opening ++ tallItems (depth + 1) (item :: more) ++ newline depth ++
      bracket.closing

def tallItems (depth : Nat) : List Outline → Text
  | [] => []
  | item :: more => newline depth ++ tall depth item ++ ",".toList ++ tallItems depth more

end

end Outline
end Minilang
