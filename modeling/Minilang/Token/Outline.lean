import Minilang.Outline
import Minilang.Token

namespace Minilang

def Kind.word : Kind → String
  | .illegal => "Illegal"
  | .eof => "Eof"
  | .keyword .fn => "Fn"
  | .keyword .ret => "Return"
  | .ident => "Ident"
  | .int => "Int"
  | .plus => "Add"
  | .minus => "Sub"
  | .star => "Mul"
  | .slash => "Div"
  | .leftParen => "LParen"
  | .rightParen => "RParen"
  | .leftBrace => "LBrace"
  | .rightBrace => "RBrace"
  | .assign => "Assign"
  | .comma => "Comma"
  | .semicolon => "Semicolon"

def Kind.outline : Kind → Outline
  | .keyword k => .wrapped "Keyword" (.leaf (Kind.keyword k).word.toList)
  | k => .leaf k.word.toList

def Span.outline (s : Span) : Outline :=
  .record "Span" [("start", .leaf (Text.decimal s.start)), ("end", .leaf (Text.decimal s.stop))]

end Minilang
