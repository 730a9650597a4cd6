import Minilang.Text.Basic

namespace Minilang

inductive Keyword
  | fn
  | ret
deriving DecidableEq, Repr

inductive Kind
  | illegal
  | eof
  | keyword (word : Keyword)
  | ident
  | int
  | plus
  | minus
  | star
  | slash
  | leftParen
  | rightParen
  | leftBrace
  | rightBrace
  | assign
  | comma
  | semicolon
deriving DecidableEq, Repr

structure Token where
  kind : Kind
  text : Text
  span : Span
deriving DecidableEq, Repr

def Keyword.text : Keyword → Text
  | .fn => "fn".toList
  | .ret => "return".toList

namespace Kind

def ofWord (word : Text) : Kind :=
  if word = Keyword.fn.text then .keyword .fn
  else if word = Keyword.ret.text then .keyword .ret
  else .ident

def name : Kind → Text
  | .illegal => "illegal character".toList
  | .eof => "end of file".toList
  | .keyword .fn => "keyword `fn`".toList
  | .keyword .ret => "keyword `return`".toList
  | .ident => "identifier".toList
  | .int => "integer".toList
  | .plus => "`+`".toList
  | .minus => "`-`".toList
  | .star => "`*`".toList
  | .slash => "`/`".toList
  | .leftParen => "`(`".toList
  | .rightParen => "`)`".toList
  | .leftBrace => "`\x7b`".toList
  | .rightBrace => "`\x7d`".toList
  | .assign => "`=`".toList
  | .comma => "`,`".toList
  | .semicolon => "`;`".toList

end Kind

def Token.eof (place : Nat) : Token := ⟨.eof, [], .empty place⟩

end Minilang
