import Minilang.Outline
import Minilang.Parser.Declarations
import Minilang.Text.Quoted

namespace Minilang

def Identifier.toText (i : Identifier) : Text := i.name

def IntLiteral.toText (n : IntLiteral) : Text := n.literal

def Call.toText (c : Call) : Text := c.function.toText ++ "()".toList

def Expression.toText : Expression → Text
  | .identifier i => i.toText
  | .int n => n.toText
  | .call c => c.toText
  | .missing => "<error>".toList

def Assignment.toText (a : Assignment) : Text :=
  a.target.toText ++ " = ".toList ++ a.value.toText ++ ";\n".toList

def Return.toText (r : Return) : Text := "return ".toList ++ r.value.toText ++ ";\n".toList

def Statement.toText : Statement → Text
  | .assignment a => a.toText
  | .ret r => r.toText

def Block.toText (b : Block) : Text :=
  "\x7b\n".toList ++ b.statements.flatMap Statement.toText ++ "\x7d\n".toList

def FunctionDecl.toText (f : FunctionDecl) : Text :=
  "fn ".toList ++ f.name.toText ++ "() ".toList ++ f.returnType.toText ++ " ".toList ++
    f.body.toText

def Program.toText (p : Program) : Text := p.declarations.flatMap FunctionDecl.toText

def Text.shown (t : Text) : Text := Text.quote Text.isHidden t

def Identifier.outline (i : Identifier) : Outline :=
  .record "Identifier" [("name", .leaf i.name.shown)]

def IntLiteral.outline (n : IntLiteral) : Outline :=
  .record "IntLiteral"
    [("value", .leaf (Text.signedDecimal n.value)), ("literal", .leaf n.literal.shown)]

def Call.outline (c : Call) : Outline :=
  .record "CallExpression" [("function", c.function.outline)]

def Expression.outline : Expression → Outline
  | .identifier i => .wrapped "Identifier" i.outline
  | .int n => .wrapped "Int" n.outline
  | .call c => .wrapped "Call" c.outline
  | .missing => .leaf "ParseError".toList

def Assignment.outline (a : Assignment) : Outline :=
  .record "AssignmentStatement" [("target", a.target.outline), ("value", a.value.outline)]

def Return.outline (r : Return) : Outline :=
  .record "ReturnStatement" [("value", r.value.outline)]

def Statement.outline : Statement → Outline
  | .assignment a => .wrapped "Assignment" a.outline
  | .ret r => .wrapped "Return" r.outline

def Block.outline (b : Block) : Outline :=
  .record "BlockStatement" [("statements", .list (b.statements.map Statement.outline))]

def FunctionDecl.outline (f : FunctionDecl) : Outline :=
  .record "FunctionDeclaration"
    [("name", f.name.outline), ("return_type", f.returnType.outline), ("body", f.body.outline)]

def Program.outline (p : Program) : Outline :=
  .record "Program"
    [("declarations", .list (p.declarations.map fun f => .wrapped "Function" f.outline))]

inductive Form
  | ast
  | tokens
  | debug
deriving DecidableEq, Repr

def Token.listingLine (hidden : Char → Bool) (t : Token) : Text :=
  t.kind.name ++ ' ' :: Text.quote hidden t.text ++ ['\n']

def listing (hidden : Char → Bool) (text : Text) : Text :=
  (tokens text ++ [Token.eof (Text.byteLength text)]).flatMap (Token.listingLine hidden)

def Form.print (program : Program) (source : Text) : Form → Text
  | .ast => program.toText
  | .tokens => listing Text.isHidden source
  | .debug => program.outline.tall 0 ++ ['\n']

end Minilang
