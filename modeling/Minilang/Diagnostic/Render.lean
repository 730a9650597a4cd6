import Minilang.Diagnostic.Row
import Minilang.Diagnostic.Style

/-!
Diagnostics as terminal text. A drawing is a sequence of pieces, texts and changes of style; the
plain text of a drawing leaves the changes out.
-/
namespace Minilang

inductive Piece
  | text (text : Text)
  | style (style : Style)
  | reset
deriving DecidableEq, Repr

namespace Piece

def plain : Piece → Text
  | .text t => t
  | .style _ => []
  | .reset => []

def colored : Piece → Text
  | .text t => t
  | .style s => s.sequence
  | .reset => resetSequence

end Piece

namespace Config

def severityStyle (config : Config) : Severity → Style
  | .warning => config.warningStyle
  | .error => config.errorStyle

def snippetStyle (config : Config) (severity : Severity) : SnippetKind → Style
  | .primary => config.severityStyle severity
  | .secondary => config.emphasis

end Config

def newline : Piece := .text ['\n']

def locationText (name : Text) (place : Nat × Nat) : Text :=
  name ++ ':' :: Text.decimal place.1 ++ ':' :: Text.decimal place.2

def gutterPieces (config : Config) (numberWidth : Nat) (number : Text) : List Piece :=
  [.style config.subtle, .text (Text.padLeft numberWidth number),
    .text (' ' :: config.gutter), .reset]

def Row.pieces (config : Config) (severity : Severity) (source : Source) (numberWidth : Nat) :
    Row → List Piece
  | .location place =>
    [.style config.subtle, .text ("In ".toList ++ locationText source.name place)] ++
      (source.path.map fun path =>
        Piece.text (" (".toList ++ locationText path place ++ ")".toList)).toList ++
      [.reset, newline]
  | .sourceLine number text =>
    gutterPieces config numberWidth (Text.decimal number) ++
      (if text.isEmpty then [] else [.text (' ' :: Text.expandTabs text)]) ++ [newline]
  | .underline offset width snippet =>
    gutterPieces config numberWidth [] ++
      [.text (' ' :: List.replicate offset ' '),
        .style (config.snippetStyle severity snippet.kind),
        .text (Text.times width config.underline),
        .text (config.underlineAfter ++ snippet.label), .reset, newline]

namespace Diagnostic

def headerPieces (d : Diagnostic) (config : Config) : List Piece :=
  .style (config.severityStyle d.severity) ::
    (d.id.map fun id => Piece.text ('[' :: id ++ "] ".toList)).toList ++
    [.text (d.severity.text ++ [':']), .reset] ++
    (d.message.map fun message => Piece.text (' ' :: message)).toList ++ [newline]

def groupPieces (d : Diagnostic) (config : Config) (source : Source) (g : Group) : List Piece :=
  (g.rows source).flatMap (Row.pieces config d.severity source g.numberWidth)

/-- The whole drawing: the header, the groups of each source, and an empty line. -/
def pieces (d : Diagnostic) (sources : Sources) (config : Config) : List Piece :=
  d.headerPieces config ++
    (d.exhibits sources).flatMap
      (fun e => (e.groups config.contextSize).flatMap (d.groupPieces config e.source)) ++
    [newline]

def renderPlain (d : Diagnostic) (sources : Sources) (config : Config) : Text :=
  (d.pieces sources config).flatMap Piece.plain

def renderColored (d : Diagnostic) (sources : Sources) (config : Config) : Text :=
  (d.pieces sources config).flatMap Piece.colored

def render (d : Diagnostic) (sources : Sources) (config : Config) (colored : Bool) : Text :=
  if colored then d.renderColored sources config else d.renderPlain sources config

end Diagnostic
end Minilang
