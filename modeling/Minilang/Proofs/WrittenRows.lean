import Mathlib.Data.List.Infix
import Minilang.Diagnostic.Render

/-!
The text of a drawing, row by row: what stands in each row, in which order, and in which style.
-/
namespace Minilang

def Piece.written (colored : Bool) (p : Piece) : Text := if colored then p.colored else p.plain

/-- A text in a style, which is set in front of the text and reset behind it. -/
def styled (colored : Bool) (style : Style) (t : Text) : Text :=
  if colored then style.sequence ++ t ++ resetSequence else t

def marginText (config : Config) (colored : Bool) (numberWidth : Nat) (number : Text) : Text :=
  styled colored config.subtle
    (List.replicate (numberWidth - number.length) ' ' ++ number ++ ' ' :: config.gutter)

def placeText (name : Text) (place : Nat × Nat) : Text :=
  name ++ ':' :: (toString place.1).toList ++ ':' :: (toString place.2).toList

def Row.written (config : Config) (colored : Bool) (severity : Severity) (source : Source)
    (numberWidth : Nat) : Row → Text
  | .location place =>
    styled colored config.subtle
      ("In ".toList ++ placeText source.name place ++
        match source.path with
        | none => []
        | some path => " (".toList ++ placeText path place ++ ")".toList) ++ ['\n']
  | .sourceLine number text =>
    marginText config colored numberWidth (toString number).toList ++
      (if text = [] then []
      else ' ' :: text.flatMap fun c => if c = '\t' then List.replicate 4 ' ' else [c]) ++ ['\n']
  | .underline offset width snippet =>
    marginText config colored numberWidth [] ++ ' ' :: List.replicate offset ' ' ++
      styled colored (config.snippetStyle severity snippet.kind)
        ((List.replicate width config.underline).flatten ++ config.underlineAfter ++
          snippet.label) ++ ['\n']

section
variable {config : Config} {colored : Bool} {source : Source} {severity : Severity}

theorem Text.decimal_eq (n : Nat) : Text.decimal n = (toString n).toList := by
  rw [Text.decimal, Nat.toString_eq_repr, Nat.repr, String.toList_ofList]

theorem locationText_eq (name : Text) (place : Nat × Nat) :
    locationText name place = placeText name place := by
  rw [locationText, placeText, Text.decimal_eq, Text.decimal_eq]

theorem written_gutter (numberWidth : Nat) (number : Text) :
    (gutterPieces config numberWidth number).flatMap (Piece.written colored) =
      marginText config colored numberWidth number := by
  cases colored <;> simp [gutterPieces, marginText, styled, Piece.written, Piece.plain,
    Piece.colored, Text.padLeft]

theorem written_line (text : Text) :
    (if text.isEmpty then [] else [Piece.text (' ' :: Text.expandTabs text)]).flatMap
        (Piece.written colored) =
      if text = [] then []
      else ' ' :: text.flatMap fun c => if c = '\t' then List.replicate 4 ' ' else [c] := by
  cases text <;> cases colored <;> simp [Piece.written, Piece.plain, Piece.colored, Text.expandTabs]

theorem written_newline : Piece.written colored newline = ['\n'] := by
  cases colored <;> rfl

theorem written_row (numberWidth : Nat) (row : Row) :
    (row.pieces config severity source numberWidth).flatMap (Piece.written colored) =
      row.written config colored severity source numberWidth := by
  cases row with
  | location place =>
    cases path : source.path <;> cases colored <;>
      simp [Row.pieces, Row.written, path, styled, locationText_eq, Piece.written, Piece.plain,
        Piece.colored, newline]
  | sourceLine number text =>
    rw [Row.pieces, Row.written, List.flatMap_append, List.flatMap_append, written_gutter,
      written_line, Text.decimal_eq, List.flatMap_singleton, written_newline]
  | underline offset width snippet =>
    rw [Row.pieces, Row.written, List.flatMap_append, written_gutter, List.append_assoc,
      List.append_assoc]
    cases colored <;> simp [styled, Piece.written, Piece.plain, Piece.colored, Text.times, newline]

theorem written_rows (numberWidth : Nat) (rows : List Row) :
    (rows.flatMap (Row.pieces config severity source numberWidth)).flatMap (Piece.written colored) =
      rows.flatMap (Row.written config colored severity source numberWidth) := by
  rw [List.flatMap_assoc]
  exact List.flatMap_congr fun row _ => written_row numberWidth row

end

namespace Diagnostic
variable {config : Config} {colored : Bool}

theorem render_eq (d : Diagnostic) (sources : Sources) (config : Config) (colored : Bool) :
    d.render sources config colored =
      (d.pieces sources config).flatMap (Piece.written colored) := by
  cases colored <;> rfl

theorem written_infix {d : Diagnostic} {sources : Sources} {source : Source} {numberWidth : Nat}
    {rows : List Row} (colored : Bool)
    (drawn : rows.flatMap (Row.pieces config d.severity source numberWidth) <:+:
      d.pieces sources config) :
    rows.flatMap (Row.written config colored d.severity source numberWidth) <:+:
      d.render sources config colored := by
  rw [render_eq, ← written_rows]
  exact drawn.flatMap _

end Diagnostic
end Minilang
