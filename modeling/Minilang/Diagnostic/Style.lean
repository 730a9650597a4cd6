import Minilang.Text.Basic

namespace Minilang

inductive Color
  | black
  | red
  | green
  | yellow
  | blue
  | magenta
  | cyan
  | white
deriving DecidableEq, Repr

/-- Colors are the eight named ones. A strikethrough, colors given by number or by their parts, and a
style that keeps what was set before are left out. -/
structure Style where
  foreground : Option Color := none
  background : Option Color := none
  bold : Bool := false
  dimmed : Bool := false
  italic : Bool := false
  underlined : Bool := false
  /-- Both colors are taken from the bright half of the palette. -/
  intense : Bool := false
deriving DecidableEq, Repr

def Color.index : Color → Nat
  | .black => 0
  | .red => 1
  | .green => 2
  | .yellow => 3
  | .blue => 4
  | .magenta => 5
  | .cyan => 6
  | .white => 7

def escapeSequence (parameters : Text) : Text := '\x1b' :: '[' :: parameters ++ ['m']

def resetSequence : Text := escapeSequence ['0']

namespace Style

/-- Parameters for a color on one of two layers: 3 is the foreground and 4 the background. -/
def colorParameters (layer : Char) (intense : Bool) (color : Color) : Text :=
  if intense then layer :: '8' :: ";5;".toList ++ Text.decimal (color.index + 8)
  else layer :: Text.decimal color.index

def parameters (s : Style) : List Text :=
  (if s.bold then [['1']] else []) ++
  (if s.dimmed then [['2']] else []) ++
  (if s.italic then [['3']] else []) ++
  (if s.underlined then [['4']] else []) ++
  (s.foreground.map (colorParameters '3' s.intense)).toList ++
  (s.background.map (colorParameters '4' s.intense)).toList

/-- A style is set from scratch: whatever was set before is reset first. -/
def sequence (s : Style) : Text := resetSequence ++ s.parameters.flatMap escapeSequence

end Style

structure Config where
  contextSize : Nat := 1
  errorStyle : Style := { foreground := some .red, bold := true }
  warningStyle : Style := { foreground := some .yellow, bold := true }
  emphasis : Style := { bold := true }
  subtle : Style := { italic := true, dimmed := true }
  gutter : Text := "│".toList
  underline : Text := "^".toList
  underlineAfter : Text := "  ".toList
deriving DecidableEq, Repr

end Minilang
