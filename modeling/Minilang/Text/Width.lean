import Minilang.Text.Basic
import Minilang.Text.EmojiSequence
import Minilang.Text.Ligature
import Minilang.Text.Wide

/-!
How many columns a text takes on a terminal. A character takes none, one or two; an emoji takes
two, together with its selector or skin tone, and so do several that are joined, and some letters
share the columns of the letter after them. So a text is measured from its end, and what has been
read says how the character before it counts.
-/
namespace Minilang.Text

def charWidth (c : Char) : Nat :=
  if c.toNat ≤ 0xA0 then if c = '\n' then 0 else 1
  else if c = '\u17D8' then 3
  else if c = '\u17A4' then 2
  else if isZeroWidth c then 0
  else if isWide c then 2
  else 1

inductive Joint
  | free
  | ligature (l : Ligature)
  | emoji (s : EmojiSequence)
deriving DecidableEq, Repr

inductive Selector
  | text
  | picture
deriving DecidableEq, Repr

/-- The end of a text, as far as it bears on the character before it. -/
structure Ending where
  joint : Joint
  selector : Option Selector
deriving DecidableEq, Repr

namespace Joint

def ofChar (c : Char) : Joint :=
  match Ligature.endingIn c, EmojiSequence.endingIn c with
  | some l, _ => .ligature l
  | none, some s => .emoji s
  | none, none => .free

/-- A selector between two characters keeps them apart unless they are letters. -/
def acrossSelector : Joint → Joint
  | .ligature l => .ligature l
  | _ => .free

def isJoined : Joint → Bool
  | .emoji .joined | .emoji .joinedKeycap => true
  | _ => false

def takes : Joint → Char → Option (Int × Joint)
  | .free, _ => none
  | .ligature l, c => (l.takes c).map fun t => (t.1, (t.2.map .ligature).getD .free)
  | .emoji s, c => (s.takes c).map fun t => (t.1, .emoji t.2)

end Joint

namespace Ending

def ofJoint (j : Joint) : Ending := ⟨j, none⟩

def free : Ending := .ofJoint .free

def beforeJoint (c : Char) (j : Joint) : Int × Ending :=
  if c.toNat ≤ 0xA0 then (charWidth c, free)
  else if c = pictureSelector then
    (0, ⟨if j.isJoined then j else j.acrossSelector, some .picture⟩)
  else if c = textSelector then (0, ⟨j.acrossSelector, some .text⟩)
  else match j.takes c with
    | some (columns, next) => (columns, .ofJoint next)
    | none => (charWidth c, .ofJoint (.ofChar c))

def before (c : Char) (e : Ending) : Int × Ending :=
  match e.selector with
  | none => beforeJoint c e.joint
  | some .picture =>
    if heedsPictureSelector c then (if e.joint.isJoined then 0 else 2, .ofJoint (.emoji .picture))
    else beforeJoint c e.joint.acrossSelector
  | some .text =>
    if heedsTextSelector c then (1, free) else beforeJoint c e.joint.acrossSelector

end Ending

/-- The columns of a text, and its beginning as the ending of a longer one. -/
def measure : Text → Int × Ending
  | [] => (0, .free)
  | c :: cs =>
    let rest := measure cs
    let first := rest.2.before c
    (first.1 + rest.1, first.2)

def displayWidth (t : Text) : Nat := (measure t).1.toNat

end Minilang.Text
