import Minilang.Text.Emoji
import Minilang.Text.ZeroWidth

/-!
Letters that are drawn as one with what stands before them, after Unicode 15.1. A text is read from
its end, so a ligature is known by its last letter and waits for the letter before it.
-/
namespace Minilang.Text

inductive Ligature
  | alef
  | lamed (joined : Bool)
  /-- A Khmer letter goes below the one before it where a coeng stands between them. -/
  | khmerLetter
  /-- A Buginese ya across a joiner, with a vowel sign and then an a. -/
  | ya (joined : Bool)
  | vowelYa
  | tifinagh (joined : Bool)
  | joinedTifinagh
  | lisuTone
  | orkhonI (joined : Bool)
deriving DecidableEq, Repr

def isLam (c : Char) : Bool :=
  listedIn [(0x644, 0x644), (0x6B5, 0x6B8), (0x76A, 0x76A), (0x8A6, 0x8A6), (0x8C7, 0x8C7)] c

def isAlef (c : Char) : Bool :=
  listedIn [(0x622, 0x623), (0x625, 0x625), (0x627, 0x627), (0x671, 0x673), (0x675, 0x675),
    (0x773, 0x774), (0x870, 0x882)] c

def isKhmerLetter (c : Char) : Bool :=
  listedIn [(0x1780, 0x1782), (0x1784, 0x1787), (0x1789, 0x178C), (0x178E, 0x1793),
    (0x1795, 0x1798), (0x179B, 0x179D), (0x17A0, 0x17A0), (0x17A2, 0x17A2), (0x17A7, 0x17A7),
    (0x17AB, 0x17AC), (0x17AF, 0x17AF)] c

def isTifinagh (c : Char) : Bool := listedIn [(0x2D31, 0x2D65), (0x2D6F, 0x2D6F)] c

def isFirstLisuTone (c : Char) : Bool := listedIn [(0xA4F8, 0xA4FB)] c

def isSecondLisuTone (c : Char) : Bool := listedIn [(0xA4FC, 0xA4FD)] c

def coeng : Char := '\u17D2'

def tifinaghJoiner : Char := '\u2D7F'

def isTraceless (c : Char) : Bool :=
  listedIn [(0x34F, 0x34F), (0x17B4, 0x17B5), (0x180B, 0x180D), (0x180F, 0x180F),
    (0xFE00, 0xFE0F), (0xE0100, 0xE01EF)] c

namespace Ligature

def endingIn (c : Char) : Option Ligature :=
  if isAlef c then some .alef
  else if c = '\u05DC' then some (.lamed false)
  else if isKhmerLetter c then some .khmerLetter
  else if c = '\u1A10' then some (.ya false)
  else if isTifinagh c then some (.tifinagh false)
  else if isSecondLisuTone c then some .lisuTone
  else if c = Char.ofNat 0x10C03 then some (.orkhonI false)
  else none

def join : Ligature → Ligature
  | .lamed _ => .lamed true
  | .ya _ => .ya true
  | .tifinagh _ => .tifinagh true
  | .orkhonI _ => .orkhonI true
  | l => l

/--
The columns that the letter adds where the ligature takes it in, and what the two then wait for.
A letter that goes below the next one makes up for a column counted already.
-/
def takesLetter (l : Ligature) (c : Char) : Option (Int × Option Ligature) :=
  match l with
  | .alef => if isLam c then some (0, none) else none
  | .lamed true => if c = '\u05D0' then some (0, none) else none
  | .khmerLetter => if c = coeng then some (-1, none) else none
  | .ya true => if c = '\u1A17' then some (0, some .vowelYa) else none
  | .vowelYa => if c = '\u1A15' then some (0, none) else none
  | .tifinagh joined =>
    if c = tifinaghJoiner then some (1, some .joinedTifinagh)
    else if joined && isTifinagh c then some (0, none)
    else none
  | .joinedTifinagh => if isTifinagh c then some (-1, none) else none
  | .lisuTone => if isFirstLisuTone c then some (0, none) else none
  | .orkhonI true => if c = Char.ofNat 0x10C32 then some (0, none) else none
  | .lamed false | .ya false | .orkhonI false => none

/-- Marks stand between an alef and its lam, joiners and selectors between all other letters. -/
def takes (l : Ligature) (c : Char) : Option (Int × Option Ligature) :=
  if l = .alef then
    if joinsAcross c then some (0, some .alef) else l.takesLetter c
  else if c = joiner then some (0, some l.join)
  else if isTraceless c then some (0, some l)
  else l.takesLetter c

end Ligature
end Minilang.Text
