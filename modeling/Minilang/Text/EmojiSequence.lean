import Minilang.Text.Emoji

namespace Minilang.Text

/-- What the characters read so far are the end of. -/
inductive EmojiSequence
  | picture
  | tone
  | flag
  | flags
  | joined
  | joinedKeycap
  /-- One regional indicator before a joiner; more than one, of an even or odd number. -/
  | joinedFlag
  | joinedFlagsEven
  | joinedFlagsOdd
  /-- The end of a tagged flag: that many letters so far, or that many digits before letters. -/
  | tagLetters (count : Nat)
  | tagDigits (count : Nat)
deriving DecidableEq, Repr

namespace EmojiSequence

def endingIn (c : Char) : Option EmojiSequence :=
  if isRegional c then some .flag
  else if isTone c then some .tone
  else if isPicture c then some .picture
  else none

def takesJoined (c : Char) : Option (Int × EmojiSequence) :=
  if c = keycap then some (0, .joinedKeycap)
  else if isRegional c then some (1, .joinedFlag)
  else if isTone c then some (0, .tone)
  else if c = tagEnd then some (0, .tagLetters 0)
  else if isPicture c then some (0, .picture)
  else none

/-- The columns that the character adds where the sequence takes it in, and what the two are. -/
def takes (s : EmojiSequence) (c : Char) : Option (Int × EmojiSequence) :=
  match s with
  | .picture => if c = joiner then some (0, .joined) else none
  | .tone =>
    if takesTone c then some (0, .picture)
    else if c = joiner then some (0, .joined)
    else none
  | .flag => if isRegional c then some (1, .flags) else none
  | .flags =>
    if isRegional c then some (1, .flags)
    else if c = joiner then some (0, .joined)
    else none
  | .joined => takesJoined c
  | .joinedKeycap => none
  | .joinedFlag => if isRegional c then some (-1, .joinedFlagsEven) else none
  | .joinedFlagsEven =>
    if isRegional c then some (3, .joinedFlagsOdd)
    else if c = joiner then some (0, .joined)
    else none
  | .joinedFlagsOdd =>
    if isRegional c then some (-1, .joinedFlagsEven)
    else if c = joiner then some (0, .joined)
    else none
  | .tagLetters n =>
    if isTagLetter c && n < 6 then some (0, .tagLetters (n + 1))
    else if isTagDigit c && n < 5 then some (0, .tagDigits 1)
    else if c = blackFlag && 3 ≤ n then some (0, .picture)
    else none
  | .tagDigits n =>
    if isTagDigit c && n < 3 then some (0, .tagDigits (n + 1))
    else if c = blackFlag && n = 3 then some (0, .picture)
    else none

end EmojiSequence
end Minilang.Text
