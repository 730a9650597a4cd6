import Mathlib.Data.List.Basic
import Minilang.Diagnostic.Style

namespace Minilang

inductive Glyph
  | char (c : Char)
  | sequence (parameters : Text)
deriving DecidableEq, Repr

def isParameter (c : Char) : Bool := c.isDigit || c == ';'

def sequenceAt? : Text → Option (Text × Text)
  | [] => none
  | c :: cs =>
    if c = '[' then
      match cs.dropWhile isParameter with
      | [] => none
      | d :: rest => if d = 'm' then some (cs.takeWhile isParameter, rest) else none
    else none

theorem sequenceAt?_length {cs : Text} {found : Text × Text} (here : sequenceAt? cs = some found) :
    found.2.length < cs.length := by
  unfold sequenceAt? at here
  split at here
  · contradiction
  · rename_i c cs
    split at here
    case isFalse => contradiction
    split at here
    · contradiction
    · rename_i d rest behind
      split at here
      case isFalse => contradiction
      obtain rfl := Option.some.inj here
      have shorter := (List.dropWhile_suffix isParameter (l := cs)).length_le
      rw [behind] at shorter
      simp only [List.length_cons] at shorter ⊢
      omega

def glyphs : Text → List Glyph
  | [] => []
  | c :: cs =>
    if c = '\x1b' then
      match _here : sequenceAt? cs with
      | some found => .sequence found.1 :: glyphs found.2
      | none => .char c :: glyphs cs
    else .char c :: glyphs cs
termination_by t => t.length
decreasing_by
  · have shorter := sequenceAt?_length (by assumption)
    simp only [List.length_cons]
    omega
  · simp
  · simp

namespace Glyph

def char? : Glyph → Option Char
  | .char c => some c
  | .sequence _ => none

def sequence? : Glyph → Option Text
  | .char _ => none
  | .sequence parameters => some parameters

/-- At every line feed and at the end, the last sequence is the reset. It is the given one as long as
there is none. -/
def Settled : Option Text → List Glyph → Prop
  | last, [] => last = some ['0']
  | last, .char c :: gs => (c = '\n' → last = some ['0']) ∧ Settled last gs
  | _, .sequence parameters :: gs => Settled (some parameters) gs

end Glyph

def withoutSequences (t : Text) : Text := (glyphs t).filterMap Glyph.char?

def lastSequence? (t : Text) : Option Text := ((glyphs t).filterMap Glyph.sequence?).getLast?

structure EndsReset (t : Text) : Prop where
  feeds : ∀ before after, t = before ++ '\n' :: after → lastSequence? before = some ['0']
  stop : lastSequence? t = some ['0']

variable {c : Char} {t cs rest parameters : Text}

theorem glyphs_plain (plain : c ≠ '\x1b') (cs : Text) : glyphs (c :: cs) = .char c :: glyphs cs := by
  rw [glyphs, if_neg plain]

theorem glyphs_escape {found : Text × Text} (here : sequenceAt? cs = some found) :
    glyphs ('\x1b' :: cs) = .sequence found.1 :: glyphs found.2 := by
  rw [glyphs, if_pos rfl]
  split
  · rename_i other same
    rw [here] at same
    rw [Option.some.inj same]
  · rename_i none
    rw [here] at none
    contradiction

theorem glyphs_lone (none : sequenceAt? cs = none) :
    glyphs ('\x1b' :: cs) = .char '\x1b' :: glyphs cs := by
  rw [glyphs, if_pos rfl]
  split
  · rename_i other same
    rw [none] at same
    contradiction
  · rfl

theorem glyphs_append (clean : '\x1b' ∉ t) (rest : Text) :
    glyphs (t ++ rest) = t.map .char ++ glyphs rest := by
  induction t with
  | nil => rfl
  | cons c cs ih =>
    rw [List.mem_cons, not_or] at clean
    rw [List.cons_append, glyphs_plain (Ne.symm clean.1), ih clean.2]
    rfl

theorem sequenceAt?_parameters (all : ∀ c ∈ parameters, isParameter c = true) (rest : Text) :
    sequenceAt? ('[' :: (parameters ++ 'm' :: rest)) = some (parameters, rest) := by
  have stop : isParameter 'm' = false := by decide
  simp [sequenceAt?, List.dropWhile_append_of_pos all, List.takeWhile_append_of_pos all, stop]

theorem glyphs_sequence (all : ∀ c ∈ parameters, isParameter c = true) (rest : Text) :
    glyphs (escapeSequence parameters ++ rest) = .sequence parameters :: glyphs rest := by
  have behind : escapeSequence parameters ++ rest =
      '\x1b' :: '[' :: (parameters ++ 'm' :: rest) := by simp [escapeSequence]
  rw [behind, glyphs_escape (sequenceAt?_parameters all rest)]

theorem takeWhile_feed (cs rest : Text) :
    (cs ++ '\n' :: rest).takeWhile isParameter = cs.takeWhile isParameter := by
  induction cs with
  | nil => rfl
  | cons c cs ih => simp only [List.cons_append, List.takeWhile_cons, ih]

theorem dropWhile_feed (cs rest : Text) :
    (cs ++ '\n' :: rest).dropWhile isParameter = cs.dropWhile isParameter ++ '\n' :: rest := by
  induction cs with
  | nil => rfl
  | cons c cs ih =>
    simp only [List.cons_append, List.dropWhile_cons, ih]
    split <;> rfl

theorem sequenceAt?_feed (cs rest : Text) : sequenceAt? (cs ++ '\n' :: rest) =
    (sequenceAt? cs).map fun found => (found.1, found.2 ++ '\n' :: rest) := by
  cases cs with
  | nil => rfl
  | cons c cs =>
    rw [List.cons_append, sequenceAt?, sequenceAt?, takeWhile_feed, dropWhile_feed]
    by_cases bracket : c = '['
    · cases cs.dropWhile isParameter with
      | nil => simp [bracket]
      | cons d ds => by_cases ends : d = 'm' <;> simp [bracket, ends]
    · simp [bracket]

theorem glyphs_feed (before after : Text) :
    glyphs (before ++ '\n' :: after) = glyphs before ++ .char '\n' :: glyphs after := by
  fun_induction glyphs before with
  | case1 => exact glyphs_plain (by decide) after
  | case2 cs found here ih =>
    have there := sequenceAt?_feed cs after
    rw [here, Option.map_some] at there
    rw [List.cons_append, glyphs_escape there, ih]
    rfl
  | case3 cs none ih =>
    have there := sequenceAt?_feed cs after
    rw [none, Option.map_none] at there
    rw [List.cons_append, glyphs_lone there, ih]
    rfl
  | case4 c cs plain ih =>
    rw [List.cons_append, glyphs_plain plain, ih]
    rfl

namespace Glyph
variable {last : Option Text} {gs hs : List Glyph}

theorem settled_chars (feeds : '\n' ∈ t → last = some ['0']) (later : Settled last gs) :
    Settled last (t.map .char ++ gs) := by
  induction t with
  | nil => exact later
  | cons c cs ih =>
    constructor
    · rintro rfl
      exact feeds List.mem_cons_self
    · exact ih fun member => feeds (List.mem_cons_of_mem c member)

theorem settled_sequences (ps : List Text) (later : ∀ last, Settled last gs) :
    Settled last (ps.map .sequence ++ gs) := by
  induction ps generalizing last with
  | nil => exact later last
  | cons p ps ih => exact ih

theorem Settled.behind (settled : Settled last (gs ++ hs)) :
    Settled ((gs.filterMap sequence?).getLast?.or last) hs := by
  induction gs generalizing last with
  | nil => exact settled
  | cons g gs ih =>
    cases g with
    | char c => exact ih settled.2
    | sequence parameters =>
      have own : Glyph.sequence? (.sequence parameters) = some parameters := rfl
      have later : Settled ((gs.filterMap sequence?).getLast?.or (some parameters)) hs := ih settled
      rw [List.filterMap_cons_some own, List.getLast?_cons]
      cases found : (gs.filterMap sequence?).getLast? <;> simpa [found] using later

end Glyph
end Minilang
