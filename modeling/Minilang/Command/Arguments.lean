import Minilang.Form

/-!
The arguments of the program. `parse INPUT` reads a program; its options may stand before or after
the input, and `--` ends them. The value of an option is judged when the next argument is accepted,
so what is wrong with that argument comes first.
-/
namespace Minilang.Command

inductive Coloring
  | auto
  | always
  | never
deriving DecidableEq, Repr

structure Request where
  input : Text
  inline : Bool
  form : Form
  coloring : Coloring
deriving DecidableEq, Repr

inductive Refusal
  | nothingGiven
  | helpWanted
  | versionWanted
  | unknownCommand
  | unknownArgument
  | missingInput
  | repeatedOption
  | badValue
  | needlessValue
deriving DecidableEq, Repr

def Refusal.exitCode : Refusal → Nat
  | .helpWanted | .versionWanted => 0
  | _ => 2

inductive Setting
  | emit
  | color
deriving DecidableEq, Repr

def Form.ofWord? (word : Text) : Option Form :=
  if word = "ast".toList then some .ast
  else if word = "tokens".toList then some .tokens
  else if word = "debug".toList then some .debug
  else none

def Coloring.ofWord? (word : Text) : Option Coloring :=
  if word = "auto".toList then some .auto
  else if word = "always".toList then some .always
  else if word = "never".toList then some .never
  else none

structure Reading where
  input : Option Text
  inline : Bool
  form : Option Form
  coloring : Option Coloring
  /-- An option that still has to be judged, with its value if that has been read. -/
  pending : Option (Setting × Option Text)
deriving DecidableEq, Repr

namespace Reading

def start : Reading := ⟨none, false, none, none, none⟩

def set (r : Reading) (setting : Setting) (value : Option Text) : Except Refusal Reading :=
  match value with
  | none => .error .badValue
  | some word =>
    match setting with
    | .emit =>
      if r.form.isSome then .error .repeatedOption
      else match Form.ofWord? word with
        | none => .error .badValue
        | some form => .ok { r with form := some form }
    | .color =>
      if r.coloring.isSome then .error .repeatedOption
      else match Coloring.ofWord? word with
        | none => .error .badValue
        | some coloring => .ok { r with coloring := some coloring }

def settle (r : Reading) : Except Refusal Reading :=
  match r.pending with
  | none => .ok r
  | some (setting, value) => { r with pending := none }.set setting value

def setInline (r : Reading) : Except Refusal Reading := do
  let r ← r.settle
  if r.inline then .error .repeatedOption else .ok { r with inline := true }

def help (r : Reading) : Except Refusal Reading := do
  let _ ← r.settle
  .error .helpWanted

def option (r : Reading) (setting : Setting) (value : Option Text) : Except Refusal Reading := do
  let r ← r.settle
  match value with
  | none => .ok { r with pending := some (setting, none) }
  | some word => r.set setting (some word)

def operand (r : Reading) (word : Text) : Except Refusal Reading :=
  if r.input.isSome then .error .unknownArgument
  else do
    let r ← r.settle
    .ok { r with input := some word }

def long (r : Reading) (name : Text) (value : Option Text) : Except Refusal Reading :=
  if name = "emit".toList then r.option .emit value
  else if name = "color".toList then r.option .color value
  else if name = "source".toList then
    if value.isSome then .error .needlessValue else r.setInline
  else if name = "help".toList then
    if value.isSome then .error .needlessValue else r.help
  else .error .unknownArgument

def short (r : Reading) : Text → Except Refusal Reading
  | [] => .ok r
  | flag :: more =>
    if flag = 's' then do
      let r ← r.setInline
      r.short more
    else if flag = 'h' then r.help
    else .error .unknownArgument

end Reading

def longOption? (word : Text) : Option (Text × Option Text) :=
  match word with
  | '-' :: '-' :: c :: cs =>
    match (c :: cs).dropWhile (· != '=') with
    | [] => some (c :: cs, none)
    | _ :: value => some ((c :: cs).takeWhile (· != '='), some value)
  | _ => none

def shortFlags? (word : Text) : Option Text :=
  match word with
  | '-' :: c :: cs => if c = '-' then none else some (c :: cs)
  | _ => none

def terminator : Text := "--".toList

def readOperands (r : Reading) : List Text → Except Refusal Reading
  | [] => .ok r
  | word :: more => do
    let r ← r.operand word
    readOperands r more

def readWords (r : Reading) : List Text → Except Refusal Reading
  | [] => .ok r
  | word :: more =>
    if word = terminator then readOperands r more
    else match longOption? word, shortFlags? word with
      | some (name, value), _ => do
        let r ← r.long name value
        readWords r more
      | none, some flags => do
        let r ← r.short flags
        readWords r more
      | none, none =>
        match r.pending with
        | some (setting, none) => readWords { r with pending := some (setting, some word) } more
        | _ => do
          let r ← r.operand word
          readWords r more

def Reading.request (r : Reading) : Except Refusal Request :=
  match r.input with
  | none => .error .missingInput
  | some input => .ok ⟨input, r.inline, r.form.getD .ast, r.coloring.getD .auto⟩

def readParse (words : List Text) : Except Refusal Request := do
  let r ← readWords .start words
  let r ← r.settle
  r.request

def parseWord : Text := "parse".toList

def helpWord : Text := "help".toList

def readHelp : List Text → Refusal
  | [] => .helpWanted
  | [word] => if word = parseWord ∨ word = helpWord then .helpWanted else .unknownCommand
  | _ => .unknownCommand

def readLeadingOption (word : Text) : Option Refusal :=
  match longOption? word, shortFlags? word with
  | some (name, value), _ =>
    if name = "help".toList then some (if value.isSome then .needlessValue else .helpWanted)
    else if name = "version".toList then
      some (if value.isSome then .needlessValue else .versionWanted)
    else some .unknownArgument
  | none, some ('h' :: _) => some .helpWanted
  | none, some ('V' :: _) => some .versionWanted
  | none, some _ => some .unknownArgument
  | none, none => none

def readArguments : List Text → Except Refusal Request
  | [] => .error .nothingGiven
  | word :: more =>
    if word = terminator then
      match more with
      | [] => .error .nothingGiven
      | next :: _ =>
        .error (if next = parseWord ∨ next = helpWord then .unknownArgument else .unknownCommand)
    else match readLeadingOption word with
      | some refusal => .error refusal
      | none =>
        if word = parseWord then readParse more
        else if word = helpWord then .error (readHelp more)
        else .error .unknownCommand

end Minilang.Command
