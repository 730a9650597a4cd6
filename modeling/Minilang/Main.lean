import Minilang.Command.Run

namespace Minilang.Command

def usage : Text :=
  ("Usage: minilang parse [OPTIONS] <INPUT>\n\n" ++
  "  -s, --source       Take INPUT itself as the program, not as the path of a file\n" ++
  "      --emit FORM    What to print: ast, tokens or debug\n" ++
  "      --color WHEN   When to color diagnostics: auto, always or never\n" ++
  "  -h, --help         Print help\n").toList

def Refusal.message : Refusal → Text
  | .nothingGiven | .helpWanted => usage
  | .versionWanted => "minilang 0.1.0\n".toList
  | .unknownCommand => "error: unknown command\n\n".toList ++ usage
  | .unknownArgument => "error: unexpected argument\n\n".toList ++ usage
  | .missingInput => "error: the input is missing\n\n".toList ++ usage
  | .repeatedOption => "error: an option is given twice\n\n".toList ++ usage
  | .badValue => "error: an option has no valid value\n\n".toList ++ usage
  | .needlessValue => "error: an option takes no value\n\n".toList ++ usage

def Refusal.isAnswer (r : Refusal) : Bool := r.exitCode == 0

def errorNumber (code : UInt32) : Nat :=
  if code.toNat < Nat.pow 2 31 then code.toNat else Nat.pow 2 32 - code.toNat

def ReadError.ofNumber (number : Nat) (reason : String) : ReadError :=
  match number with
  | 2 => .notFound
  | 20 => .notDirectory
  | 21 => .isDirectory
  | 36 => .nameTooLong
  | n => .other (reason.toList ++ " (os error ".toList ++ Text.decimal n ++ ")".toList)

def ReadError.ofSystem : IO.Error → ReadError
  | .noFileOrDirectory _ code reason => .ofNumber (errorNumber code) reason
  | .inappropriateType _ code reason => .ofNumber (errorNumber code) reason
  | .invalidArgument _ code reason => .ofNumber (errorNumber code) reason
  | .permissionDenied _ code reason => .ofNumber (errorNumber code) reason
  | e => .other (toString e).toList

def readPath (path : Text) : IO (Except ReadError Text) := do
  try
    return decode (← IO.FS.readBinFile (String.ofList path))
  catch e =>
    return .error (ReadError.ofSystem e)

def Result.write (r : Result) : IO UInt32 := do
  IO.print (String.ofList r.output)
  IO.eprint (String.ofList r.errorOutput)
  return r.exitCode.toUInt32

end Minilang.Command

open Minilang Minilang.Command

def main (arguments : List String) : IO UInt32 := do
  match readArguments (arguments.map (·.toList)) with
  | .error refusal =>
    if refusal.isAnswer then Result.write ⟨refusal.exitCode, refusal.message, []⟩
    else Result.write ⟨refusal.exitCode, [], refusal.message⟩
  | .ok request =>
    let term ← IO.getEnv "TERM"
    let noColor ← IO.getEnv "NO_COLOR"
    let text ← if request.inline then pure (.ok []) else readPath request.input
    Result.write (request.run ⟨term.map (·.toList), noColor.map (·.toList)⟩ fun _ => text)
