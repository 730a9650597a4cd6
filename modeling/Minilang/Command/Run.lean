import Minilang.Command.Arguments
import Minilang.Command.Directory
import Minilang.Diagnostic.Render
import Minilang.Session

namespace Minilang.Command

structure Result where
  exitCode : Nat
  output : Text
  errorOutput : Text
deriving DecidableEq, Repr

structure Environment where
  term : Option Text
  noColor : Option Text
deriving DecidableEq, Repr

def Environment.allowsColor (e : Environment) : Bool :=
  e.term.any (· != "dumb".toList) && e.noColor.isNone

def Coloring.applies (e : Environment) : Coloring → Bool
  | .auto => e.allowsColor
  | .always => true
  | .never => false

namespace Request

/-- The source to parse. A file is called by the path under which it was asked for. -/
def source (r : Request) (read : Text → Except ReadError Text) : Except ReadError Source :=
  if r.inline then .ok ⟨"<unnamed>".toList, none, r.input⟩
  else (read r.input).map fun text => ⟨r.input, some r.input, text⟩

def runOn (r : Request) (environment : Environment) (source : Source) : Result :=
  let parsed := Session.empty.parseSource source
  match parsed.1 with
  | .ok program => ⟨0, r.form.print program source.text, []⟩
  | .error _ =>
    let colored := r.coloring.applies environment
    ⟨1, [], parsed.2.diagnostics.flatMap
      (·.render parsed.2.sources {} colored) ++ "errors while parsing\n".toList⟩

def run (r : Request) (environment : Environment) (read : Text → Except ReadError Text) :
    Result :=
  match r.source read with
  | .error e => ⟨1, [], e.message ++ ['\n']⟩
  | .ok source => r.runOn environment source

end Request
end Minilang.Command
