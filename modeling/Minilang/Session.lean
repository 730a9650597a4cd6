import Minilang.Parser.Declarations
import Minilang.Source

namespace Minilang

structure Session where
  sources : Sources
  diagnostics : List Diagnostic
deriving DecidableEq, Repr

structure ErrorsEmitted where
deriving DecidableEq, Repr

namespace Session

def empty : Session := ⟨[], []⟩

def insert (s : Session) (source : Source) : Nat × Session :=
  (s.sources.length, { s with sources := s.sources ++ [source] })

/-- Emits the diagnostics one after the other, and tells whether there was an error among them, or
one had been before. An error holds none of the others back. -/
def emitAll (failed : Bool) (s : Session) : List Diagnostic → Bool × Session
  | [] => (failed, s)
  | d :: ds =>
    emitAll (failed || d.severity == .error) { s with diagnostics := s.diagnostics ++ [d] } ds

def reportAll (s : Session) (ds : List Diagnostic) : Except ErrorsEmitted Unit × Session :=
  let done := emitAll false s ds
  (if done.1 then .error ⟨⟩ else .ok (), done.2)

def report (s : Session) (d : Diagnostic) : Except ErrorsEmitted Unit × Session :=
  s.reportAll [d]

def parseSource (s : Session) (source : Source) : Except ErrorsEmitted Program × Session :=
  let parsed := parse source.text
  let inserted := s.insert source
  let reported := inserted.2.reportAll (parsed.2.map (·.toDiagnostic inserted.1))
  (reported.1.map fun _ => parsed.1, reported.2)

inductive Step
  | insert (source : Source)
  | parse (source : Source)
  | report (diagnostic : Diagnostic)
  | reportAll (diagnostics : List Diagnostic)
deriving DecidableEq, Repr

inductive Outcome
  | inserted (source : Nat)
  | parsed (result : Except ErrorsEmitted Program)
  | reported (result : Except ErrorsEmitted Unit)

def Step.run (s : Session) : Step → Outcome × Session
  | .insert source => (.inserted (s.insert source).1, (s.insert source).2)
  | .parse source => (.parsed (s.parseSource source).1, (s.parseSource source).2)
  | .report d => (.reported (s.report d).1, (s.report d).2)
  | .reportAll ds => (.reported (s.reportAll ds).1, (s.reportAll ds).2)

def after (s : Session) (steps : List Step) : Session :=
  steps.foldl (fun s step => (step.run s).2) s

end Session
end Minilang
