import Minilang.Proofs.SessionRuns
import Minilang.Proofs.SourceUse

namespace Minilang.Session

def emitted (s : Session) (step : Step) : List Diagnostic :=
  (step.run s).2.diagnostics.drop s.diagnostics.length

def knownAt (s : Session) : Step → Sources
  | .parse source => (s.insert source).2.sources
  | .insert _ => s.sources
  | .report _ => s.sources
  | .reportAll _ => s.sources

end Minilang.Session

namespace Minilang.Diagnostic

def PointsInto (d : Diagnostic) (sources : Sources) : Prop :=
  ∀ s ∈ d.snippets, s.source < sources.length

theorem render_of_grown {d : Diagnostic} {sources sources' : Sources}
    (known : d.PointsInto sources) (grown : sources <+: sources') (config : Config)
    (colored : Bool) : d.render sources' config colored = d.render sources config colored := by
  obtain ⟨more, rfl⟩ := grown
  apply render_of_known
  intro s listed
  exact List.getElem?_append_left (known s listed)

end Minilang.Diagnostic

namespace Minilang.Session

theorem knownAt_grows (s : Session) (step : Step) : s.knownAt step <+: (step.run s).2.sources := by
  rw [(run_does s step).sources]
  cases step with
  | insert source => exact List.prefix_append _ _
  | parse source => exact List.prefix_rfl
  | report d => exact List.prefix_append _ _
  | reportAll ds => exact List.prefix_append _ _

theorem emitted_parse (s : Session) (source : Source) :
    s.emitted (.parse source) = (parse source.text).2.map (·.toDiagnostic s.sources.length) := by
  have parsed := parseSource_parses s source
  change (s.parseSource source).2.diagnostics.drop s.diagnostics.length = _
  rw [parsed.diagnostics, List.drop_left]

theorem emitted_parse_pointsInto {s : Session} {source : Source} {d : Diagnostic}
    (emitted : d ∈ s.emitted (.parse source)) : d.PointsInto (s.knownAt (.parse source)) := by
  rw [emitted_parse] at emitted
  obtain ⟨e, -, rfl⟩ := List.mem_map.mp emitted
  intro p listed
  have known : (s.knownAt (.parse source)).length = s.sources.length + 1 := List.length_append
  rw [(toDiagnostic_aimed e s.sources.length).2 p listed, known]
  exact Nat.lt_succ_self _

theorem sources_grow (s : Session) (steps : List Step) : s.sources <+: (s.after steps).sources := by
  rw [after_sources]
  exact List.prefix_append _ _

/-- What is drawn at a step of a run looks the same for the rest of the run. -/
structure Keeps (before : List Step) (step : Step) (later : List Step) : Prop where
  kept : ∀ d : Diagnostic, d.PointsInto ((empty.after before).knownAt step) →
    ∀ config colored, d.render (empty.after (before ++ step :: later)).sources config colored =
      d.render ((empty.after before).knownAt step) config colored
  parsed : ∀ source, step = .parse source → ∀ d ∈ (empty.after before).emitted step,
    d.PointsInto ((empty.after before).knownAt step)

/-- Whatever is done to a session later on, with whatever sources, a diagnostic that pointed into
known sources when it was emitted is drawn as it was drawn then. -/
theorem later_steps_keep_drawings (before : List Step) (step : Step) (later : List Step) :
    Keeps before step later := by
  constructor
  · intro d known config colored
    have grown : (empty.after before).knownAt step <+:
        (empty.after (before ++ step :: later)).sources := by
      rw [after_append, after_cons]
      exact (knownAt_grows _ step).trans (sources_grow _ later)
    exact Diagnostic.render_of_grown known grown config colored
  · rintro source rfl d emitted
    exact emitted_parse_pointsInto emitted

-- an index that was not yet handed out is not held back by anything
example :
    let early : Diagnostic := ⟨.warning, none, none, [⟨[], .primary, 0, ⟨0, 0⟩⟩]⟩
    let report : Step := .report early
    let source : Source := ⟨"a".toList, none, "x".toList⟩
    early.render (empty.after [report, .insert source]).sources {} false ≠
      early.render (empty.knownAt report) {} false := by decide +kernel

end Minilang.Session
