import Mathlib.Data.List.Basic
import Minilang.Session

namespace Minilang.Session

/-- The source is known under the next index and its syntax errors are emitted, each with a snippet in
that source and in no other. The program is given only if there are none. -/
structure Parses (s : Session) (source : Source) (result : Except ErrorsEmitted Program)
    (t : Session) : Prop where
  sources : t.sources = s.sources ++ [source]
  diagnostics : t.diagnostics =
    s.diagnostics ++ (parse source.text).2.map (·.toDiagnostic s.sources.length)
  aimed : ∀ e ∈ (parse source.text).2, (e.toDiagnostic s.sources.length).snippets ≠ [] ∧
    ∀ p ∈ (e.toDiagnostic s.sources.length).snippets, p.source = s.sources.length
  accepted : ∀ program, result = .ok program ↔
    (parse source.text).2 = [] ∧ program = (parse source.text).1

structure Reports (s : Session) (ds : List Diagnostic) (result : Except ErrorsEmitted Unit)
    (t : Session) : Prop where
  sources : t.sources = s.sources
  diagnostics : t.diagnostics = s.diagnostics ++ ds
  failed : result = .error ⟨⟩ ↔ ∃ d ∈ ds, d.severity = .error

/-- What a step is to answer, and in which session it is to end. -/
inductive Does (s : Session) : Step → Outcome → Session → Prop where
  | insert {source : Source} {t : Session} (sources : t.sources = s.sources ++ [source])
      (diagnostics : t.diagnostics = s.diagnostics) :
      Does s (.insert source) (.inserted s.sources.length) t
  | parse {source : Source} {result : Except ErrorsEmitted Program} {t : Session}
      (parsed : Parses s source result t) : Does s (.parse source) (.parsed result) t
  | report {d : Diagnostic} {result : Except ErrorsEmitted Unit} {t : Session}
      (reported : Reports s [d] result t) : Does s (.report d) (.reported result) t
  | reportAll {ds : List Diagnostic} {result : Except ErrorsEmitted Unit} {t : Session}
      (reported : Reports s ds result t) : Does s (.reportAll ds) (.reported result) t

def Step.source? : Step → Option Source
  | .insert source => some source
  | .parse source => some source
  | .report _ => none
  | .reportAll _ => none

def brought (steps : List Step) : List Source := steps.filterMap Step.source?

variable {s t : Session}

theorem emitAll_session (failed : Bool) (s : Session) (ds : List Diagnostic) :
    (emitAll failed s ds).2 = { s with diagnostics := s.diagnostics ++ ds } := by
  induction ds generalizing failed s with
  | nil => simp [emitAll]
  | cons d ds ih =>
    rw [emitAll, ih]
    simp

theorem emitAll_failed (failed : Bool) (s : Session) (ds : List Diagnostic) :
    (emitAll failed s ds).1 = true ↔ failed = true ∨ ∃ d ∈ ds, d.severity = .error := by
  induction ds generalizing failed s with
  | nil => simp [emitAll]
  | cons d ds ih =>
    rw [emitAll, ih]
    simp [or_assoc]

theorem reportAll_reports (s : Session) (ds : List Diagnostic) :
    Reports s ds (s.reportAll ds).1 (s.reportAll ds).2 := by
  have left : (s.reportAll ds).2 = { s with diagnostics := s.diagnostics ++ ds } :=
    emitAll_session false s ds
  have told := emitAll_failed false s ds
  constructor
  · rw [left]
  · rw [left]
  · rw [reportAll]
    split
    · rename_i failed
      simpa [failed] using told
    · rename_i calm
      simpa [calm] using told

theorem toDiagnostic_aimed (e : SyntaxError) (id : Nat) :
    (e.toDiagnostic id).snippets ≠ [] ∧ ∀ p ∈ (e.toDiagnostic id).snippets, p.source = id := by
  constructor
  · exact List.cons_ne_nil _ _
  · intro p member
    rw [SyntaxError.toDiagnostic] at member
    rcases List.mem_cons.mp member with rfl | second
    · rfl
    · split at second
      · rw [List.mem_singleton.mp second]
      · contradiction

theorem parseSource_parses (s : Session) (source : Source) :
    Parses s source (s.parseSource source).1 (s.parseSource source).2 := by
  let ds := (parse source.text).2.map (·.toDiagnostic s.sources.length)
  have reported := reportAll_reports (s.insert source).2 ds
  -- every syntax error is an error, so that only the empty report succeeds
  have failed : ((s.insert source).2.reportAll ds).1 = .error ⟨⟩ ↔ (parse source.text).2 ≠ [] := by
    rw [reported.failed]
    constructor
    · rintro ⟨d, member, -⟩ none
      simp [ds, none] at member
    · intro some
      obtain ⟨e, es, errors⟩ := List.exists_cons_of_ne_nil some
      exact ⟨e.toDiagnostic s.sources.length, by simp [ds, errors], rfl⟩
  have result : (s.parseSource source).1 =
      ((s.insert source).2.reportAll ds).1.map fun _ => (parse source.text).1 := rfl
  constructor
  · exact reported.sources
  · exact reported.diagnostics
  · intro e _
    exact toDiagnostic_aimed e s.sources.length
  · intro program
    rw [result]
    cases answer : ((s.insert source).2.reportAll ds).1 with
    | error emitted =>
      have faulty := failed.mp answer
      simp [Except.map, faulty]
    | ok done =>
      have clean : (parse source.text).2 = [] := by
        by_contra some
        rw [failed.mpr some] at answer
        contradiction
      simp [Except.map, clean, eq_comm]

theorem run_does (s : Session) (step : Step) : Does s step (step.run s).1 (step.run s).2 := by
  cases step with
  | insert source => exact .insert rfl rfl
  | parse source => exact .parse (parseSource_parses s source)
  | report d => exact .report (reportAll_reports s [d])
  | reportAll ds => exact .reportAll (reportAll_reports s ds)

theorem Does.sources {step : Step} {answer : Outcome} (does : Does s step answer t) :
    t.sources = s.sources ++ step.source?.toList := by
  cases does with
  | insert sources diagnostics => exact sources
  | parse parsed => exact parsed.sources
  | report reported => simpa [Step.source?] using reported.sources
  | reportAll reported => simpa [Step.source?] using reported.sources

theorem Does.diagnostics {step : Step} {answer : Outcome} (does : Does s step answer t) :
    s.diagnostics <+: t.diagnostics := by
  cases does with
  | insert sources diagnostics => exact ⟨[], by rw [diagnostics, List.append_nil]⟩
  | parse parsed => exact ⟨_, parsed.diagnostics.symm⟩
  | report reported => exact ⟨_, reported.diagnostics.symm⟩
  | reportAll reported => exact ⟨_, reported.diagnostics.symm⟩

theorem after_cons (s : Session) (step : Step) (steps : List Step) :
    s.after (step :: steps) = (step.run s).2.after steps := rfl

theorem after_append (s : Session) (steps more : List Step) :
    s.after (steps ++ more) = (s.after steps).after more := List.foldl_append

theorem after_sources (s : Session) (steps : List Step) :
    (s.after steps).sources = s.sources ++ brought steps := by
  induction steps generalizing s with
  | nil => exact (List.append_nil _).symm
  | cons step steps ih =>
    rw [after_cons, ih, (run_does s step).sources, List.append_assoc]
    cases own : step.source? <;> simp [brought, own]

theorem after_diagnostics (s : Session) (steps : List Step) :
    s.diagnostics <+: (s.after steps).diagnostics := by
  induction steps generalizing s with
  | nil => exact List.prefix_rfl
  | cons step steps ih => exact (run_does s step).diagnostics.trans (ih _)

structure StepOfRun (before : List Step) (step : Step) (later : List Step) : Prop where
  does : Does (empty.after before) step (step.run (empty.after before)).1
    (step.run (empty.after before)).2
  next : (empty.after before).sources.length = (brought before).length
  known : ∀ id : Nat, ∀ source ∈ (brought before)[id]?,
    (empty.after (before ++ step :: later)).sources[id]? = some source
  kept : ∀ source ∈ step.source?,
    (empty.after (before ++ step :: later)).sources[(brought before).length]? = some source
  unknown : ∀ id : Nat, (brought before).length ≤ id → (empty.after before).sources[id]? = none
  grown : (empty.after before).diagnostics <+:
    (empty.after (before ++ step :: later)).diagnostics

/-- Whatever is done to a session, step by step, sources keep their indices and diagnostics their
places. -/
theorem runs_only_grow (before : List Step) (step : Step) (later : List Step) :
    StepOfRun before step later := by
  have sources : ∀ steps, (empty.after steps).sources = brought steps :=
    fun steps => after_sources empty steps
  have whole : brought (before ++ step :: later) =
      brought before ++ (step.source?.toList ++ brought later) := by
    cases own : step.source? <;> simp [brought, own]
  constructor
  · exact run_does _ step
  · rw [sources]
  · intro id source here
    have inside : id < (brought before).length := (List.getElem?_eq_some_iff.mp here).1
    rw [sources, whole, List.getElem?_append_left inside]
    exact here
  · intro source own
    rw [sources, whole, List.getElem?_append_right (Nat.le_refl _), Option.mem_def.mp own]
    simp
  · intro id beyond
    rw [sources]
    exact List.getElem?_eq_none beyond
  · rw [after_append]
    exact after_diagnostics _ _

end Minilang.Session
