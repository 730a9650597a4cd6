import Minilang.Command.Run
import Minilang.Proofs.Files
import Minilang.Proofs.Locations
import Minilang.Proofs.SessionRuns

namespace Minilang.Command

variable {fetch : Text → Except ReadError ByteArray} {environment : Environment} {text : Text}

namespace Request
variable {r : Request}

/-- The text that a request is about: its input, or what the file holds in UTF-8. -/
def Obtains (r : Request) (fetch : Text → Except ReadError ByteArray) (text : Text) : Prop :=
  if r.inline then r.input = text else fetch r.input = .ok text.utf8Encode

def sourceOf (r : Request) (text : Text) : Source :=
  if r.inline then ⟨"<unnamed>".toList, none, text⟩ else ⟨r.input, some r.input, text⟩

def drawings (r : Request) (environment : Environment) (text : Text) : Text :=
  (parse text).2.flatMap fun e =>
    (e.toDiagnostic 0).render [r.sourceOf text] {} (r.coloring.applies environment)

theorem sourceOf_text (r : Request) (text : Text) : (r.sourceOf text).text = text := by
  unfold sourceOf
  split <;> rfl

theorem run_of_obtains (obtains : r.Obtains fetch text) :
    r.run environment (readText fetch) = r.runOn environment (r.sourceOf text) := by
  have source : r.source (readText fetch) = .ok (r.sourceOf text) := by
    unfold Obtains at obtains
    unfold source sourceOf
    split
    · rename_i inline
      rw [if_pos inline] at obtains
      rw [obtains]
    · rename_i file
      rw [if_neg file] at obtains
      rw [readText_eq_ok_iff.mpr obtains]
      rfl
  rw [run, source]

theorem obtains_or_unread (r : Request) (fetch : Text → Except ReadError ByteArray) :
    (∃ text, r.Obtains fetch text) ∨ ∃ e, readText fetch r.input = .error e ∧
      r.source (readText fetch) = .error e := by
  unfold Obtains source
  by_cases inline : r.inline = true
  · simp only [if_pos inline]
    exact Or.inl ⟨r.input, rfl⟩
  · simp only [if_neg inline]
    cases read : readText fetch r.input with
    | ok text => exact Or.inl ⟨text, readText_eq_ok_iff.mp read⟩
    | error e => exact Or.inr ⟨e, rfl, rfl⟩

theorem runOn_accepted {source : Source} (clean : (parse source.text).2 = []) :
    r.runOn environment source = ⟨0, r.form.print (parse source.text).1 source.text, []⟩ := by
  have parsed := Session.parseSource_parses .empty source
  have accepted := (parsed.accepted (parse source.text).1).mpr ⟨clean, rfl⟩
  rw [runOn, accepted]

theorem runOn_refused {source : Source} (faulty : (parse source.text).2 ≠ []) :
    r.runOn environment source = ⟨1, [], ((parse source.text).2.flatMap fun e =>
      (e.toDiagnostic 0).render [source] {} (r.coloring.applies environment)) ++
        "errors while parsing\n".toList⟩ := by
  have parsed := Session.parseSource_parses .empty source
  rw [runOn]
  cases result : (Session.empty.parseSource source).1 with
  | ok program => exact absurd ((parsed.accepted program).mp result).1 faulty
  | error emitted =>
    simp only [parsed.sources, parsed.diagnostics]
    simp only [Session.empty, List.nil_append, List.flatMap_map, List.length_nil]

theorem run_accepted (obtains : r.Obtains fetch text) (clean : (parse text).2 = []) :
    r.run environment (readText fetch) = ⟨0, r.form.print (parse text).1 text, []⟩ := by
  have same := r.sourceOf_text text
  rw [run_of_obtains obtains, runOn_accepted (by rw [same]; exact clean), same]

theorem run_refused (obtains : r.Obtains fetch text) (faulty : (parse text).2 ≠ []) :
    r.run environment (readText fetch) =
      ⟨1, [], r.drawings environment text ++ "errors while parsing\n".toList⟩ := by
  have same := r.sourceOf_text text
  rw [run_of_obtains obtains, runOn_refused (by rw [same]; exact faulty), same, drawings]

theorem run_unread {e : ReadError} (unread : r.source (readText fetch) = .error e) :
    r.run environment (readText fetch) = ⟨1, [], e.message ++ ['\n']⟩ := by
  rw [run, unread]

end Request

structure Answers (r : Request) (environment : Environment)
    (fetch : Text → Except ReadError ByteArray) (result : Result) : Prop where
  succeeds : result.exitCode = 0 ↔ ∃ text, r.Obtains fetch text ∧ (parse text).2 = []
  accepted : ∀ text, r.Obtains fetch text → (parse text).2 = [] →
    result = ⟨0, r.form.print (parse text).1 text, []⟩
  refused : ∀ text, r.Obtains fetch text → (parse text).2 ≠ [] →
    result = ⟨1, [], r.drawings environment text ++ "errors while parsing\n".toList⟩
  unread : (∀ text, ¬r.Obtains fetch text) → ∃ e, readText fetch r.input = .error e ∧
    '\n' ∉ e.message ∧ result = ⟨1, [], e.message ++ ['\n']⟩

/-- Two results that differ at most in how they tell locations. -/
structure Agree (locate locate' : Nat × Nat → Text) (result result' : Result) : Prop where
  exitCode : result.exitCode = result'.exitCode
  output : result.output = result'.output
  errorOutput : AlikeButLocations locate locate' result.errorOutput result'.errorOutput

theorem run_answers (plain : Plain fetch) (environment : Environment) (r : Request) :
    Answers r environment fetch (r.run environment (readText fetch)) := by
  constructor
  · constructor
    · intro success
      rcases r.obtains_or_unread fetch with ⟨text, obtains⟩ | ⟨e, -, answer⟩
      · by_contra faulty
        rw [r.run_refused obtains fun clean => faulty ⟨text, obtains, clean⟩] at success
        contradiction
      · rw [r.run_unread answer] at success
        contradiction
    · rintro ⟨text, obtains, clean⟩
      rw [r.run_accepted obtains clean]
  · intro text obtains clean
    exact r.run_accepted obtains clean
  · intro text obtains faulty
    exact r.run_refused obtains faulty
  · intro nothing
    rcases r.obtains_or_unread fetch with ⟨text, obtains⟩ | ⟨e, unread, answer⟩
    · exact absurd obtains (nothing text)
    · exact ⟨e, unread, message_of_readText plain unread, r.run_unread answer⟩

theorem modes_agree {path : Text} (held : fetch path = .ok text.utf8Encode)
    (environment : Environment) (form : Form) (coloring : Coloring) :
    Agree (Source.locationLine ⟨"<unnamed>".toList, none, text⟩ {} (coloring.applies environment))
      (Source.locationLine ⟨path, some path, text⟩ {} (coloring.applies environment))
      (Request.run ⟨text, true, form, coloring⟩ environment (readText fetch))
      (Request.run ⟨path, false, form, coloring⟩ environment (readText fetch)) := by
  have given : Request.Obtains ⟨text, true, form, coloring⟩ fetch text := rfl
  have read : Request.Obtains ⟨path, false, form, coloring⟩ fetch text := held
  by_cases clean : (parse text).2 = []
  · rw [Request.run_accepted given clean, Request.run_accepted read clean]
    exact ⟨rfl, rfl, .done⟩
  · rw [Request.run_refused given clean, Request.run_refused read clean]
    refine ⟨rfl, rfl, ?_⟩
    have drawings : AlikeButLocations
        (Source.locationLine ⟨"<unnamed>".toList, none, text⟩ {} (coloring.applies environment))
        (Source.locationLine ⟨path, some path, text⟩ {} (coloring.applies environment))
        (Request.drawings ⟨text, true, form, coloring⟩ environment text)
        (Request.drawings ⟨path, false, form, coloring⟩ environment text) := by
      have same : (Source.mk "<unnamed>".toList none text).text =
          (Source.mk path (some path) text).text := rfl
      apply AlikeButLocations.flatMap
      exact List.forall₂_same.mpr fun e _ => (e.toDiagnostic 0).render_alike same {} _
    exact drawings.append (.refl "errors while parsing".toList)

/-- A request succeeds if and only if its text is there and holds no errors. Then only the output is
written, otherwise only the error output, and that ends in one line of its own. Inline or from a file,
a text is answered the same, but for where it tells locations. -/
theorem answers_keep_to_one_channel (plain : Plain fetch) (environment : Environment) :
    (∀ r : Request, Answers r environment fetch (r.run environment (readText fetch))) ∧
    ∀ path text, fetch path = .ok text.utf8Encode → ∀ form coloring,
      Agree (Source.locationLine ⟨"<unnamed>".toList, none, text⟩ {} (coloring.applies environment))
        (Source.locationLine ⟨path, some path, text⟩ {} (coloring.applies environment))
        (Request.run ⟨text, true, form, coloring⟩ environment (readText fetch))
        (Request.run ⟨path, false, form, coloring⟩ environment (readText fetch)) := by
  constructor
  · exact run_answers plain environment
  · intro path text held form coloring
    exact modes_agree held environment form coloring

theorem answers_keep_to_one_channel_faulty_file :
    let faulty : Text := "fn f() \x7b x = 1 \x7d".toList
    let d := Directory.ofFiles [("a".toList, faulty.utf8Encode)]
    let inline : Request := ⟨faulty, true, .ast, .always⟩
    let file : Request := ⟨"a".toList, false, .ast, .always⟩
    let environment : Environment := ⟨none, none⟩
    Plain d.content ∧ d.content "a".toList = .ok faulty.utf8Encode ∧
      Answers file environment d.content (file.run environment d.read) ∧
      Agree (Source.locationLine ⟨"<unnamed>".toList, none, faulty⟩ {} true)
        (Source.locationLine ⟨"a".toList, some "a".toList, faulty⟩ {} true)
        (inline.run environment d.read) (file.run environment d.read) := by
  intro faulty d inline file environment
  have plain := d.plain
  have held : d.content "a".toList = .ok faulty.utf8Encode := by rfl
  have both := answers_keep_to_one_channel plain environment
  rw [d.read_eq]
  exact ⟨plain, held, both.1 file, both.2 "a".toList faulty held .ast .always⟩

end Minilang.Command
