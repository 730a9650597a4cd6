import Minilang.Command.Directory

namespace Minilang.Command

theorem decode_eq_ok_iff {bytes : ByteArray} {text : Text} :
    decode bytes = .ok text ↔ bytes = text.utf8Encode := by
  unfold decode String.fromUTF8?
  constructor
  · intro decoded
    split at decoded
    · rename_i s given
      split at given
      · have whole : s.toByteArray = bytes := congrArg String.toByteArray (Option.some.inj given).symm
        rw [← whole, ← Except.ok.inj decoded, String.utf8Encode_toList]
      · contradiction
    · contradiction
  · rintro rfl
    rw [dif_pos ByteArray.isValidUTF8_utf8Encode]
    exact congrArg Except.ok String.toList_ofList

def readText (fetch : Text → Except ReadError ByteArray) (path : Text) : Except ReadError Text :=
  (fetch path).bind decode

/-- What else the system says of a file is said in one line. -/
def Plain (fetch : Text → Except ReadError ByteArray) : Prop :=
  ∀ path reason, fetch path = .error (.other reason) → '\n' ∉ reason

variable {fetch : Text → Except ReadError ByteArray} {text : Text}

theorem readText_eq_ok_iff {path : Text} :
    readText fetch path = .ok text ↔ fetch path = .ok text.utf8Encode := by
  rw [readText]
  cases fetch path with
  | error e => exact iff_of_false nofun nofun
  | ok bytes =>
    rw [Except.ok.injEq, ← decode_eq_ok_iff]
    rfl

theorem error_of_readText {path : Text} {e : ReadError} (unread : readText fetch path = .error e) :
    fetch path = .error e ∨ e = .invalidEncoding := by
  rw [readText] at unread
  cases fetched : fetch path with
  | error own =>
    rw [fetched] at unread
    rw [Except.error.inj unread]
    exact Or.inl rfl
  | ok bytes =>
    rw [fetched] at unread
    change decode bytes = .error e at unread
    unfold decode at unread
    split at unread
    · contradiction
    · exact Or.inr (Except.error.inj unread).symm

theorem message_of_readText {path : Text} {e : ReadError} (plain : Plain fetch)
    (unread : readText fetch path = .error e) : '\n' ∉ e.message := by
  cases e with
  | other reason => exact plain path reason ((error_of_readText unread).resolve_right nofun)
  | notFound => decide
  | isDirectory => decide
  | notDirectory => decide
  | nameTooLong => decide
  | invalidEncoding => decide

namespace Directory

def content (d : Directory) (path : Text) : Except ReadError ByteArray :=
  if path = [] then .error .notFound
  else if maxPathLength < Text.byteLength path then .error .nameTooLong
  else
    let start : Place := if path.head? = some '/' then .root else .directory []
    match d.walk start (steps path) with
    | .error e => .error e
    | .ok (.file bytes) => .ok bytes
    | .ok _ => .error .isDirectory

theorem read_eq (d : Directory) : d.read = readText d.content := by
  funext path
  unfold read readText content
  split
  · rfl
  · split
    · rfl
    · dsimp only
      cases d.walk _ (steps path) with
      | error e => rfl
      | ok place => cases place <;> rfl

theorem lookup_plain (d : Directory) (names : List Text) (reason : Text) :
    d.lookup names ≠ .error (.other reason) := by
  unfold lookup
  split
  · nofun
  · split <;> nofun

theorem step_plain (d : Directory) (place : Place) (name reason : Text) :
    d.step place name ≠ .error (.other reason) := by
  cases place with
  | file bytes => nofun
  | directory names =>
    rw [step]
    split
    · nofun
    · exact d.lookup_plain _ reason
  | root =>
    rw [step]
    split
    · nofun
    · split <;> nofun

theorem walk_plain (d : Directory) (place : Place) (names : List Text) (reason : Text) :
    d.walk place names ≠ .error (.other reason) := by
  induction names generalizing place with
  | nil => nofun
  | cons name more ih =>
    rw [walk]
    cases taken : d.step place name with
    | error e =>
      intro same
      rw [Except.error.inj same] at taken
      exact d.step_plain place name reason taken
    | ok next => exact ih next

theorem content_plain (d : Directory) (path reason : Text) :
    d.content path ≠ .error (.other reason) := by
  unfold content
  split
  · nofun
  · split
    · nofun
    · dsimp only
      cases walked : d.walk _ (steps path) with
      | error e =>
        intro same
        rw [Except.error.inj same] at walked
        exact d.walk_plain _ _ reason walked
      | ok place => cases place <;> nofun

theorem plain (d : Directory) : Plain d.content := by
  intro path reason failed
  exact absurd failed (d.content_plain path reason)

end Directory
end Minilang.Command
