import Minilang.Text.Basic

/-!
Directories of files, and what reading a path in one gives. A path is walked step by step, and
each step but the last has to lead to a directory.
-/
namespace Minilang.Command

inductive ReadError
  | notFound
  | isDirectory
  | notDirectory
  | nameTooLong
  | invalidEncoding
  | other (reason : Text)
deriving DecidableEq, Repr

def ReadError.message : ReadError → Text
  | .notFound => "No such file or directory (os error 2)".toList
  | .isDirectory => "Is a directory (os error 21)".toList
  | .notDirectory => "Not a directory (os error 20)".toList
  | .nameTooLong => "File name too long (os error 36)".toList
  | .invalidEncoding => "stream did not contain valid UTF-8".toList
  | .other reason => reason

def decode (bytes : ByteArray) : Except ReadError Text :=
  match String.fromUTF8? bytes with
  | some s => .ok s.toList
  | none => .error .invalidEncoding

def steps : Text → List Text
  | [] => [[]]
  | c :: cs =>
    if c = '/' then [] :: steps cs
    else match steps cs with
      | [] => [[c]]
      | step :: more => (c :: step) :: more

/-- Where a step leads, going by names alone. Those of a place outside begin with `..`. -/
def follow (names : List Text) (step : Text) : List Text :=
  if step = [] ∨ step = ".".toList then names
  else if step = "..".toList ∧ names.any (· != "..".toList) then names.dropLast
  else names ++ [step]

/-- The places on the way through the steps, the last of them in front. -/
def placesThrough (steps : List Text) : List (List Text) :=
  steps.foldl (fun places step => follow (places.headD []) step :: places) []

/-- The directories below a current one and their files, by the names that lead there. -/
structure Directory where
  directories : List (List Text)
  files : List (List Text × ByteArray)

inductive Place
  | directory (names : List Text)
  | file (bytes : ByteArray)
  | root

namespace Directory

def empty : Directory := ⟨[], []⟩

/-- The file is written last, after every directory that its path passes through is made. -/
def addFile (d : Directory) (path : Text) (bytes : ByteArray) : Directory :=
  match placesThrough (steps path) with
  | [] => d
  | file :: passed => ⟨passed ++ d.directories, (file, bytes) :: d.files⟩

def ofFiles (files : List (Text × ByteArray)) : Directory :=
  files.foldl (fun d f => d.addFile f.1 f.2) empty

def hasDirectory (d : Directory) (names : List Text) : Bool :=
  names.all (· == "..".toList) || d.directories.contains names

def lookup (d : Directory) (names : List Text) : Except ReadError Place :=
  match d.files.find? (·.1 == names) with
  | some f => .ok (.file f.2)
  | none => if d.hasDirectory names then .ok (.directory names) else .error .notFound

def maxNameLength : Nat := 255

def maxPathLength : Nat := 4095

def step (d : Directory) (place : Place) (name : Text) : Except ReadError Place :=
  match place with
  | .file _ => .error .notDirectory
  | .directory names =>
    if maxNameLength < Text.byteLength name then .error .nameTooLong
    else d.lookup (follow names name)
  | .root =>
    if follow [] name = [] ∨ name = "..".toList then .ok .root
    else .error (if maxNameLength < Text.byteLength name then .nameTooLong else .notFound)

def walk (d : Directory) (place : Place) : List Text → Except ReadError Place
  | [] => .ok place
  | name :: more =>
    match d.step place name with
    | .error e => .error e
    | .ok next => d.walk next more

def read (d : Directory) (path : Text) : Except ReadError Text :=
  if path = [] then .error .notFound
  else if maxPathLength < Text.byteLength path then .error .nameTooLong
  else
    let start : Place := if path.head? = some '/' then .root else .directory []
    match d.walk start (steps path) with
    | .error e => .error e
    | .ok (.file bytes) => decode bytes
    | .ok _ => .error .isDirectory

end Directory
end Minilang.Command
