import Minilang.Text.Basic

/-!
Diagnostics: a message and any number of snippets that point into sources. Nothing is promised of
a snippet; its source may be unknown and its span may lie anywhere.
-/
namespace Minilang

inductive Severity
  | warning
  | error
deriving DecidableEq, Repr

inductive SnippetKind
  | primary
  | secondary
deriving DecidableEq, Repr

structure Snippet where
  label : Text
  kind : SnippetKind
  source : Nat
  span : Span
deriving DecidableEq, Repr

structure Diagnostic where
  severity : Severity
  message : Option Text
  id : Option Text
  snippets : List Snippet
deriving DecidableEq, Repr

def Severity.text : Severity → Text
  | .warning => "warning".toList
  | .error => "error".toList

end Minilang
