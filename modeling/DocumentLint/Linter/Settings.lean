import DocumentLint.Diagnostic.Severity
import DocumentLint.Language

/-! # Linter settings

What to run, on which documents, and how to read what it writes. Every
setting has a default.
-/

namespace DocumentLint

structure Settings where
  enabled : Bool := true
  binary : String := "protoc"
  args : List String := []
  lintOut : String := "."
  languageMarker : String := "proto"
  severity : Severity := .warning
  /-- How many lines to cut off at the end of a linter's text. -/
  trailerLines : Nat := 0
  deriving DecidableEq, Repr

namespace Settings

/-- Whether documents of a language are linted at all. -/
def accepts (settings : Settings) (language : Language) : Bool :=
  settings.enabled && language.hasMarker settings.languageMarker

end Settings

end DocumentLint
