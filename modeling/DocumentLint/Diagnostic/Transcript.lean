import DocumentLint.Diagnostic.Line

/-! # Transcripts

What a linter wrote is read line by line. A number of lines may be cut off at
the end; of the others, those that are records are kept in order, and all
receive one severity.
-/

namespace DocumentLint.Transcript

/-- One carriage return at the end belongs to the line break. -/
def dropReturn (line : List Char) : List Char :=
  if line.getLast? = some '\r' then line.dropLast else line

def lines (raw : String) : List (List Char) := (Text.fields '\n' raw.toList).map dropReturn

def records (raw : String) (trailer : Nat) (severity : Severity) : List Record :=
  let lines := lines raw
  (lines.take (lines.length - trailer)).filterMap fun line =>
    (Record.ofChars? line).map ({ · with severity })

end DocumentLint.Transcript
