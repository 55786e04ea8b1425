import DocumentLint.Diagnostic.ColumnRange
import DocumentLint.Diagnostic.Severity
import DocumentLint.Path.Basic

/-! # Diagnostic records

A record says what is wrong on which columns of a line. Written under a path,
it names the line and the first column only.
-/

namespace DocumentLint

structure Record where
  line : UInt32
  range : ColumnRange
  reason : String
  severity : Severity := .warning
  deriving DecidableEq

namespace Record

def isError (r : Record) : Bool := r.severity.isError

def render (path : Path) (r : Record) : String :=
  s!"{path.text}:{r.line}:{r.range.start}: {r.severity.label}: {r.reason}"

end Record

end DocumentLint
