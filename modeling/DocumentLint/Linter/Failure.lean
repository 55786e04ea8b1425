import DocumentLint.Host.Fault
import DocumentLint.Path.Basic

/-! # Launch failures

A run of the linter fails to start because its program is missing, may not be
run or cannot be started, or because the target has no file name. All but the
last say that the tool itself is unavailable.
-/

namespace DocumentLint

inductive LaunchFailure where
  | notFound (binary : String)
  | permissionDenied (binary : String)
  | spawn (binary cause : String)
  | invalidTarget (path : Path)
  deriving DecidableEq, Repr

namespace LaunchFailure

def ofFault (binary : String) (fault : Host.Fault) : LaunchFailure :=
  match fault.kind with
  | .notFound => .notFound binary
  | .permissionDenied => .permissionDenied binary
  | _ => .spawn binary fault.message

def message : LaunchFailure → String
  | .notFound binary => s!"linter binary '{binary}' was not found"
  | .permissionDenied binary => s!"permission denied running linter binary '{binary}'"
  | .spawn binary cause => s!"failed to run linter binary '{binary}': {cause}"
  | .invalidTarget path => s!"cannot lint {path.text}: path has no file name"

def binary? : LaunchFailure → Option String
  | .notFound binary | .permissionDenied binary | .spawn binary _ => some binary
  | .invalidTarget _ => none

def toolUnavailable (e : LaunchFailure) : Bool := e.binary?.isSome

end LaunchFailure

end DocumentLint
