import DocumentLint.Linter.Report
import DocumentLint.Path.Order

/-! # Completions

A completion tells how a scheduled run ended, and whether it was stale by
then. The files with findings are listed once each, in the order of paths.
-/

namespace DocumentLint

inductive Status where
  | clean
  | findings (count : Nat)
  | launchFailed
  deriving DecidableEq, Repr

namespace Status

def ofReport : Report → Status
  | .clean => .clean
  | .findings _ records => .findings records.length
  | .failed _ => .launchFailed

def hasFindings : Status → Bool
  | .findings _ => true
  | _ => false

theorem ofReport_eq_launchFailed_iff {r : Report} :
    ofReport r = .launchFailed ↔ ∃ failure, r = .failed failure := by
  cases r <;> simp [ofReport]

end Status

structure Completion where
  path : Path
  sequence : UInt64
  status : Status
  stale : Bool
  deriving DecidableEq, Repr

/-- Raised once, when the linter turns out to be unavailable. -/
structure Notice where
  binary : String
  message : String
  deriving DecidableEq, Repr

/-- Sorted paths, each file once, under its first spelling. -/
def Path.sortedOnce (paths : List Path) : List Path :=
  (paths.mergeSort Path.le).eraseRepsBy fun p q => p.Same q

namespace Completion

def pathsWhere (p : Status → Bool) (completions : List Completion) : List Path :=
  Path.sortedOnce ((completions.filter fun c => !c.stale && p c.status).map (·.path))

/-- Files whose run reported problems. -/
def withFindings (completions : List Completion) : List Path :=
  pathsWhere Status.hasFindings completions

/-- Files whose run reported problems of which none could be located. -/
def unlocated (completions : List Completion) : List Path :=
  pathsWhere (· == .findings 0) completions

end Completion

end DocumentLint
