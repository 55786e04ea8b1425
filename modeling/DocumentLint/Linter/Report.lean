import DocumentLint.Diagnostic.Transcript
import DocumentLint.Linter.Command

/-! # Reports of single runs

A run that exits with zero is clean. Any other end is a finding, and its
records are read from the error text; a run that never started has failed.
-/

namespace DocumentLint

/-- How a process ended: its exit code, which a killed one lacks, and what it wrote. -/
structure ProcessResult where
  code : Option Int32
  stdout : String := ""
  stderr : String := ""
  deriving DecidableEq, Repr

namespace ProcessResult

def success (r : ProcessResult) : Bool := r.code == some 0

/-- Standard error, or standard output when the former is blank. -/
def errorText (r : ProcessResult) : String :=
  if (Text.trim r.stderr.toList).isEmpty then r.stdout else r.stderr

end ProcessResult

abbrev Answer := Except LaunchFailure ProcessResult

inductive Report where
  | clean
  | findings (raw : String) (records : List Record)
  | failed (failure : LaunchFailure)
  deriving DecidableEq

namespace Report

def records : Report → List Record
  | .findings _ records => records
  | _ => []

def isClean : Report → Bool
  | .clean => true
  | _ => false

def failure? : Report → Option LaunchFailure
  | .failed failure => some failure
  | _ => none

def ofAnswer (settings : Settings) : Answer → Report
  | .error failure => .failed failure
  | .ok result =>
    if result.success then .clean
    else .findings result.errorText
      (Transcript.records result.errorText settings.trailerLines settings.severity)

/-- The report on a target, given what each command answers. -/
def ofTarget (settings : Settings) (launch : Command → Answer) (target : Path) : Report :=
  match Command.ofTarget settings target with
  | .error failure => .failed failure
  | .ok command => ofAnswer settings (launch command)

end Report

end DocumentLint
