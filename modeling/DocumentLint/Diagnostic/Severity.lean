import DocumentLint.Text.Blank

/-! # Severities

A severity has a name, which settings and reports use, and a label, which is
written in front of a message. Read from free text, either of them is accepted
in any case and between blanks.
-/

namespace DocumentLint

inductive Severity where
  | error
  | warning
  | information
  | hint
  deriving DecidableEq, Repr

namespace Severity

def all : List Severity := [.error, .warning, .information, .hint]

def name : Severity → String
  | .error => "error"
  | .warning => "warning"
  | .information => "information"
  | .hint => "hint"

def label : Severity → String
  | .error => "error"
  | .warning => "warning"
  | .information => "info"
  | .hint => "hint"

def ofName? (s : String) : Option Severity := all.find? fun v => v.name = s

theorem ofName?_eq_some_iff {s : String} {v : Severity} : ofName? s = some v ↔ v.name = s := by
  constructor
  · intro h
    simpa using List.find?_some h
  · rintro rfl
    cases v <;> decide

structure Unknown where
  text : String
  deriving DecidableEq, Repr

def Unknown.message (e : Unknown) : String := "unknown diagnostic severity: " ++ e.text

def parse (s : String) : Except Unknown Severity :=
  match String.ofList ((Text.trim s.toList).map Char.toLower) with
  | "error" => .ok .error
  | "warning" | "warn" => .ok .warning
  | "info" | "information" => .ok .information
  | "hint" => .ok .hint
  | _ => .error ⟨s⟩

def isError (v : Severity) : Bool := v == .error

/-- The gravest severity comes first. -/
def rank : Severity → Nat
  | .error => 0
  | .warning => 1
  | .information => 2
  | .hint => 3

def sorted (vs : List Severity) : List Severity := vs.mergeSort fun a b => a.rank ≤ b.rank

end Severity

end DocumentLint
