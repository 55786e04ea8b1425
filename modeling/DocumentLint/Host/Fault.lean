import DocumentLint.Host.ErrorNumber

/-! # Faults of the host system

A fault is an error number of the system, a bare kind, or a kind with words of
its own. Its kind decides how callers treat it, and its message is what they show.
-/

namespace DocumentLint.Host

inductive FaultKind where
  | notFound
  | permissionDenied
  | alreadyExists
  | invalidInput
  | invalidData
  | timedOut
  | interrupted
  | unsupported
  | outOfMemory
  | other
  deriving DecidableEq, Repr

namespace FaultKind

def name : FaultKind → String
  | .notFound => "NotFound"
  | .permissionDenied => "PermissionDenied"
  | .alreadyExists => "AlreadyExists"
  | .invalidInput => "InvalidInput"
  | .invalidData => "InvalidData"
  | .timedOut => "TimedOut"
  | .interrupted => "Interrupted"
  | .unsupported => "Unsupported"
  | .outOfMemory => "OutOfMemory"
  | .other => "Other"

def all : List FaultKind :=
  [.notFound, .permissionDenied, .alreadyExists, .invalidInput, .invalidData, .timedOut,
    .interrupted, .unsupported, .outOfMemory, .other]

def ofName? (s : String) : Option FaultKind := all.find? fun k => k.name = s

def description : FaultKind → String
  | .notFound => "entity not found"
  | .permissionDenied => "permission denied"
  | .alreadyExists => "entity already exists"
  | .invalidInput => "invalid input parameter"
  | .invalidData => "invalid data"
  | .timedOut => "timed out"
  | .interrupted => "operation interrupted"
  | .unsupported => "unsupported"
  | .outOfMemory => "out of memory"
  | .other => "other error"

end FaultKind

inductive Fault where
  | code (number : ErrorNumber)
  | bare (kind : FaultKind)
  | custom (kind : FaultKind) (message : String)
  deriving DecidableEq, Repr

namespace Fault

def kind : Fault → FaultKind
  | .code n =>
    if n = .noSuchFile then .notFound
    else if n = .notPermitted ∨ n = .denied then .permissionDenied
    else .other
  | .bare k | .custom k _ => k

def message : Fault → String
  | .code n => s!"{n.describe} (os error {n})"
  | .bare k => k.description
  | .custom _ message => message

def noSuchFile : Fault := .code .noSuchFile

def notADirectory : Fault := .code .notADirectory

def isADirectory : Fault := .code .isADirectory

def nameTooLong : Fault := .code .nameTooLong

def zeroByte : Fault := .custom .invalidInput "file name contained an unexpected NUL byte"

/-- The fault of a path that is to be written as a text and is none. -/
def pathNotText : Fault := .custom .invalidData "path contains invalid UTF-8 characters"

/-- Whether a path that meets this fault leads nowhere. -/
def meansAbsent (f : Fault) : Bool := f ∈ [noSuchFile, notADirectory, nameTooLong, zeroByte]

/-- What the attempt to read at a path tells of whether there is anything. -/
def tellsPresence {α : Type} : Except Fault α → Bool
  | .ok _ => true
  | .error f => !f.meansAbsent

end Fault

end DocumentLint.Host
