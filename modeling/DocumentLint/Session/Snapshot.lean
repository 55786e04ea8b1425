import DocumentLint.Diagnostic.Record
import DocumentLint.Path.Map
import DocumentLint.Path.Order

/-! # Snapshots

A snapshot lists the files with diagnostics: those with an error first, and
each group in the order of paths.
-/

namespace DocumentLint

structure Snapshot where
  files : List (Path × List Record)
  deriving DecidableEq

namespace Snapshot

def hasError (file : Path × List Record) : Bool := file.2.any Record.isError

def precedes (a b : Path × List Record) : Bool :=
  if hasError a == hasError b then a.1.le b.1 else hasError a

def ofMap (verdicts : PathMap (List Record)) : Snapshot := ⟨verdicts.entries.mergeSort precedes⟩

def forFile (s : Snapshot) (path : Path) : List Record :=
  ((s.files.find? fun file => file.1.Same path).map (·.2)).getD []

def isEmpty (s : Snapshot) : Bool := s.files.isEmpty

def records (s : Snapshot) : List Record := s.files.flatMap (·.2)

def total (s : Snapshot) : Nat := s.records.length

def errors (s : Snapshot) : Nat := s.records.countP Record.isError

def warnings (s : Snapshot) : Nat := s.records.countP fun r => r.severity == .warning

def status (s : Snapshot) : String :=
  if s.isEmpty then "" else s!"E:{s.errors} W:{s.warnings}"

end Snapshot

end DocumentLint
