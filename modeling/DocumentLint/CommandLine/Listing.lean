import DocumentLint.Host.Fault
import DocumentLint.Json
import DocumentLint.Session.Snapshot

/-! # Listings

The diagnostics of a list of targets, in the order of the list. As text there
is one line for each record, and as JSON one entry for each target. Entries can
be written only for targets whose paths are texts.
-/

namespace DocumentLint

inductive Format where
  | text
  | json
  deriving DecidableEq, Repr

namespace Format

def all : List Format := [.text, .json]

def name : Format → String
  | .text => "text"
  | .json => "json"

def ofName? (s : String) : Option Format := all.find? fun f => f.name = s

/-- Whether the listing of some targets can be written to its end. -/
def CanWrite (format : Format) (targets : List Path) : Prop :=
  format = .json → ∀ p ∈ targets, p.IsText

instance (format : Format) (targets : List Path) : Decidable (format.CanWrite targets) :=
  inferInstanceAs (Decidable (format = .json → _))

/-- Why the listing of some targets breaks off, if it does. -/
def refusal? (format : Format) (targets : List Path) : Option Host.Fault :=
  if format.CanWrite targets then none else some .pathNotText

end Format

def ColumnRange.toJson (r : ColumnRange) : Json :=
  .object [("start", .number r.start.toNat), ("end", .number r.stop.toNat)]

def Record.toJson (r : Record) : Json :=
  .object
    [("line", .number r.line.toNat),
      ("range", r.range.toJson),
      ("reason", .text r.reason),
      ("severity", .text r.severity.name)]

namespace Snapshot

def textLines (s : Snapshot) (targets : List Path) : List String :=
  targets.flatMap fun path => (s.forFile path).map (Record.render path)

def entry (s : Snapshot) (path : Path) : Json :=
  .object
    [("path", .text path.text),
      ("diagnostics", .array ((s.forFile path).map Record.toJson))]

def toJson (s : Snapshot) (targets : List Path) : Json := .array (targets.map s.entry)

/-- The listing, as far as it can be written. -/
def listing (s : Snapshot) (format : Format) (targets : List Path) : String :=
  match format with
  | .text => String.join ((s.textLines targets).map (· ++ "\n"))
  | .json =>
    if Format.json.CanWrite targets then (s.toJson targets).render ++ "\n"
    else Json.renderBroken ((targets.takeWhile fun p => p.IsText).map s.entry) "path"

end Snapshot

end DocumentLint
