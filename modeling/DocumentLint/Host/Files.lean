import DocumentLint.Host.Fault
import DocumentLint.Path.Join

/-! # File trees

A tree holds files and directories under absolute names. A path is walked
component by component from the working directory, and every step needs a
directory to be in. Names and paths have a bounded length.
-/

namespace DocumentLint.Host

inductive Entry where
  | file (bytes : List UInt8)
  | directory
  deriving DecidableEq, Repr

/-- Entries by the names that lead to them from the root. -/
structure Files where
  cwd : List Octets
  entries : List (List Octets × Entry)
  deriving DecidableEq, Repr

namespace Files

/-- The plain names of a path. -/
def names (path : Path) : List Octets :=
  path.components.filterMap fun
    | .name s => some s
    | _ => none

/-- The absolute path of a place. -/
def pathOf (place : List Octets) : Path := .ofParts (.root, place.map (·.bytes))

/-- A tree below the working directory, which is given as an absolute path. -/
def ofPaths (cwd : Path) (entries : List (Path × Entry)) : Files where
  cwd := names cwd
  entries := entries.map fun e => (names cwd ++ names e.1, e.2)

/-- The entry under a name; whatever leads to an entry is a directory. -/
def find? (t : Files) (place : List Octets) : Option Entry :=
  match t.entries.find? fun e => e.1 == place with
  | some e => some e.2
  | none =>
    if place.isPrefixOf t.cwd || t.entries.any fun e => place.isPrefixOf e.1 then some .directory
    else none

def nameLimit : Nat := 255

def pathLimit : Nat := 4095

def enter (t : Files) (place : List Octets) (c : Component) : Except Fault (List Octets) :=
  match t.find? place, c with
  | some .directory, .root => .ok []
  | some .directory, .here => .ok place
  | some .directory, .up => .ok place.dropLast
  | some .directory, .name s =>
    if nameLimit < s.bytes.length then .error .nameTooLong
    else if (t.find? (place ++ [s])).isSome then .ok (place ++ [s])
    else .error .noSuchFile
  | some (.file _), _ => .error .notADirectory
  | none, _ => .error .noSuchFile

/-- A path whose last piece is empty or `.` insists on a directory. -/
def needsDirectory (path : Path) : Bool :=
  (path.parts.2.getLast?.map fun piece => (Component.ofPiece? piece).isNone).getD false

/-- The place that a path leads to, and what is there. -/
def resolve (t : Files) (path : Path) : Except Fault (List Octets × Entry) := do
  if 0 ∈ path.octets.bytes then throw .zeroByte
  if path.octets.isEmpty then throw .noSuchFile
  if pathLimit < path.octets.bytes.length then throw .nameTooLong
  let place ← path.components.foldlM t.enter t.cwd
  match t.find? place with
  | none => throw .noSuchFile
  | some (.file bytes) =>
    if needsDirectory path then throw .notADirectory else return (place, .file bytes)
  | some .directory => return (place, .directory)

def read (t : Files) (path : Path) : Except Fault (List UInt8) := do
  match ← t.resolve path with
  | (_, .file bytes) => return bytes
  | (_, .directory) => throw .isADirectory

end Files

end DocumentLint.Host
