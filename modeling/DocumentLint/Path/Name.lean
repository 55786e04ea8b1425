import DocumentLint.Path.Basic

/-! # File names and directories

A path has a file name when its last component is a plain name. Its directory
is what is written in front of that name, without the separators and `.` pieces that
lead up to it.
-/

namespace DocumentLint.Path

def fileName? (p : Path) : Option Octets :=
  match p.components.getLast? with
  | some (.name s) => some s
  | _ => none

/-- The pieces up to the last one that stands for a component. -/
def trimPieces (pieces : List (List UInt8)) : List (List UInt8) :=
  (pieces.reverse.dropWhile fun piece => (Component.ofPiece? piece).isNone).reverse

/-- The path without its last component, which the root does not have. -/
def parent? (p : Path) : Option Path :=
  match p.parts.1, (trimPieces p.parts.2).reverse with
  | start, _ :: rest => some (ofParts (start, trimPieces rest.reverse))
  | .here, [] => some ⟨""⟩
  | _, [] => none

/-- What follows the last dot of the file name, unless the name begins with that dot. -/
def extension? (p : Path) : Option Octets := do
  let name ← p.fileName?
  match Text.splitFirst Octets.dot name.bytes.reverse with
  | some (_, []) => none
  | some (ext, _) => some ⟨ext.reverse⟩
  | none => none

end DocumentLint.Path
