import DocumentLint.Path.Basic

/-! # Joining paths

A relative path is read from another one by writing it behind, with one
separator between. Made absolute, a path loses its `.` pieces and repeated
separators, but keeps a separator at its end and two at its start.
-/

namespace DocumentLint

def Component.toPath : Component → Path
  | .root => ⟨"/"⟩
  | .here => ⟨"."⟩
  | .up => ⟨".."⟩
  | .name s => ⟨s⟩

namespace Path

open Octets (slash)

/-- An absolute path stands for itself, wherever it is read from. -/
def join (base p : Path) : Path :=
  if p.isAbsolute then p
  else if base.octets.isEmpty || base.endsInSeparator then
    ⟨⟨base.octets.bytes ++ p.octets.bytes⟩⟩
  else ⟨⟨base.octets.bytes ++ slash :: p.octets.bytes⟩⟩

/-- The components of a path behind its start, joined one by one to another path. -/
def extend (base p : Path) : Path :=
  ((p.parts.2.filterMap Component.ofPiece?).map Component.toPath).foldl join base

/-- Where an absolute path begins: exactly two separators are kept, more are one. -/
def anchor (p cwd : Path) : Path :=
  match p.octets.bytes with
  | 0x2F :: 0x2F :: 0x2F :: _ => ⟨"/"⟩
  | 0x2F :: 0x2F :: _ => ⟨"//"⟩
  | 0x2F :: _ => ⟨"/"⟩
  | _ => cwd

def absolute (p cwd : Path) : Path :=
  let path := (p.anchor cwd).extend p
  if p.endsInSeparator then path.join ⟨""⟩ else path

end Path

end DocumentLint
