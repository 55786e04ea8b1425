import DocumentLint.Path.Name
import DocumentLint.Text.Occurrence

/-! # Document languages

An editor gives each document the identifier of its language. Without one, the
extension of the file decides between the linted language and plain text.
-/

namespace DocumentLint

structure Language where
  id : String
  deriving DecidableEq, Repr

namespace Language

def ofPath (path : Path) : Language :=
  match path.extension?.bind Octets.text? with
  | some ext => if ext.toList.map Char.toLower = "proto".toList then ⟨"proto"⟩ else ⟨"plaintext"⟩
  | none => ⟨"plaintext"⟩

def hasMarker (language : Language) (marker : String) : Bool :=
  Text.occursIn marker.toList language.id.toList

end Language

end DocumentLint
