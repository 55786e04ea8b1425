import DocumentLint.Text.Octets

/-! # The environment

Variables are kept as lines of a name, an equals sign and a value. The value
of a name is what follows it and the sign on the first line that begins so. A
value that encodes no text is not found as a text.
-/

namespace DocumentLint.Host

structure Environment where
  lines : List Octets
  deriving DecidableEq, Repr

namespace Environment

def ofPairs (pairs : List (String × String)) : Environment :=
  ⟨pairs.map fun p => ↑(p.1 ++ "=" ++ p.2)⟩

def value? (e : Environment) (name : String) : Option Octets :=
  let start := Octets.ofText (name ++ "=")
  (e.lines.find? fun line => start.bytes.isPrefixOf line.bytes).map fun line =>
    ⟨line.bytes.drop start.bytes.length⟩

def lookup (e : Environment) (name : String) : Option String := (e.value? name).bind Octets.text?

end Environment

end DocumentLint.Host
