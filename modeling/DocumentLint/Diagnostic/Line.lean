import DocumentLint.Diagnostic.Record
import DocumentLint.Text.Digits
import DocumentLint.Text.Fields
import DocumentLint.Text.Word

/-! # Diagnostic lines

A line such as `a.proto:3:5: 'Foo' is not defined` is a record: a location
without spaces, a space, and a reason that names a word in single quotes. The
location ends in the last two adjacent numbers between colons; the quoted
word gives the width of the columns. Any other line is none.
-/

namespace DocumentLint.Record

def number? (digits : List Char) : Option UInt32 :=
  let n := Text.digitsValue 10 digits
  if Text.isNumeral digits ∧ n < UInt32.size then some (UInt32.ofNat n) else none

/-- Adjacent fields that are both numbers, from the left. -/
def numberPairs : List (List Char) → List (UInt32 × UInt32)
  | f :: g :: rest =>
    match number? f, number? g with
    | some line, some column => (line, column) :: numberPairs (g :: rest)
    | _, _ => numberPairs (g :: rest)
  | _ => []

/-- The first and the last field are not enclosed by colons. -/
def enclosed (fields : List (List Char)) : List (List Char) := fields.tail.dropLast

def location? (cs : List Char) : Option (UInt32 × UInt32) :=
  (numberPairs (enclosed (Text.fields ':' cs))).getLast?.filter fun l => 0 < l.1

/-- The first word that stands in single quotes. -/
def token? : List Char → Option (List Char)
  | [] => none
  | '\'' :: cs =>
    let word := cs.takeWhile Text.isWord
    if word ≠ [] ∧ (cs.dropWhile Text.isWord).head? = some '\'' then some word else token? cs
  | _ :: cs => token? cs

def ofChars? (cs : List Char) : Option Record := do
  let (place, rest) ← Text.splitFirst ' ' cs
  let (line, column) ← location? place
  let reason := Text.trim rest
  let token ← token? reason
  let range ← ColumnRange.spanning? column token.length
  return { line, range, reason := String.ofList reason }

def ofLine? (line : String) : Option Record := ofChars? line.toList

end DocumentLint.Record
