/-! # Digits

The value of a row of digits in a given base. Letters stand for the digits
above nine, in either case.
-/

namespace DocumentLint.Text

def digitValue (c : Char) : Nat :=
  if c.isDigit then c.toNat - 48
  else if c.isUpper then c.toNat - 55
  else c.toNat - 87

def isDigitIn (base : Nat) (c : Char) : Bool := c.isAlphanum && digitValue c < base

def digitsValue (base : Nat) (cs : List Char) : Nat :=
  cs.foldl (fun n c => base * n + digitValue c) 0

theorem digitsValue_concat (base : Nat) (cs : List Char) (c : Char) :
    digitsValue base (cs ++ [c]) = base * digitsValue base cs + digitValue c := by
  simp [digitsValue]

/-- At least one character, and decimal digits only. -/
def isNumeral (cs : List Char) : Bool := !cs.isEmpty && cs.all Char.isDigit

end DocumentLint.Text
