import DocumentLint.Text.Utf8

/-! # Octet strings

Paths, arguments and variables are strings of octets, and need not encode a
text. Such a string is shown as a text all the same, with a replacement
character for each part that encodes none; only a text can be read back then.
-/

namespace DocumentLint

@[ext]
structure Octets where
  bytes : List UInt8
  deriving DecidableEq, Repr

namespace Octets

def ofText (s : String) : Octets := ⟨Text.Utf8.encode s⟩

instance : Coe String Octets := ⟨ofText⟩

instance : Coe (List String) (List Octets) := ⟨List.map ofText⟩

def slash : UInt8 := 0x2F

def dot : UInt8 := 0x2E

/-- The octets as they are shown. -/
def text (o : Octets) : String := Text.Utf8.decodeLossy o.bytes

def IsText (o : Octets) : Prop := ofText o.text = o

instance : DecidablePred IsText := fun o => inferInstanceAs (Decidable (ofText o.text = o))

def text? (o : Octets) : Option String := if o.IsText then some o.text else none

def isEmpty (o : Octets) : Bool := o.bytes.isEmpty

variable {o : Octets}

@[simp] theorem text_ofText (s : String) : (ofText s).text = s := Text.Utf8.decodeLossy_encode s

theorem isText_ofText (s : String) : (ofText s).IsText := congrArg ofText (text_ofText s)

theorem isText_iff : o.IsText ↔ ∃ s, o = ofText s := by
  constructor
  · intro h
    exact ⟨o.text, h.symm⟩
  · rintro ⟨s, rfl⟩
    exact isText_ofText s

end Octets

end DocumentLint
