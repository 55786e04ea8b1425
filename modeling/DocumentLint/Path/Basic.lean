import DocumentLint.Text.Fields
import DocumentLint.Text.Octets

/-! # Paths

A path keeps its octets and is read as a list of components. Two paths name the
same file when their components agree, whatever repeated separators, trailing
separators or inner `.` pieces they are written with.
-/

namespace DocumentLint

structure Path where
  ofOctets ::
  octets : Octets
  deriving DecidableEq, Repr

inductive Component where
  | root
  | here
  | up
  | name (s : Octets)
  deriving DecidableEq, Repr

/-- What a path starts from: the root, a written `.`, or neither. -/
inductive Start where
  | root
  | here
  | bare
  deriving DecidableEq, Repr

open Octets (slash dot)

namespace Component

/-- Empty pieces and `.` pieces stand for no component. -/
def ofPiece? (piece : List UInt8) : Option Component :=
  if piece = [] ∨ piece = [dot] then none
  else if piece = [dot, dot] then some .up
  else some (.name ⟨piece⟩)

end Component

namespace Start

def components : Start → List Component
  | .root => [.root]
  | .here => [.here]
  | .bare => []

end Start

namespace Path

/-- The path that is written as a text. -/
@[reducible] def mk (text : String) : Path := ⟨text⟩

/-- A path as it is shown. -/
def text (p : Path) : String := p.octets.text

def IsText (p : Path) : Prop := p.octets.IsText

instance : DecidablePred IsText := fun p => inferInstanceAs (Decidable p.octets.IsText)

@[simp] theorem text_mk (s : String) : (mk s).text = s := Octets.text_ofText s

theorem IsText.eq_mk {p : Path} (h : p.IsText) : p = mk p.text := congrArg ofOctets h.symm

/-- The start of a path, and the pieces between separators that follow it. -/
def parts (p : Path) : Start × List (List UInt8) :=
  match Text.fields slash p.octets.bytes with
  | [] :: g :: gs => (.root, g :: gs)
  | [0x2E] :: gs => (.here, gs)
  | pieces => (.bare, pieces)

def ofParts : Start × List (List UInt8) → Path
  | (.root, pieces) => ⟨⟨slash :: Text.joinFields slash pieces⟩⟩
  | (.here, pieces) => ⟨⟨Text.joinFields slash ([dot] :: pieces)⟩⟩
  | (.bare, pieces) => ⟨⟨Text.joinFields slash pieces⟩⟩

def components (p : Path) : List Component :=
  p.parts.1.components ++ p.parts.2.filterMap Component.ofPiece?

/-- Two paths name the same file. -/
def Same (p q : Path) : Prop := p.components = q.components

instance (p q : Path) : Decidable (p.Same q) := inferInstanceAs (Decidable (_ = _))

namespace Same

variable {p q r : Path}

theorem refl (p : Path) : p.Same p := rfl

theorem symm (h : p.Same q) : q.Same p := Eq.symm h

theorem trans (h₁ : p.Same q) (h₂ : q.Same r) : p.Same r := Eq.trans h₁ h₂

theorem congr_right (h : p.Same q) : r.Same p ↔ r.Same q :=
  ⟨fun h' => h'.trans h, fun h' => h'.trans h.symm⟩

end Same

def isAbsolute (p : Path) : Bool := p.parts.1 == .root

def endsInSeparator (p : Path) : Bool := p.octets.bytes.getLast? == some slash

end Path

end DocumentLint
