import Mathlib.Data.List.Induction
import DocumentLint.Path.Join
import DocumentLint.Path.Name

/-! # Directories and names

A path that ends in a component is the directory in front of it, joined with that component,
whatever separators and `.` pieces it is written with. The directory is written as nothing only
when there is nothing in front of the component.
-/

namespace DocumentLint

open Octets (slash dot)

namespace Component

theorem ofPiece?_eq_name_iff {piece : List UInt8} {s : Octets} :
    ofPiece? piece = some (.name s) ↔
      piece ≠ [] ∧ piece ≠ [dot] ∧ piece ≠ [dot, dot] ∧ piece = s.bytes := by
  rw [ofPiece?]
  split
  · next h => rcases h with rfl | rfl <;> simp
  · next h =>
    rw [not_or] at h
    split
    · next hup => simp [hup]
    · next hup => simp [h.1, h.2, hup, Octets.ext_iff]

end Component

namespace Path

open Component

variable {p base : Path} {g : List UInt8} {gs ps : List (List UInt8)} {c : Component}

/-- What the first of all pieces stands for, given the others. -/
def lead (piece : List UInt8) (others : List (List UInt8)) : List Component :=
  if piece = [] then if others = [] then [] else [.root]
  else if piece = [dot] then [.here]
  else (ofPiece? piece).toList

/-- What is one component when it is written alone, and no special one. -/
def IsName (s : Octets) : Prop := ofPiece? s.bytes = some (.name s) ∧ slash ∉ s.bytes

namespace IsName

variable {s : Octets}

theorem parts (h : IsName s) : (⟨s⟩ : Path).parts = (.bare, [s.bytes]) := by
  have hdot : s.bytes ≠ [dot] := (ofPiece?_eq_name_iff.1 h.1).2.1
  rw [Path.parts, Text.fields_of_not_mem h.2]
  split
  · next heq => simp at heq
  · next heq => exact absurd (List.cons.inj heq).1 hdot
  · rfl

theorem components (h : IsName s) : (⟨s⟩ : Path).components = [.name s] := by
  rw [Path.components, h.parts, List.filterMap_cons, h.1]
  rfl

end IsName

end Path

end DocumentLint
