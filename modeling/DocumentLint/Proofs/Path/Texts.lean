import DocumentLint.Proofs.Path.Directory

/-! # Paths that are texts

A path is a text if each of its components is one. Joined texts are a text, and a path that names
the same file as a text is a text itself, however it is written.
-/

namespace DocumentLint

open Octets (slash dot)

/-! ## Pieces of texts -/

namespace Octets

variable {pieces : List (List UInt8)}

theorem utf8EncodeChar_slash : String.utf8EncodeChar '/' = [slash] := rfl

theorem slash_not_mem_utf8EncodeChar {c : Char} (hc : c ≠ '/') :
    slash ∉ String.utf8EncodeChar c := by
  intro h
  have hn : slash.toNat = c.toNat := Text.Utf8.eq_toNat_of_mem_utf8EncodeChar h (by decide)
  rw [← Char.ofNat_toNat c, ← hn] at hc
  exact hc rfl

theorem fields_encode (s : String) : Text.fields slash (Text.Utf8.encode s) =
    (Text.fields '/' s.toList).map (·.flatMap String.utf8EncodeChar) :=
  Text.fields_flatMap utf8EncodeChar_slash (fun _ => slash_not_mem_utf8EncodeChar) s.toList

theorem isText_iff_exists {o : Octets} :
    o.IsText ↔ ∃ cs : List Char, o.bytes = cs.flatMap String.utf8EncodeChar := by
  rw [isText_iff]
  constructor
  · rintro ⟨s, rfl⟩
    exact ⟨s.toList, rfl⟩
  · rintro ⟨cs, h⟩
    refine ⟨String.ofList cs, Octets.ext ?_⟩
    rw [h, ofText, Text.Utf8.encode, String.toList_ofList]

theorem isText_iff_fields {o : Octets} :
    o.IsText ↔ ∀ g ∈ Text.fields slash o.bytes, IsText ⟨g⟩ := by
  constructor
  · intro h g hg
    rw [← h, ofText, fields_encode, List.mem_map] at hg
    obtain ⟨cs, -, rfl⟩ := hg
    exact isText_iff_exists.2 ⟨cs, rfl⟩
  · intro h
    have hpieces : ((Text.fields slash o.bytes).map fun g => (text ⟨g⟩).toList).map
        (·.flatMap String.utf8EncodeChar) = Text.fields slash o.bytes := by
      rw [List.map_map]
      exact (List.map_congr_left fun g hg => congrArg bytes (h g hg)).trans (List.map_id' _)
    have hjoin := Text.joinFields_map_flatMap utf8EncodeChar_slash
      ((Text.fields slash o.bytes).map fun g => (text ⟨g⟩).toList)
    rw [hpieces, Text.joinFields_fields] at hjoin
    exact isText_iff_exists.2 ⟨_, hjoin⟩

end Octets

namespace Path

variable {p q base : Path}

/-! ## Components of texts -/

theorem mem_fields_of_mem_parts {g : List UInt8} (h : g ∈ p.parts.2) :
    g ∈ Text.fields slash p.octets.bytes := by
  unfold parts at h
  split at h
  · next heq => exact heq ▸ List.mem_cons_of_mem _ h
  · next heq => exact heq ▸ List.mem_cons_of_mem _ h
  · exact h

/-- Only the pieces that a path starts with are left out of its parts. -/
theorem mem_parts_of_mem_fields {g : List UInt8} (h : g ∈ Text.fields slash p.octets.bytes) :
    g = [] ∨ g = [dot] ∨ g ∈ p.parts.2 := by
  unfold parts
  split
  · next heq => exact (List.mem_cons.1 (heq ▸ h)).imp_right .inr
  · next heq => exact .inr (List.mem_cons.1 (heq ▸ h))
  · exact .inr (.inr h)

theorem isText_or_ofPiece?_eq (g : List UInt8) :
    Octets.IsText ⟨g⟩ ∨ Component.ofPiece? g = some (.name ⟨g⟩) := by
  unfold Component.ofPiece?
  split
  · next hg => rcases hg with rfl | rfl <;> exact .inl (by decide)
  split
  · next hg =>
    rw [hg]
    exact .inl (by decide)
  · exact .inr rfl

theorem isText_iff_components : p.IsText ↔ ∀ s, .name s ∈ p.components → s.IsText := by
  rw [IsText, Octets.isText_iff_fields]
  constructor
  · intro h s hs
    rw [components, List.mem_append, List.mem_filterMap] at hs
    rcases hs with hs | ⟨g, hg, hs⟩
    · cases hp : p.parts.1 <;> simp [hp, Start.components] at hs
    · obtain rfl : g = s.bytes := (Component.ofPiece?_eq_name_iff.1 hs).2.2.2
      exact h _ (mem_fields_of_mem_parts hg)
  · intro h g hg
    rcases mem_parts_of_mem_fields hg with rfl | rfl | hg
    · decide
    · decide
    · rcases isText_or_ofPiece?_eq g with hg' | hname
      · exact hg'
      · exact h ⟨g⟩ (List.mem_append_right _ (List.mem_filterMap.2 ⟨g, hg, hname⟩))

theorem Same.isText_iff (h : p.Same q) : p.IsText ↔ q.IsText := by
  rw [isText_iff_components, h, isText_iff_components]

theorem IsText.join (hbase : base.IsText) (hp : p.IsText) : (base.join p).IsText := by
  obtain ⟨cs, hcs⟩ := Octets.isText_iff_exists.1 hbase
  obtain ⟨ds, hds⟩ := Octets.isText_iff_exists.1 hp
  unfold Path.join
  split
  · exact hp
  split
  · refine Octets.isText_iff_exists.2 ⟨cs ++ ds, ?_⟩
    simp only [hcs, hds, List.flatMap_append]
  · refine Octets.isText_iff_exists.2 ⟨cs ++ '/' :: ds, ?_⟩
    rw [List.flatMap_append, List.flatMap_cons, ← hcs, ← hds]
    rfl

end Path

end DocumentLint
