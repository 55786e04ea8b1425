import Mathlib.Data.List.Forall2
import DocumentLint.Session.Snapshot

/-! # The order of snapshots

The order of a snapshot, errors first and then by path, leaves no choice among
the files of a table. So a snapshot depends only on what the table holds for
each path, and not on the order in which it was stored; the spellings of paths
do not matter for the order.
-/

namespace DocumentLint

open List (Forall₂)

/-- Two entries for the same file, with the same value. -/
def EntryAlike {α : Type} (a b : Path × α) : Prop := a.1.Same b.1 ∧ a.2 = b.2

theorem forall₂_of_map_eq {α β : Type} {f : α → β} {l l' : List α} (h : l.map f = l'.map f) :
    Forall₂ (fun a b => f a = f b) l l' := by
  rw [← List.forall₂_map_right_iff, ← h, List.forall₂_map_right_iff]
  exact List.forall₂_same.2 fun _ _ => rfl

namespace PathMap

variable {α : Type} {m n : PathMap α} {p : Path} {v : α}

/-- An entry without the spelling of its path. -/
def shape (e : Path × α) : List Component × α := (e.1.components, e.2)

theorem shape_eq_iff {a b : Path × α} : shape a = shape b ↔ EntryAlike a b := Prod.ext_iff

theorem mem_shapes_iff {x : List Component × α} :
    x ∈ m.entries.map shape ↔ ∃ p : Path, p.components = x.1 ∧ m.get? p = some x.2 := by
  rw [List.mem_map]
  constructor
  · rintro ⟨e, he, rfl⟩
    exact ⟨e.1, rfl, by rw [get?, mem_entries_iff.1 he]; rfl⟩
  · rintro ⟨p, hp, hv⟩
    obtain ⟨e, he, hev⟩ := Option.map_eq_some_iff.1 hv
    exact ⟨e, mem_of_find?_eq_some he, Prod.ext (Eq.trans (same_of_find?_eq_some he) hp) hev⟩

theorem nodup_shapes (m : PathMap α) : (m.entries.map shape).Nodup :=
  List.pairwise_map.2 (m.distinct.imp fun h hab => h (shape_eq_iff.1 hab).1)

theorem perm_shapes (h : ∀ p, m.get? p = n.get? p) :
    (m.entries.map shape).Perm (n.entries.map shape) :=
  (List.perm_ext_iff_of_nodup m.nodup_shapes n.nodup_shapes).2 fun x => by
    simp only [mem_shapes_iff, h]

end PathMap

namespace Snapshot

open PathMap

variable {m n : PathMap (List Record)} {a b a' b' : Path × List Record}

theorem precedes_total (a b : Path × List Record) : (precedes a b || precedes b a) = true := by
  unfold precedes
  cases hasError a <;> cases hasError b <;> simp
  all_goals simpa using a.1.le_total b.1

theorem precedes_trans (a b c : Path × List Record) (hab : precedes a b = true)
    (hbc : precedes b c = true) : precedes a c = true := by
  unfold precedes at *
  cases ha : hasError a <;> cases hb : hasError b <;> cases hc : hasError c <;>
    simp_all
  all_goals exact Path.le_trans hab hbc

theorem same_of_precedes (hab : precedes a b = true) (hba : precedes b a = true) :
    a.1.Same b.1 := by
  unfold precedes at *
  cases ha : hasError a <;> cases hb : hasError b <;> simp_all
  all_goals exact Path.same_of_le_of_le hab hba

theorem precedes_congr (ha : EntryAlike a a') (hb : EntryAlike b b') :
    precedes a b = precedes a' b' := by
  have hle : a.1.le b.1 = a'.1.le b'.1 := by
    rw [Path.le, Path.compare, ha.1, hb.1]
    rfl
  rw [precedes, precedes, hle, hasError, hasError, ha.2, hb.2]
  rfl

theorem perm_files (m : PathMap (List Record)) : (ofMap m).files.Perm m.entries :=
  List.mergeSort_perm ..

theorem mem_files_iff : a ∈ (ofMap m).files ↔ m.find? a.1 = some a :=
  (perm_files m).mem_iff.trans mem_entries_iff

theorem pairwise_files (m : PathMap (List Record)) :
    (ofMap m).files.Pairwise fun a b => precedes a b = true :=
  List.pairwise_mergeSort precedes_trans precedes_total m.entries

/-- The order of two files whose spellings are left out. -/
def ShapePrecedes (x y : List Component × List Record) : Prop :=
  ∀ a b, shape a = x → shape b = y → precedes a b = true

theorem pairwise_shapes (m : PathMap (List Record)) :
    ((ofMap m).files.map shape).Pairwise ShapePrecedes := by
  refine List.pairwise_map.2 ((pairwise_files m).imp fun {a b} h a' b' ha hb => ?_)
  rwa [precedes_congr (shape_eq_iff.1 ha) (shape_eq_iff.1 hb)]

theorem mem_shapes_files_iff {x : List Component × List Record} :
    x ∈ (ofMap m).files.map shape ↔ ∃ p : Path, p.components = x.1 ∧ m.get? p = some x.2 := by
  rw [((perm_files m).map shape).mem_iff, mem_shapes_iff]

theorem rel_files (h : ∀ p, m.get? p = n.get? p) :
    Forall₂ EntryAlike (ofMap m).files (ofMap n).files := by
  have hperm : ((ofMap m).files.map shape).Perm ((ofMap n).files.map shape) :=
    ((perm_files m).map shape).trans ((perm_shapes h).trans ((perm_files n).map shape).symm)
  have heq : (ofMap m).files.map shape = (ofMap n).files.map shape := by
    refine hperm.eq_of_pairwise (fun x y hx hy hxy hyx => ?_)
      (pairwise_shapes m) (pairwise_shapes n)
    obtain ⟨a, -, rfl⟩ := List.mem_map.1 hx
    obtain ⟨b, -, rfl⟩ := List.mem_map.1 hy
    have hab : a.1.Same b.1 := same_of_precedes (hxy a b rfl rfl) (hyx b a rfl rfl)
    obtain ⟨p, hp, hmp⟩ := mem_shapes_files_iff.1 hx
    obtain ⟨q, hq, hnq⟩ := mem_shapes_files_iff.1 hy
    have hpq : p.Same q := hp.trans (hab.trans hq.symm)
    rw [h, get?_congr hpq, hnq] at hmp
    exact Prod.ext hab (Option.some.inj hmp).symm
  exact (forall₂_of_map_eq heq).imp fun _ _ => shape_eq_iff.1

theorem ofMap_congr (h : ∀ p, m.find? p = n.find? p) : ofMap m = ofMap n := by
  have hget (p : Path) : m.get? p = n.get? p := by
    rw [get?, get?, h]
  obtain ⟨hlength, halike⟩ := List.forall₂_iff_zip.1 (rel_files hget)
  refine congrArg mk (List.forall₂_eq_eq_eq ▸ List.forall₂_iff_zip.2 ⟨hlength, fun {a b} hab => ?_⟩)
  have hmem := List.of_mem_zip hab
  have ha : m.find? a.1 = some a := mem_files_iff.1 hmem.1
  have hb : n.find? b.1 = some b := mem_files_iff.1 hmem.2
  rw [h, find?_congr (halike hab).1, hb] at ha
  exact (Option.some.inj ha).symm

theorem forFile_ofMap (m : PathMap (List Record)) (p : Path) :
    (ofMap m).forFile p = (m.get? p).getD [] := by
  have hfind : ((ofMap m).files.find? fun file => file.1.Same p) = m.find? p := by
    cases hf : (ofMap m).files.find? fun file => file.1.Same p with
    | some a =>
      have hap : a.1.Same p := by simpa using List.find?_some hf
      rw [← find?_congr hap, mem_files_iff.1 (List.mem_of_find?_eq_some hf)]
    | none =>
      rw [eq_comm, Option.eq_none_iff_forall_ne_some]
      intro a ha
      have hap : a.1.Same p := same_of_find?_eq_some ha
      have hm : a ∈ (ofMap m).files := mem_files_iff.2 ((find?_congr hap).trans ha)
      simpa [hap] using List.find?_eq_none.1 hf a hm
  rw [forFile, hfind, get?]

end Snapshot

end DocumentLint
