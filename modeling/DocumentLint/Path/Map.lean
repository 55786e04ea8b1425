import DocumentLint.Path.Basic

/-! # Tables keyed by paths

A table holds at most one entry for each file, under the spelling that was
stored first. Storing again under another spelling replaces the value only.
-/

namespace DocumentLint

structure PathMap (α : Type) where
  entries : List (Path × α)
  distinct : entries.Pairwise fun a b => ¬ a.1.Same b.1

namespace PathMap

variable {α : Type} {m : PathMap α} {p q : Path}

def empty : PathMap α := ⟨[], .nil⟩

instance : EmptyCollection (PathMap α) := ⟨empty⟩

/-- The entry of a file, with the spelling that is kept. -/
def find? (m : PathMap α) (p : Path) : Option (Path × α) := m.entries.find? fun e => e.1.Same p

def get? (m : PathMap α) (p : Path) : Option α := (m.find? p).map (·.2)

def erase (m : PathMap α) (p : Path) : PathMap α where
  entries := m.entries.filter fun e => ¬ e.1.Same p
  distinct := m.distinct.filter _

/-- Replaces the value of an entry that is there. -/
def replace (m : PathMap α) (p : Path) (a : α) : PathMap α where
  entries := m.entries.map fun e => if e.1.Same p then (e.1, a) else e
  distinct := by
    refine List.pairwise_map.2 (m.distinct.imp ?_)
    intro a b h
    split <;> split <;> exact h

theorem not_same_of_find?_eq_none (h : m.find? p = none) : ∀ e ∈ m.entries, ¬ e.1.Same p := by
  simpa [find?] using h

def insert (m : PathMap α) (p : Path) (a : α) : PathMap α :=
  match h : m.find? p with
  | some _ => m.replace p a
  | none =>
    { entries := m.entries ++ [(p, a)]
      distinct := by
        refine List.pairwise_append.2 ⟨m.distinct, List.pairwise_singleton .., fun e he f hf => ?_⟩
        rw [List.mem_singleton.1 hf]
        exact not_same_of_find?_eq_none h e he }

/-- Stores, replaces or erases the value of a file, depending on the one it has. -/
def alter (m : PathMap α) (p : Path) (f : Option α → Option α) : PathMap α :=
  match f (m.get? p) with
  | some a => m.insert p a
  | none => m.erase p

theorem find?_congr (h : p.Same q) : m.find? p = m.find? q := by
  simp only [find?, Path.Same.congr_right h]

theorem same_of_find?_eq_some {e : Path × α} (h : m.find? p = some e) : e.1.Same p := by
  simpa using List.find?_some h

theorem mem_of_find?_eq_some {e : Path × α} (h : m.find? p = some e) : e ∈ m.entries :=
  List.mem_of_find?_eq_some h

@[simp] theorem find?_empty : (∅ : PathMap α).find? p = none := rfl

theorem find?_erase : (m.erase p).find? q = if p.Same q then none else m.find? q := by
  simp only [find?, erase]
  split
  · next hpq =>
    simp only [List.find?_eq_none, List.mem_filter, decide_eq_true_eq]
    exact fun e he h => he.2 (h.trans hpq.symm)
  · next hpq =>
    rw [List.find?_filter]
    congr 1
    funext e
    by_cases hq : e.1.Same q
    · have : ¬ e.1.Same p := fun hp => hpq (hp.symm.trans hq)
      simp [hq, this]
    · simp [hq]

theorem find?_replace {a : α} {e : Path × α} (h : m.find? p = some e) :
    (m.replace p a).find? q = if p.Same q then some (e.1, a) else m.find? q := by
  have key : ((fun e : Path × α => decide (e.1.Same q)) ∘
      fun e : Path × α => if e.1.Same p then (e.1, a) else e) = fun e => decide (e.1.Same q) := by
    funext e
    simp only [Function.comp]
    split <;> rfl
  simp only [find?, replace, List.find?_map, key]
  split
  · next hpq =>
    have he : m.find? q = some e := find?_congr hpq ▸ h
    rw [find?] at he
    simp [he, same_of_find?_eq_some h]
  · next hpq =>
    cases he : m.entries.find? fun e => e.1.Same q with
    | none => rfl
    | some f =>
      have hq : f.1.Same q := same_of_find?_eq_some he
      have : ¬ f.1.Same p := fun hp => hpq (hp.symm.trans hq)
      simp [this]

theorem find?_insert {a : α} : (m.insert p a).find? q =
    if p.Same q then some (((m.find? p).map (·.1)).getD p, a) else m.find? q := by
  rw [insert]
  split
  · next e h =>
    rw [find?_replace h, h]
    rfl
  · next h =>
    simp only [find?, List.find?_append, List.find?_singleton]
    rw [← find?, ← find?, h]
    by_cases hpq : p.Same q
    · rw [find?_congr hpq] at h
      simp [h, hpq]
    · simp [hpq]

theorem get?_congr (h : p.Same q) : m.get? p = m.get? q := by
  rw [get?, get?, find?_congr h]

@[simp] theorem get?_empty : (∅ : PathMap α).get? p = none := rfl

theorem get?_erase : (m.erase p).get? q = if p.Same q then none else m.get? q := by
  rw [get?, find?_erase]
  split <;> rfl

theorem get?_insert {a : α} : (m.insert p a).get? q = if p.Same q then some a else m.get? q := by
  rw [get?, find?_insert]
  split <;> rfl

theorem get?_alter {f : Option α → Option α} :
    (m.alter p f).get? q = if p.Same q then f (m.get? q) else m.get? q := by
  rw [alter]
  split
  · next a h =>
    rw [get?_insert]
    split
    · next hpq => rw [← get?_congr hpq, h]
    · rfl
  · next h =>
    rw [get?_erase]
    split
    · next hpq => rw [← get?_congr hpq, h]
    · rfl

theorem mem_entries_iff {e : Path × α} : e ∈ m.entries ↔ m.find? e.1 = some e := by
  refine ⟨fun h => ?_, mem_of_find?_eq_some⟩
  obtain ⟨es, hd⟩ := m
  simp only [find?]
  induction es with
  | nil => simp at h
  | cons f es ih =>
    obtain ⟨hf, hd⟩ := List.pairwise_cons.1 hd
    rw [List.find?_cons]
    rcases List.mem_cons.1 h with rfl | h
    · simp [Path.Same.refl]
    · simpa [hf e h] using ih hd h

end PathMap

end DocumentLint
