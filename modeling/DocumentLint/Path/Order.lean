import DocumentLint.Path.Basic

/-! # The order of paths

Paths are compared by their components: the root comes first, then `.`, then
`..`, then names by their octets, and a path comes before its extensions. The
comparison tells two paths apart exactly when they name different files.
-/

namespace DocumentLint

namespace Component

def rank : Component → Nat
  | .root => 0
  | .here => 1
  | .up => 2
  | .name _ => 3

def label : Component → List UInt8
  | .name s => s.bytes
  | _ => []

instance : Ord Component := ⟨compareLex (compareOn rank) (compareOn label)⟩

instance : Std.TransOrd Component :=
  inferInstanceAs (Std.TransCmp (compareLex (compareOn rank) (compareOn label)))

instance : Std.LawfulEqOrd Component where
  compare_self := Std.ReflCmp.compare_self
  eq_of_compare {a b} h := by
    obtain ⟨hr, hl⟩ := Ordering.then_eq_eq.1 h
    have hr : a.rank = b.rank := Std.LawfulEqOrd.eq_of_compare hr
    have hl : a.label = b.label := Std.LawfulEqOrd.eq_of_compare hl
    cases a <;> cases b <;> simp_all [rank, label, Octets.ext_iff]

end Component

namespace Path

def compare (p q : Path) : Ordering := Ord.compare p.components q.components

def le (p q : Path) : Bool := (p.compare q).isLE

theorem compare_eq_iff {p q : Path} : p.compare q = .eq ↔ p.Same q :=
  Std.LawfulEqOrd.compare_eq_iff_eq

instance : Std.TransCmp compare where
  eq_swap {p q} := @Std.OrientedCmp.eq_swap (List Component) Ord.compare _ p.components q.components
  isLE_trans {p q r} := @Std.TransCmp.isLE_trans (List Component) Ord.compare _ p.components
    q.components r.components

theorem le_trans {p q r : Path} (h₁ : p.le q = true) (h₂ : q.le r = true) : p.le r = true :=
  @Std.TransCmp.isLE_trans Path compare _ p q r h₁ h₂

theorem compare_swap (p q : Path) : (p.compare q).swap = q.compare p :=
  (@Std.OrientedCmp.eq_swap Path compare _ q p).symm

theorem le_total (p q : Path) : (p.le q || q.le p) = true := by
  rw [le, le, ← compare_swap p q]
  cases p.compare q <;> rfl

theorem same_of_le_of_le {p q : Path} (h₁ : p.le q = true) (h₂ : q.le p = true) : p.Same q := by
  rw [← compare_eq_iff]
  rw [le, ← compare_swap p q] at h₂
  rw [le] at h₁
  cases h : p.compare q <;> simp_all

theorem compare_eq_lt {p q : Path} (hle : p.le q = true) (hne : ¬ p.Same q) :
    p.compare q = .lt := by
  rw [le] at hle
  rw [← compare_eq_iff] at hne
  cases h : p.compare q <;> simp_all

theorem lt_of_lt_of_le {p q r : Path} (h₁ : p.compare q = .lt) (h₂ : q.le r = true) :
    p.compare r = .lt :=
  Std.TransCmp.lt_of_lt_of_isLE h₁ h₂

end Path

end DocumentLint
