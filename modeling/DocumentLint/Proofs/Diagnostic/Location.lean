import Mathlib.Order.Bounds.Basic
import DocumentLint.Diagnostic.Line

/-! # Locations

The location of a line stands in the rightmost two adjacent fields that are numbers and have a
field on either side. Digits that do not fit in a word are no number, so that the search goes on
to their left; a zero for the line ends the search without a location.
-/

namespace DocumentLint

theorem isGreatest_succ_iff {P : ℕ → Prop} (h0 : ¬ P 0) {i : ℕ} :
    IsGreatest {i | P i} (i + 1) ↔ IsGreatest {i | P (i + 1)} i := by
  constructor
  · rintro ⟨hi, hmax⟩
    exact ⟨hi, fun j hj => Nat.le_of_succ_le_succ (hmax hj)⟩
  · rintro ⟨hi, hmax⟩
    refine ⟨hi, fun j hj => ?_⟩
    cases j with
    | zero => exact absurd hj h0
    | succ j => exact Nat.succ_le_succ (hmax hj)

/-- Of the values found at the places below a bound, the last stands at the greatest place. -/
theorem getLast?_filterMap_range {α : Type} {v : ℕ → Option α} {n : ℕ} {x : α} :
    ((List.range n).filterMap v).getLast? = some x ↔
      ∃ i, IsGreatest {i | i < n ∧ (v i).isSome = true} i ∧ v i = some x := by
  induction n with
  | zero => simp [IsGreatest]
  | succ n ih =>
    rw [List.range_succ, List.filterMap_append]
    cases hn : v n with
    | none =>
      have hset : {i | i < n + 1 ∧ (v i).isSome = true} = {i | i < n ∧ (v i).isSome = true} := by
        ext i
        constructor
        · rintro ⟨hi, hv⟩
          have hne : i ≠ n := by
            rintro rfl
            simp [hn] at hv
          exact ⟨by omega, hv⟩
        · rintro ⟨hi, hv⟩
          exact ⟨by omega, hv⟩
      rw [List.filterMap_cons_none hn, List.filterMap_nil, List.append_nil, hset, ih]
    | some y =>
      have hgreatest : IsGreatest {i | i < n + 1 ∧ (v i).isSome = true} n :=
        ⟨⟨by omega, by simp [hn]⟩, fun i hi => Nat.le_of_lt_succ hi.1⟩
      rw [List.filterMap_cons_some hn, List.filterMap_nil, List.getLast?_concat]
      constructor
      · rintro ⟨⟩
        exact ⟨n, hgreatest, hn⟩
      · rintro ⟨i, hi, hv⟩
        rw [← hv, hi.unique hgreatest, hn]

namespace Record

/-- A row of digits whose value is a word. -/
def isNumber (f : List Char) : Bool := Text.isNumeral f && Text.digitsValue 10 f < UInt32.size

/-- The fields at `i` and behind it are both as asked, and have a field on either side. -/
def PairAt (p : List Char → Bool) (fs : List (List Char)) (i : ℕ) : Prop :=
  1 ≤ i ∧ i + 2 < fs.length ∧ fs[i]?.any p = true ∧ fs[i + 1]?.any p = true
  deriving Decidable

/-- The rightmost of these pairs, with its place. -/
structure Rightmost (p : List Char → Bool) (fs : List (List Char)) (i : ℕ) (f g : List Char) :
    Prop where
  isGreatest : IsGreatest {i | PairAt p fs i} i
  left : fs[i]? = some f
  right : fs[i + 1]? = some g

variable {p q : List Char → Bool} {f g f' g' place : List Char} {fs : List (List Char)} {i j : ℕ}
  {line column n : UInt32}

theorem PairAt.imp (hpq : ∀ f, q f = true → p f = true) (h : PairAt q fs i) : PairAt p fs i := by
  have hany (o : Option (List Char)) (ho : o.any q = true) : o.any p = true := by
    cases o with
    | none => exact ho
    | some f => exact hpq f ho
  obtain ⟨h1, h2, hf, hg⟩ := h
  exact ⟨h1, h2, hany _ hf, hany _ hg⟩

theorem isGreatest_pairAt_iff : IsGreatest {i | PairAt p fs i} i ↔
    PairAt p fs i ∧ ∀ j < fs.length, PairAt p fs j → j ≤ i := by
  constructor
  · rintro ⟨hi, hmax⟩
    exact ⟨hi, fun j _ hj => hmax hj⟩
  · rintro ⟨hi, hmax⟩
    refine ⟨hi, fun j hj => hmax j ?_ hj⟩
    obtain ⟨-, hlt, -⟩ := hj
    omega

theorem rightmost_iff : Rightmost p fs i f g ↔
    (PairAt p fs i ∧ ∀ j < fs.length, PairAt p fs j → j ≤ i) ∧ fs[i]? = some f ∧
      fs[i + 1]? = some g := by
  rw [← isGreatest_pairAt_iff]
  exact ⟨fun h => ⟨h.isGreatest, h.left, h.right⟩, fun ⟨h, hf, hg⟩ => ⟨h, hf, hg⟩⟩

instance : Decidable (Rightmost p fs i f g) := decidable_of_iff' _ rightmost_iff

namespace Rightmost

theorem unique (h : Rightmost p fs i f g) (h' : Rightmost p fs j f' g') :
    i = j ∧ f = f' ∧ g = g' := by
  obtain rfl : i = j := h.isGreatest.unique h'.isGreatest
  exact ⟨rfl, Option.some.inj (h.left.symm.trans h'.left),
    Option.some.inj (h.right.symm.trans h'.right)⟩

theorem holds_left (h : Rightmost p fs i f g) : p f = true := by
  simpa [h.left] using h.isGreatest.1.2.2.1

theorem holds_right (h : Rightmost p fs i f g) : p g = true := by
  simpa [h.right] using h.isGreatest.1.2.2.2

theorem le (hpq : ∀ f, q f = true → p f = true) (h : Rightmost p fs i f g)
    (h' : Rightmost q fs j f' g') : j ≤ i :=
  h.isGreatest.2 (h'.isGreatest.1.imp hpq)

theorem of_imp (hpq : ∀ f, q f = true → p f = true) (h : Rightmost p fs i f g)
    (hf : q f = true) (hg : q g = true) : Rightmost q fs i f g := by
  obtain ⟨⟨h1, h2, -⟩, hmax⟩ := h.isGreatest
  refine ⟨⟨⟨h1, h2, ?_, ?_⟩, fun j hj => hmax (hj.imp hpq)⟩, h.left, h.right⟩
  · simpa [h.left] using hf
  · simpa [h.right] using hg

end Rightmost

/-! ## The search for a location -/

theorem number?_eq_some_iff :
    number? f = some n ↔ Text.isNumeral f = true ∧ Text.digitsValue 10 f = n.toNat := by
  rw [number?]
  split
  · next h =>
    rw [Option.some.injEq, ← UInt32.toNat_inj, UInt32.toNat_ofNat_of_lt' h.2]
    exact ⟨fun hn => ⟨h.1, hn⟩, fun hn => hn.2⟩
  · next h =>
    simp only [reduceCtorEq, false_iff]
    exact fun hn => h ⟨hn.1, hn.2 ▸ n.toNat_lt_size⟩

theorem isSome_number? (f : List Char) : (number? f).isSome = isNumber f := by
  rw [number?, isNumber]
  split <;> simp_all

theorem isNumeral_of_isNumber (f : List Char) (h : isNumber f = true) :
    Text.isNumeral f = true := by
  rw [isNumber, Bool.and_eq_true] at h
  exact h.1

/-- Two adjacent fields, as a pair of numbers. -/
def numberPair (f g : List Char) : List (UInt32 × UInt32) :=
  match number? f, number? g with
  | some line, some column => [(line, column)]
  | _, _ => []

theorem numberPairs_cons_cons (f g : List Char) (fs : List (List Char)) :
    numberPairs (f :: g :: fs) = numberPair f g ++ numberPairs (g :: fs) := by
  rw [numberPairs, numberPair]
  cases number? f <;> cases number? g <;> rfl

/-- The numbers in the fields at `i` and behind it. -/
def pairAt? (fs : List (List Char)) (i : ℕ) : Option (UInt32 × UInt32) :=
  (fs[i]?.bind number?).bind fun line => (fs[i + 1]?.bind number?).map fun column => (line, column)

theorem pairAt?_eq_some_iff : pairAt? fs i = some (line, column) ↔
    ∃ f g, fs[i]? = some f ∧ fs[i + 1]? = some g ∧ number? f = some line ∧
      number? g = some column := by
  simp only [pairAt?, Option.bind_eq_some_iff, Option.map_eq_some_iff, Prod.mk.injEq]
  grind

theorem isSome_pairAt? : (pairAt? fs i).isSome = true ↔
    fs[i]?.any isNumber = true ∧ fs[i + 1]?.any isNumber = true := by
  rw [pairAt?, Option.isSome_bind]
  cases fs[i]? with
  | none => simp
  | some f => cases fs[i + 1]? <;> cases hf : number? f <;> simp [← isSome_number?, hf]

theorem numberPairs_eq (fs : List (List Char)) :
    numberPairs fs = (List.range fs.length).filterMap (pairAt? fs) := by
  induction fs with
  | nil => rfl
  | cons f fs ih =>
    have hsucc : pairAt? (f :: fs) ∘ Nat.succ = pairAt? fs := rfl
    have hstep : (List.range (f :: fs).length).filterMap (pairAt? (f :: fs)) =
        (pairAt? (f :: fs) 0).toList ++ numberPairs fs := by
      rw [ih, List.length_cons, List.range_succ_eq_map, List.filterMap_cons, List.filterMap_map,
        hsucc]
      cases pairAt? (f :: fs) 0 <;> rfl
    rw [hstep]
    cases fs with
    | nil => cases hf : number? f <;> simp [numberPairs, pairAt?, hf]
    | cons g fs =>
      rw [numberPairs_cons_cons]
      congr 1
      simp only [pairAt?, numberPair]
      cases hf : number? f <;> cases hg : number? g <;> simp [hf, hg]

theorem pairAt?_enclosed (fs : List (List Char)) (i : ℕ) :
    pairAt? (enclosed fs) i = if i + 3 < fs.length then pairAt? fs (i + 1) else none := by
  have hget (j : ℕ) : (enclosed fs)[j]? = if j + 2 < fs.length then fs[j + 1]? else none := by
    rw [enclosed, List.getElem?_dropLast, List.getElem?_tail, List.length_tail]
    congr 1
    exact propext ⟨fun h => by omega, fun h => by omega⟩
  rw [pairAt?, pairAt?, hget, hget]
  by_cases h : i + 3 < fs.length
  · rw [if_pos h, if_pos (by omega), if_pos (by omega)]
  · rw [if_neg h, if_neg (by omega : ¬ i + 1 + 2 < fs.length)]
    cases (if i + 2 < fs.length then fs[i + 1]? else none).bind number? <;> rfl

/-- The location is told by the rightmost pair of numbers, unless the line would be zero. -/
theorem location?_eq_some_iff : location? place = some (line, column) ↔
    ∃ i f g, Rightmost isNumber (Text.fields ':' place) i f g ∧
      number? f = some line ∧ number? g = some column ∧ 0 < line := by
  generalize hfs : Text.fields ':' place = fs
  have hpair (i : ℕ) : i < (enclosed fs).length ∧ (pairAt? (enclosed fs) i).isSome = true ↔
      PairAt isNumber fs (i + 1) := by
    rw [pairAt?_enclosed, PairAt, ← isSome_pairAt?, enclosed, List.length_dropLast,
      List.length_tail]
    split
    · next h => exact ⟨fun hi => ⟨by omega, h, hi.2⟩, fun hi => ⟨by omega, hi.2.2⟩⟩
    · next h => simp; omega
  have hzero : ¬ PairAt isNumber fs 0 := fun h => absurd h.1 (by omega)
  rw [location?, hfs, Option.filter_eq_some_iff, numberPairs_eq, getLast?_filterMap_range]
  simp only [hpair, ← isGreatest_succ_iff hzero, decide_eq_true_eq]
  constructor
  · rintro ⟨⟨i, hi, hv⟩, hline⟩
    rw [pairAt?_enclosed, if_pos hi.1.2.1] at hv
    obtain ⟨f, g, hf, hg, hl, hc⟩ := pairAt?_eq_some_iff.1 hv
    exact ⟨i + 1, f, g, ⟨hi, hf, hg⟩, hl, hc, hline⟩
  · rintro ⟨i, f, g, ⟨hi, hf, hg⟩, hl, hc, hline⟩
    obtain ⟨j, rfl⟩ := Nat.exists_eq_add_of_le' hi.1.1
    refine ⟨⟨j, hi, ?_⟩, hline⟩
    rw [pairAt?_enclosed, if_pos hi.1.2.1]
    exact pairAt?_eq_some_iff.2 ⟨f, g, hf, hg, hl, hc⟩

theorem line_pos_of_location? (h : location? place = some (line, column)) : 0 < line := by
  simpa using (Option.filter_eq_some_iff.1 h).2

end Record

end DocumentLint
