/-! # Column ranges

A range of columns covers at least one column, and both its ends are words of
32 bits. It is given by its ends or by its start and its width.
-/

namespace DocumentLint

structure ColumnRange where
  start : UInt32
  stop : UInt32
  start_lt_stop : start < stop
  deriving DecidableEq

structure InvalidRange where
  start : UInt32
  stop : UInt32
  deriving DecidableEq, Repr

def InvalidRange.message (e : InvalidRange) : String :=
  s!"column range end ({e.stop}) must be greater than start ({e.start})"

namespace ColumnRange

def ofEnds (start stop : UInt32) : Except InvalidRange ColumnRange :=
  if h : start < stop then .ok ⟨start, stop, h⟩ else .error ⟨start, stop⟩

/-- No range is as wide as this when it is empty or would end beyond the last column. -/
def spanning? (start : UInt32) (width : Nat) : Option ColumnRange :=
  if h : 0 < width ∧ start.toNat + width < UInt32.size then
    some
      { start
        stop := UInt32.ofNat (start.toNat + width)
        start_lt_stop := by
          rw [UInt32.lt_iff_toNat_lt, UInt32.toNat_ofNat_of_lt' h.2]
          omega }
  else none

def width (r : ColumnRange) : UInt32 := r.stop - r.start

theorem spanning?_eq_some_iff {start : UInt32} {width : Nat} {r : ColumnRange} :
    spanning? start width = some r ↔
      0 < width ∧ r.start = start ∧ r.stop.toNat = start.toNat + width := by
  obtain ⟨a, b, hab⟩ := r
  rw [UInt32.lt_iff_toNat_lt] at hab
  rw [spanning?]
  split
  · next h =>
    simp only [Option.some.injEq, mk.injEq]
    constructor
    · rintro ⟨rfl, rfl⟩
      exact ⟨h.1, rfl, UInt32.toNat_ofNat_of_lt' h.2⟩
    · rintro ⟨_, rfl, hb⟩
      exact ⟨rfl, by rw [← hb, UInt32.ofNat_toNat]⟩
  · next h =>
    simp only [reduceCtorEq, false_iff]
    rintro ⟨hw, rfl, hb⟩
    exact h ⟨hw, hb ▸ b.toNat_lt_size⟩

end ColumnRange

end DocumentLint
