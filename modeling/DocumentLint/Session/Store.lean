import DocumentLint.Session.Snapshot

/-! # The store of verdicts

The store keeps the diagnostics of each file and counts the runs issued for
it. A verdict is applied only if no later run was issued and the file was not
closed since. A closed file is forgotten once all its runs have settled.
-/

namespace DocumentLint

/-- The runs of one file: the latest sequence number, how many runs have not
settled, and whether the file was closed after the last was issued. -/
structure FileSequence where
  latest : UInt64 := 0
  outstanding : Nat := 0
  closed : Bool := false
  deriving DecidableEq, Repr

namespace FileSequence

/-- One more run is issued. -/
def issue (q : FileSequence) : FileSequence :=
  { latest := q.latest + 1, outstanding := q.outstanding + 1, closed := false }

/-- One run has come to its end; after the last one, a closed file is forgotten. -/
def settle (q : FileSequence) : Option FileSequence :=
  let left := q.outstanding - 1
  if left = 0 ∧ q.closed then none else some { q with outstanding := left }

/-- The file is closed, and forgotten at once if no run of it is outstanding. -/
def close (q : FileSequence) : Option FileSequence :=
  if q.outstanding = 0 then none else some { q with latest := q.latest + 1, closed := true }

end FileSequence

structure Store where
  verdicts : PathMap (List Record) := ∅
  sequences : PathMap FileSequence := ∅

namespace Store

/-- The bookkeeping of a file after one more run is issued. -/
def issued (s : Store) (path : Path) : FileSequence := ((s.sequences.get? path).getD {}).issue

def issue (s : Store) (path : Path) : Store :=
  { s with sequences := s.sequences.alter path fun q => some (q.getD {}).issue }

def isCurrent (s : Store) (path : Path) (sequence : UInt64) : Bool :=
  (s.sequences.get? path).any fun q => q.latest == sequence

/-- Replaces the diagnostics of a file; a file without any is not kept. -/
def put (s : Store) (path : Path) (records : List Record) : Store :=
  if records.isEmpty then { s with verdicts := s.verdicts.erase path }
  else { s with verdicts := s.verdicts.insert path records }

def apply (s : Store) (path : Path) (sequence : UInt64) (records : List Record) : Store :=
  if s.isCurrent path sequence then s.put path records else s

/-- One run of a file has come to its end. -/
def settle (s : Store) (path : Path) : Store :=
  { s with sequences := s.sequences.alter path (·.bind FileSequence.settle) }

/-- Drops the diagnostics of a file, and makes every run issued for it stale. -/
def close (s : Store) (path : Path) : Store :=
  { verdicts := s.verdicts.erase path
    sequences := s.sequences.alter path (·.bind FileSequence.close) }

def get (s : Store) (path : Path) : List Record := (s.verdicts.get? path).getD []

def snapshot (s : Store) : Snapshot := .ofMap s.verdicts

/-! ## What the operations do to a file -/

variable (s : Store) (p q : Path) (records : List Record)

theorem sequences_issue : (s.issue p).sequences.get? q =
    if p.Same q then some ((s.sequences.get? q).getD {}).issue else s.sequences.get? q :=
  PathMap.get?_alter

theorem sequences_settle : (s.settle p).sequences.get? q =
    if p.Same q then (s.sequences.get? q).bind FileSequence.settle else s.sequences.get? q :=
  PathMap.get?_alter

theorem sequences_close : (s.close p).sequences.get? q =
    if p.Same q then (s.sequences.get? q).bind FileSequence.close else s.sequences.get? q :=
  PathMap.get?_alter

theorem verdicts_close : (s.close p).verdicts.find? q =
    if p.Same q then none else s.verdicts.find? q :=
  PathMap.find?_erase

@[simp] theorem sequences_put : (s.put p records).sequences = s.sequences := by
  unfold put; split <;> rfl

theorem verdicts_put : (s.put p records).verdicts.find? q =
    if p.Same q then
      if records.isEmpty then none
      else some (((s.verdicts.find? q).map (·.1)).getD p, records)
    else s.verdicts.find? q := by
  unfold put
  by_cases hr : records.isEmpty <;> by_cases hpq : p.Same q <;>
    simp [hr, hpq, PathMap.find?_erase, PathMap.find?_insert]
  rw [PathMap.find?_congr hpq]

end Store

end DocumentLint
