import Mathlib.Algebra.Ring.Nat
import DocumentLint.Proofs.Snapshot.Order
import DocumentLint.Session.Store

/-! # Snapshots of stores

Whatever is called on a store, its snapshot lists each file with diagnostics once. The files with
an error come first and the paths of either group increase, which leaves one order only, in
whichever order the store happens to hold its files.
-/

namespace DocumentLint

theorem PathMap.eq_of_mem_entries {α : Type} {m : PathMap α} {a b : Path × α}
    (ha : a ∈ m.entries) (hb : b ∈ m.entries) (h : a.1.Same b.1) : a = b := by
  have hfind : some a = some b := by
    rw [← mem_entries_iff.1 ha, find?_congr h, mem_entries_iff.1 hb]
  exact Option.some.inj hfind

namespace Snapshot

open PathMap

variable {m n : PathMap (List Record)} {a b : Path × List Record}
  {files : List (Path × List Record)}

/-- Files with an error stand before all others, and in either group the paths increase. -/
def Ordered (files : List (Path × List Record)) : Prop :=
  ∃ grave mild, files = grave ++ mild ∧
    (∀ file ∈ grave, ∃ r ∈ file.2, r.severity = .error) ∧
    (∀ file ∈ mild, ∀ r ∈ file.2, r.severity ≠ .error) ∧
    (grave.Pairwise fun a b => a.1.compare b.1 = .lt) ∧
    mild.Pairwise fun a b => a.1.compare b.1 = .lt

theorem hasError_iff : hasError a = true ↔ ∃ r ∈ a.2, r.severity = .error := by
  simp [hasError, Record.isError, Severity.isError]

theorem hasError_eq_false_iff : hasError a = false ↔ ∀ r ∈ a.2, r.severity ≠ .error := by
  rw [← Bool.not_eq_true, hasError_iff]
  simp

/-! ## The order of the files -/

theorem distinct_files (m : PathMap (List Record)) :
    (ofMap m).files.Pairwise fun a b => ¬ a.1.Same b.1 := by
  refine (perm_files m).symm.pairwise m.distinct ?_
  intro a b h hba
  exact h hba.symm

/-- A list falls apart at the point behind which something never holds again. -/
theorem eq_filter_append_filter {α : Type} {p : α → Bool} {l : List α}
    (h : l.Pairwise fun a b => p b = true → p a = true) :
    l = l.filter p ++ l.filter fun a => !p a := by
  induction l with
  | nil => rfl
  | cons a l ih =>
    obtain ⟨ha, hl⟩ := List.pairwise_cons.1 h
    cases hp : p a with
    | true => simpa [hp] using ih hl
    | false =>
      have hnone : ∀ b ∈ l, p b = false := by
        intro b hb
        by_contra hpb
        rw [ha b hb (by simpa using hpb)] at hp
        cases hp
      have hfirst : l.filter p = [] := List.filter_eq_nil_iff.2 (by simpa using hnone)
      have hsecond : (l.filter fun a => !p a) = l := List.filter_eq_self.2 (by simpa using hnone)
      simp [hp, hfirst, hsecond]

theorem hasError_of_precedes (h : precedes a b = true) (hb : hasError b = true) :
    hasError a = true := by
  rw [precedes, hb] at h
  cases ha : hasError a <;> simp_all

theorem precedes_of_hasError_eq (h : hasError a = hasError b) :
    precedes a b = a.1.le b.1 := by
  simp [precedes, h]

theorem compare_eq_lt_of_precedes (h : precedes a b = true) (hne : ¬ a.1.Same b.1)
    (hab : hasError a = hasError b) : a.1.compare b.1 = .lt := by
  rw [precedes_of_hasError_eq hab] at h
  exact Path.compare_eq_lt h hne

theorem ordered_files (m : PathMap (List Record)) : Ordered (ofMap m).files := by
  have hpairwise := (pairwise_files m).and (distinct_files m)
  have hincreasing (p : Path × List Record → Bool) (v : Bool)
      (hp : ∀ file, p file = true → hasError file = v) :
      ((ofMap m).files.filter p).Pairwise fun a b => a.1.compare b.1 = .lt := by
    refine (hpairwise.filter p).imp_of_mem ?_
    intro a b ha hb h
    refine compare_eq_lt_of_precedes h.1 h.2 ?_
    rw [hp a (List.mem_filter.1 ha).2, hp b (List.mem_filter.1 hb).2]
  refine ⟨(ofMap m).files.filter hasError, (ofMap m).files.filter fun file => !hasError file,
    ?_, ?_, ?_, hincreasing _ true fun _ h => h, hincreasing _ false fun _ h => by simpa using h⟩
  · exact eq_filter_append_filter ((pairwise_files m).imp hasError_of_precedes)
  · intro file hfile
    exact hasError_iff.1 (List.mem_filter.1 hfile).2
  · intro file hfile
    exact hasError_eq_false_iff.1 (by simpa using (List.mem_filter.1 hfile).2)

theorem Ordered.pairwise (h : Ordered files) :
    files.Pairwise fun a b => precedes a b = true := by
  obtain ⟨grave, mild, rfl, hgrave, hmild, hpg, hpm⟩ := h
  have herror : ∀ file ∈ grave, hasError file = true :=
    fun file hf => hasError_iff.2 (hgrave file hf)
  have hnone : ∀ file ∈ mild, hasError file = false :=
    fun file hf => hasError_eq_false_iff.2 (hmild file hf)
  refine List.pairwise_append.2 ⟨hpg.imp_of_mem ?_, hpm.imp_of_mem ?_, ?_⟩
  · intro a b ha hb h
    rw [precedes_of_hasError_eq ((herror a ha).trans (herror b hb).symm)]
    simp [Path.le, h]
  · intro a b ha hb h
    rw [precedes_of_hasError_eq ((hnone a ha).trans (hnone b hb).symm)]
    simp [Path.le, h]
  · intro a ha b hb
    simp [precedes, herror a ha, hnone b hb]

/-- The order leaves no choice among the files of a table. -/
theorem Ordered.eq_files (h : Ordered files) (hp : files.Perm m.entries) :
    files = (ofMap m).files := by
  refine (hp.trans (perm_files m).symm).eq_of_pairwise ?_ h.pairwise (pairwise_files m)
  intro a b ha hb hab hba
  exact eq_of_mem_entries (hp.mem_iff.1 ha) ((perm_files m).mem_iff.1 hb) (same_of_precedes hab hba)

theorem ofMap_eq_of_perm (h : n.entries.Perm m.entries) : ofMap n = ofMap m :=
  congrArg mk ((ordered_files n).eq_files ((perm_files n).trans h))

/-! ## Counts -/

theorem total_eq_sum (s : Snapshot) : s.total = (s.files.map fun file => file.2.length).sum := by
  rw [total, records, List.length_flatMap]

theorem total_ofMap (m : PathMap (List Record)) :
    (ofMap m).total = (m.entries.map fun file => file.2.length).sum := by
  rw [total_eq_sum]
  exact ((perm_files m).map _).sum_nat

theorem errors_add_warnings_le (s : Snapshot) : s.errors + s.warnings ≤ s.total := by
  have hwarnings : s.warnings ≤ s.records.countP fun r => !r.isError := by
    refine List.countP_mono_left ?_
    intro r _ h
    have hr : r.severity = .warning := by simpa using h
    simp [Record.isError, Severity.isError, hr]
  have hlength := List.length_eq_countP_add_countP Record.isError (l := s.records)
  simp only [Bool.not_eq_true, Bool.decide_eq_false] at hlength
  rw [total, errors]
  omega

theorem isEmpty_iff_total_eq_zero {s : Snapshot} (h : ∀ file ∈ s.files, file.2 ≠ []) :
    s.isEmpty = true ↔ s.total = 0 := by
  rw [isEmpty, total, records, List.isEmpty_iff, List.length_eq_zero_iff, List.flatMap_eq_nil_iff]
  constructor
  · intro hnil
    simp [hnil]
  · intro hnone
    rw [List.eq_nil_iff_forall_not_mem]
    intro file hfile
    exact h file hfile (hnone file hfile)

theorem status_eq_empty_iff {s : Snapshot} : s.status = "" ↔ s.isEmpty = true := by
  rw [status]
  split
  · next h => simp [h]
  · next h =>
    constructor
    · intro hempty
      simpa using congrArg String.toList hempty
    · intro hs
      exact absurd hs h

/-- A snapshot that shows all of a table, in the one order there is. -/
structure Shows (s : Snapshot) (verdicts : PathMap (List Record)) : Prop where
  perm : s.files.Perm verdicts.entries
  distinct : s.files.Pairwise fun a b => ¬ a.1.Same b.1
  nonempty : ∀ file ∈ s.files, file.2 ≠ []
  ordered : Ordered s.files
  /-- No other order of the entries is as good. -/
  unique : ∀ files, files.Perm verdicts.entries → Ordered files → files = s.files
  total : s.total = (verdicts.entries.map fun file => file.2.length).sum
  counts : s.errors + s.warnings ≤ s.total
  isEmpty_iff : s.isEmpty = true ↔ s.total = 0
  status_iff : s.total = 0 ↔ s.status = ""

theorem shows_ofMap (h : ∀ file ∈ m.entries, file.2 ≠ []) : (ofMap m).Shows m := by
  have hnonempty : ∀ file ∈ (ofMap m).files, file.2 ≠ [] := by
    intro file hfile
    exact h file ((perm_files m).mem_iff.1 hfile)
  exact
    { perm := perm_files m
      distinct := distinct_files m
      nonempty := hnonempty
      ordered := ordered_files m
      unique := fun files hp ho => ho.eq_files hp
      total := total_ofMap m
      counts := errors_add_warnings_le (ofMap m)
      isEmpty_iff := isEmpty_iff_total_eq_zero hnonempty
      status_iff := (isEmpty_iff_total_eq_zero hnonempty).symm.trans status_eq_empty_iff.symm }

end Snapshot

namespace Store

/-- What can be called on a store. -/
inductive Call where
  | issue (path : Path)
  | apply (path : Path) (sequence : UInt64) (records : List Record)
  | settle (path : Path)
  | close (path : Path)

def perform (s : Store) : Call → Store
  | .issue path => s.issue path
  | .apply path sequence records => s.apply path sequence records
  | .settle path => s.settle path
  | .close path => s.close path

/-- A fresh store after a list of calls. -/
def after (calls : List Call) : Store := calls.foldl perform {}

/-- No file is kept without diagnostics. -/
def Filled (s : Store) : Prop := ∀ p file, s.verdicts.find? p = some file → file.2 ≠ []

variable {s : Store}

theorem Filled.put (h : s.Filled) (path : Path) (records : List Record) :
    (s.put path records).Filled := by
  intro p file hfile
  rw [verdicts_put] at hfile
  split at hfile
  · split at hfile
    · cases hfile
    · next hr =>
      cases hfile
      simpa using hr
  · exact h p file hfile

theorem Filled.perform (h : s.Filled) (call : Call) : (s.perform call).Filled := by
  cases call with
  | issue | settle => exact h
  | apply path sequence records =>
    rw [Store.perform, Store.apply]
    split
    · exact h.put path records
    · exact h
  | close path =>
    intro p file hfile
    rw [Store.perform, verdicts_close] at hfile
    split at hfile
    · cases hfile
    · exact h p file hfile

theorem filled_foldl (h : s.Filled) (calls : List Call) : (calls.foldl perform s).Filled := by
  induction calls generalizing s with
  | nil => exact h
  | cons call calls ih => exact ih (h.perform call)

theorem filled_after (calls : List Call) : (after calls).Filled :=
  filled_foldl (fun p file hfile => by simp at hfile) calls

/-- After any calls the snapshot of a store shows all that the store keeps, each file once and in
the only order there is, whichever order the store keeps its files in. For each path, however it
is spelled, it answers what the store does. -/
theorem shows_snapshot_after (calls : List Call) :
    let s := after calls
    s.snapshot.Shows s.verdicts ∧
    (∀ m : PathMap (List Record), m.entries.Perm s.verdicts.entries →
      Snapshot.ofMap m = s.snapshot) ∧
    ∀ p q : Path, p.Same q → s.snapshot.forFile p = s.get q := by
  intro s
  refine ⟨Snapshot.shows_ofMap ?_, fun m hm => Snapshot.ofMap_eq_of_perm hm, ?_⟩
  · intro file hfile
    exact filled_after calls file.1 file (PathMap.mem_entries_iff.1 hfile)
  · intro p q hpq
    rw [snapshot, Snapshot.forFile_ofMap, PathMap.get?_congr hpq, get]

/-- Of four files one is closed and one had a stale verdict; the one with an error comes first. -/
theorem shows_snapshot_after_mixed :
    let record (severity : Severity) : Record :=
      { line := 3, range := ⟨1, 4, by decide⟩, reason := "'Foo' is unknown", severity }
    let calls : List Call := [.issue ⟨"p/a"⟩, .issue ⟨"p//b"⟩, .issue ⟨"c"⟩, .issue ⟨"d"⟩,
      .apply ⟨"p/a"⟩ 1 [record .warning, record .hint], .apply ⟨"p/b"⟩ 1 [record .error],
      .apply ⟨"c"⟩ 1 [record .error], .close ⟨"c/"⟩, .apply ⟨"c"⟩ 1 [record .error],
      .apply ⟨"d"⟩ 2 [record .error], .settle ⟨"p/a"⟩]
    let s := after calls
    s.snapshot.Shows s.verdicts ∧
      s.snapshot.files =
        [(⟨"p/b"⟩, [record .error]), (⟨"p/a"⟩, [record .warning, record .hint])] ∧
      Path.Same ⟨"p/./b/"⟩ ⟨"p/b"⟩ ∧ s.snapshot.forFile ⟨"p/./b/"⟩ = s.get ⟨"p/b"⟩ := by
  intro record calls s
  obtain ⟨hshows, -, hfile⟩ := shows_snapshot_after calls
  refine ⟨hshows, (hshows.unique _ (by decide +kernel) ?_).symm, by decide, hfile _ _ (by decide)⟩
  exact ⟨[(⟨"p/b"⟩, [record .error])], [(⟨"p/a"⟩, [record .warning, record .hint])], rfl,
    by decide, by decide, List.pairwise_singleton .., List.pairwise_singleton ..⟩

end Store

end DocumentLint
