import Mathlib.Data.List.Pairwise
import Mathlib.Data.List.Sort
import DocumentLint.Proofs.Snapshot.Order
import DocumentLint.Session.Completion

/-! # Sorted paths without repetitions

Repetitions stand next to each other in a sorted list, so that one pass removes
them and leaves of each file the spelling that came first. What is left
increases strictly, and so it depends on the files only. Where every file is
listed once, the order of a list does not even matter for the spellings.
-/

namespace DocumentLint

section Repetitions

variable {α : Type} {r : α → α → Bool} {a b : α} {l : List α}

theorem eraseRepsBy_loop (acc : List α) :
    List.eraseRepsBy.loop r a l acc = acc.reverse ++ (a :: l).eraseRepsBy r := by
  rw [List.eraseRepsBy]
  induction l generalizing a acc with
  | nil => simp [List.eraseRepsBy.loop]
  | cons b l ih =>
    rw [List.eraseRepsBy.loop, List.eraseRepsBy.loop]
    cases r a b with
    | true => exact ih acc
    | false =>
      rw [ih (a :: acc), ih [a]]
      simp

theorem eraseRepsBy_cons_cons : (a :: b :: l).eraseRepsBy r =
    if r a b then (a :: l).eraseRepsBy r else a :: (b :: l).eraseRepsBy r := by
  rw [List.eraseRepsBy, List.eraseRepsBy.loop]
  cases r a b with
  | true => simp [eraseRepsBy_loop]
  | false => simp [eraseRepsBy_loop]

theorem eraseRepsBy_eq_nil_iff : l.eraseRepsBy r = [] ↔ l = [] := by
  cases l with
  | nil => exact iff_of_true rfl rfl
  | cons a l =>
    refine iff_of_false ?_ (List.cons_ne_nil a l)
    induction l with
    | nil => exact List.cons_ne_nil a []
    | cons b l ih =>
      rw [eraseRepsBy_cons_cons]
      split
      · exact ih
      · exact List.cons_ne_nil a _

theorem eraseRepsBy_subset : l.eraseRepsBy r ⊆ l := by
  cases l with
  | nil => exact List.Subset.refl []
  | cons a l =>
    induction l generalizing a with
    | nil => exact List.Subset.refl [a]
    | cons b l ih =>
      rw [eraseRepsBy_cons_cons]
      intro x hx
      split at hx
      · rcases List.mem_cons.1 (ih a hx) with rfl | hx
        · exact List.mem_cons_self ..
        · exact List.mem_cons_of_mem _ (List.mem_cons_of_mem _ hx)
      · rcases List.mem_cons.1 hx with rfl | hx
        · exact List.mem_cons_self ..
        · exact List.mem_cons_of_mem _ (ih b hx)

theorem find?_eraseRepsBy {f : α → Bool} (h : ∀ a b, r a b = true → f a = f b) :
    (l.eraseRepsBy r).find? f = l.find? f := by
  cases l with
  | nil => rfl
  | cons a l =>
    induction l generalizing a with
    | nil => rfl
    | cons b l ih =>
      rw [eraseRepsBy_cons_cons]
      split
      · next hab =>
        rw [ih, List.find?_cons, List.find?_cons, List.find?_cons, h a b hab]
        cases f b <;> rfl
      · rw [List.find?_cons, ih, ← List.find?_cons]

end Repetitions

namespace Path

variable {ps qs : List Path}

theorem sortedOnce_eq_nil_iff : sortedOnce ps = [] ↔ ps = [] := by
  rw [sortedOnce, eraseRepsBy_eq_nil_iff, ← List.length_eq_zero_iff, List.length_mergeSort,
    List.length_eq_zero_iff]

/-- No file is listed twice, in whatever spellings. -/
def Distinct (ps : List Path) : Prop := ps.Pairwise fun p q => ¬ p.Same q

theorem Distinct.perm (h : Distinct ps) (hp : ps.Perm qs) : Distinct qs :=
  (hp.pairwise_iff fun hn hs => hn hs.symm).1 h

theorem Distinct.sublist (h : Distinct ps) (hs : qs.Sublist ps) : Distinct qs :=
  List.Pairwise.sublist hs h

theorem Distinct.eq_of_same (h : Distinct ps) {p q : Path} (hp : p ∈ ps) (hq : q ∈ ps)
    (hs : p.Same q) : p = q := by
  by_contra hne
  have hsymm : Std.Symm fun p q : Path => ¬ p.Same q := ⟨fun _ _ hn hs => hn hs.symm⟩
  exact List.Pairwise.forall h hp hq hne hs

theorem pairwise_mergeSort (ps : List Path) :
    (ps.mergeSort le).Pairwise fun p q => p.le q = true := by
  have htrans (p q r : Path) (h₁ : p.le q = true) (h₂ : q.le r = true) : p.le r = true :=
    le_trans h₁ h₂
  exact List.pairwise_mergeSort htrans le_total ps

/-- Every path comes before all those behind it. -/
def Increasing (ps : List Path) : Prop := ps.Pairwise fun p q => p.compare q = .lt

instance : DecidablePred Increasing := fun ps =>
  inferInstanceAs (Decidable (ps.Pairwise fun p q => p.compare q = .lt))

theorem Increasing.distinct (h : Increasing ps) : Distinct ps := by
  refine h.imp ?_
  intro p q hlt hs
  rw [compare_eq_iff.2 hs] at hlt
  cases hlt

theorem increasing_eraseRepsBy (h : ps.Pairwise fun p q => p.le q = true) :
    Increasing (ps.eraseRepsBy fun p q => p.Same q) := by
  cases ps with
  | nil => exact .nil
  | cons p ps =>
    induction ps generalizing p with
    | nil => exact List.pairwise_singleton ..
    | cons q ps ih =>
      obtain ⟨hp, hps⟩ := List.pairwise_cons.1 h
      rw [eraseRepsBy_cons_cons]
      split
      · have htail : ∀ r ∈ ps, p.le r = true := fun r hr => hp r (List.mem_cons_of_mem q hr)
        exact ih p (List.pairwise_cons.2 ⟨htail, hps.of_cons⟩)
      · next hpq =>
        have hne : ¬ p.Same q := by simpa using hpq
        have hlt : p.compare q = .lt := compare_eq_lt (hp q (List.mem_cons_self ..)) hne
        refine List.pairwise_cons.2 ⟨fun r hr => ?_, ih q hps⟩
        -- the file of the first path does not come back behind the second
        rcases List.mem_cons.1 (eraseRepsBy_subset hr) with rfl | hr
        · exact hlt
        · exact lt_of_lt_of_le hlt (List.rel_of_pairwise_cons hps hr)

theorem increasing_sortedOnce (ps : List Path) : Increasing (sortedOnce ps) :=
  increasing_eraseRepsBy (pairwise_mergeSort ps)

/-- The files leave no choice for an increasing list, up to their spellings. -/
theorem Increasing.rel_of_same (hp : Increasing ps) (hq : Increasing qs)
    (h : ∀ p : Path, (∃ r ∈ ps, r.Same p) ↔ ∃ r ∈ qs, r.Same p) : List.Forall₂ Same ps qs := by
  let before (a b : List Component) : Prop := Ord.compare a b = .lt
  have hirrefl : Std.Irrefl before := ⟨fun a ha => by simp [before] at ha⟩
  have hantisymm : Std.Antisymm before := ⟨fun a b hab hba => by
    have := Std.OrientedCmp.gt_of_lt hab
    simp_all [before]⟩
  have hmem (cs : List Component) : cs ∈ ps.map components ↔ cs ∈ qs.map components := by
    simp only [List.mem_map]
    constructor
    · rintro ⟨p, hp, rfl⟩
      exact (h p).1 ⟨p, hp, .refl p⟩
    · rintro ⟨q, hq, rfl⟩
      exact (h q).2 ⟨q, hq, .refl q⟩
  have hps : (ps.map components).Pairwise before := List.pairwise_map.2 hp
  have hqs : (qs.map components).Pairwise before := List.pairwise_map.2 hq
  exact forall₂_of_map_eq (hps.eq_of_mem_iff hqs hmem)

/-! ## The spellings that are kept -/

theorem filter_mergeSort (ps : List Path) (p : Path) :
    ((ps.mergeSort le).filter fun q => q.Same p) = ps.filter fun q => q.Same p := by
  have htrans (p q r : Path) (h₁ : p.le q = true) (h₂ : q.le r = true) : p.le r = true :=
    le_trans h₁ h₂
  have hsame : (ps.filter fun q => q.Same p).Pairwise fun q r => q.le r = true := by
    refine List.pairwise_of_forall_mem_list fun q hq r hr => ?_
    have hqp : q.Same p := by simpa using (List.mem_filter.1 hq).2
    have hrp : r.Same p := by simpa using (List.mem_filter.1 hr).2
    rw [le, compare_eq_iff.2 (hqp.trans hrp.symm)]
    rfl
  have hsub := (List.sublist_mergeSort htrans le_total hsame List.filter_sublist).filter
    fun q => q.Same p
  rw [List.filter_filter] at hsub
  refine (List.Sublist.eq_of_length ?_ ?_).symm
  · simpa using hsub
  · exact ((List.mergeSort_perm ps le).filter _).length_eq.symm

theorem find?_sortedOnce (ps : List Path) (p : Path) :
    ((sortedOnce ps).find? fun q => q.Same p) = ps.find? fun q => q.Same p := by
  have hspelled (q r : Path) (h : decide (q.Same r) = true) :
      decide (q.Same p) = decide (r.Same p) := by
    have hqr : q.Same r := by simpa using h
    rw [decide_eq_decide]
    exact ⟨hqr.symm.trans, hqr.trans⟩
  rw [sortedOnce, find?_eraseRepsBy hspelled, ← List.head?_filter, filter_mergeSort,
    List.head?_filter]

theorem exists_mem_sortedOnce_iff {p : Path} :
    (∃ q ∈ sortedOnce ps, q.Same p) ↔ ∃ q ∈ ps, q.Same p := by
  have h := congrArg Option.isSome (find?_sortedOnce ps p)
  rw [Bool.eq_iff_iff, List.find?_isSome, List.find?_isSome] at h
  simpa using h

theorem find?_of_mem_sortedOnce {q : Path} (hq : q ∈ sortedOnce ps) :
    (ps.find? fun r => r.Same q) = some q := by
  rw [← find?_sortedOnce]
  cases hf : (sortedOnce ps).find? fun r => r.Same q with
  | none =>
    have hn : ¬ q.Same q := by simpa using List.find?_eq_none.1 hf q hq
    exact absurd (.refl q) hn
  | some r =>
    have hr : r ∈ sortedOnce ps := List.mem_of_find?_eq_some hf
    have hs : r.Same q := by simpa using List.find?_some hf
    rw [(increasing_sortedOnce ps).distinct.eq_of_same hr hq hs]

/-- Nothing else lists the files in order and under their first spellings. -/
theorem eq_sortedOnce (hq : Increasing qs)
    (hfirst : ∀ q ∈ qs, (ps.find? fun r => r.Same q) = some q)
    (hfiles : ∀ p ∈ ps, ∃ q ∈ qs, q.Same p) : qs = sortedOnce ps := by
  have hsame (p : Path) : (∃ q ∈ qs, q.Same p) ↔ ∃ q ∈ sortedOnce ps, q.Same p := by
    rw [exists_mem_sortedOnce_iff]
    constructor
    · rintro ⟨q, hq, hs⟩
      exact ⟨q, List.mem_of_find?_eq_some (hfirst q hq), hs⟩
    · rintro ⟨r, hr, hs⟩
      obtain ⟨q, hq, hqr⟩ := hfiles r hr
      exact ⟨q, hq, hqr.trans hs⟩
  obtain ⟨hlength, hrel⟩ :=
    List.forall₂_iff_zip.1 (hq.rel_of_same (increasing_sortedOnce ps) hsame)
  refine List.forall₂_eq_eq_eq ▸ List.forall₂_iff_zip.2 ⟨hlength, fun {q r} hqr => ?_⟩
  have hmem := List.of_mem_zip hqr
  have hfound := hfirst q hmem.1
  simp only [(hrel hqr).congr_right] at hfound
  exact Option.some.inj (hfound.symm.trans (find?_of_mem_sortedOnce hmem.2))

end Path

end DocumentLint
