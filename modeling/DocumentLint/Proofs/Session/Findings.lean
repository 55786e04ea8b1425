import DocumentLint.Proofs.Path.SortedOnce

/-! # Files with findings

The files of some completions are listed once each, in the order of paths and
under the spelling of the first completion of each. The order of the completions
does not matter but for the spellings.
-/

namespace DocumentLint.Completion

open List (Forall₂)

variable {selected : Completion → Prop} {f : Status → Bool} {cs ds : List Completion}
  {ps qs : List Path}

/-- The files of the selected completions, listed once each. -/
structure Lists (selected : Completion → Prop) (cs : List Completion) (ps : List Path) :
    Prop where
  increasing : ps.Pairwise fun p q => p.compare q = .lt
  distinct : ps.Pairwise fun p q => ¬ p.Same q
  files : ∀ p : Path, (∃ q ∈ ps, q.Same p) ↔ ∃ c ∈ cs, selected c ∧ c.path.Same p
  /-- Each file is spelled as in its first selected completion. -/
  spellings : ∀ q ∈ ps, ∃ front c back, cs = front ++ c :: back ∧ selected c ∧ c.path = q ∧
    ∀ d ∈ front, selected d → ¬ d.path.Same q

theorem Lists.rel_of_perm (h : Lists selected cs ps) (h' : Lists selected ds qs)
    (hp : cs.Perm ds) : Forall₂ Path.Same ps qs := by
  apply Path.Increasing.rel_of_same h.increasing h'.increasing
  intro p
  rw [h.files, h'.files]
  simp only [hp.mem_iff]

section Selection

variable (hf : ∀ c, selected c ↔ c.stale = false ∧ f c.status = true)
include hf

theorem find?_eq_some_iff_first {q : Path} :
    (((cs.filter fun c => !c.stale && f c.status).map (·.path)).find? fun r => r.Same q) = some q ↔
      ∃ front c back, cs = front ++ c :: back ∧ selected c ∧ c.path = q ∧
        ∀ d ∈ front, selected d → ¬ d.path.Same q := by
  rw [List.find?_map, List.find?_filter, Option.map_eq_some_iff]
  constructor
  · rintro ⟨c, hc, rfl⟩
    obtain ⟨hc, front, back, rfl, hfront⟩ := List.find?_eq_some_iff_append.1 hc
    have hselected : selected c := by simp_all
    refine ⟨front, c, back, rfl, hselected, rfl, fun d hd hsel hs => ?_⟩
    have hd := hfront d hd
    simp_all
  · rintro ⟨front, c, back, rfl, hc, rfl, hfront⟩
    refine ⟨c, List.find?_eq_some_iff_append.2 ⟨?_, front, back, rfl, fun d hd => ?_⟩, rfl⟩
    · have hs : c.path.Same c.path := .refl _
      simp_all
    · have hd := hfront d hd
      rw [hf] at hd
      cases hstale : d.stale <;> cases hstatus : f d.status <;> simp_all

theorem lists_pathsWhere (cs : List Completion) : Lists selected cs (pathsWhere f cs) := by
  have hincreasing : Path.Increasing (pathsWhere f cs) := Path.increasing_sortedOnce _
  refine ⟨hincreasing, hincreasing.distinct, ?_, ?_⟩
  · intro p
    rw [pathsWhere, Path.exists_mem_sortedOnce_iff]
    simp [hf, and_assoc]
  · intro q hq
    exact (find?_eq_some_iff_first hf).1 (Path.find?_of_mem_sortedOnce hq)

theorem Lists.eq_pathsWhere (h : Lists selected cs ps) : ps = pathsWhere f cs := by
  apply Path.eq_sortedOnce h.increasing
  · intro q hq
    exact (find?_eq_some_iff_first hf).2 (h.spellings q hq)
  · intro p hp
    obtain ⟨c, hc, rfl⟩ := List.mem_map.1 hp
    obtain ⟨hc, hs⟩ := List.mem_filter.1 hc
    exact (h.files c.path).2 ⟨c, hc, (hf c).2 (by simpa using hs), .refl _⟩

end Selection

/-- The files with findings are listed in the one way there is. In whatever order the
completions stand, the list differs in spellings only. -/
theorem withFindings_canonical (cs : List Completion) :
    let found (c : Completion) := c.stale = false ∧ ∃ count, c.status = .findings count
    Lists found cs (withFindings cs) ∧
    (∀ ps, Lists found cs ps → ps = withFindings cs) ∧
    ∀ ds, cs.Perm ds → Forall₂ Path.Same (withFindings cs) (withFindings ds) := by
  intro found
  have hfound (c : Completion) : found c ↔ c.stale = false ∧ c.status.hasFindings = true := by
    simp only [found]
    cases c.status <;> simp [Status.hasFindings]
  have hlists := lists_pathsWhere hfound
  exact ⟨hlists cs, fun ps h => h.eq_pathsWhere hfound,
    fun ds hp => (hlists cs).rel_of_perm (hlists ds) hp⟩

/-- What is in a directory comes before the files whose names only begin like it. -/
theorem withFindings_canonical_reversed :
    let done (path : String) (status : Status) (stale : Bool) : Completion :=
      { path := ⟨path⟩, sequence := 1, status, stale }
    let cs := [done "/p//a" (.findings 0) false, done "/p/a.b" (.findings 2) false,
      done "/c" (.findings 1) true, done "/p/a/b" (.findings 1) false, done "/d" .clean false,
      done "/p/a" (.findings 3) false]
    let ds := cs.reverse
    cs.Perm ds ∧
      withFindings cs = [⟨"/p//a"⟩, ⟨"/p/a/b"⟩, ⟨"/p/a.b"⟩] ∧
      withFindings ds = [⟨"/p/a"⟩, ⟨"/p/a/b"⟩, ⟨"/p/a.b"⟩] ∧
      Forall₂ Path.Same (withFindings cs) (withFindings ds) := by
  intro done cs ds
  have hp : cs.Perm ds := cs.reverse_perm.symm
  refine ⟨hp, ?_, ?_, (withFindings_canonical cs).2.2 ds hp⟩
  · exact (Path.eq_sortedOnce (by decide +kernel) (by decide +kernel) (by decide +kernel)).symm
  · exact (Path.eq_sortedOnce (by decide +kernel) (by decide +kernel) (by decide +kernel)).symm

end DocumentLint.Completion
