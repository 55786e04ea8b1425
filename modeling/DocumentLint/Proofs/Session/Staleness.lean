import DocumentLint.Proofs.Session.Bookkeeping

/-! # Staleness

A completion is fresh exactly if its file saw neither an accepted trigger nor
a close between the scheduling of its invocation and the handling of its event.
Sequence numbers are forgotten and used again, but they never confuse two runs.
-/

namespace DocumentLint

namespace History

open Occurrence

variable {settings : Settings} {pre mid : History} {i : Invocation} {p : Path}

theorem Lawful.newest?_eq_some_iff (hl : Lawful settings (pre ++ .scheduled i :: mid))
    (hp : i.path.Same p) :
    newest? (pre ++ .scheduled i :: mid) p = some i ↔ ∀ o ∈ mid, ¬ o.Touches p := by
  induction mid using List.reverseRecOn with
  | nil => simp [newest?_concat_of_touches (o := .scheduled i) hp, scheduled?]
  | append_singleton mid o ih =>
    rw [← List.cons_append, ← List.append_assoc] at hl ⊢
    have ih := ih hl.of_append
    by_cases ho : o.Touches p
    · rw [newest?_concat_of_touches ho]
      -- whatever touches the file, it does not schedule the same invocation again
      have hne : o.scheduled? ≠ some i := by
        rw [Ne, scheduled?_eq_some_iff]
        rintro rfl
        exact hl.of_append.not_mem_scheduled hl.admits (by simp [scheduled?])
      exact iff_of_false hne fun hmid => hmid o (by simp) ho
    · rw [newest?_concat_of_not_touches ho, ih]
      simp [ho, or_imp, forall_and]

/-- Each completion in a history is fresh exactly if nothing touched its file since its
invocation was scheduled. No other invocation bears the same number. -/
def FreshIffUntouched (h : History) : Prop :=
  ∀ before e c rest, h = before ++ .handled e c :: rest →
    c.path = e.path ∧ c.sequence = e.sequence ∧
    ∃ pre mid, before = pre ++ .scheduled e.invocation :: mid ∧
      (∀ i ∈ scheduled (pre ++ (mid ++ rest)), i.number ≠ e.invocation.number) ∧
      (∀ x ∈ handled (before ++ rest), x.1.invocation.number ≠ e.invocation.number) ∧
      (c.stale = false ↔ ∀ o ∈ mid, ¬ o.Touches e.path)

theorem Lawful.freshIffUntouched {h : History} (hl : Lawful settings h)
    (ht : ∀ p, touches h p < UInt64.size) : FreshIffUntouched h := by
  rintro before e c rest rfl
  have hadmits := hl.admits
  have hbefore : Lawful settings before := hl.of_append
  have hsent : e ∈ sent settings before := hadmits.1.subset (by simp)
  obtain ⟨pre, mid, rfl⟩ := List.append_of_mem
    (mem_scheduled_iff.1 (hbefore.mem_scheduled_of_mem_sent hsent))
  have htouches := Nat.lt_of_le_of_lt touches_le_append (ht e.path)
  refine ⟨by rw [hadmits.2]; rfl, by rw [hadmits.2]; rfl, pre, mid, rfl, ?_, ?_, ?_⟩
  · intro i hi
    refine Lawful.number_ne_of_mem_scheduled (by simpa using hl) (j := i) ?_
    simpa [scheduled?] using hi
  · exact fun x => hl.number_ne_of_mem_handled
  · rw [hbefore.stale_eq_false_iff hadmits htouches]
    exact hbefore.newest?_eq_some_iff (.refl _)

end History

namespace Session

open History

/-- The completions recorded in a session, taken or waiting, are those of the events it
handled, in their order, and they are fresh exactly if nothing touched their files meanwhile. -/
theorem completions_freshIffUntouched (settings : Settings) (as : List Action)
    (hn : as.length < UInt64.size) :
    takenBy { settings } as ++ (after settings as).completions =
        (handled (history { settings } as)).map (·.2) ∧
      FreshIffUntouched (history { settings } as) := by
  constructor
  · have h := takenBy_append_completions { settings } as
    rwa [List.nil_append] at h
  · exact (tracks_after settings as).lawful.freshIffUntouched fun _ =>
      Nat.lt_of_le_of_lt (touches_history_le as) hn

/-- The first run of a file that was closed, settled and opened again bears the number of
its very first run, which was stale. -/
theorem completions_freshIffUntouched_reopened :
    let path : Path := ⟨"a.proto"⟩
    let ending : Ending := .answered (.ok { code := some 0 })
    let as : List Action := [.trigger path ⟨"proto"⟩, .close path, .finish 1 ending, .poll 1,
      .trigger path ⟨"proto"⟩, .finish 2 ending, .poll 1]
    as.length < UInt64.size ∧
      (after {} as).completions = [
        { path, sequence := 1, status := .clean, stale := true },
        { path, sequence := 1, status := .clean, stale := false }] ∧
      takenBy { settings := {} } as ++ (after {} as).completions =
        (handled (history { settings := {} } as)).map (·.2) ∧
      FreshIffUntouched (history { settings := {} } as) :=
  ⟨by decide, by decide +kernel, completions_freshIffUntouched {} _ (by decide)⟩

end Session

end DocumentLint
