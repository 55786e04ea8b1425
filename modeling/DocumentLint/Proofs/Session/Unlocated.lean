import DocumentLint.Proofs.Session.Bookkeeping
import DocumentLint.Proofs.Session.Findings

/-! # Findings that could not be located

Completions are recorded until they are taken, and a completion that was not
stale when it was recorded is not looked at again. So a file is listed for any
of its fresh completions, and a later run takes nothing back. The last run has
the final word where no run was started after a fresh completion.
-/

namespace DocumentLint

namespace Completion

/-- A completion of a file that was not stale. -/
def FreshFor (p : Path) (c : Completion) : Prop := c.path.Same p ∧ c.stale = false

instance (p : Path) : DecidablePred (FreshFor p) := fun c =>
  inferInstanceAs (Decidable (c.path.Same p ∧ c.stale = false))

def freshOf (cs : List Completion) (p : Path) : List Completion := cs.filter fun c => c.FreshFor p

theorem mem_freshOf_iff {cs : List Completion} {p : Path} {c : Completion} :
    c ∈ freshOf cs p ↔ c ∈ cs ∧ c.FreshFor p := by
  simp [freshOf]

theorem lists_unlocated (cs : List Completion) :
    Lists (fun c => c.stale = false ∧ c.status = .findings 0) cs (unlocated cs) :=
  lists_pathsWhere (by simp) cs

theorem exists_mem_unlocated_iff {cs : List Completion} {p : Path} :
    (∃ q ∈ unlocated cs, q.Same p) ↔ ∃ c ∈ freshOf cs p, c.status = .findings 0 := by
  rw [(lists_unlocated cs).files]
  simp only [mem_freshOf_iff]
  constructor
  · rintro ⟨c, hc, ⟨hstale, hstatus⟩, hs⟩
    exact ⟨c, ⟨hc, hs, hstale⟩, hstatus⟩
  · rintro ⟨c, ⟨hc, hs, hstale⟩, hstatus⟩
    exact ⟨c, hc, ⟨hstale, hstatus⟩, hs⟩

end Completion

open Completion

namespace Occurrence

/-- A fresh completion of a file was recorded. -/
def Rules (p : Path) : Occurrence → Prop
  | .handled _ c => c.FreshFor p
  | _ => False

instance (p : Path) : DecidablePred (Rules p)
  | .handled _ c => inferInstanceAs (Decidable (c.FreshFor p))
  | .scheduled _ | .closed _ | .ended .. => inferInstanceAs (Decidable False)

end Occurrence

namespace History

open Occurrence

variable {settings : Settings} {h k pre mid rest : History} {o : Occurrence} {p : Path}
  {i : Invocation} {e e' : Event} {c c' : Completion}

def completions (h : History) : List Completion := (handled h).map (·.2)

/-- A run of a file was started after a fresh completion of it was recorded. -/
def Rerun (h : History) (p : Path) : Prop :=
  ∃ i ∈ scheduled (h.dropWhile fun o => ¬ o.Rules p), i.path.Same p

instance (h : History) : DecidablePred h.Rerun := fun p =>
  inferInstanceAs (Decidable (∃ i ∈ scheduled (h.dropWhile fun o => ¬ o.Rules p), i.path.Same p))

theorem newest?_append_cases (hn : newest? (h ++ k) p = some i) :
    i ∈ scheduled k ∨ newest? h p = some i := by
  induction k using List.reverseRecOn with
  | nil => exact .inr (by simpa using hn)
  | append_singleton k o ih =>
    rw [← List.append_assoc, newest?_concat] at hn
    split at hn
    · simp [hn]
    · rcases ih hn with hi | hi
      · simp [hi]
      · exact .inr hi

theorem Lawful.same_of_freshFor (hl : Lawful settings h) (hm : .handled e c ∈ h)
    (hc : c.FreshFor p) : e.path.Same p := by
  rw [← (hl.completion_of_mem hm).1]
  exact hc.1

/-- Of two fresh completions of a file, the later one belongs to a run that was started when the
earlier one was recorded already. -/
theorem Lawful.mem_scheduled_between
    (hl : Lawful settings (pre ++ .handled e c :: (mid ++ .handled e' c' :: rest)))
    (ht : touches (pre ++ .handled e c :: (mid ++ .handled e' c' :: rest)) p < UInt64.size)
    (hc : c.FreshFor p) (hc' : c'.FreshFor p) : e'.invocation ∈ scheduled mid := by
  have hs : e.path.Same p := hl.same_of_freshFor (by simp) hc
  have hs' : e'.path.Same p := hl.same_of_freshFor (by simp) hc'
  have hfirst : newest? pre p = some e.invocation := by
    have hlt : touches pre e.path < UInt64.size :=
      touches_congr hs ▸ Nat.lt_of_le_of_lt touches_le_append ht
    rw [← newest?_congr hs]
    exact (hl.of_append.stale_eq_false_iff hl.admits hlt).1 hc.2
  rw [← List.cons_append, ← List.append_assoc] at hl ht
  have hsecond : newest? (pre ++ .handled e c :: mid) p = some e'.invocation := by
    have hlt : touches (pre ++ .handled e c :: mid) e'.path < UInt64.size :=
      touches_congr hs' ▸ Nat.lt_of_le_of_lt touches_le_append ht
    rw [← newest?_congr hs']
    exact (hl.of_append.stale_eq_false_iff hl.admits hlt).1 hc'.2
  rcases newest?_append_cases hsecond with hi | hi
  · simpa [scheduled?] using hi
  · -- otherwise both events would be of the same invocation, which is handled once
    have hne := hl.number_ne_of_mem_handled (x := (e, c)) (by simp [handled?])
    rw [hfirst] at hi
    exact absurd (congrArg Invocation.number (Option.some.inj hi)) hne

theorem completions_cons (o : Occurrence) (h : History) :
    completions (o :: h) = (o.handled?.map (·.2)).toList ++ completions h := by
  cases o <;> rfl

theorem freshOf_cons_of_rules (hc : c.FreshFor p) :
    freshOf (completions (.handled e c :: h)) p = c :: freshOf (completions h) p := by
  simp [completions_cons, handled?, freshOf, hc]

theorem freshOf_cons_of_not_rules (ho : ¬ o.Rules p) :
    freshOf (completions (o :: h)) p = freshOf (completions h) p := by
  cases o with
  | handled e c =>
    have hc : ¬ c.FreshFor p := ho
    simp [completions_cons, handled?, freshOf, hc]
  | scheduled | closed | ended => rfl

theorem rerun_cons_of_rules (ho : o.Rules p) (hi : i ∈ scheduled h) (hs : i.path.Same p) :
    Rerun (o :: h) p := by
  refine ⟨i, ?_, hs⟩
  simp [ho, hi]

theorem rerun_cons_of_not_rules (ho : ¬ o.Rules p) : Rerun (o :: h) p ↔ Rerun h p := by
  simp [Rerun, ho]

theorem Lawful.freshOf_eq_singleton (hl : Lawful settings (k ++ h))
    (ht : touches (k ++ h) p < UInt64.size) (hr : ¬ Rerun h p)
    (hlast : (freshOf (completions h) p).getLast? = some c) :
    freshOf (completions h) p = [c] := by
  induction h generalizing k with
  | nil => simp [completions, freshOf] at hlast
  | cons o h ih =>
    by_cases ho : o.Rules p
    · cases o with
      | scheduled | closed | ended => exact absurd ho id
      | handled e d =>
        rw [freshOf_cons_of_rules ho] at hlast ⊢
        have hnil : freshOf (completions h) p = [] := by
          rw [freshOf, List.filter_eq_nil_iff]
          intro c' hc' hfresh
          obtain ⟨⟨e', c'⟩, hx, rfl⟩ := List.mem_map.1 hc'
          obtain ⟨mid, rest, rfl⟩ := List.append_of_mem (mem_handled_iff.1 hx)
          have hfresh : c'.FreshFor p := by simpa using hfresh
          have hmem := hl.mem_scheduled_between ht ho hfresh
          have hs : e'.path.Same p := hl.same_of_freshFor (by simp) hfresh
          exact hr (rerun_cons_of_rules ho (by simp [hmem]) hs)
        rw [hnil] at hlast ⊢
        simpa using hlast
    · rw [freshOf_cons_of_not_rules ho] at hlast ⊢
      rw [rerun_cons_of_not_rules ho] at hr
      rw [List.append_cons] at hl ht
      exact ih hl ht hr hlast

end History

namespace Session

open History

def takes : Action → Bool
  | .takeCompletions => true
  | _ => false

/-- The actions up to the last that took the completions. -/
def upToTaking (as : List Action) : List Action := as.rdropWhile fun a => !takes a

/-- The actions since the completions were last taken. -/
def sinceTaking (as : List Action) : List Action := as.rtakeWhile fun a => !takes a

/-- What happened since the completions were last taken. -/
def untaken (settings : Settings) (as : List Action) : History :=
  (after settings (upToTaking as)).history (sinceTaking as)

variable (settings : Settings) (as : List Action)

theorem upToTaking_append_sinceTaking : upToTaking as ++ sinceTaking as = as :=
  List.rdropWhile_append_rtakeWhile ..

theorem not_mem_sinceTaking : .takeCompletions ∉ sinceTaking as := by
  intro hm
  simpa [takes] using List.mem_rtakeWhile_imp hm

theorem completions_upToTaking : (after settings (upToTaking as)).completions = [] := by
  rw [upToTaking]
  induction as using List.reverseRecOn with
  | nil => rfl
  | append_singleton as a ih =>
    cases a with
    | takeCompletions =>
      rw [List.rdropWhile_concat_neg _ _ _ (by simp [takes]), after, List.foldl_concat]
      rfl
    | trigger | close | finish | poll | idle | takeNotices =>
      rw [List.rdropWhile_concat_pos _ _ _ (by simp [takes])]
      exact ih

theorem completions_after_eq :
    (after settings as).completions = (untaken settings as).completions := by
  have h := completions_acts (s := after settings (upToTaking as)) (not_mem_sinceTaking as)
  rw [completions_upToTaking, List.nil_append, after, ← List.foldl_append,
    upToTaking_append_sinceTaking] at h
  exact h

theorem history_eq_append_untaken : history { settings } as =
    history { settings } (upToTaking as) ++ untaken settings as := by
  conv_lhs => rw [← upToTaking_append_sinceTaking as]
  exact history_append _ _ _

/-- A file is listed for any of its fresh completions that has findings none of which could be
located, even if a later one has come to another result. Both stand in one list only if the file
was run again after the first was recorded; where no file is run again, the last of its runs has
the final word. -/
theorem unlocated_after (settings : Settings) (as : List Action) :
    let cs := (after settings as).completions
    let h := untaken settings as
    cs = h.completions ∧
    Lists (fun c => c.stale = false ∧ c.status = .findings 0) cs (unlocated cs) ∧
    ∀ p : Path,
      (∀ c, (freshOf cs p).getLast? = some c → c.status ≠ .findings 0 →
        ((∃ q ∈ unlocated cs, q.Same p) ↔
          ∃ d ∈ (freshOf cs p).dropLast, d.status = .findings 0)) ∧
      (touches (history { settings } as) p < UInt64.size →
        (1 < (freshOf cs p).length → Rerun h p) ∧
        (¬ Rerun h p → ∀ c, (freshOf cs p).getLast? = some c →
          ((∃ q ∈ unlocated cs, q.Same p) ↔ c.status = .findings 0))) := by
  intro cs h
  have hcs : cs = h.completions := completions_after_eq settings as
  have hhistory : history { settings } as = history { settings } (upToTaking as) ++ h :=
    history_eq_append_untaken settings as
  have hl := (tracks_after settings as).lawful
  rw [hhistory] at hl ⊢
  refine ⟨hcs, lists_unlocated cs, fun p => ⟨fun c hlast hne => ?_, fun ht => ?_⟩⟩
  · rw [exists_mem_unlocated_iff, ← List.dropLast_append_getLast? c hlast]
    simp [hne]
  · have hsingle {c : Completion} (hr : ¬ Rerun h p) (hlast : (freshOf cs p).getLast? = some c) :
        freshOf cs p = [c] := by
      rw [hcs] at hlast ⊢
      exact hl.freshOf_eq_singleton ht hr hlast
    constructor
    · intro hlength
      by_contra hr
      cases hlast : (freshOf cs p).getLast? with
      | none => simp [List.getLast?_eq_none_iff.1 hlast] at hlength
      | some c => simp [hsingle hr hlast] at hlength
    · intro hr c hlast
      rw [exists_mem_unlocated_iff, hsingle hr hlast]
      simp

/-- A file is listed though its second run, started after the first was handled, found nothing.
The other file is not run again, so its only run has the final word. -/
theorem unlocated_after_rerun :
    let a : Path := ⟨"/p/a.proto"⟩
    let b : Path := ⟨"/p/b.proto"⟩
    let broken : Ending := .answered (.ok { code := some 1, stderr := "no lint plugin" })
    let as : List Action := [.trigger a ⟨"proto"⟩, .trigger b ⟨"proto"⟩, .finish 1 broken,
      .finish 2 broken, .poll 2, .trigger a ⟨"proto"⟩,
      .finish 3 (.answered (.ok { code := some 0 })), .poll 1]
    let h := untaken {} as
    let cs := (after {} as).completions
    let first : Completion := { path := a, sequence := 1, status := .findings 0, stale := false }
    let second : Completion := { path := a, sequence := 2, status := .clean, stale := false }
    let other : Completion := { path := b, sequence := 1, status := .findings 0, stale := false }
    cs = [first, other, second] ∧ unlocated cs = [a, b] ∧
      (freshOf cs a).getLast? = some second ∧ second.status ≠ .findings 0 ∧
      (∃ q ∈ unlocated cs, q.Same a) ∧
      touches (history { settings := {} } as) a < UInt64.size ∧ 1 < (freshOf cs a).length ∧
      Rerun h a ∧
      touches (history { settings := {} } as) b < UInt64.size ∧ ¬ Rerun h b ∧
      (freshOf cs b).getLast? = some other ∧
      ((∃ q ∈ unlocated cs, q.Same b) ↔ other.status = .findings 0) := by
  intro a b broken as h cs first second other
  have hcs : cs = [first, other, second] := by decide +kernel
  obtain ⟨-, -, hlisted⟩ := unlocated_after {} as
  have hlast : (freshOf cs a).getLast? = some second := by decide +kernel
  have hne : second.status ≠ .findings 0 := by decide
  have hother : (freshOf cs b).getLast? = some other := by decide +kernel
  have hta : touches (history { settings := {} } as) a < UInt64.size := by decide +kernel
  have htb : touches (history { settings := {} } as) b < UInt64.size := by decide +kernel
  have hlength : 1 < (freshOf cs a).length := by decide +kernel
  have hr : ¬ Rerun h b := by decide +kernel
  refine ⟨hcs, ?_, hlast, hne, ?_, hta, hlength, ((hlisted a).2 hta).1 hlength, htb, hr, hother,
    ((hlisted b).2 htb).2 hr other hother⟩
  · rw [hcs]
    exact (Path.eq_sortedOnce (by decide +kernel) (by decide +kernel) (by decide +kernel)).symm
  · exact ((hlisted a).1 second hlast hne).2 ⟨first, by decide +kernel, rfl⟩

end Session

end DocumentLint
