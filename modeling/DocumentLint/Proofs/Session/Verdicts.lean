import Mathlib.Data.List.TakeWhile
import DocumentLint.Proofs.Session.Bookkeeping

/-! # Verdicts

What a session shows of a file is the verdict of one event: the last one since
the last close of the file that was not stale and did not fail to launch.
-/

namespace DocumentLint

theorem Text.isEmpty_trim (cs : List Char) : (trim cs).isEmpty = cs.all isBlank := by
  rw [Bool.eq_iff_iff, List.all_eq_true, List.isEmpty_iff, trim, trimEnd, List.reverse_eq_nil_iff,
    List.dropWhile_eq_nil_iff, trimStart]
  constructor
  · intro h c hc
    rw [← List.takeWhile_append_dropWhile (p := isBlank) (l := cs), List.mem_append] at hc
    exact hc.elim (fun hc => List.mem_takeWhile_imp hc) fun hc => h c (List.mem_reverse.2 hc)
  · exact fun h c hc => h c ((List.dropWhile_sublist _).subset (List.mem_reverse.1 hc))

theorem ProcessResult.errorText_eq (r : ProcessResult) :
    r.errorText = if r.stderr.toList.all Text.isBlank then r.stdout else r.stderr := by
  rw [errorText, Text.isEmpty_trim]

theorem Report.records_ofTarget {settings : Settings} {answer : Answer} {target : Path}
    (hf : ∀ failure, ofTarget settings (fun _ => answer) target ≠ .failed failure) :
    ∃ result, answer = .ok result ∧ (ofTarget settings (fun _ => answer) target).records =
      if result.code = some 0 then []
      else Transcript.records
        (if result.stderr.toList.all Text.isBlank then result.stdout else result.stderr)
        settings.trailerLines settings.severity := by
  cases hc : Command.ofTarget settings target with
  | error failure => exact absurd (by simp [ofTarget, hc]) (hf failure)
  | ok command =>
    cases answer with
    | error failure => exact absurd (by simp [ofTarget, hc, ofAnswer]) (hf failure)
    | ok result =>
      refine ⟨result, rfl, ?_⟩
      rw [← result.errorText_eq]
      by_cases h0 : result.code = some 0 <;>
        simp [ofTarget, hc, ofAnswer, ProcessResult.success, h0, records]

namespace History

open Occurrence

variable {settings : Settings} {h : History} {p : Path} {e : Event} {c : Completion}

theorem sinceClose_subset : sinceClose h p ⊆ h := (List.rtakeWhile_suffix ..).subset

theorem exists_of_decisive?_eq_some (hd : decisive? h p = some e) :
    ∃ c, .handled e c ∈ h ∧ Decides p (e, c) := by
  obtain ⟨⟨_, c⟩, hx, rfl⟩ := Option.map_eq_some_iff.1 hd
  obtain ⟨hx, hdec⟩ := List.mem_filter.1 (List.mem_of_getLast? hx)
  exact ⟨c, sinceClose_subset (mem_handled_iff.1 hx), by simpa using hdec⟩

theorem Lawful.exists_result_of_decisive? (hl : Lawful settings h)
    (hd : decisive? h p = some e) :
    ∃ result, .ended e.invocation (.answered (.ok result)) ∈ h ∧ e.report.records =
      if result.code = some 0 then []
      else Transcript.records
        (if result.stderr.toList.all Text.isBlank then result.stdout else result.stderr)
        settings.trailerLines settings.severity := by
  obtain ⟨c, hm, -, -, hstatus⟩ := exists_of_decisive?_eq_some hd
  obtain ⟨answer, hended, hreport⟩ := mem_sent_iff.1
    (hl.mem_sent_of_mem_handled (x := (e, c)) (mem_handled_iff.2 hm))
  rw [(hl.completion_of_mem hm).2.2, Ne, Status.ofReport_eq_launchFailed_iff, not_exists,
    hreport] at hstatus
  obtain ⟨result, rfl, hrecords⟩ := Report.records_ofTarget hstatus
  exact ⟨result, hended, hreport ▸ hrecords⟩

theorem Lawful.scheduled_of_decisive? (hl : Lawful settings h) (ht : touches h p < UInt64.size)
    (hd : decisive? h p = some e) : .scheduled e.invocation ∈ sinceClose h p := by
  rw [← mem_scheduled_iff]
  induction hl with
  | nil => simp [decisive?, sinceClose] at hd
  | @snoc h o hl ho ih =>
    have hlt : touches h p < UInt64.size := Nat.lt_of_le_of_lt touches_le_append ht
    have hstep (hd : decisive? h p = some e) :
        e.invocation ∈ scheduled (sinceClose h p ++ [o]) := by
      rw [scheduled_append]
      exact List.mem_append_left _ (ih hlt hd)
    rw [sinceClose_concat]
    cases o with
    | scheduled | ended =>
      rw [decisive?_concat_of_handled?_eq_none rfl id] at hd
      exact hstep hd
    | closed q =>
      rw [decisive?_concat_closed] at hd
      by_cases hq : q.Same p
      · simp [hq] at hd
      · rw [if_neg hq] at hd
        rw [if_neg (by exact hq)]
        exact hstep hd
    | handled f c =>
      rw [decisive?_concat_handled] at hd
      by_cases hf : Decides p (f, c)
      · rw [if_pos hf] at hd
        obtain rfl : f = e := by simpa using hd
        have hnewest : newest? h f.path = some f.invocation :=
          (hl.stale_eq_false_iff ho (touches_congr hf.1 ▸ hlt)).1 hf.2.1
        rw [newest?_congr hf.1] at hnewest
        have hmem := (List.mem_filter.1 (List.mem_of_getLast? hnewest)).1
        rw [if_neg (by exact id), scheduled_append]
        exact List.mem_append_left _ hmem
      · rw [if_neg hf] at hd
        exact hstep hd

/-- The stored verdict is that of the deciding event; one without records is not stored. -/
theorem records_verdict?_eq : ((verdict? h p).map (·.2)).getD [] =
    ((decisive? h p).map (·.report.records)).getD [] := by
  induction h using List.reverseRecOn with
  | nil => rfl
  | append_singleton h o ih =>
    rw [verdict?_concat]
    cases o with
    | scheduled | ended =>
      rw [decisive?_concat_of_handled?_eq_none rfl id]
      exact ih
    | closed q =>
      rw [decisive?_concat_closed, verdictStep]
      by_cases hq : q.Same p
      · simp [hq]
      · simpa [hq] using ih
    | handled e c =>
      rw [decisive?_concat_handled, verdictStep]
      by_cases hd : Decides p (e, c)
      · by_cases hr : e.report.records = [] <;> simp [hd, judge, hr]
      · simpa [hd] using ih

theorem records_ne_nil_of_verdict? {file : Path × List Record}
    (hv : verdict? h p = some file) : file.2 ≠ [] := by
  induction h using List.reverseRecOn with
  | nil => cases hv
  | append_singleton h o ih =>
    rw [verdict?_concat] at hv
    cases o with
    | scheduled | ended => exact ih hv
    | closed q =>
      rw [verdictStep] at hv
      split at hv
      · cases hv
      · exact ih hv
    | handled e c =>
      rw [verdictStep, judge] at hv
      split at hv
      · by_cases hr : e.report.records = []
        · simp [hr] at hv
        · obtain rfl : (_, e.report.records) = file := by simpa [hr] using hv
          exact hr
      · exact ih hv

theorem Lawful.exists_scheduled_of_verdict? (hl : Lawful settings h) {file : Path × List Record}
    (hv : verdict? h p = some file) : ∃ i ∈ scheduled h, i.path.Same p := by
  have hrecords := records_verdict?_eq (h := h) (p := p)
  rw [hv] at hrecords
  cases hd : decisive? h p with
  | none =>
    rw [hd] at hrecords
    exact absurd hrecords (records_ne_nil_of_verdict? hv)
  | some e =>
    obtain ⟨c, hm, hp, -⟩ := exists_of_decisive?_eq_some hd
    have hsent : e ∈ sent settings h :=
      hl.mem_sent_of_mem_handled (x := (e, c)) (mem_handled_iff.2 hm)
    exact ⟨e.invocation, hl.mem_scheduled_of_mem_sent hsent, hp⟩

end History

namespace Session

open History

variable (s : Session) (e : Event) (p : Path)

theorem diagnostics_eq : s.diagnostics p = ((s.store.verdicts.find? p).map (·.2)).getD [] := rfl

/-- A stale completion and a launch failure change nothing of what is shown. -/
theorem diagnostics_handle_of_undecided
    (h : (s.completionOf e).stale = true ∨ (s.completionOf e).status = .launchFailed) :
    (s.handle e).diagnostics p = s.diagnostics p := by
  have hd : ¬ Decides p (e, s.completionOf e) := by
    rintro ⟨-, hstale, hstatus⟩
    exact h.elim (fun h => Bool.noConfusion (h.symm.trans hstale)) hstatus
  rw [diagnostics_handle, if_neg hd]

theorem diagnostics_trigger (path : Path) (language : Language) :
    (s.trigger path language).2.diagnostics p = s.diagnostics p := by
  rw [trigger]
  split <;> rfl

/-- What is shown of a file is read off the history of the session: it is what the process of
the deciding run wrote. That run was scheduled since the last close, unless the sequence numbers
of the file have wrapped around. Neither the other completions nor triggers change anything. -/
theorem diagnostics_eq_decisive (settings : Settings) (as : List Action) :
    let s := after settings as
    let h := history { settings } as
    (∀ p, s.diagnostics p = ((decisive? h p).map (·.report.records)).getD []) ∧
    (∀ p e, decisive? h p = some e →
      (∃ result, .ended e.invocation (.answered (.ok result)) ∈ h ∧ e.report.records =
        if result.code = some 0 then []
        else Transcript.records
          (if result.stderr.toList.all Text.isBlank then result.stdout else result.stderr)
          settings.trailerLines settings.severity) ∧
      (touches h p < UInt64.size → .scheduled e.invocation ∈ sinceClose h p)) ∧
    (∀ e p, (s.completionOf e).stale = true ∨ (s.completionOf e).status = .launchFailed →
      (s.handle e).diagnostics p = s.diagnostics p) ∧
    ∀ path language p, (s.trigger path language).2.diagnostics p = s.diagnostics p := by
  intro s h
  have t : Tracks h s := tracks_after settings as
  have hs : s.settings = settings := settings_acts { settings } as
  refine ⟨fun p => ?_, fun p e hd => ⟨?_, fun ht => t.lawful.scheduled_of_decisive? ht hd⟩,
    s.diagnostics_handle_of_undecided, fun path language p => s.diagnostics_trigger p path language⟩
  · rw [diagnostics_eq, t.verdicts, records_verdict?_eq]
  · rw [← hs]
    exact t.lawful.exists_result_of_decisive? hd

/-- A verdict stays when a later run of its file does not start. -/
theorem diagnostics_eq_decisive_unstarted :
    let path : Path := ⟨"a.proto"⟩
    let result : ProcessResult := { code := some 1, stderr := "a.proto:3:5: 'Foo' is unknown" }
    let as : List Action := [.trigger path ⟨"proto"⟩, .trigger path ⟨"proto"⟩,
      .finish 2 (.answered (.ok result)), .poll 1, .trigger path ⟨"proto"⟩, .finish 1 .lost,
      .finish 3 (.answered (.error (.notFound "protoc"))), .poll 2]
    let h := history { settings := {} } as
    ((after {} as).diagnostics path).map (·.line) = [3] ∧
    (after {} as).diagnostics path = ((decisive? h path).map (·.report.records)).getD [] :=
  ⟨by decide +kernel, (diagnostics_eq_decisive {} _).1 _⟩

end Session

end DocumentLint
