import DocumentLint.Proofs.Session.Verdicts

/-! # Notices

The first launch that fails for want of the tool raises a notice, and no later
one does, whenever notices are taken. Every failed launch is recorded as such,
and none changes what is shown of a file.
-/

namespace DocumentLint

/-- The failures that lie in the tool, each with the binary to blame. -/
inductive LaunchFailure.Blames : LaunchFailure → String → Prop where
  | notFound (binary : String) : Blames (.notFound binary) binary
  | permissionDenied (binary : String) : Blames (.permissionDenied binary) binary
  | spawn (binary cause : String) : Blames (.spawn binary cause) binary

theorem LaunchFailure.binary?_eq_some_iff {failure : LaunchFailure} {binary : String} :
    failure.binary? = some binary ↔ failure.Blames binary := by
  constructor
  · intro h
    cases failure with
    | notFound | permissionDenied | spawn =>
      obtain rfl := Option.some.inj h
      constructor
    | invalidTarget path => cases h
  · rintro (_ | _ | _) <;> rfl

namespace Event

/-- An event tells what a notice says: which binary is to blame, and the message of the failure. -/
def Tells (e : Event) (n : Notice) : Prop :=
  ∃ failure, e.report = .failed failure ∧ failure.Blames n.binary ∧ failure.message = n.message

/-- The notice that an event is worth, unless there was one before. -/
def notice? (e : Event) : Option Notice := do
  let failure ← e.report.failure?
  let binary ← failure.binary?
  return { binary, message := failure.message }

variable {e : Event} {n : Notice}

theorem notice?_eq_some_iff : e.notice? = some n ↔ e.Tells n := by
  obtain ⟨binary, message⟩ := n
  rw [notice?, Tells]
  cases e.report with
  | clean | findings => simp [Report.failure?]
  | failed failure =>
    simp [Report.failure?, Option.bind_eq_some_iff, LaunchFailure.binary?_eq_some_iff]

theorem notice?_eq_none_iff : e.notice? = none ↔ ∀ n, ¬ e.Tells n := by
  simp only [Option.eq_none_iff_forall_ne_some, Ne, notice?_eq_some_iff]

theorem isSome_notice? (e : Event) :
    e.notice?.isSome = e.report.failure?.any LaunchFailure.toolUnavailable := by
  rw [notice?]
  cases e.report with
  | clean | findings => rfl
  | failed failure =>
    cases hb : failure.binary? <;> simp [Report.failure?, LaunchFailure.toolUnavailable, hb]

end Event

namespace Session

open History

/-- What events raise, depending on whether a notice was raised before them. -/
def raised (reported : Bool) (es : List Event) : List Notice :=
  if reported then [] else (es.findSome? Event.notice?).toList

/-! ## Raising -/

variable {h : History} (s : Session) (e : Event) (reported : Bool)

theorem raised_append (es fs : List Event) : raised reported (es ++ fs) =
    raised reported es ++ raised (reported || es.any fun e => e.notice?.isSome) fs := by
  cases reported with
  | true => rfl
  | false =>
    rw [raised, raised, raised, List.findSome?_append, Bool.false_or, ← List.isSome_findSome?]
    cases es.findSome? Event.notice? <;> rfl

theorem length_raised_le (es : List Event) : (raised reported es).length ≤ 1 := by
  rw [raised]
  split
  · exact Nat.zero_le 1
  · exact Option.length_toList_le

theorem notices_handle : (s.handle e).notices = s.notices ++ raised s.toolReported [e] := by
  obtain ⟨_, _, _, _, _, _, _, _, _, reported⟩ := s
  rw [handle, raised, List.findSome?_singleton, Event.notice?]
  cases e.report with
  | clean | findings => simp [Report.failure?]
  | failed failure =>
    cases reported <;> cases hb : failure.binary? <;> simp [noteFailure, Report.failure?, hb]

theorem toolReported_handle :
    (s.handle e).toolReported = (s.toolReported || e.notice?.isSome) := by
  rw [handle_eq, Event.isSome_notice?]

theorem notices_drain (budget : Nat) : (drain budget s).2.notices =
    s.notices ++ raised s.toolReported ((handled (historyOfDrain budget s)).map (·.1)) := by
  induction budget generalizing s with
  | zero => simp [drain, historyOfDrain, raised]
  | succ budget ih =>
    rw [drain, historyOfDrain]
    cases s.inbox with
    | nil => simp [raised]
    | cons e es =>
      rw [Prod.map_snd, id, ih, notices_handle, toolReported_handle, handled_cons, List.map_append,
        raised_append]
      simp [Occurrence.handled?]

theorem notices_finish (number : Nat) (ending : Ending) :
    (s.finish number ending).notices = s.notices := by
  rw [finish]
  split <;> rfl

theorem toolReported_finish (number : Nat) (ending : Ending) :
    (s.finish number ending).toolReported = s.toolReported := by
  rw [finish]
  split <;> rfl

/-- What an action raises is told by the events that it handles; only the taking of notices
removes any, and it hands them out. -/
theorem takenNotices_append_notices_act (a : Action) :
    (s.answerTo a).takenNotices ++ (s.act a).notices =
      s.notices ++ raised s.toolReported ((handled (s.historyOf a)).map (·.1)) := by
  cases a with
  | trigger path language =>
    by_cases ha : s.settings.accepts language <;>
      simp [answerTo, act, respond, trigger, historyOf, ha, schedule, Occurrence.handled?, raised,
        Reply.takenNotices]
  | close path =>
    simp [answerTo, act, respond, close, historyOf, Occurrence.handled?, raised,
      Reply.takenNotices]
  | finish number ending =>
    simp [answerTo, act, respond, notices_finish, historyOf, handled_historyOfFinish, raised,
      Reply.takenNotices]
  | poll budget => exact notices_drain _ budget
  | idle ending =>
    have hnotices := finishes_invariant s notices_finish ending s.running
    have hreported := finishes_invariant s toolReported_finish ending s.running
    change (s.idle ending).notices = _
    rw [idle, poll, notices_drain, historyOf, handled_append, handled_historyOfFinishes,
      List.nil_append, hnotices, hreported]
  | takeCompletions | takeNotices => simp [answerTo, act, respond, takeCompletions, takeNotices,
      historyOf, raised, Reply.takenNotices]

variable {s} in
theorem toolReported_act (t : Tracks h s) (a : Action) : (s.act a).toolReported =
    (s.toolReported || ((handled (s.historyOf a)).map (·.1)).any fun e => e.notice?.isSome) := by
  rw [(t.act a).toolReported, handled_append, List.any_append, ← t.toolReported, List.any_map]
  simp only [Function.comp_def, Event.isSome_notice?]

variable {s} in
theorem noticesTakenBy_append_notices (t : Tracks h s) (as : List Action) :
    s.noticesTakenBy as ++ (as.foldl act s).notices =
      s.notices ++ raised s.toolReported ((handled (s.history as)).map (·.1)) := by
  induction as generalizing h s with
  | nil => simp [noticesTakenBy, answers, history, raised]
  | cons a as ih =>
    rw [noticesTakenBy_cons, List.foldl_cons, List.append_assoc, ih (t.act a), history,
      handled_append, List.map_append, raised_append, ← toolReported_act t, ← List.append_assoc,
      takenNotices_append_notices_act, List.append_assoc]

/-- At most one notice is ever raised in a session, be it handed out or waiting. It is raised as
soon as an event is handled that blames the tool, stale or not, and it says what the first such
event tells. A failed launch is recorded as a completion of its own all the same, and leaves the
diagnostics of every file as they are. Whoever takes notices is handed out all that wait, and a
script hands out what its actions do. -/
theorem notices_after (settings : Settings) (as : List Action) :
    let s := after settings as
    let h := history { settings } as
    let notices := noticesTakenBy { settings } as ++ s.notices
    notices.length ≤ 1 ∧
    (notices.length = 1 ↔ ∃ x ∈ handled h, ∃ n, x.1.Tells n) ∧
    (∀ before x rest n, handled h = before ++ x :: rest →
      (∀ y ∈ before, ∀ m, ¬ y.1.Tells m) → x.1.Tells n → notices = [n]) ∧
    takenBy { settings } as ++ s.completions = (handled h).map (·.2) ∧
    (∀ x ∈ handled h, x.2.path = x.1.path ∧ x.2.sequence = x.1.sequence ∧
      (x.2.status = .launchFailed ↔ ∃ failure, x.1.report = .failed failure)) ∧
    (∀ (t : Session) e failure, e.report = .failed failure →
      ∀ p, (t.handle e).diagnostics p = t.diagnostics p) ∧
    (s.replyTo .tookNotices = s.answerTo .takeNotices ∧
      s.answerTo .takeNotices = .notices s.notices ∧ (s.act .takeNotices).notices = []) ∧
    ∀ xs, run settings xs = after settings (script { settings } xs) ∧
      (replies { settings } xs).flatMap Reply.takenNotices =
        noticesTakenBy { settings } (script { settings } xs) ∧
      (replies { settings } xs).flatMap Reply.takenCompletions =
        takenBy { settings } (script { settings } xs) := by
  intro s h notices
  have t : Tracks h s := tracks_after settings as
  have hn : notices = raised false ((handled h).map (·.1)) :=
    noticesTakenBy_append_notices (Tracks.start settings) as
  have hfind : notices = ((handled h).findSome? fun x => x.1.notice?).toList := by
    rw [hn, raised, List.findSome?_map]
    rfl
  refine ⟨?_, ?_, ?_, ?_, ?_, ?_, ⟨rfl, rfl, rfl⟩, fun xs => ⟨?_, ?_, ?_⟩⟩
  · rw [hn]
    exact length_raised_le _ _
  · rw [hfind, Option.length_toList_eq_one_iff, List.isSome_findSome?, List.any_eq_true]
    simp only [Option.isSome_iff_exists, Event.notice?_eq_some_iff]
  · intro before x rest n hx hbefore hn
    have hsome : (handled h).findSome? (fun x => x.1.notice?) = some n := by
      refine List.findSome?_eq_some_iff.2 ⟨before, x, rest, hx, ?_, fun y hy => ?_⟩
      · exact Event.notice?_eq_some_iff.2 hn
      · exact Event.notice?_eq_none_iff.2 (hbefore y hy)
    rw [hfind, hsome]
    rfl
  · have hc := takenBy_append_completions { settings } as
    rwa [List.nil_append] at hc
  · intro x hx
    obtain ⟨hpath, hsequence, hstatus⟩ := t.lawful.completion_of_mem (mem_handled_iff.1 hx)
    exact ⟨hpath, hsequence, by rw [hstatus, Status.ofReport_eq_launchFailed_iff]⟩
  · intro t e failure he p
    refine t.diagnostics_handle_of_undecided e p (.inr ?_)
    exact Status.ofReport_eq_launchFailed_iff.2 ⟨failure, he⟩
  · exact (foldl_script { settings } xs).symm
  · exact flatMap_replies (fun _ => rfl) { settings } xs
  · exact flatMap_replies (fun _ => rfl) { settings } xs

/-- A target without a name raises nothing. The notice stems from a run that was stale by then,
and the run that fails after it was taken raises no other. -/
theorem notices_after_stale :
    let path : Path := ⟨"a.proto"⟩
    let failure (f : LaunchFailure) : Ending := .answered (.error f)
    let as : List Action := [.trigger ⟨"b/.."⟩ ⟨"proto"⟩, .trigger path ⟨"proto"⟩,
      .trigger path ⟨"proto"⟩, .finish 1 (failure (.notFound "unused")),
      .finish 2 (failure (.permissionDenied "lint")), .poll 2, .takeNotices,
      .finish 3 (failure (.notFound "other")), .poll 1]
    let notices := noticesTakenBy { settings := {} } as ++ (after {} as).notices
    (after {} as).completions.map (fun c => (c.status, c.stale)) =
        [(.launchFailed, false), (.launchFailed, true), (.launchFailed, false)] ∧
      notices.length ≤ 1 ∧
      notices = [⟨"lint", "permission denied running linter binary 'lint'"⟩] := by
  intro path failure as notices
  let unnamed : Event := ⟨⟨1, ⟨"b/.."⟩, 1⟩, .failed (.invalidTarget ⟨"b/.."⟩)⟩
  let denied : Event := ⟨⟨2, path, 1⟩, .failed (.permissionDenied "lint")⟩
  let missing : Event := ⟨⟨3, path, 2⟩, .failed (.notFound "other")⟩
  have hhandled : handled (history { settings := {} } as) =
      [(unnamed, ⟨⟨"b/.."⟩, 1, .launchFailed, false⟩)] ++
        (denied, ⟨path, 1, .launchFailed, true⟩) ::
          [(missing, ⟨path, 2, .launchFailed, false⟩)] := by
    decide +kernel
  refine ⟨by decide +kernel, (notices_after {} as).1, (notices_after {} as).2.2.1 _ _ _ _ hhandled
    (fun y hy => ?_) ⟨_, rfl, .permissionDenied "lint", by decide +kernel⟩⟩
  rw [List.mem_singleton.1 hy]
  exact Event.notice?_eq_none_iff.1 rfl

end Session

end DocumentLint
