import DocumentLint.Proofs.Session.Lawful

/-! # Sessions keep lawful histories

Whatever actions a session goes through, its history is lawful and determines
the session: which invocations are running, which events wait, and what the
store holds for each file.
-/

namespace DocumentLint

open History

theorem Session.verdicts_verdict {s : Session} {e : Event} {p : Path} :
    (verdict s.store e).verdicts.find? p =
      if Decides p (e, s.completionOf e) then judge (s.store.verdicts.find? p) e
      else s.store.verdicts.find? p := by
  have hs : (s.completionOf e).stale = false ↔ s.store.isCurrent e.path e.sequence = true := by
    simp [completionOf]
  have hd : Decides p (e, s.completionOf e) ↔ e.path.Same p ∧
      s.store.isCurrent e.path e.sequence = true ∧ Status.ofReport e.report ≠ .launchFailed := by
    rw [Decides, hs]; rfl
  simp only [hd, verdict, Store.apply]
  cases hr : e.report with
  | failed => simp [Status.ofReport]
  | clean | findings =>
    by_cases hc : s.store.isCurrent e.path e.sequence <;> by_cases hp : e.path.Same p <;>
      simp [hc, hp, Status.ofReport, Store.verdicts_put, judge, hr]

theorem Session.sequences_handle {s : Session} {e : Event} {p : Path} :
    (s.handle e).store.sequences.get? p =
      if e.path.Same p then (s.store.sequences.get? p).bind FileSequence.settle
      else s.store.sequences.get? p := by
  rw [handle_eq, Store.sequences_settle, sequences_verdict]

theorem Session.records_handle {s : Session} {e : Event} {p : Path} :
    (s.handle e).store.verdicts.get? p =
      if Decides p (e, s.completionOf e) then
        if e.report.records.isEmpty then none else some e.report.records
      else s.store.verdicts.get? p := by
  have hf : (s.handle e).store.verdicts.get? p =
      ((verdict s.store e).verdicts.find? p).map (·.2) := by
    rw [handle_eq]
    rfl
  rw [hf, verdicts_verdict]
  split
  · rw [judge]
    split <;> rfl
  · rfl

theorem Session.diagnostics_handle {s : Session} {e : Event} {p : Path} :
    (s.handle e).diagnostics p =
      if Decides p (e, s.completionOf e) then e.report.records else s.diagnostics p := by
  rw [diagnostics, Store.get, records_handle]
  split
  · by_cases hr : e.report.records = [] <;> simp [hr]
  · rfl

/-! ## What a history tells of its session -/

structure Tracks (h : History) (s : Session) : Prop where
  lawful : Lawful s.settings h
  scheduled : s.scheduled = (scheduled h).length
  running : s.running = (History.scheduled h).filter fun i => i ∉ ended h
  inbox : sent s.settings h = (handled h).map (·.1) ++ s.inbox
  sequences : ∀ p, s.store.sequences.get? p = sequence? h p
  verdicts : ∀ p, s.store.verdicts.find? p = verdict? h p
  toolReported : s.toolReported =
    (handled h).any fun x => x.1.report.failure?.any LaunchFailure.toolUnavailable

namespace Tracks

variable {h : History} {s : Session} {e : Event} {es : List Event} {settings : Settings}

theorem start (settings : Settings) : Tracks [] { settings } where
  lawful := .nil
  scheduled := rfl
  running := rfl
  inbox := rfl
  sequences _ := rfl
  verdicts _ := rfl
  toolReported := rfl

theorem next_admitted (t : Tracks h s) (p : Path) :
    Admits s.settings h (.scheduled (s.next p)) := by
  refine ⟨by simp [Session.next, t.scheduled], ?_⟩
  simp [Session.next, Store.issued, t.sequences]

theorem schedule (t : Tracks h s) (p : Path) :
    Tracks (h ++ [.scheduled (s.next p)]) (s.schedule p) where
  lawful := t.lawful.snoc (t.next_admitted p)
  scheduled := by simp [Session.schedule, t.scheduled, Occurrence.scheduled?]
  running := by
    -- only what was scheduled before has ended
    have hnew : s.next p ∉ ended h := fun hm =>
      t.lawful.not_mem_scheduled (t.next_admitted p) (t.lawful.ended_subset hm)
    simp [Session.schedule, t.running, Occurrence.scheduled?, Occurrence.ended?, hnew]
  inbox := by simpa [Session.schedule, Occurrence.sent, Occurrence.handled?] using t.inbox
  sequences q := by
    simp [Session.schedule, Store.sequences_issue, sequence?_concat, countStep, t.sequences,
      Session.next]
  verdicts q := by
    simpa [Session.schedule, Store.issue, verdict?_concat, verdictStep] using t.verdicts q
  toolReported := by simpa [Session.schedule, Occurrence.handled?] using t.toolReported

theorem close (t : Tracks h s) (p : Path) : Tracks (h ++ [.closed p]) (s.close p) where
  lawful := t.lawful.snoc trivial
  scheduled := by simpa [Session.close, Occurrence.scheduled?] using t.scheduled
  running := by simpa [Session.close, Occurrence.scheduled?, Occurrence.ended?] using t.running
  inbox := by simpa [Session.close, Occurrence.sent, Occurrence.handled?] using t.inbox
  sequences q := by
    simp [Session.close, Store.sequences_close, sequence?_concat, countStep, t.sequences]
  verdicts q := by
    simp [Session.close, Store.verdicts_close, verdict?_concat, verdictStep, t.verdicts]
  toolReported := by simpa [Session.close, Occurrence.handled?] using t.toolReported

theorem finish (t : Tracks h s) (number : Nat) (ending : Ending) :
    Tracks (h ++ s.historyOfFinish number ending) (s.finish number ending) := by
  rw [Session.historyOfFinish, Session.finish]
  cases hf : s.running.find? fun i => i.number == number with
  | none => simpa using t
  | some i =>
    obtain rfl : i.number = number := by simpa using List.find?_some hf
    have hr : i ∈ (History.scheduled h).filter fun i => i ∉ ended h :=
      t.running ▸ List.mem_of_find?_eq_some hf
    obtain ⟨hi, he⟩ : i ∈ History.scheduled h ∧ i ∉ ended h := by simpa using hr
    exact {
      lawful := t.lawful.snoc ⟨hi, he⟩
      scheduled := by simpa [Occurrence.scheduled?] using t.scheduled
      running := by
        rw [t.running, List.filter_filter]
        simp only [scheduled_append, scheduled_cons, Occurrence.scheduled?, Option.toList_none,
          scheduled_nil, List.append_nil]
        refine List.filter_congr fun j hj => ?_
        -- the numbers of scheduled invocations tell them apart
        have hij : j.number = i.number ↔ j = i :=
          ⟨t.lawful.eq_of_number_eq hj hi, fun h => h ▸ rfl⟩
        rw [Bool.eq_iff_iff]
        simp [hij, Occurrence.ended?]
        tauto
      inbox := by
        simp [Occurrence.sent, Occurrence.handled?, t.inbox]
      sequences := fun q => by simpa [sequence?_concat, countStep] using t.sequences q
      verdicts := fun q => by simpa [verdict?_concat, verdictStep] using t.verdicts q
      toolReported := by simpa [Occurrence.handled?] using t.toolReported }

theorem completionOf_eq (t : Tracks h s) (e : Event) : s.completionOf e = completionFor h e := by
  simp [Session.completionOf, completionFor, Store.isCurrent, t.sequences]

theorem handle (t : Tracks h s) (hs : s.inbox = e :: es) :
    Tracks (h ++ [.handled e (s.completionOf e)]) ({ s with inbox := es }.handle e) := by
  have hsent : sent s.settings h = (handled h).map (·.1) ++ e :: es := hs ▸ t.inbox
  have hp : (handled h).map (·.1) ++ [e] <+: sent s.settings h := ⟨es, by simp [hsent]⟩
  rw [Session.handle_eq]
  exact {
    lawful := t.lawful.snoc ⟨hp, t.completionOf_eq e⟩
    scheduled := by simpa [Occurrence.scheduled?] using t.scheduled
    running := by simpa [Occurrence.scheduled?, Occurrence.ended?] using t.running
    inbox := by simpa [Occurrence.sent, Occurrence.handled?] using hsent
    sequences := fun q => by
      simp [Store.sequences_settle, sequence?_concat, countStep, t.sequences]
    verdicts := fun q => by
      rw [verdict?_concat, ← t.verdicts]
      exact Session.verdicts_verdict (s := s)
    toolReported := by simp [Occurrence.handled?, t.toolReported] }

theorem finishes (t : Tracks h s) (ending : Invocation → Ending) (is : List Invocation) :
    Tracks (h ++ Session.historyOfFinishes ending is s)
      (is.foldl (fun s i => s.finish i.number (ending i)) s) := by
  induction is generalizing h s with
  | nil => simpa [Session.historyOfFinishes] using t
  | cons i is ih =>
    rw [Session.historyOfFinishes, ← List.append_assoc]
    exact ih (t.finish i.number (ending i))

theorem drain (t : Tracks h s) (budget : Nat) :
    Tracks (h ++ Session.historyOfDrain budget s) (Session.drain budget s).2 := by
  induction budget generalizing h s with
  | zero => simpa [Session.historyOfDrain, Session.drain] using t
  | succ budget ih =>
    rw [Session.historyOfDrain, Session.drain]
    cases hs : s.inbox with
    | nil => simpa using t
    | cons e es => simpa using ih (t.handle hs)

/-- A session differs from its history in nothing that reaping and taking changes. -/
theorem of_eq {s' : Session} (t : Tracks h s) (settings : s'.settings = s.settings)
    (store : s'.store = s.store) (scheduled : s'.scheduled = s.scheduled)
    (running : s'.running = s.running) (inbox : s'.inbox = s.inbox)
    (toolReported : s'.toolReported = s.toolReported) : Tracks h s' where
  lawful := settings ▸ t.lawful
  scheduled := scheduled ▸ t.scheduled
  running := running ▸ t.running
  inbox := settings ▸ inbox ▸ t.inbox
  sequences := store ▸ t.sequences
  verdicts := store ▸ t.verdicts
  toolReported := toolReported ▸ t.toolReported

theorem poll (t : Tracks h s) (budget : Nat) :
    Tracks (h ++ Session.historyOfDrain budget { s with ended := 0 }) (s.poll budget).2 :=
  (t.of_eq rfl rfl rfl rfl rfl rfl : Tracks h { s with ended := 0 }).drain budget

theorem act (t : Tracks h s) (a : Action) : Tracks (h ++ s.historyOf a) (s.act a) := by
  cases a with
  | trigger p language =>
    by_cases ha : s.settings.accepts language
    · simpa [Session.historyOf, Session.act, Session.respond, Session.trigger, ha]
        using t.schedule p
    · simpa [Session.historyOf, Session.act, Session.respond, Session.trigger, ha] using t
  | close p => exact t.close p
  | finish number ending => exact t.finish number ending
  | poll budget => exact t.poll budget
  | idle ending =>
    rw [Session.historyOf, ← List.append_assoc]
    exact (t.finishes ending s.running).poll _
  | takeCompletions | takeNotices =>
    rw [Session.historyOf, List.append_nil]
    exact t.of_eq rfl rfl rfl rfl rfl rfl

theorem acts (t : Tracks h s) (as : List Action) :
    Tracks (h ++ s.history as) (as.foldl Session.act s) := by
  induction as generalizing h s with
  | nil => simpa [Session.history] using t
  | cons a as ih =>
    rw [Session.history, ← List.append_assoc]
    exact ih (t.act a)

end Tracks

namespace Session

variable (s : Session) (settings : Settings)

theorem tracks_after (as : List Action) :
    Tracks (history { settings } as) (after settings as) :=
  (Tracks.start settings).acts as

/-! ## What an action brings about -/

variable {s} {o : Occurrence} {number budget : Nat} {ending : Ending} {p : Path}

theorem mem_historyOfFinish (ho : o ∈ s.historyOfFinish number ending) :
    ∃ i : Invocation, o = .ended i ending ∧ i.number = number := by
  rw [historyOfFinish] at ho
  split at ho
  · simp at ho
  · next i hi => exact ⟨i, List.mem_singleton.1 ho, by simpa using List.find?_some hi⟩

theorem mem_historyOfFinishes {ending : Invocation → Ending} {is : List Invocation}
    (ho : o ∈ historyOfFinishes ending is s) :
    ∃ i j : Invocation, o = .ended i (ending j) ∧ i.number = j.number := by
  induction is generalizing s with
  | nil => simp [historyOfFinishes] at ho
  | cons j is ih =>
    rw [historyOfFinishes, List.mem_append] at ho
    rcases ho with ho | ho
    · obtain ⟨i, ho, hi⟩ := mem_historyOfFinish ho
      exact ⟨i, j, ho, hi⟩
    · exact ih ho

theorem mem_historyOfDrain (ho : o ∈ historyOfDrain budget s) : ∃ e c, o = .handled e c := by
  induction budget generalizing s with
  | zero => simp [historyOfDrain] at ho
  | succ budget ih =>
    rw [historyOfDrain] at ho
    split at ho
    · simp at ho
    · rcases List.mem_cons.1 ho with rfl | ho
      · exact ⟨_, _, rfl⟩
      · exact ih ho

theorem handled_historyOfFinish : handled (s.historyOfFinish number ending) = [] := by
  refine List.filterMap_eq_nil_iff.2 fun o ho => ?_
  obtain ⟨i, rfl, -⟩ := mem_historyOfFinish ho
  rfl

theorem handled_historyOfFinishes {ending : Invocation → Ending} {is : List Invocation} :
    handled (historyOfFinishes ending is s) = [] := by
  refine List.filterMap_eq_nil_iff.2 fun o ho => ?_
  obtain ⟨i, j, rfl, -⟩ := mem_historyOfFinishes ho
  rfl

theorem not_touches_historyOf {a : Action} (ht : ∀ path language, a ≠ .trigger path language)
    (hc : ∀ path, a ≠ .close path) (ho : o ∈ s.historyOf a) : ¬ o.Touches p := by
  have hdrain {budget : Nat} {s : Session} (ho : o ∈ historyOfDrain budget s) : ¬ o.Touches p := by
    obtain ⟨e, c, rfl⟩ := mem_historyOfDrain ho
    exact id
  cases a with
  | trigger path language => exact absurd rfl (ht path language)
  | close path => exact absurd rfl (hc path)
  | finish number ending =>
    obtain ⟨i, rfl, -⟩ := mem_historyOfFinish ho
    exact id
  | poll budget => exact hdrain ho
  | idle ending =>
    rw [historyOf, List.mem_append] at ho
    rcases ho with ho | ho
    · obtain ⟨i, j, rfl, -⟩ := mem_historyOfFinishes ho
      exact id
    · exact hdrain ho
  | takeCompletions | takeNotices => simp [historyOf] at ho

theorem length_historyOf_trigger_le (path : Path) (language : Language) :
    (s.historyOf (.trigger path language)).length ≤ 1 := by
  rw [historyOf]
  split <;> simp

theorem touches_historyOf_le (a : Action) : touches (s.historyOf a) p ≤ 1 := by
  cases a with
  | trigger path language =>
    exact List.countP_le_length.trans (length_historyOf_trigger_le path language)
  | close path => exact List.countP_le_length
  | finish | poll | idle | takeCompletions | takeNotices =>
    refine (List.countP_eq_zero.2 fun o ho => ?_).trans_le (Nat.zero_le 1)
    simpa using not_touches_historyOf (by simp) (by simp) ho

theorem history_append (s : Session) (as bs : List Action) :
    s.history (as ++ bs) = s.history as ++ (as.foldl act s).history bs := by
  induction as generalizing s with
  | nil => rfl
  | cons a as ih => rw [List.cons_append, history, history, ih, List.append_assoc, List.foldl_cons]

theorem touches_history_le (as : List Action) : touches (s.history as) p ≤ as.length := by
  induction as generalizing s with
  | nil => exact Nat.le_refl 0
  | cons a as ih =>
    rw [history, touches_append, List.length_cons, Nat.add_comm]
    exact Nat.add_le_add ih (touches_historyOf_le a)

variable (s)

/-! ## Completions -/

theorem completions_drain (budget : Nat) : (drain budget s).2.completions =
    s.completions ++ (handled (historyOfDrain budget s)).map (·.2) := by
  induction budget generalizing s with
  | zero => simp [drain, historyOfDrain]
  | succ budget ih =>
    rw [drain, historyOfDrain]
    cases s.inbox with
    | nil => simp
    | cons e es =>
      rw [Prod.map_snd, id, ih, completions_handle]
      simp [Occurrence.handled?, completionOf]

/-- What an action records is what it handles; only the taking of completions removes any, and it
hands them out. -/
theorem takenCompletions_append_completions_act (a : Action) :
    (s.answerTo a).takenCompletions ++ (s.act a).completions =
      s.completions ++ (handled (s.historyOf a)).map (·.2) := by
  cases a with
  | trigger p language =>
    by_cases ha : s.settings.accepts language <;>
      simp [answerTo, act, respond, trigger, historyOf, ha, schedule, Occurrence.handled?,
        Reply.takenCompletions]
  | close p => simp [answerTo, act, respond, close, historyOf, Occurrence.handled?,
      Reply.takenCompletions]
  | finish number ending =>
    simp [answerTo, act, respond, historyOf, handled_historyOfFinish, Reply.takenCompletions]
  | poll budget => exact completions_drain _ budget
  | idle ending =>
    change (s.idle ending).completions = _
    rw [idle, poll, completions_drain, historyOf, handled_append, handled_historyOfFinishes,
      List.nil_append, completions_finishes]
  | takeCompletions => rfl
  | takeNotices => exact (List.append_nil _).symm

variable {s} in
theorem completions_act {a : Action} (ha : a ≠ .takeCompletions) : (s.act a).completions =
    s.completions ++ (handled (s.historyOf a)).map (·.2) := by
  rw [← takenCompletions_append_completions_act, takenCompletions_answerTo ha, List.nil_append]

variable {s} in
theorem completions_acts {as : List Action} (ha : .takeCompletions ∉ as) :
    (as.foldl act s).completions = s.completions ++ (handled (s.history as)).map (·.2) := by
  induction as generalizing s with
  | nil => simp [history]
  | cons a as ih =>
    rw [List.mem_cons, not_or] at ha
    rw [List.foldl_cons, ih ha.2, completions_act (Ne.symm ha.1), history,
      handled_append, List.map_append, List.append_assoc]

/-- The completions taken and waiting are those of the handled events, in their order. -/
theorem takenBy_append_completions (as : List Action) :
    s.takenBy as ++ (as.foldl act s).completions =
      s.completions ++ (handled (s.history as)).map (·.2) := by
  induction as generalizing s with
  | nil => simp [takenBy, answers, history]
  | cons a as ih =>
    rw [takenBy_cons, List.foldl_cons, List.append_assoc, ih, history, handled_append,
      List.map_append, ← List.append_assoc, takenCompletions_append_completions_act,
      List.append_assoc]

end Session

end DocumentLint
