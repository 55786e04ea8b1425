import DocumentLint.Proofs.Session.Accounting
import DocumentLint.Proofs.Session.Respelling

/-! # Launches

A script launches one command for each accepted trigger whose target has a file
name, and nothing else. A target without a name has its invocation fail at
once, and a declined trigger leaves no trace at all.
-/

namespace DocumentLint

theorem Command.exists_ofTarget_iff {settings : Settings} {path : Path} :
    (∃ command, ofTarget settings path = .ok command) ↔
      ∃ name, path.components.getLast? = some (.name name) := by
  rw [ofTarget, Path.fileName?]
  cases path.components.getLast? with
  | none => simp
  | some c => cases c <;> simp

theorem Command.ofTarget_of_unnamed {settings : Settings} {path : Path}
    (hp : path.fileName? = none) : ofTarget settings path = .error (.invalidTarget path) := by
  rw [ofTarget, hp]

theorem Report.ofTarget_of_unnamed {settings : Settings} {launch : Command → Answer} {path : Path}
    (hp : path.fileName? = none) :
    ofTarget settings launch path = .failed (.invalidTarget path) := by
  rw [ofTarget, Command.ofTarget_of_unnamed hp]

namespace Step

/-- The document that a step opens or saves. -/
def document? : Step → Option (Path × Language)
  | .opened path language | .saved path language => some (path, language)
  | _ => none

/-- The target of an accepted trigger. -/
def target? (settings : Settings) (x : Step) : Option Path :=
  (x.document?.filter fun d => settings.accepts d.2).map (·.1)

def declined (settings : Settings) (x : Step) : Bool :=
  x.document?.any fun d => !settings.accepts d.2

end Step

namespace Session

open History

variable {settings : Settings} {s : Session} {h : History} {x : Step} {path : Path}
  {language : Language} {i : Invocation}

theorem history_script_cons (s : Session) (x : Step) (xs : List Step) :
    s.history (s.script (x :: xs)) =
      s.history (s.actionsOf x) ++ (s.step x).2.history ((s.step x).2.script xs) := by
  rw [script, history_append]
  rfl

theorem settings_step (s : Session) (x : Step) : (s.step x).2.settings = s.settings :=
  settings_acts s _

/-! ## Launching -/

theorem launches_finish (s : Session) (number : Nat) (ending : Ending) :
    (s.finish number ending).launches = s.launches := by
  rw [finish]
  split <;> rfl

theorem launches_drain (s : Session) (budget : Nat) : (drain budget s).2.launches = s.launches :=
  drain_invariant s (fun _ _ _ => by rw [handle_eq]) budget

theorem launches_act_of_ne {a : Action} (ht : ∀ path language, a ≠ .trigger path language) :
    (s.act a).launches = s.launches := by
  cases a with
  | trigger path language => exact absurd rfl (ht path language)
  | finish number ending => exact launches_finish s number ending
  | poll budget => exact launches_drain _ budget
  | idle ending =>
    exact (launches_drain _ _).trans (finishes_invariant s launches_finish ending s.running)
  | close | takeCompletions | takeNotices => rfl

/-- Only the scheduling of an invocation launches anything. -/
theorem launches_act (s : Session) (a : Action) : (s.act a).launches =
    s.launches ++ (History.scheduled (s.historyOf a)).flatMap (launchesOf s.settings) := by
  cases a with
  | trigger path language =>
    by_cases ha : s.settings.accepts language <;>
      simp [act, respond, trigger, historyOf, ha, schedule, Occurrence.scheduled?]
  | close | finish | poll | idle | takeCompletions | takeNotices =>
    rw [scheduled_historyOf_of_ne s (by simp), launches_act_of_ne (by simp), List.flatMap_nil,
      List.append_nil]

theorem launches_acts (s : Session) (as : List Action) : (as.foldl act s).launches =
    s.launches ++ (History.scheduled (s.history as)).flatMap (launchesOf s.settings) := by
  induction as generalizing s with
  | nil => simp [history]
  | cons a as ih =>
    rw [List.foldl_cons, ih, launches_act, settings_act, history, scheduled_append,
      List.flatMap_append, List.append_assoc]

theorem commands_launchesOf (settings : Settings) (i : Invocation) :
    (launchesOf settings i).map (·.command) =
      (Command.ofTarget settings i.path).toOption.toList := by
  rw [launchesOf]
  cases Command.ofTarget settings i.path <;> rfl

/-! ## Triggers of scripts -/

theorem actionsOf_of_document? (hx : x.document? = some (path, language)) :
    s.actionsOf x = s.actionsOf (.opened path language) := by
  cases x <;> simp_all [Step.document?, actionsOf, actionOf, followUps]

theorem actionsOf_opened (s : Session) (path : Path) (language : Language) :
    s.actionsOf (.opened path language) = .trigger path language ::
      if s.settings.accepts language ∧ path.fileName? = none then
        [.finish (s.scheduled + 1) (.answered (.error (.invalidTarget path)))]
      else [] := by
  simp only [actionsOf, actionOf, followUps, trigger]
  by_cases ha : s.settings.accepts language
  · cases hn : path.fileName? <;>
      simp [ha, hn, launchesOf, next, Command.ofTarget, schedule]
  · simp [ha]

theorem scheduled_actionsOf (s : Session) (x : Step) :
    (History.scheduled (s.history (s.actionsOf x))).map (·.path) =
      (x.target? s.settings).toList := by
  cases hx : x.document? with
  | none =>
    rw [Step.target?, hx]
    cases x with
    | opened | saved => simp [Step.document?] at hx
    | closed | finished | polled | idled | tookCompletions | tookNotices =>
      simp only [actionsOf, actionOf, followUps, history, List.append_nil]
      rw [scheduled_historyOf_of_ne s (by simp)]
      rfl
  | some d =>
    obtain ⟨path, language⟩ := d
    rw [Step.target?, hx, actionsOf_of_document? hx, actionsOf_opened, history, scheduled_append,
      historyOf]
    by_cases ha : s.settings.accepts language <;> by_cases hn : path.fileName? = none
    · simp [ha, hn, history, scheduled_historyOf_of_ne, Occurrence.scheduled?, next, Option.filter]
    all_goals simp [ha, hn, history, Occurrence.scheduled?, next, Option.filter]

theorem scheduled_script (s : Session) (xs : List Step) :
    (History.scheduled (s.history (s.script xs))).map (·.path) =
      xs.filterMap (Step.target? s.settings) := by
  induction xs generalizing s with
  | nil => rfl
  | cons x xs ih =>
    rw [history_script_cons, scheduled_append, List.map_append, scheduled_actionsOf, ih,
      settings_step, List.filterMap_cons]
    cases x.target? s.settings <;> rfl

/-! ## Targets without a name -/

/-- Every invocation whose target has no name has ended. -/
def Prompt (h : History) : Prop :=
  ∀ i ∈ History.scheduled h, i.path.fileName? = none → ∃ answer, .ended i (.answered answer) ∈ h

theorem historyOfFinish_next (t : Tracks h s) (path : Path) (ending : Ending) :
    (s.schedule path).historyOfFinish (s.next path).number ending =
      [.ended (s.next path) ending] := by
  have t' := t.schedule path
  have hnext : s.next path ∈ (s.schedule path).running := List.mem_append_right _ (.head _)
  have hsub {i : Invocation} (hi : i ∈ (s.schedule path).running) :
      i ∈ History.scheduled (h ++ [.scheduled (s.next path)]) := by
    rw [t'.running] at hi
    exact (List.mem_filter.1 hi).1
  rw [historyOfFinish]
  cases hf : (s.schedule path).running.find? fun i => i.number == (s.next path).number with
  | none => simpa using List.find?_eq_none.1 hf _ hnext
  | some i =>
    have hn : i.number = (s.next path).number := by simpa using List.find?_some hf
    rw [t'.lawful.eq_of_number_eq (hsub (List.mem_of_find?_eq_some hf)) (hsub hnext) hn]

theorem history_actionsOf_unnamed (t : Tracks h s) (ha : s.settings.accepts language = true)
    (hn : path.fileName? = none) : s.history (s.actionsOf (.opened path language)) =
      [.scheduled (s.next path),
        .ended (s.next path) (.answered (.error (.invalidTarget path)))] := by
  have htrigger : s.act (.trigger path language) = s.schedule path := by
    simp [act, respond, trigger, ha]
  rw [actionsOf_opened, if_pos ⟨ha, hn⟩, history, history, history, htrigger, historyOf, if_pos ha,
    historyOf]
  exact congrArg _ ((List.append_nil _).trans (historyOfFinish_next t path _))

theorem Prompt.actionsOf (hp : Prompt h) (t : Tracks h s) (x : Step) :
    Prompt (h ++ s.history (s.actionsOf x)) := by
  intro i hi hn
  rw [scheduled_append, List.mem_append] at hi
  rcases hi with hi | hi
  · obtain ⟨answer, ha⟩ := hp i hi hn
    exact ⟨answer, List.mem_append_left _ ha⟩
  · have hmem : i.path ∈ (x.target? s.settings).toList := by
      rw [← scheduled_actionsOf]
      exact List.mem_map_of_mem hi
    obtain ⟨⟨path, language⟩, hx, hpath⟩ :
        ∃ d, x.document?.filter (fun d => s.settings.accepts d.2) = some d ∧ d.1 = i.path := by
      simpa [Step.target?] using hmem
    obtain ⟨hx, ha⟩ := Option.filter_eq_some_iff.1 hx
    obtain rfl : path = i.path := hpath
    rw [actionsOf_of_document? hx, history_actionsOf_unnamed t ha hn] at hi ⊢
    have hi : i = s.next i.path := by simpa [Occurrence.scheduled?] using hi
    exact ⟨.error (.invalidTarget i.path), by rw [← hi]; simp⟩

theorem Prompt.script (hp : Prompt h) (t : Tracks h s) (xs : List Step) :
    Prompt (h ++ s.history (s.script xs)) := by
  induction xs generalizing h s with
  | nil => simpa [Session.script, history] using hp
  | cons x xs ih =>
    rw [history_script_cons, ← List.append_assoc]
    exact ih (hp.actionsOf t x) (t.acts _)

/-- The one event that such an invocation sends. -/
def unnamedEvent (i : Invocation) : Event where
  invocation := i
  report := .failed (.invalidTarget i.path)

theorem filter_sent_of_unnamed (hl : Lawful settings h) (hp : Prompt h)
    (hi : i ∈ History.scheduled h) (hn : i.path.fileName? = none) :
    (sent settings h).filter (fun e => e.invocation = i) = [unnamedEvent i] := by
  obtain ⟨answer, ha⟩ := hp i hi hn
  have hsent : unnamedEvent i ∈ sent settings h := by
    exact mem_sent_iff.2 ⟨answer, ha, (Report.ofTarget_of_unnamed hn).symm⟩
  have hnodup : (sent settings h).Nodup := hl.nodup_sent.of_map
  refine List.perm_singleton.1 ((List.perm_ext_iff_of_nodup (hnodup.filter _) (by simp)).2 ?_)
  intro e
  rw [List.mem_filter, List.mem_singleton, decide_eq_true_iff]
  constructor
  · rintro ⟨he, hei⟩
    exact List.inj_on_of_nodup_map hl.nodup_sent he hsent hei
  · rintro rfl
    exact ⟨hsent, rfl⟩

theorem invocation_ne_of_unnamed (hl : Lawful settings h) (hi : i ∈ History.scheduled h)
    (hn : i.path.fileName? = none) :
    ∀ l ∈ (History.scheduled h).flatMap (launchesOf settings), l.invocation ≠ i.number := by
  intro l hm
  obtain ⟨j, hj, hm⟩ := List.mem_flatMap.1 hm
  rw [launchesOf] at hm
  cases hc : Command.ofTarget settings j.path with
  | error failure => simp [hc] at hm
  | ok command =>
    obtain rfl : l = ⟨j.number, command⟩ := by simpa [hc] using hm
    intro hji
    obtain rfl := hl.eq_of_number_eq hj hi hji
    rw [Command.ofTarget_of_unnamed hn] at hc
    cases hc

theorem exists_completion_of_unnamed (t : Tracks h s) (hp : Prompt h) (hs : s.inbox = [])
    (hi : i ∈ History.scheduled h) (hn : i.path.fileName? = none) :
    ∃ c, (handled h).filter (fun x => x.1.invocation = i) = [(unnamedEvent i, c)] ∧
      c.path = i.path ∧ c.sequence = i.sequence ∧ c.status = .launchFailed := by
  have hsent := filter_sent_of_unnamed t.lawful hp hi hn
  rw [t.inbox, hs, List.append_nil, List.filter_map, List.map_eq_singleton_iff] at hsent
  obtain ⟨⟨e, c⟩, hfilter, rfl⟩ := hsent
  have hmem : (unnamedEvent i, c) ∈ handled h := by
    have hx : (unnamedEvent i, c) ∈ [(unnamedEvent i, c)] := .head _
    rw [← hfilter] at hx
    exact (List.mem_filter.1 hx).1
  exact ⟨c, hfilter, t.lawful.completion_of_mem (mem_handled_iff.1 hmem)⟩

/-! ## Declined triggers -/

theorem step_of_declined (hx : x.declined s.settings = true) : (s.step x).2 = s := by
  obtain ⟨⟨path, language⟩, hd, ha⟩ := (Option.any_eq_true _ _).1 hx
  have ha : ¬ s.settings.accepts language = true := by simpa using ha
  rw [step, actionsOf_of_document? hd, actionsOf_opened, if_neg fun h => ha h.1]
  simp [act, respond, trigger, ha]

/-- Without its declined triggers a script comes to the same session, and its other steps are
answered as before. -/
theorem filter_declined (s : Session) (xs : List Step) :
    let accepted := xs.filter fun x => !x.declined s.settings
    accepted.foldl (fun s x => (s.step x).2) s = xs.foldl (fun s x => (s.step x).2) s ∧
    s.replies accepted =
      ((xs.zip (s.replies xs)).filter fun y => !y.1.declined s.settings).map (·.2) := by
  induction xs generalizing s with
  | nil => exact ⟨rfl, rfl⟩
  | cons x xs ih =>
    have ih := ih (s.step x).2
    rw [settings_step] at ih
    by_cases hx : x.declined s.settings = true
    · rw [step_of_declined hx] at ih
      simpa [hx, replies, step_of_declined hx] using ih
    · simpa [hx, replies] using ih

theorem accepts_iff : settings.accepts language = true ↔
    settings.enabled = true ∧ settings.languageMarker.toList <:+: language.id.toList := by
  rw [Settings.accepts, Bool.and_eq_true, Language.hasMarker, Text.occursIn_iff]

theorem declined_iff : x.declined settings = true ↔
    ∃ path language, x.document? = some (path, language) ∧ ¬ (settings.enabled = true ∧
      settings.languageMarker.toList <:+: language.id.toList) := by
  simp only [Step.declined, Option.any_eq_true, Prod.exists, ← accepts_iff, Bool.not_eq_true',
    Bool.not_eq_true]

theorem replyTo_eq_declined_iff :
    s.replyTo x = .decided .declined ↔ x.declined s.settings = true := by
  rw [Step.declined]
  cases x with
  | opened path language | saved path language =>
    by_cases ha : s.settings.accepts language <;>
      simp [replyTo, actionOf, answerTo, respond, trigger, Step.document?, ha]
  | closed | finished | polled | idled | tookCompletions | tookNotices =>
    simp [replyTo, actionOf, answerTo, respond, Step.document?]

/-! ## What a script dispatches -/

/-- What becomes of an invocation whose target has no name. -/
structure Refused (s : Session) (h : History) (i : Invocation) : Prop where
  unlaunched : ∀ l ∈ s.launches, l.invocation ≠ i.number
  /-- It has sent one event, which waits or is handled. -/
  sent : ((handled h).map (·.1) ++ s.inbox).filter (fun e => e.invocation = i) = [unnamedEvent i]
  /-- When everything was awaited, it has one completion. -/
  completed : ∀ ending, ∃ c,
    (handled (h ++ s.historyOf (.idle ending))).filter (fun x => x.1.invocation = i) =
      [(unnamedEvent i, c)] ∧
    c.path = i.path ∧ c.sequence = i.sequence ∧ c.status = .launchFailed

/-- What a script has scheduled and launched when it comes to a session. -/
structure Dispatched (settings : Settings) (xs : List Step) (s : Session) (h : History) : Prop where
  scheduled : (History.scheduled h).map (·.path) = xs.filterMap (Step.target? settings)
  launched : s.launched = (xs.filterMap (Step.target? settings)).filterMap
    fun path => (Command.ofTarget settings path).toOption
  refused : ∀ i ∈ History.scheduled h, i.path.fileName? = none → Refused s h i

theorem refused_of_tracks (t : Tracks h s) (hp : Prompt h)
    (hl : s.launches = (History.scheduled h).flatMap (launchesOf s.settings))
    (hi : i ∈ History.scheduled h) (hn : i.path.fileName? = none) : Refused s h i where
  unlaunched := hl ▸ invocation_ne_of_unnamed t.lawful hi hn
  sent := t.inbox ▸ filter_sent_of_unnamed t.lawful hp hi hn
  completed ending := by
    have hscheduled : History.scheduled (h ++ s.historyOf (.idle ending)) =
        History.scheduled h := by
      rw [scheduled_append, scheduled_historyOf_of_ne s (by simp), List.append_nil]
    refine exists_completion_of_unnamed (t.act (.idle ending)) (fun j hj hn => ?_)
      (s.inbox_idle ending) (hscheduled ▸ hi) hn
    obtain ⟨answer, ha⟩ := hp j (hscheduled ▸ hj) hn
    exact ⟨answer, List.mem_append_left _ ha⟩

theorem dispatched_of_tracks {xs : List Step} (t : Tracks h s) (hp : Prompt h)
    (hl : s.launches = (History.scheduled h).flatMap (launchesOf s.settings))
    (hx : (History.scheduled h).map (·.path) = xs.filterMap (Step.target? s.settings)) :
    Dispatched s.settings xs s h where
  scheduled := hx
  launched := by
    rw [launched, hl, List.map_flatMap, ← hx, List.filterMap_map, List.filterMap_eq_flatMap_toList]
    exact List.flatMap_congr fun i _ => commands_launchesOf s.settings i
  refused _ hi hn := refused_of_tracks t hp hl hi hn

/-- A script launches the commands of its accepted triggers, in their order and each once, for
the targets that end in a plain name, and launches nothing else. A target without a name has an
invocation that launches nothing and leaves exactly one completion, of a failed launch. Which
triggers are declined is for the settings to say; a declined one changes nothing of the session,
and leaving them all out changes nothing of what the other steps answer. -/
theorem dispatched_run (settings : Settings) (xs : List Step) :
    let s := run settings xs
    let accepted := xs.filter fun x => !x.declined settings
    s = after settings (script { settings } xs) ∧
    Dispatched settings xs s (history { settings } (script { settings } xs)) ∧
    (∀ path, (∃ command, Command.ofTarget settings path = .ok command) ↔
      ∃ name, path.components.getLast? = some (.name name)) ∧
    (∀ x : Step, s.replyTo x = .decided .declined ↔ x.declined settings = true) ∧
    (∀ x : Step, x.declined settings = true ↔
      ∃ path language, x.document? = some (path, language) ∧ ¬ (settings.enabled = true ∧
        settings.languageMarker.toList <:+: language.id.toList)) ∧
    (∀ x : Step, x.declined settings = true → (s.step x).2 = s) ∧
    run settings accepted = s ∧
    replies { settings } accepted =
      ((xs.zip (replies { settings } xs)).filter fun y => !y.1.declined settings).map (·.2) := by
  intro s accepted
  have hrun : s = after settings (script { settings } xs) := (foldl_script { settings } xs).symm
  have hs : s.settings = settings := hrun ▸ settings_acts { settings } _
  have t : Tracks (history { settings } (script { settings } xs)) s :=
    hrun ▸ tracks_after settings _
  have hp : Prompt (history { settings } (script { settings } xs)) := by
    have hnil : Prompt [] := fun i hi => by simp at hi
    simpa using hnil.script (Tracks.start settings) xs
  have hl : s.launches = (History.scheduled
      (history { settings } (script { settings } xs))).flatMap (launchesOf s.settings) := by
    rw [hs, hrun, after, launches_acts, List.nil_append]
  have hx := scheduled_script { settings } xs
  refine ⟨hrun, ?_, fun _ => Command.exists_ofTarget_iff, fun x => ?_, fun x => declined_iff,
    fun x hx => ?_, filter_declined { settings } xs⟩
  · have hd : Dispatched s.settings xs s _ := dispatched_of_tracks t hp hl (by rw [hs]; exact hx)
    rwa [hs] at hd
  · rw [replyTo_eq_declined_iff, hs]
  · exact step_of_declined (hs ▸ hx)

/-- Of four triggers one is declined and one has no target to launch. -/
theorem dispatched_run_mixed :
    let xs : List Step := [.opened ⟨"p/a.proto"⟩ ⟨"proto"⟩, .opened ⟨"notes"⟩ ⟨"markdown"⟩,
      .saved ⟨"p/.."⟩ ⟨"proto"⟩, .finished 1 (.answered (.ok { code := some 1 })), .polled 1,
      .closed ⟨"p//a.proto"⟩, .saved ⟨"p/a.proto"⟩ ⟨"proto3"⟩, .polled 1]
    let s := run {} xs
    let accepted := xs.filter fun x => !x.declined {}
    Dispatched {} xs s (history { settings := {} } (script { settings := {} } xs)) ∧
      s.launched.map (·.args) = [["--proto_path=p", "a.proto", "--lint_out=."],
        ["--proto_path=p", "a.proto", "--lint_out=."]] ∧
      s.completions.map (·.status) = [.launchFailed, .findings 0] ∧
      accepted.length = 7 ∧ run {} accepted = s := by
  intro xs s accepted
  obtain ⟨-, hd, -, -, -, -, hrun, -⟩ := dispatched_run {} xs
  exact ⟨hd, by decide +kernel, by decide +kernel, by decide +kernel, hrun⟩

end Session

end DocumentLint
