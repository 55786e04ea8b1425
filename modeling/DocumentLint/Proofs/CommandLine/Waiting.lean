import DocumentLint.CommandLine.Course
import DocumentLint.Proofs.Session.Accounting
import DocumentLint.Proofs.Session.Confluence
import DocumentLint.Proofs.Session.Verdicts

/-! # Waiting for all runs

A job opens its documents first and waits then. In whatever order the course
has its invocations end, it leaves one completion for each of them, and of each
file the verdict of the invocation that was started last.
-/

namespace DocumentLint

open History Occurrence

namespace History

variable {h : History} {p : Path}

/-- Nothing has happened but that invocations were scheduled. -/
def Opening (h : History) : Prop := ∀ o ∈ h, ∃ i, o = .scheduled i

namespace Opening

theorem filterMap_eq_nil {α : Type} {f : Occurrence → Option α} (ho : Opening h)
    (hf : ∀ i, f (.scheduled i) = none) : h.filterMap f = [] := by
  refine List.filterMap_eq_nil_iff.2 fun o hm => ?_
  obtain ⟨i, rfl⟩ := ho o hm
  exact hf i

theorem ended_eq_nil (ho : Opening h) : ended h = [] := ho.filterMap_eq_nil fun _ => rfl

theorem handled_eq_nil (ho : Opening h) : handled h = [] := ho.filterMap_eq_nil fun _ => rfl

theorem sent_eq_nil (settings : Settings) (ho : Opening h) : sent settings h = [] := by
  refine List.flatMap_eq_nil_iff.2 fun o hm => ?_
  obtain ⟨i, rfl⟩ := ho o hm
  rfl

theorem sinceClose_append {k : History} {due : Nat → Ending} (ho : Opening h) (hk : Quiet due k) :
    sinceClose (h ++ k) p = h ++ k := by
  refine List.rtakeWhile_eq_self_iff.2 fun o hm => ?_
  obtain hm | hm := List.mem_append.1 hm
  · obtain ⟨i, rfl⟩ := ho o hm
    simp [Closes]
  · obtain ⟨i, rfl⟩ | ⟨e, c, rfl⟩ := hk.cases_mem hm <;> simp [Closes]

theorem sinceClose_eq (ho : Opening h) : sinceClose h p = h := by
  have hnil : Quiet (fun _ => .lost) [] := ⟨by simp, by simp⟩
  simpa using ho.sinceClose_append (p := p) hnil

end Opening

end History

namespace CommandLine

variable {j : Job} {c : Course} {i : Invocation} {p : Path}

/-! ## Opening -/

def openings (documents : List (Path × Language)) : List Action :=
  documents.map fun d => .trigger d.1 d.2

theorem opening_history (s : Session) (ds : List (Path × Language)) :
    Opening (s.history (openings ds)) := by
  induction ds generalizing s with
  | nil => exact fun o ho => by simp [openings, Session.history] at ho
  | cons d ds ih =>
    intro o ho
    rw [openings, List.map_cons, Session.history, List.mem_append] at ho
    obtain ho | ho := ho
    · rw [Session.historyOf] at ho
      split at ho
      · exact ⟨_, List.mem_singleton.1 ho⟩
      · simp at ho
    · exact ih _ o ho

theorem targets_cons (settings : Settings) (d : Path × Language) (ds : List (Path × Language)) :
    targets settings (d :: ds) =
      if settings.accepts d.2 then d.1 :: targets settings ds else targets settings ds := by
  rw [targets, List.filter_cons]
  split <;> rfl

theorem path_scheduled_openings (s : Session) (ds : List (Path × Language)) :
    (scheduled (s.history (openings ds))).map (·.path) = targets s.settings ds := by
  induction ds generalizing s with
  | nil => rfl
  | cons d ds ih =>
    rw [openings, List.map_cons, Session.history, scheduled_append, List.map_append, ← openings,
      ih, Session.settings_act, targets_cons, Session.historyOf]
    split <;> simp [scheduled?, Session.next]

namespace Job

/-- What has happened when all documents are opened. -/
def history (j : Job) : History :=
  Session.history { settings := j.settings } (openings j.documents)

theorem opening (j : Job) : Opening j.history := opening_history _ _

theorem opened_eq (j : Job) : j.opened = Session.after j.settings (openings j.documents) := by
  rw [opened, openAll, Session.after, openings, List.foldl_map]
  rfl

theorem settings_opened (j : Job) : j.opened.settings = j.settings := by
  rw [opened_eq, Session.after, Session.settings_acts]

theorem tracks_opened (j : Job) : Tracks j.history j.opened :=
  j.opened_eq ▸ Session.tracks_after j.settings _

theorem started_eq (j : Job) : j.started = scheduled j.history := by
  rw [started, j.tracks_opened.running, j.opening.ended_eq_nil]
  simp

/-- The invocations of a job belong to its targets, in their order. -/
theorem path_started (j : Job) : j.started.map (·.path) = j.targets := by
  rw [started_eq, history, path_scheduled_openings]
  rfl

theorem nodup_started (j : Job) : j.started.Nodup :=
  j.started_eq ▸ j.tracks_opened.lawful.nodup_scheduled

/-- The invocation of the last target that names a file. -/
def last? (j : Job) (p : Path) : Option Invocation :=
  (j.started.filter fun i => i.path.Same p).getLast?

theorem mem_started_of_last? (h : j.last? p = some i) : i ∈ j.started ∧ i.path.Same p := by
  simpa using List.mem_filter.1 (List.mem_of_getLast? h)

theorem last?_congr {q : Path} (hs : p.Same q) : j.last? p = j.last? q := by
  simp only [last?, hs.congr_right]

theorem newest?_history (j : Job) (p : Path) : newest? j.history p = j.last? p := by
  rw [newest?, j.opening.sinceClose_eq, last?, started_eq]

theorem touches_history_lt (hn : j.documents.length < UInt64.size) (p : Path) :
    touches j.history p < UInt64.size := by
  have hle := Session.touches_history_le (s := { settings := j.settings }) (p := p)
    (openings j.documents)
  rw [openings, List.length_map] at hle
  exact Nat.lt_of_le_of_lt hle hn

end Job

/-! ## Waiting -/

namespace Course

/-- How an invocation ends; one that the course leaves out never reports. -/
def due (c : Course) (number : Nat) : Ending :=
  if number ∈ c.order then .answered (c.answer number) else .lost

/-- Every invocation of a job ends at some time. -/
def Covers (c : Course) (j : Job) : Prop := ∀ i ∈ j.started, i.number ∈ c.order

def actions (c : Course) (s : Session) : List Action :=
  c.order.map (fun number => .finish number (.answered (c.answer number))) ++
    [.poll (c.order.foldl c.finish s).inbox.length]

theorem await_eq (c : Course) (s : Session) : c.await s = (c.actions s).foldl Session.act s := by
  rw [actions, List.foldl_append, List.foldl_map]
  rfl

theorem awaits_actions {s : Session} {a : Action} (ha : a ∈ c.actions s) : a.Awaits c.due := by
  obtain ha | ha := List.mem_append.1 ha
  · obtain ⟨number, hm, rfl⟩ := List.mem_map.1 ha
    simp [Action.Awaits, due, hm]
  · rw [List.mem_singleton.1 ha]
    trivial

theorem running_finishes (c : Course) (order : List Nat) (s : Session) :
    (order.foldl c.finish s).running = s.running.filter fun i => i.number ∉ order := by
  induction order generalizing s with
  | nil => simp
  | cons number order ih =>
    rw [List.foldl_cons, ih, finish, Session.running_finish, List.filter_filter]
    refine List.filter_congr fun i _ => ?_
    rw [Bool.eq_iff_iff]
    simp [and_comm]

theorem atRest_await (hc : c.Covers j) : (c.await j.opened).AtRest where
  running := by
    rw [await, Session.running_poll, running_finishes, List.filter_eq_nil_iff]
    exact fun i hi => by simpa using hc i hi
  inbox := by rw [await, Session.inbox_poll, List.drop_length]

end Course

namespace Job

/-- What happens while the job waits. -/
def awaited (j : Job) (c : Course) : History := j.opened.history (c.actions j.opened)

theorem quiet_awaited (j : Job) (c : Course) : Quiet c.due (j.awaited c) :=
  Session.quiet_history fun _ => Course.awaits_actions

theorem tracks_await (j : Job) (c : Course) :
    Tracks (j.history ++ j.awaited c) (c.await j.opened) :=
  c.await_eq j.opened ▸ j.tracks_opened.acts _

theorem settings_await (j : Job) (c : Course) : (c.await j.opened).settings = j.settings := by
  rw [c.await_eq, Session.settings_acts, settings_opened]

/-- The event that an invocation sends when the course has it end. -/
def event (j : Job) (c : Course) (i : Invocation) : Event :=
  ⟨i, .ofTarget j.settings (fun _ => c.answer i.number) i.path⟩

/-- The completion that an invocation leaves. -/
def completion (j : Job) (c : Course) (i : Invocation) : Completion where
  path := i.path
  sequence := i.sequence
  status := .ofReport (j.event c i).report
  stale := j.last? i.path ≠ some i

theorem quietCompletion_event (j : Job) (c : Course) (i : Invocation) :
    quietCompletion j.history (j.event c i) = j.completion c i := by
  rw [quietCompletion, completion, newest?_history]
  rfl

theorem event_of_mem_handled {x : Event × Completion} (hx : x ∈ handled (j.awaited c)) :
    ∃ i ∈ j.started, i.number ∈ c.order ∧ x.1 = j.event c i ∧
      x.2.status = .ofReport (j.event c i).report := by
  have t := j.tracks_await c
  have hlaw := t.lawful
  have hx' : x ∈ handled (j.history ++ j.awaited c) := by
    rw [handled_append]
    exact List.mem_append_right _ hx
  have hstatus := (hlaw.completion_of_mem (mem_handled_iff.1 hx')).2.2
  have hs := hlaw.mem_sent_of_mem_handled hx'
  rw [settings_await, sent_append, j.opening.sent_eq_nil, List.nil_append,
    (j.quiet_awaited c).sent_eq, List.mem_flatMap] at hs
  obtain ⟨i, hi, he⟩ := hs
  have hended : i ∈ ended (j.history ++ j.awaited c) := by simp [hi]
  have hstarted := hlaw.ended_subset hended
  rw [scheduled_append, (j.quiet_awaited c).scheduled_eq_nil, List.append_nil, ← started_eq]
    at hstarted
  -- an invocation that the course leaves out would be lost, and send nothing
  rw [Course.due] at he
  by_cases hm : i.number ∈ c.order
  · rw [if_pos hm] at he
    have hevent : x.1 = j.event c i := List.mem_singleton.1 he
    exact ⟨i, hstarted, hm, hevent, hevent ▸ hstatus⟩
  · simp [hm, Session.eventsOf] at he

theorem mem_handled_awaited_iff (hc : c.Covers j) (hn : j.documents.length < UInt64.size)
    {x : Event × Completion} :
    x ∈ handled (j.awaited c) ↔ ∃ i ∈ j.started, x = (j.event c i, j.completion c i) := by
  have t := j.tracks_await c
  have hk := j.quiet_awaited c
  have hpair {x : Event × Completion} (hx : x ∈ handled (j.awaited c)) :
      ∃ i ∈ j.started, x = (j.event c i, j.completion c i) := by
    obtain ⟨i, hi, -, he, -⟩ := event_of_mem_handled hx
    refine ⟨i, hi, Prod.ext he ?_⟩
    rw [hk.completion_eq t.lawful (touches_history_lt hn) hx, he, quietCompletion_event]
  refine ⟨hpair, ?_⟩
  rintro ⟨i, hi, rfl⟩
  have hrest := Course.atRest_await hc
  have hi' : i ∈ scheduled (j.history ++ j.awaited c) := by
    rw [scheduled_append, ← started_eq]
    exact List.mem_append_left _ hi
  obtain hset | hlost := Session.complete_of_tracks t hrest.running hrest.inbox i hi'
  · obtain ⟨y, hy, rfl⟩ := List.mem_map.1 hset
    rw [handled_append, j.opening.handled_eq_nil, List.nil_append] at hy
    obtain ⟨k, -, rfl⟩ := hpair hy
    exact hy
  · -- no invocation is lost that the course has end
    obtain hlost | hlost := List.mem_append.1 hlost
    · obtain ⟨_, ho⟩ := j.opening _ hlost
      cases ho
    · have hdue := hk.due i .lost hlost
      rw [Course.due, if_pos (hc i hi)] at hdue
      cases hdue

/-! ## What is left when all runs have ended -/

theorem completions_await (j : Job) (c : Course) :
    (c.await j.opened).completions = (handled (j.awaited c)).map (·.2) := by
  have hopened : j.opened.completions = [] := by
    rw [opened_eq, Session.after, Session.completions_acts (by simp [openings]), ← history,
      j.opening.handled_eq_nil]
    rfl
  rw [c.await_eq, Session.completions_acts (by simp [Course.actions]), hopened, List.nil_append,
    awaited]

theorem perm_completions_await (hc : c.Covers j) (hn : j.documents.length < UInt64.size) :
    (c.await j.opened).completions.Perm (j.started.map (j.completion c)) := by
  have hnodup : (handled (j.awaited c)).Nodup := by
    have hsettled := (j.tracks_await c).lawful.nodup_settled
    rw [settled_append] at hsettled
    exact hsettled.of_append_right.of_map _
  have hinj : Function.Injective fun i => (j.event c i, j.completion c i) := fun i k h =>
    congrArg (fun x : Event × Completion => x.1.invocation) h
  have hperm : (handled (j.awaited c)).Perm
      (j.started.map fun i => (j.event c i, j.completion c i)) := by
    refine (List.perm_ext_iff_of_nodup hnodup (j.nodup_started.map hinj)).2 fun x => ?_
    rw [mem_handled_awaited_iff hc hn, List.mem_map]
    simp only [eq_comm]
  have hcompletions := hperm.map (·.2)
  rw [List.map_map] at hcompletions
  rw [completions_await]
  exact hcompletions

end Job

section Runs

variable {w : Surroundings} {arguments : List Octets} {options : Options} {settings : Settings}

theorem prepare_of_resolved (hp : parse arguments = .ok options)
    (hl : Settings.load w.read w.environment w.account options.config w.present = .ok settings)
    (hr : w.unresolved? options.files = none) :
    prepare w arguments = .ok (w.job options settings) := by
  simp only [prepare, hp, hl, hr]

theorem runBy_eq_conclude (hj : prepare w arguments = .ok j) (c : Course) :
    runBy w arguments c = j.conclude c := by
  rw [runBy, hj]

end Runs

end CommandLine

end DocumentLint
