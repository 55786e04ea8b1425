import DocumentLint.Session.Completion
import DocumentLint.Session.Store

/-! # Lint sessions

A session schedules an invocation of the linter whenever an accepted document
is opened or saved. Invocations end in any order, and queue up as events until
they are polled; each event then settles its file, and leaves a completion.
-/

namespace DocumentLint

/-- One invocation of the linter. Its number, counted over the whole session,
tells it from every other one. -/
structure Invocation where
  number : Nat
  path : Path
  sequence : UInt64
  deriving DecidableEq, Repr

/-- The end of an invocation, not handled yet. -/
structure Event where
  invocation : Invocation
  report : Report
  deriving DecidableEq

namespace Event

def path (e : Event) : Path := e.invocation.path

def sequence (e : Event) : UInt64 := e.invocation.sequence

end Event

/-- How an invocation ends: by what its launch answers, or without ever sending a report. -/
inductive Ending where
  | answered (answer : Answer)
  | lost

/-- A command that was launched, and the number of the invocation that launched it. -/
structure Launch where
  invocation : Nat
  command : Command
  deriving DecidableEq, Repr

inductive Decision where
  | declined
  | scheduled (sequence : UInt64) (launch : Option Nat)
  deriving DecidableEq, Repr

structure Session where
  settings : Settings
  store : Store := {}
  /-- How many invocations were scheduled so far. -/
  scheduled : Nat := 0
  /-- Every launch so far; they are numbered by their place here, from one. -/
  launches : List Launch := []
  running : List Invocation := []
  /-- Invocations that have ended without being reaped. -/
  ended : Nat := 0
  inbox : List Event := []
  completions : List Completion := []
  notices : List Notice := []
  toolReported : Bool := false

namespace Session

def launched (s : Session) : List Command := s.launches.map (·.command)

/-- Invocations that were started and not reaped. -/
def pending (s : Session) : Nat := s.running.length + s.ended

/-- The invocation that would be scheduled next for a path. -/
def next (s : Session) (path : Path) : Invocation :=
  { number := s.scheduled + 1, path, sequence := (s.store.issued path).latest }

/-- What an invocation launches: nothing if its target has no file name. -/
def launchesOf (settings : Settings) (invocation : Invocation) : List Launch :=
  match Command.ofTarget settings invocation.path with
  | .ok command => [{ invocation := invocation.number, command }]
  | .error _ => []

def schedule (s : Session) (path : Path) : Session :=
  { s with
    store := s.store.issue path
    scheduled := s.scheduled + 1
    launches := s.launches ++ launchesOf s.settings (s.next path)
    running := s.running ++ [s.next path] }

/-- A document was opened or saved. -/
def trigger (s : Session) (path : Path) (language : Language) : Decision × Session :=
  if s.settings.accepts language then
    let launch := (launchesOf s.settings (s.next path)).head?.map fun _ => s.launches.length + 1
    (.scheduled (s.next path).sequence launch, s.schedule path)
  else (.declined, s)

def close (s : Session) (path : Path) : Session := { s with store := s.store.close path }

/-- The events that the end of an invocation sends. -/
def eventsOf (settings : Settings) (invocation : Invocation) : Ending → List Event
  | .answered answer =>
    [{ invocation, report := .ofTarget settings (fun _ => answer) invocation.path }]
  | .lost => []

/-- An invocation ends; without effect if it has ended before. -/
def finish (s : Session) (number : Nat) (ending : Ending) : Session :=
  match s.running.find? fun i => i.number == number with
  | none => s
  | some invocation =>
    { s with
      running := s.running.filter fun i => i.number != number
      ended := s.ended + 1
      inbox := s.inbox ++ eventsOf s.settings invocation ending }

/-- Only the first unavailable tool is worth a notice. -/
def noteFailure (s : Session) (failure : LaunchFailure) : Session :=
  if s.toolReported then s
  else match failure.binary? with
    | none => s
    | some binary =>
      { s with
        notices := s.notices ++ [{ binary, message := failure.message }]
        toolReported := true }

/-- An invocation that failed to start gives no verdict, so that an earlier one stays. -/
def verdict (store : Store) (event : Event) : Store :=
  match event.report with
  | .failed _ => store
  | report => store.apply event.path event.sequence report.records

/-- What is recorded of an event when it is handled. -/
def completionOf (s : Session) (event : Event) : Completion :=
  { path := event.path
    sequence := event.sequence
    status := .ofReport event.report
    stale := !s.store.isCurrent event.path event.sequence }

def handle (s : Session) (event : Event) : Session :=
  let s' := match event.report with
    | .failed failure => s.noteFailure failure
    | _ => s
  { s' with
    store := (verdict s.store event).settle event.path
    completions := s'.completions ++ [s.completionOf event] }

/-- Handles events in the order of their arrival, up to a budget, and tells how many. -/
def drain : Nat → Session → Nat × Session
  | 0, s => (0, s)
  | budget + 1, s =>
    match s.inbox with
    | [] => (0, s)
    | event :: inbox => (drain budget ({ s with inbox }.handle event)).map (· + 1) id

/-- Reaps what has ended, and handles events up to a budget. -/
def poll (s : Session) (budget : Nat) : Nat × Session := drain budget { s with ended := 0 }

/-- Lets every invocation end, in the order of their scheduling, and handles all events. -/
def idle (s : Session) (ending : Invocation → Ending) : Session :=
  let s := s.running.foldl (fun s i => s.finish i.number (ending i)) s
  (s.poll s.inbox.length).2

/-- Hands out the completions recorded since they were taken last. -/
def takeCompletions (s : Session) : List Completion × Session :=
  (s.completions, { s with completions := [] })

def takeNotices (s : Session) : List Notice × Session := (s.notices, { s with notices := [] })

def snapshot (s : Session) : Snapshot := s.store.snapshot

def diagnostics (s : Session) (path : Path) : List Record := s.store.get path

/-! ## What handling, ending and polling leave as it is -/

variable (s : Session) (e : Event)

@[simp] theorem sequences_verdict (store : Store) :
    (verdict store e).sequences = store.sequences := by
  rw [verdict]
  split
  · rfl
  · rw [Store.apply]; split <;> simp

theorem noteFailure_eq (failure : LaunchFailure) : s.noteFailure failure =
    { s with
      notices := (s.noteFailure failure).notices
      toolReported := s.toolReported || failure.toolUnavailable } := by
  obtain ⟨_, _, _, _, _, _, _, _, _, reported⟩ := s
  cases reported <;> cases hb : failure.binary? <;>
    simp [noteFailure, LaunchFailure.toolUnavailable, hb]

/-- Everything that the handling of an event does; only the notices are left open. -/
theorem handle_eq : s.handle e =
    { s with
      store := (verdict s.store e).settle e.path
      completions := s.completions ++ [s.completionOf e]
      notices := (s.handle e).notices
      toolReported := s.toolReported || e.report.failure?.any LaunchFailure.toolUnavailable } := by
  unfold handle
  cases e.report with
  | clean | findings => simp [Report.failure?]
  | failed failure =>
    simp only [Report.failure?, Option.any_some]
    rw [noteFailure_eq]

@[simp] theorem settings_handle : (s.handle e).settings = s.settings := by
  rw [handle_eq]

@[simp] theorem inbox_handle : (s.handle e).inbox = s.inbox := by
  rw [handle_eq]

@[simp] theorem running_handle : (s.handle e).running = s.running := by
  rw [handle_eq]

@[simp] theorem ended_handle : (s.handle e).ended = s.ended := by
  rw [handle_eq]

@[simp] theorem settings_finish (number : Nat) (ending : Ending) :
    (s.finish number ending).settings = s.settings := by
  rw [finish]
  split <;> rfl

theorem finishes_invariant {α : Type} {f : Session → α}
    (hf : ∀ s number ending, f (finish s number ending) = f s) (ending : Invocation → Ending)
    (is : List Invocation) : f (is.foldl (fun s i => s.finish i.number (ending i)) s) = f s := by
  induction is generalizing s with
  | nil => rfl
  | cons i is ih => rw [List.foldl_cons, ih, hf]

theorem settings_finishes (ending : Invocation → Ending) (is : List Invocation) :
    (is.foldl (fun s i => s.finish i.number (ending i)) s).settings = s.settings :=
  finishes_invariant s settings_finish ending is

theorem drain_invariant {α : Type} {f : Session → α}
    (hf : ∀ s e inbox, f (handle { s with inbox } e) = f s) (budget : Nat) :
    f (drain budget s).2 = f s := by
  induction budget generalizing s with
  | zero => rfl
  | succ budget ih =>
    unfold drain
    split
    · rfl
    · rw [Prod.map_snd, id, ih, hf]

theorem settings_drain (budget : Nat) : (drain budget s).2.settings = s.settings :=
  drain_invariant s (fun _ _ _ => settings_handle _ _) budget

theorem count_drain (budget : Nat) : (drain budget s).1 = min budget s.inbox.length := by
  induction budget generalizing s with
  | zero => rw [drain, Nat.zero_min]
  | succ budget ih =>
    unfold drain
    cases hs : s.inbox with
    | nil => rfl
    | cons e es =>
      rw [Prod.map_fst, ih, inbox_handle, List.length_cons, Nat.add_min_add_right]

@[simp] theorem completions_handle :
    (s.handle e).completions = s.completions ++ [s.completionOf e] := by
  rw [handle_eq]

@[simp] theorem completions_finish (number : Nat) (ending : Ending) :
    (s.finish number ending).completions = s.completions := by
  rw [finish]
  split <;> rfl

theorem completions_finishes (ending : Invocation → Ending) (is : List Invocation) :
    (is.foldl (fun s i => s.finish i.number (ending i)) s).completions = s.completions :=
  finishes_invariant s completions_finish ending is

end Session

end DocumentLint
