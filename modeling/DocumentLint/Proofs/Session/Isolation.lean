import DocumentLint.Proofs.Session.Tracking

/-! # Isolation of files

Each file of a session is a machine of its own, moved by the triggers, closes
and events of that file only. Without those of other files it goes through the
same states.
-/

namespace DocumentLint

/-- What moves a file. -/
inductive Deed where
  | trigger (path : Path) (language : Language)
  | close (path : Path)
  | handle (event : Event)

namespace Deed

def path : Deed → Path
  | trigger path _ => path
  | close path => path
  | handle event => event.path

end Deed

def Decision.sequence? : Decision → Option UInt64
  | .scheduled sequence _ => some sequence
  | .declined => none

/-- Where a file stands: its entry in the books, its diagnostics and its completions so far. -/
structure Standing where
  entry : Option FileSequence
  diagnostics : List Record
  completions : List Completion

namespace Standing

/-- The sequence number that an accepted trigger of the file is granted. -/
def granted? (settings : Settings) (f : Standing) : Deed → Option UInt64
  | .trigger _ language =>
    if settings.accepts language then some (f.entry.getD {}).issue.latest else none
  | .close _ | .handle _ => none

def completionOf (f : Standing) (e : Event) : Completion where
  path := e.path
  sequence := e.sequence
  status := .ofReport e.report
  stale := !f.entry.any fun q => q.latest == e.sequence

/-- How a deed of the file moves it. -/
def perform (settings : Settings) (f : Standing) : Deed → Standing
  | .trigger _ language =>
    if settings.accepts language then { f with entry := some (f.entry.getD {}).issue } else f
  | .close _ => { f with entry := f.entry.bind FileSequence.close, diagnostics := [] }
  | .handle e =>
    { entry := f.entry.bind FileSequence.settle
      diagnostics :=
        if (f.completionOf e).stale = false ∧ (f.completionOf e).status ≠ .launchFailed then
          e.report.records
        else f.diagnostics
      completions := f.completions ++ [f.completionOf e] }

/-- What the deeds of the file are granted, and where it stands after each of them. -/
def trace (settings : Settings) (f : Standing) : List Deed → List (Option UInt64 × Standing)
  | [] => []
  | d :: ds =>
    (f.granted? settings d, f.perform settings d) :: (f.perform settings d).trace settings ds

end Standing

namespace Session

open History

def perform (s : Session) : Deed → Session
  | .trigger path language => (s.trigger path language).2
  | .close path => s.close path
  | .handle event => s.handle event

/-- The sequence number that a deed is granted. -/
def granted? (s : Session) : Deed → Option UInt64
  | .trigger path language => (s.trigger path language).1.sequence?
  | .close _ | .handle _ => none

def standing (s : Session) (p : Path) : Standing where
  entry := s.store.sequences.get? p
  diagnostics := s.diagnostics p
  completions := s.completions.filter fun c => c.path.Same p

/-- What the deeds of a file are granted among all deeds, and where it stands after each. -/
def watch (p : Path) (s : Session) : List Deed → List (Option UInt64 × Standing)
  | [] => []
  | d :: ds =>
    if d.path.Same p then (s.granted? d, (s.perform d).standing p) :: watch p (s.perform d) ds
    else watch p (s.perform d) ds

variable {s t : Session} {p path : Path} {d : Deed} {e : Event}

theorem settings_perform (d : Deed) : (s.perform d).settings = s.settings := by
  cases d with
  | trigger path language => exact settings_act s (.trigger path language)
  | close path => rfl
  | handle e => exact settings_handle s e

/-! ## A file among others -/

theorem entry_congr (hp : path.Same p) : (s.standing path).entry = (s.standing p).entry :=
  PathMap.get?_congr hp

theorem completionOf_eq_of_same (hp : e.path.Same p) :
    s.completionOf e = (s.standing p).completionOf e := by
  rw [Standing.completionOf, ← entry_congr hp]
  rfl

theorem standing_schedule : (s.schedule path).standing p =
    if path.Same p then
      { s.standing p with entry := some ((s.standing p).entry.getD {}).issue }
    else s.standing p := by
  have he : (s.schedule path).store.sequences.get? p = _ := Store.sequences_issue s.store path p
  rw [standing, he]
  split <;> rfl

theorem standing_close : (s.close path).standing p =
    if path.Same p then
      { s.standing p with
        entry := (s.standing p).entry.bind FileSequence.close
        diagnostics := [] }
    else s.standing p := by
  have he : (s.close path).store.sequences.get? p = _ := Store.sequences_close s.store path p
  have hv : (s.close path).store.verdicts.get? p = _ := PathMap.get?_erase
  rw [standing, he, diagnostics, Store.get, hv]
  split <;> rfl

theorem standing_handle : (s.handle e).standing p =
    if e.path.Same p then (s.standing p).perform s.settings (.handle e) else s.standing p := by
  rw [standing, sequences_handle, diagnostics_handle, completions_handle, List.filter_append]
  by_cases hp : e.path.Same p
  · have hc : (s.completionOf e).path.Same p := hp
    rw [if_pos hp, if_pos hp, Standing.perform, ← completionOf_eq_of_same hp]
    simp [hp, hc, standing, Decides]
  · have hc : ¬ (s.completionOf e).path.Same p := hp
    simp [hp, hc, standing, Decides]

theorem standing_perform : (s.perform d).standing p =
    if d.path.Same p then (s.standing p).perform s.settings d else s.standing p := by
  cases d with
  | trigger path language =>
    by_cases ha : s.settings.accepts language
    · simpa [perform, trigger, ha, Standing.perform, Deed.path] using standing_schedule
    · simp [perform, trigger, ha, Standing.perform]
  | close path => exact standing_close
  | handle e => exact standing_handle

theorem granted?_eq_of_same (hp : d.path.Same p) :
    s.granted? d = (s.standing p).granted? s.settings d := by
  cases d with
  | trigger path language =>
    rw [Standing.granted?, ← entry_congr hp, granted?, trigger]
    split <;> rfl
  | close | handle => rfl

theorem watch_eq_trace (p : Path) (s : Session) (deeds : List Deed) :
    watch p s deeds =
      (s.standing p).trace s.settings (deeds.filter fun d => d.path.Same p) := by
  induction deeds generalizing s with
  | nil => rfl
  | cons d ds ih =>
    rw [watch, ih, settings_perform, standing_perform]
    by_cases hd : d.path.Same p
    · simp [hd, Standing.trace, granted?_eq_of_same hd]
    · simp [hd]

/-! ## The deeds of a session -/

/-- The deeds that an action comes down to. -/
def deedsOf (s : Session) : Action → List Deed
  | .trigger path language => [.trigger path language]
  | .close path => [.close path]
  | .poll budget => (s.inbox.take budget).map .handle
  | .idle ending =>
    (s.running.foldl (fun s i => s.finish i.number (ending i)) s).inbox.map .handle
  | .finish .. | .takeCompletions | .takeNotices => []

def deeds (s : Session) : List Action → List Deed
  | [] => []
  | a :: as => s.deedsOf a ++ (s.act a).deeds as

/-- Two sessions hold the same of every file, up to completions that one of them gave away. -/
structure Mirrors (taken : List Completion) (s t : Session) : Prop where
  settings : s.settings = t.settings
  store : s.store = t.store
  completions : taken ++ s.completions = t.completions

variable {taken : List Completion}

theorem Mirrors.handle (h : Mirrors taken s t) (e : Event) :
    Mirrors taken (s.handle e) (t.handle e) where
  settings := by rw [settings_handle, settings_handle, h.settings]
  store := by rw [handle_eq, handle_eq t, h.store]
  completions := by
    have hc : s.completionOf e = t.completionOf e := by
      rw [completionOf, completionOf, h.store]
    rw [completions_handle, completions_handle, hc, ← h.completions, List.append_assoc]

theorem Mirrors.drain (h : Mirrors taken s t) (budget : Nat) :
    Mirrors taken (drain budget s).2 (((s.inbox.take budget).map Deed.handle).foldl perform t) := by
  induction budget generalizing s t with
  | zero => exact h
  | succ budget ih =>
    rw [Session.drain]
    cases hs : s.inbox with
    | nil => exact h
    | cons e es =>
      -- the other session has no inbox; its events come as deeds
      have he : Mirrors taken { s with inbox := es } t := ⟨h.settings, h.store, h.completions⟩
      simpa [perform] using ih (he.handle e)

theorem Mirrors.finish (h : Mirrors taken s t) (number : Nat) (ending : Ending) :
    Mirrors taken (s.finish number ending) t := by
  rw [Session.finish]
  split
  · exact h
  · exact ⟨h.settings, h.store, h.completions⟩

theorem Mirrors.finishes (h : Mirrors taken s t) (ending : Invocation → Ending)
    (is : List Invocation) :
    Mirrors taken (is.foldl (fun s i => s.finish i.number (ending i)) s) t := by
  induction is generalizing s with
  | nil => exact h
  | cons i is ih => exact ih (h.finish i.number (ending i))

theorem Mirrors.poll (h : Mirrors taken s t) (budget : Nat) :
    Mirrors taken (s.poll budget).2 (((s.inbox.take budget).map Deed.handle).foldl perform t) :=
  (⟨h.settings, h.store, h.completions⟩ : Mirrors taken { s with ended := 0 } t).drain budget

theorem Mirrors.trigger (h : Mirrors taken s t) (path : Path) (language : Language) :
    Mirrors taken (s.trigger path language).2 (t.trigger path language).2 := by
  rw [Session.trigger, Session.trigger, h.settings]
  split
  · exact ⟨h.settings, congrArg (·.issue path) h.store, h.completions⟩
  · exact h

theorem Mirrors.act (h : Mirrors taken s t) {a : Action} (ha : a ≠ .takeCompletions) :
    Mirrors taken (s.act a) ((s.deedsOf a).foldl perform t) := by
  cases a with
  | trigger path language => exact h.trigger path language
  | close path => exact ⟨h.settings, congrArg (·.close path) h.store, h.completions⟩
  | finish number ending => exact h.finish number ending
  | poll budget => exact h.poll budget
  | idle ending =>
    have hp := (h.finishes ending s.running).poll
      (s.running.foldl (fun s i => s.finish i.number (ending i)) s).inbox.length
    rw [List.take_length] at hp
    exact hp
  | takeCompletions => exact absurd rfl ha
  | takeNotices => exact ⟨h.settings, h.store, h.completions⟩

/-- The deeds of a session lead to what the session holds of its files. -/
theorem Mirrors.acts (h : Mirrors taken s t) (as : List Action) :
    Mirrors (taken ++ s.takenBy as) (as.foldl Session.act s) ((s.deeds as).foldl perform t) := by
  induction as generalizing taken s t with
  | nil => simpa [takenBy, answers, deeds] using h
  | cons a as ih =>
    rw [takenBy_cons, deeds, List.foldl_append, List.foldl_cons, ← List.append_assoc]
    by_cases ha : a = .takeCompletions
    · subst ha
      exact ih ⟨h.settings, h.store, (List.append_nil _).trans h.completions⟩
    · rw [takenCompletions_answerTo ha, List.append_nil]
      exact ih (h.act ha)

/-- A file goes through the same states, and is granted the same numbers, whether the deeds of
other files are done in between or left out. The deeds of a session lead to its store and to
its completions, be they taken or waiting. -/
theorem watch_eq_watch_filter (p : Path) :
    (∀ (s : Session) deeds, watch p s deeds = watch p s (deeds.filter fun d => d.path.Same p)) ∧
    ∀ settings as, let t := (deeds { settings } as).foldl perform { settings }
      t.store = (after settings as).store ∧
      t.completions = takenBy { settings } as ++ (after settings as).completions := by
  refine ⟨fun s deeds => ?_, fun settings as => ?_⟩
  · rw [watch_eq_trace, watch_eq_trace, List.filter_filter]
    simp only [Bool.and_self]
  · have hm : Mirrors [] { settings } { settings } := ⟨rfl, rfl, rfl⟩
    have h := hm.acts as
    exact ⟨h.store.symm, h.completions.symm⟩

end Session

end DocumentLint
