import Mathlib.Data.List.DropRight
import DocumentLint.Session.Step

/-! # Histories of sessions

A history lists what happened in a session: invocations were scheduled and
ended, files were closed, events were handled. Which invocations of a file are
unhandled, whether the file is open and which verdict on it stands are read off
the history, without the counters that the session keeps.
-/

namespace DocumentLint

/-- One thing that happened in a session. Declined triggers leave no occurrence. -/
inductive Occurrence where
  | scheduled (invocation : Invocation)
  | closed (path : Path)
  | ended (invocation : Invocation) (ending : Ending)
  | handled (event : Event) (completion : Completion)

namespace Occurrence

def scheduled? : Occurrence → Option Invocation
  | .scheduled i => some i
  | _ => none

def ended? : Occurrence → Option Invocation
  | .ended i _ => some i
  | _ => none

def handled? : Occurrence → Option (Event × Completion)
  | .handled e c => some (e, c)
  | _ => none

def sent (settings : Settings) : Occurrence → List Event
  | .ended i ending => Session.eventsOf settings i ending
  | _ => []

def Closes (p : Path) : Occurrence → Prop
  | .closed q => q.Same p
  | _ => False

/-- An accepted trigger for a file or a close of it. -/
def Touches (p : Path) : Occurrence → Prop
  | .scheduled i => i.path.Same p
  | .closed q => q.Same p
  | _ => False

instance (p : Path) : DecidablePred (Closes p)
  | .closed q => inferInstanceAs (Decidable (q.Same p))
  | .scheduled _ | .ended .. | .handled .. => inferInstanceAs (Decidable False)

instance (p : Path) : DecidablePred (Touches p)
  | .scheduled i => inferInstanceAs (Decidable (i.path.Same p))
  | .closed q => inferInstanceAs (Decidable (q.Same p))
  | .ended .. | .handled .. => inferInstanceAs (Decidable False)

theorem Touches.congr {p q : Path} {o : Occurrence} (hs : p.Same q) :
    o.Touches p ↔ o.Touches q := by
  cases o with
  | scheduled | closed => exact hs.congr_right
  | ended | handled => exact Iff.rfl

end Occurrence

/-- What happened in a session, the oldest first. -/
abbrev History := List Occurrence

namespace History

def scheduled (h : History) : List Invocation := h.filterMap Occurrence.scheduled?

def ended (h : History) : List Invocation := h.filterMap Occurrence.ended?

/-- The events that were handled, each with the completion recorded for it. -/
def handled (h : History) : List (Event × Completion) := h.filterMap Occurrence.handled?

/-- The invocations whose event was handled. -/
def settled (h : History) : List Invocation := (handled h).map (·.1.invocation)

/-- The events sent by the invocations that have ended, in the order of their ends. -/
def sent (settings : Settings) (h : History) : List Event := h.flatMap (Occurrence.sent settings)

/-- The invocations of a file whose event was not handled, be it that they are
running, that their event waits or that they were lost. -/
def unhandled (h : History) (p : Path) : List Invocation :=
  (scheduled h).filter fun i => i.path.Same p ∧ i ∉ settled h

/-- What happened after the last close of a file. -/
def sinceClose (h : History) (p : Path) : History := h.rtakeWhile fun o => ¬ o.Closes p

/-- A trigger for the file was accepted since its last close. -/
def IsOpen (h : History) (p : Path) : Prop := ∃ i ∈ scheduled (sinceClose h p), i.path.Same p

/-- The invocation last scheduled for a file since its last close. -/
def newest? (h : History) (p : Path) : Option Invocation :=
  ((scheduled (sinceClose h p)).filter fun i => i.path.Same p).getLast?

/-- Whether the completion of an event decides what is shown of a file: it
concerns the file, is not stale and tells more than that the launch failed. -/
def Decides (p : Path) (x : Event × Completion) : Prop :=
  x.1.path.Same p ∧ x.2.stale = false ∧ x.2.status ≠ .launchFailed

instance (p : Path) : DecidablePred (Decides p) := fun x =>
  inferInstanceAs (Decidable (x.1.path.Same p ∧ x.2.stale = false ∧ x.2.status ≠ .launchFailed))

/-- The last event since the last close of a file that decides what is shown of it. -/
def decisive? (h : History) (p : Path) : Option Event :=
  (((handled (sinceClose h p)).filter fun x => Decides p x).getLast?).map (·.1)

/-- How many accepted triggers and closes a file has seen. -/
def touches (h : History) (p : Path) : Nat := h.countP fun o => o.Touches p

/-! ## The bookkeeping of the store, read off a history -/

def countStep (p : Path) (q : Option FileSequence) : Occurrence → Option FileSequence
  | .scheduled i => if i.path.Same p then some (q.getD {}).issue else q
  | .closed r => if r.Same p then q.bind FileSequence.close else q
  | .ended .. => q
  | .handled e _ => if e.path.Same p then q.bind FileSequence.settle else q

def sequence? (h : History) (p : Path) : Option FileSequence := h.foldl (countStep p) none

/-- The diagnostics of a file, which stand under the spelling that was stored first. -/
def judge (v : Option (Path × List Record)) (e : Event) : Option (Path × List Record) :=
  if e.report.records.isEmpty then none
  else some ((v.map (·.1)).getD e.path, e.report.records)

def verdictStep (p : Path) (v : Option (Path × List Record)) :
    Occurrence → Option (Path × List Record)
  | .closed r => if r.Same p then none else v
  | .handled e c => if Decides p (e, c) then judge v e else v
  | _ => v

def verdict? (h : History) (p : Path) : Option (Path × List Record) := h.foldl (verdictStep p) none

/-- The completion that the bookkeeping prescribes for an event. -/
def completionFor (h : History) (e : Event) : Completion :=
  { path := e.path
    sequence := e.sequence
    status := .ofReport e.report
    stale := !(sequence? h e.path).any fun q => q.latest == e.sequence }

/-! ## One more occurrence -/

open Occurrence

variable (h k : History) (o : Occurrence) (p : Path)

@[simp] theorem scheduled_append : scheduled (h ++ k) = scheduled h ++ scheduled k :=
  List.filterMap_append

@[simp] theorem scheduled_cons : scheduled (o :: h) = o.scheduled?.toList ++ scheduled h := by
  cases o <;> rfl

@[simp] theorem ended_append : ended (h ++ k) = ended h ++ ended k := List.filterMap_append

@[simp] theorem ended_cons : ended (o :: h) = o.ended?.toList ++ ended h := by cases o <;> rfl

@[simp] theorem handled_append : handled (h ++ k) = handled h ++ handled k := List.filterMap_append

@[simp] theorem handled_cons : handled (o :: h) = o.handled?.toList ++ handled h := by
  cases o <;> rfl

@[simp] theorem settled_append : settled (h ++ k) = settled h ++ settled k := by
  simp [settled]

@[simp] theorem settled_cons :
    settled (o :: h) = (o.handled?.map (·.1.invocation)).toList ++ settled h := by
  cases o <;> rfl

@[simp] theorem sent_append (settings : Settings) :
    sent settings (h ++ k) = sent settings h ++ sent settings k := List.flatMap_append

@[simp] theorem sent_cons (settings : Settings) :
    sent settings (o :: h) = o.sent settings ++ sent settings h := List.flatMap_cons

@[simp] theorem scheduled_nil : scheduled [] = [] := rfl
@[simp] theorem ended_nil : ended [] = [] := rfl
@[simp] theorem handled_nil : handled [] = [] := rfl
@[simp] theorem settled_nil : settled [] = [] := rfl
@[simp] theorem sent_nil (settings : Settings) : sent settings [] = [] := rfl

variable {h k o p}

theorem scheduled?_eq_some_iff {i : Invocation} : o.scheduled? = some i ↔ o = .scheduled i := by
  cases o <;> simp [scheduled?]

theorem ended?_eq_some_iff {i : Invocation} :
    o.ended? = some i ↔ ∃ ending, o = .ended i ending := by
  cases o <;> simp [ended?]

theorem handled?_eq_some_iff {x : Event × Completion} :
    o.handled? = some x ↔ o = .handled x.1 x.2 := by
  cases o <;> simp [handled?, Prod.ext_iff]

theorem mem_scheduled_iff {i : Invocation} : i ∈ scheduled h ↔ .scheduled i ∈ h := by
  simp [scheduled, scheduled?_eq_some_iff]

theorem mem_ended_iff {i : Invocation} : i ∈ ended h ↔ ∃ ending, .ended i ending ∈ h := by
  simp only [ended, List.mem_filterMap, ended?_eq_some_iff]
  constructor
  · rintro ⟨_, ho, ending, rfl⟩
    exact ⟨ending, ho⟩
  · rintro ⟨ending, ho⟩
    exact ⟨_, ho, ending, rfl⟩

theorem mem_handled_iff {x : Event × Completion} : x ∈ handled h ↔ .handled x.1 x.2 ∈ h := by
  simp [handled, handled?_eq_some_iff]

theorem sinceClose_concat :
    sinceClose (h ++ [o]) p = if o.Closes p then [] else sinceClose h p ++ [o] := by
  by_cases hc : o.Closes p <;> simp [sinceClose, hc]

theorem newest?_concat :
    newest? (h ++ [o]) p = if o.Touches p then o.scheduled? else newest? h p := by
  rw [newest?, sinceClose_concat]
  cases o with
  | scheduled i =>
    by_cases hi : i.path.Same p <;> simp [newest?, Touches, Closes, scheduled?, hi]
  | closed q => by_cases hq : q.Same p <;> simp [newest?, Touches, Closes, scheduled?, hq]
  | ended | handled => simp [newest?, Touches, Closes, scheduled?]

theorem newest?_concat_of_touches (ho : o.Touches p) : newest? (h ++ [o]) p = o.scheduled? := by
  rw [newest?_concat, if_pos ho]

theorem newest?_concat_of_not_touches (ho : ¬ o.Touches p) :
    newest? (h ++ [o]) p = newest? h p := by
  rw [newest?_concat, if_neg ho]

theorem not_isOpen_iff : ¬ IsOpen h p ↔ newest? h p = none := by
  simp [IsOpen, newest?]

theorem isOpen_iff : IsOpen h p ↔ ∃ i, newest? h p = some i := by
  rw [← not_iff_not, not_isOpen_iff, Option.eq_none_iff_forall_ne_some, not_exists]

theorem decisive?_concat_handled {e : Event} {c : Completion} :
    decisive? (h ++ [.handled e c]) p = if Decides p (e, c) then some e else decisive? h p := by
  rw [decisive?, sinceClose_concat]
  by_cases hd : Decides p (e, c) <;> simp [decisive?, Closes, handled?, hd]

theorem decisive?_concat_closed {q : Path} :
    decisive? (h ++ [.closed q]) p = if q.Same p then none else decisive? h p := by
  rw [decisive?, sinceClose_concat]
  by_cases hq : q.Same p <;> simp [decisive?, Closes, handled?, hq]

theorem decisive?_concat_of_handled?_eq_none (ho : o.handled? = none) (hc : ¬ o.Closes p) :
    decisive? (h ++ [o]) p = decisive? h p := by
  simp [decisive?, sinceClose_concat, hc, ho]

theorem touches_append : touches (h ++ k) p = touches h p + touches k p := List.countP_append

theorem touches_le_append : touches h p ≤ touches (h ++ k) p :=
  touches_append (k := k) ▸ Nat.le_add_right ..

theorem touches_concat_of_touches (ho : o.Touches p) :
    touches (h ++ [o]) p = touches h p + 1 := by
  simp [touches, ho]

theorem touches_concat_of_not_touches (ho : ¬ o.Touches p) :
    touches (h ++ [o]) p = touches h p := by
  simp [touches, ho]

theorem touches_congr {q : Path} (hs : p.Same q) : touches h p = touches h q :=
  List.countP_congr fun _ _ => by simp only [Touches.congr hs]

theorem newest?_congr {q : Path} (hs : p.Same q) : newest? h p = newest? h q := by
  induction h using List.reverseRecOn with
  | nil => rfl
  | append_singleton h o ih =>
    simp only [newest?_concat, ih, Touches.congr hs]

theorem sequence?_congr {q : Path} (hs : p.Same q) : sequence? h p = sequence? h q := by
  have : countStep p = countStep q := by
    funext v o
    cases o <;> simp only [countStep, hs.congr_right]
  rw [sequence?, this, sequence?]

theorem sequence?_concat : sequence? (h ++ [o]) p = countStep p (sequence? h p) o := by
  simp [sequence?]

theorem verdict?_concat : verdict? (h ++ [o]) p = verdictStep p (verdict? h p) o := by
  simp [verdict?]

end History

namespace Session

/-! ## The history of a session -/

def historyOfFinish (s : Session) (number : Nat) (ending : Ending) : History :=
  match s.running.find? fun i => i.number == number with
  | none => []
  | some invocation => [.ended invocation ending]

def historyOfFinishes (ending : Invocation → Ending) : List Invocation → Session → History
  | [], _ => []
  | i :: is, s =>
    s.historyOfFinish i.number (ending i) ++
      historyOfFinishes ending is (s.finish i.number (ending i))

def historyOfDrain : Nat → Session → History
  | 0, _ => []
  | budget + 1, s =>
    match s.inbox with
    | [] => []
    | event :: inbox =>
      .handled event (s.completionOf event) ::
        historyOfDrain budget ({ s with inbox }.handle event)

/-- What happens in a session by one action. -/
def historyOf (s : Session) : Action → History
  | .trigger path language =>
    if s.settings.accepts language then [.scheduled (s.next path)] else []
  | .close path => [.closed path]
  | .finish number ending => s.historyOfFinish number ending
  | .poll budget => historyOfDrain budget { s with ended := 0 }
  | .idle ending =>
    let s' := s.running.foldl (fun s i => s.finish i.number (ending i)) s
    historyOfFinishes ending s.running s ++ historyOfDrain s'.inbox.length { s' with ended := 0 }
  | .takeCompletions | .takeNotices => []

/-- What happens in a session by a list of actions. -/
def history (s : Session) : List Action → History
  | [] => []
  | a :: as => s.historyOf a ++ (s.act a).history as

/-! ## What replies hand out -/

def takenBy (s : Session) (as : List Action) : List Completion :=
  (s.answers as).flatMap Reply.takenCompletions

def noticesTakenBy (s : Session) (as : List Action) : List Notice :=
  (s.answers as).flatMap Reply.takenNotices

section Replies

variable {α : Type} {f : Reply → List α} {s : Session} {a : Action}

theorem answers_append (s : Session) (as bs : List Action) :
    s.answers (as ++ bs) = s.answers as ++ (as.foldl act s).answers bs := by
  induction as generalizing s with
  | nil => rfl
  | cons a as ih => rw [List.cons_append, answers, answers, ih, List.cons_append, List.foldl_cons]

theorem takenBy_cons (s : Session) (a : Action) (as : List Action) :
    s.takenBy (a :: as) = (s.answerTo a).takenCompletions ++ (s.act a).takenBy as :=
  List.flatMap_cons

theorem noticesTakenBy_cons (s : Session) (a : Action) (as : List Action) :
    s.noticesTakenBy (a :: as) = (s.answerTo a).takenNotices ++ (s.act a).noticesTakenBy as :=
  List.flatMap_cons

theorem takenCompletions_answerTo (ha : a ≠ .takeCompletions) :
    (s.answerTo a).takenCompletions = [] := by
  cases a with
  | takeCompletions => exact absurd rfl ha
  | trigger | close | finish | poll | idle | takeNotices => rfl

theorem exists_finish_of_mem_followUps {x : Step} (ha : a ∈ s.followUps x) :
    ∃ number ending, a = .finish number ending := by
  cases x with
  | opened path language | saved path language =>
    rw [followUps] at ha
    split at ha
    · exact ⟨_, _, List.mem_singleton.1 ha⟩
    · simp at ha
  | closed | finished | polled | idled | tookCompletions | tookNotices => simp [followUps] at ha

theorem flatMap_answers_eq_nil (hf : ∀ yes, f (.wasRunning yes) = []) {as : List Action}
    (ha : ∀ a ∈ as, ∃ number ending, a = .finish number ending) :
    (s.answers as).flatMap f = [] := by
  induction as generalizing s with
  | nil => rfl
  | cons a as ih =>
    rw [List.forall_mem_cons] at ha
    obtain ⟨⟨number, ending, rfl⟩, has⟩ := ha
    rw [answers, List.flatMap_cons, ih has, List.append_nil]
    exact hf _

/-- The replies of a script hand out what its actions do. -/
theorem flatMap_replies (hf : ∀ yes, f (.wasRunning yes) = []) (s : Session) (xs : List Step) :
    (s.replies xs).flatMap f = (s.answers (s.script xs)).flatMap f := by
  induction xs generalizing s with
  | nil => rfl
  | cons x xs ih =>
    have hnil : ((s.act (s.actionOf x)).answers (s.followUps x)).flatMap f = [] :=
      flatMap_answers_eq_nil hf fun _ => exists_finish_of_mem_followUps
    rw [replies, script, answers_append, List.flatMap_cons, List.flatMap_append, ih, actionsOf,
      answers, List.flatMap_cons, hnil, List.append_nil]
    rfl

end Replies

end Session

end DocumentLint
