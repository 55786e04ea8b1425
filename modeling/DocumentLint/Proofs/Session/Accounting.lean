import Mathlib.Algebra.Ring.Nat
import DocumentLint.Proofs.Session.Tracking

/-! # Accounting

Every invocation ends at most once, and the event of one that was not lost is
handled once, in the order of the ends. Polls take from the front of the inbox
as much as their budgets allow; whether a budget is split does not matter.
-/

namespace DocumentLint

namespace History

open Occurrence

variable {settings : Settings} {h : History} {i : Invocation}

/-- Every invocation that was not lost has its completion. -/
def Complete (h : History) : Prop := ∀ i ∈ scheduled h, i ∈ settled h ∨ .ended i .lost ∈ h

theorem lost_or_sent (settings : Settings) (hi : i ∈ ended h) :
    .ended i .lost ∈ h ∨ ∃ e ∈ sent settings h, e.invocation = i := by
  obtain ⟨ending, ho⟩ := mem_ended_iff.1 hi
  cases ending with
  | lost => exact .inl ho
  | answered answer =>
    refine .inr ⟨⟨i, .ofTarget settings (fun _ => answer) i.path⟩, ?_, rfl⟩
    exact mem_sent_iff.2 ⟨answer, ho, rfl⟩

theorem complete_of_sent_eq (hended : scheduled h ⊆ ended h)
    (hsent : sent settings h = (handled h).map (·.1)) : Complete h := by
  intro i hi
  refine (lost_or_sent settings (hended hi)).symm.imp_left ?_
  rintro ⟨e, he, rfl⟩
  obtain ⟨x, hx, rfl⟩ := List.mem_map.1 (hsent ▸ he)
  exact List.mem_map_of_mem (f := fun x : Event × Completion => x.1.invocation) hx

end History

/-- How many events a reply says to have handled. -/
def Reply.count : Reply → Nat
  | .handled count => count
  | _ => 0

namespace Session

open History Occurrence

variable (s : Session) (a b : Nat)

/-! ## Draining -/

theorem inbox_drain : (drain b s).2.inbox = s.inbox.drop b := by
  induction b generalizing s with
  | zero => rfl
  | succ b ih =>
    rw [drain]
    cases hs : s.inbox with
    | nil => simpa using hs
    | cons e es => simp [ih]

theorem running_drain : (drain b s).2.running = s.running :=
  drain_invariant s (fun _ _ _ => running_handle _ _) b

theorem ended_drain : (drain b s).2.ended = s.ended :=
  drain_invariant s (fun _ _ _ => ended_handle _ _) b

theorem events_historyOfDrain :
    (handled (historyOfDrain b s)).map (·.1) = s.inbox.take b := by
  induction b generalizing s with
  | zero => rfl
  | succ b ih =>
    rw [historyOfDrain]
    cases s.inbox with
    | nil => rfl
    | cons e es => simp [ih, handled?]

theorem drain_add : (drain (a + b) s).2 = (drain b (drain a s).2).2 := by
  induction a generalizing s with
  | zero => rw [Nat.zero_add, drain]
  | succ a ih =>
    rw [Nat.succ_add, drain, drain]
    cases hs : s.inbox with
    | cons e es => exact ih _
    | nil =>
      -- nothing is left for the rest of the budget
      cases b with
      | zero => rfl
      | succ b => rw [drain, hs]

/-! ## Polling -/

theorem events_poll : (handled (s.historyOf (.poll b))).map (·.1) = s.inbox.take b :=
  events_historyOfDrain _ b

theorem inbox_poll : (s.poll b).2.inbox = s.inbox.drop b := inbox_drain _ b

theorem poll_poll : ((s.poll a).2.poll b).2 = (s.poll (a + b)).2 := by
  have h : { (s.poll a).2 with ended := 0 } = (s.poll a).2 := by
    have he : (s.poll a).2.ended = 0 := ended_drain _ a
    rw [← he]
  rw [poll, h, poll, ← drain_add, ← poll]

/-- Polls with one budget after the other: how many events they say to have handled, all in all,
and the session that they leave. -/
def pollEach (s : Session) : List Nat → Nat × Session
  | [] => (0, s)
  | b :: bs =>
    ((s.act (.poll b)).pollEach bs).map ((s.answerTo (.poll b)).count + ·) id

theorem pollEach_singleton : s.pollEach [b] = (min b s.inbox.length, (s.poll b).2) := by
  rw [pollEach, answerTo_poll]
  rfl

/-- A budget may be split over any number of polls. -/
theorem pollEach_eq_sum {budgets : List Nat} (hn : budgets ≠ []) :
    s.pollEach budgets = s.pollEach [budgets.sum] := by
  induction budgets generalizing s with
  | nil => exact absurd rfl hn
  | cons a bs ih =>
    cases bs with
    | nil => simp
    | cons b bs =>
      have hinbox : (s.act (.poll a)).inbox = s.inbox.drop a := s.inbox_poll a
      have hsum : (a :: b :: bs).sum = a + (b :: bs).sum := List.sum_cons
      rw [pollEach, ih (s.act (.poll a)) (List.cons_ne_nil b bs), hsum, pollEach_singleton,
        pollEach_singleton, answerTo_poll, hinbox, List.length_drop]
      refine Prod.ext ?_ (s.poll_poll a _)
      change min a _ + min _ _ = _
      omega

/-! ## Pending invocations -/

theorem running_poll : (s.poll b).2.running = s.running := running_drain _ b

theorem pending_poll : (s.poll b).2.pending = s.running.length := by
  have he : (s.poll b).2.ended = 0 := ended_drain _ b
  rw [pending, running_poll, he, Nat.add_zero]

theorem running_finish (number : Nat) (ending : Ending) :
    (s.finish number ending).running = s.running.filter fun i => i.number != number := by
  rw [finish]
  cases hf : s.running.find? fun i => i.number == number with
  | some i => rfl
  | none => exact (List.filter_eq_self.2 (by simpa using hf)).symm

variable {s} in
theorem mem_running_finishes {ending : Invocation → Ending} {is : List Invocation}
    {i : Invocation} : i ∈ (is.foldl (fun s i => s.finish i.number (ending i)) s).running ↔
      i ∈ s.running ∧ ∀ j ∈ is, i.number ≠ j.number := by
  induction is generalizing s with
  | nil => simp
  | cons j is ih =>
    rw [List.foldl_cons, ih, running_finish]
    simp [and_assoc]

theorem running_idle (ending : Invocation → Ending) : (s.idle ending).running = [] := by
  rw [idle, running_poll, List.eq_nil_iff_forall_not_mem]
  intro i hi
  obtain ⟨hi, hne⟩ := mem_running_finishes.1 hi
  exact hne i hi rfl

theorem pending_idle (ending : Invocation → Ending) : (s.idle ending).pending = 0 := by
  have hr := s.running_idle ending
  rw [idle, running_poll] at hr
  rw [idle, pending_poll, hr, List.length_nil]

theorem inbox_idle (ending : Invocation → Ending) : (s.idle ending).inbox = [] := by
  rw [idle, inbox_poll, List.drop_length]

/-! ## Triggers -/

/-- What an action is granted: the sequence number of an accepted trigger, with its path. -/
def grantsOf (s : Session) (a : Action) : List (Path × UInt64) :=
  match a, s.answerTo a with
  | .trigger path _, .decided (.scheduled sequence _) => [(path, sequence)]
  | _, _ => []

def grantedBy (s : Session) : List Action → List (Path × UInt64)
  | [] => []
  | a :: as => s.grantsOf a ++ (s.act a).grantedBy as

theorem scheduled_historyOf_of_ne {a : Action} (ht : ∀ path language, a ≠ .trigger path language) :
    History.scheduled (s.historyOf a) = [] := by
  refine List.filterMap_eq_nil_iff.2 fun o ho => ?_
  rw [Option.eq_none_iff_forall_ne_some]
  intro i hi
  obtain rfl := scheduled?_eq_some_iff.1 hi
  cases a with
  | trigger path language => exact ht path language rfl
  | close path => simp [historyOf] at ho
  | finish | poll | idle | takeCompletions | takeNotices =>
    exact not_touches_historyOf (p := i.path) (by simp) (by simp) ho (.refl _)

theorem scheduled_historyOf (a : Action) :
    (History.scheduled (s.historyOf a)).map (fun i => (i.path, i.sequence)) = s.grantsOf a := by
  cases a with
  | trigger path language =>
    by_cases ha : s.settings.accepts language <;>
      simp [historyOf, grantsOf, answerTo, respond, trigger, ha, scheduled?, next]
  | close | finish | poll | idle | takeCompletions | takeNotices =>
    rw [scheduled_historyOf_of_ne s (by simp)]
    rfl

theorem scheduled_history (as : List Action) :
    (History.scheduled (s.history as)).map (fun i => (i.path, i.sequence)) = s.grantedBy as := by
  induction as generalizing s with
  | nil => rfl
  | cons a as ih =>
    rw [Session.history, scheduled_append, List.map_append, scheduled_historyOf, ih, grantedBy]

variable {s} {h : History}

/-- Nothing is owed when nothing runs and nothing waits. -/
theorem complete_of_tracks (t : Tracks h s) (hr : s.running = []) (hi : s.inbox = []) :
    Complete h := by
  have hsent : sent s.settings h = (handled h).map (·.1) := by simpa [hi] using t.inbox
  refine complete_of_sent_eq (fun i hs => ?_) hsent
  have he := t.running
  rw [hr, eq_comm, List.filter_eq_nil_iff] at he
  simpa using he i hs

/-- What a session with a history was asked for, and what it has recorded. -/
structure Ledger (s : Session) (h : History) (granted : List (Path × UInt64))
    (recorded : List Completion) : Prop where
  /-- The invocations are numbered in the order of their triggers. -/
  numbers : (History.scheduled h).map (·.number) = List.range' 1 granted.length
  granted : (History.scheduled h).map (fun i => (i.path, i.sequence)) = granted
  scheduled : History.ended h ⊆ History.scheduled h
  once : (History.ended h).Nodup
  /-- The events that were sent leave their completions, as far as they have been handled. -/
  recorded : recorded.map (fun c => (c.path, c.sequence, c.status)) =
    ((sent s.settings h).take (handled h).length).map
      fun e => (e.path, e.sequence, Status.ofReport e.report)
  waiting : s.inbox = (sent s.settings h).drop (handled h).length

theorem ledger_of_tracks (t : Tracks h s) {granted : List (Path × UInt64)}
    (hg : (History.scheduled h).map (fun i => (i.path, i.sequence)) = granted) :
    Ledger s h granted ((handled h).map (·.2)) where
  numbers := by rw [t.lawful.numbers_eq_range', ← hg, List.length_map]
  granted := hg
  scheduled := t.lawful.ended_subset
  once := t.lawful.nodup_ended
  recorded := by
    rw [t.inbox, List.take_left' (List.length_map _), List.map_map, List.map_map]
    refine List.map_congr_left fun x hx => ?_
    obtain ⟨hp, hs, hr⟩ := t.lawful.completion_of_mem (mem_handled_iff.1 hx)
    simp only [Function.comp_apply, hp, hs, hr]
  waiting := by rw [t.inbox, List.drop_left' (List.length_map _)]

/-- Every invocation of a session is accounted for: what the replies hand out and what waits is
what the invocations have sent, in the order of their ends and as far as polls have handled it.
Polls handle as much as they say, whether their budgets are split or not. Once a poll leaves
budget while nothing is pending, and after waiting for all invocations, none is without its
completion unless it was lost. Whoever takes completions is handed out all that wait, and a script
hands out what its actions do. -/
theorem ledger_after (settings : Settings) (as : List Action) :
    let s := after settings as
    let h := history { settings } as
    Ledger s h (grantedBy { settings } as) (takenBy { settings } as ++ s.completions) ∧
    (∀ budget, s.replyTo (.polled budget) = s.answerTo (.poll budget) ∧
      s.answerTo (.poll budget) = .handled (min budget s.inbox.length) ∧
      (handled (s.historyOf (.poll budget))).map (·.1) = s.inbox.take budget ∧
      (s.act (.poll budget)).inbox = s.inbox.drop budget) ∧
    (∀ budgets, budgets ≠ [] → s.pollEach budgets = s.pollEach [budgets.sum]) ∧
    (∀ budget count, s.answerTo (.poll budget) = .handled count → count < budget →
      (s.act (.poll budget)).pending = 0 → Complete (h ++ s.historyOf (.poll budget))) ∧
    (∀ ending, (s.act (.idle ending)).pending = 0 ∧ Complete (h ++ s.historyOf (.idle ending))) ∧
    (s.replyTo .tookCompletions = s.answerTo .takeCompletions ∧
      s.answerTo .takeCompletions = .completions s.completions ∧
      (s.act .takeCompletions).completions = []) ∧
    ∀ xs, run settings xs = after settings (script { settings } xs) ∧
      (replies { settings } xs).flatMap Reply.takenCompletions =
        takenBy { settings } (script { settings } xs) := by
  intro s h
  have t : Tracks h s := tracks_after settings as
  refine ⟨?_, fun b => ⟨rfl, s.answerTo_poll b, s.events_poll b, s.inbox_poll b⟩,
    fun budgets hn => s.pollEach_eq_sum hn, fun b count hc hb hp => ?_,
    fun ending => ⟨s.pending_idle ending, ?_⟩, ⟨rfl, rfl, rfl⟩, fun xs => ⟨?_, ?_⟩⟩
  · have hrecorded : takenBy { settings } as ++ s.completions = (handled h).map (·.2) := by
      have hc := takenBy_append_completions { settings } as
      rwa [List.nil_append] at hc
    rw [hrecorded]
    exact ledger_of_tracks t (scheduled_history { settings } as)
  · change (s.poll b).2.pending = 0 at hp
    rw [pending_poll] at hp
    rw [answerTo_poll] at hc
    obtain rfl : min b s.inbox.length = count := Reply.handled.inj hc
    refine complete_of_tracks (t.act (.poll b)) ?_ ?_
    · exact (s.running_poll b).trans (List.eq_nil_of_length_eq_zero hp)
    · refine (s.inbox_poll b).trans (List.drop_eq_nil_iff.2 ?_)
      omega
  · exact complete_of_tracks (t.act (.idle ending)) (s.running_idle ending) (s.inbox_idle ending)
  · exact (foldl_script { settings } xs).symm
  · exact flatMap_replies (fun _ => rfl) { settings } xs

/-- One run is lost, one has no file to lint and one is polled late: a poll with budget to spare
leaves nothing open. -/
theorem ledger_after_loss :
    let as : List Action := [.trigger ⟨"a.proto"⟩ ⟨"proto"⟩, .trigger ⟨"b/.."⟩ ⟨"proto"⟩,
      .trigger ⟨"a.proto"⟩ ⟨"proto"⟩, .finish 3 (.answered (.ok { code := some 0 })), .poll 1,
      .takeCompletions, .finish 1 .lost, .finish 2 (.answered (.ok { code := some 0 }))]
    let s := after {} as
    [1, 1] ≠ [] ∧ s.pollEach [1, 1] = s.pollEach [2] ∧
      s.answerTo (.poll 2) = .handled 1 ∧ 1 < 2 ∧ (s.act (.poll 2)).pending = 0 ∧
      Complete (history { settings := {} } as ++ s.historyOf (.poll 2)) ∧
      (takenBy { settings := {} } as ++ (s.act (.poll 2)).completions).map
        (fun c => (c.sequence, c.status)) = [(2, .clean), (1, .launchFailed)] := by
  intro as s
  have hl := ledger_after {} as
  have hc : s.answerTo (.poll 2) = .handled 1 := rfl
  have hp : (s.act (.poll 2)).pending = 0 := by decide +kernel
  exact ⟨by decide, hl.2.2.1 [1, 1] (by decide), hc, by decide, hp,
    hl.2.2.2.1 2 1 hc (by decide) hp, by decide +kernel⟩

end Session

end DocumentLint
