import DocumentLint.Proofs.Session.Alike
import DocumentLint.Proofs.Session.Tracking

/-! # Respelled runs

Two runs of a session whose paths are spelled differently, action by action,
cannot be told apart: they answer alike, launch alike, and show the same of
each file.
-/

namespace DocumentLint

open List (Forall₂)

/-- The language is given, or guessed from the path. -/
def Language.FitsBoth (p q : Path) (l m : Language) : Prop :=
  l = m ∨ l = .ofPath p ∧ m = .ofPath q

theorem Language.FitsBoth.eq {p q : Path} {l m : Language} (h : FitsBoth p q l m)
    (hp : p.Same q) : l = m := by
  obtain rfl | ⟨rfl, rfl⟩ := h
  · rfl
  · exact hp.language_eq

/-- Actions that differ in the spelling of paths only. -/
inductive Action.Respells : Action → Action → Prop where
  | trigger {p q : Path} {l m : Language} : p.Same q → l.FitsBoth p q m →
      Respells (.trigger p l) (.trigger q m)
  | close {p q : Path} : p.Same q → Respells (.close p) (.close q)
  | finish {e f : Ending} (number : Nat) : e.Alike f →
      Respells (.finish number e) (.finish number f)
  | poll (budget : Nat) : Respells (.poll budget) (.poll budget)
  | idle {e f : Invocation → Ending} : (∀ i j : Invocation, i.Alike j → (e i).Alike (f j)) →
      Respells (.idle e) (.idle f)
  | takeCompletions : Respells .takeCompletions .takeCompletions
  | takeNotices : Respells .takeNotices .takeNotices

/-- Steps that differ in the spelling of paths only. -/
inductive Step.Respells : Step → Step → Prop where
  | opened {p q : Path} {l m : Language} : p.Same q → l.FitsBoth p q m →
      Respells (.opened p l) (.opened q m)
  | saved {p q : Path} {l m : Language} : p.Same q → l.FitsBoth p q m →
      Respells (.saved p l) (.saved q m)
  | closed {p q : Path} : p.Same q → Respells (.closed p) (.closed q)
  | finished {e f : Ending} (launch : Nat) : e.Alike f →
      Respells (.finished launch e) (.finished launch f)
  | polled (budget : Nat) : Respells (.polled budget) (.polled budget)
  | idled {e f : Invocation → Ending} : (∀ i j : Invocation, i.Alike j → (e i).Alike (f j)) →
      Respells (.idled e) (.idled f)
  | tookCompletions : Respells .tookCompletions .tookCompletions
  | tookNotices : Respells .tookNotices .tookNotices

/-- Replies that differ in the spelling of paths only. -/
inductive Reply.Alike : Reply → Reply → Prop where
  | refl (r : Reply) : Alike r r
  | completions {cs ds : List Completion} : Forall₂ Completion.Alike cs ds →
      Forall₂ Path.Same (Completion.withFindings cs) (Completion.withFindings ds) →
      Forall₂ Path.Same (Completion.unlocated cs) (Completion.unlocated ds) →
      Alike (.completions cs) (.completions ds)

theorem Reply.Alike.of_eq {r r' : Reply} (h : r = r') : Alike r r' := h ▸ .refl r

theorem Reply.Alike.of_completions {cs ds : List Completion}
    (h : Forall₂ Completion.Alike cs ds) : Alike (.completions cs) (.completions ds) :=
  .completions h (Completion.rel_pathsWhere h _) (Completion.rel_pathsWhere h _)

namespace Session

/-- What can be seen of two sessions is the same, but for the spelling of paths. -/
structure LooksLike (s t : Session) : Prop where
  pending : s.pending = t.pending
  launches : Forall₂ Launch.Alike s.launches t.launches
  sequences : ∀ p q : Path, p.Same q → s.store.sequences.get? p = t.store.sequences.get? q
  diagnostics : ∀ p q : Path, p.Same q → s.diagnostics p = t.diagnostics q
  files : Forall₂ EntryAlike s.snapshot.files t.snapshot.files
  total : s.snapshot.total = t.snapshot.total
  errors : s.snapshot.errors = t.snapshot.errors
  warnings : s.snapshot.warnings = t.snapshot.warnings
  status : s.snapshot.status = t.snapshot.status
  completions : Forall₂ Completion.Alike s.completions t.completions
  withFindings : Forall₂ Path.Same (Completion.withFindings s.completions)
    (Completion.withFindings t.completions)
  unlocated : Forall₂ Path.Same (Completion.unlocated s.completions)
    (Completion.unlocated t.completions)
  notices : s.notices = t.notices

/-- Sessions that differ in the spelling of paths only. -/
structure Alike (s t : Session) : Prop where
  settings : s.settings = t.settings
  sequences : ∀ p, s.store.sequences.get? p = t.store.sequences.get? p
  verdicts : ∀ p, s.store.verdicts.get? p = t.store.verdicts.get? p
  scheduled : s.scheduled = t.scheduled
  launches : Forall₂ Launch.Alike s.launches t.launches
  running : Forall₂ Invocation.Alike s.running t.running
  ended : s.ended = t.ended
  inbox : Forall₂ Event.Alike s.inbox t.inbox
  completions : Forall₂ Completion.Alike s.completions t.completions
  notices : s.notices = t.notices
  toolReported : s.toolReported = t.toolReported

theorem Alike.refl_start (settings : Settings) : Alike { settings } { settings } where
  settings := rfl
  sequences _ := rfl
  verdicts _ := rfl
  scheduled := rfl
  launches := .nil
  running := .nil
  ended := rfl
  inbox := .nil
  completions := .nil
  notices := rfl
  toolReported := rfl

namespace Alike

variable {s t : Session} {p q : Path} {e f : Event}

theorem sequences_of_same (h : s.Alike t) (hp : p.Same q) :
    s.store.sequences.get? p = t.store.sequences.get? q :=
  (h.sequences p).trans (PathMap.get?_congr hp)

theorem next (h : s.Alike t) (hp : p.Same q) : (s.next p).Alike (t.next q) where
  number := congrArg (· + 1) h.scheduled
  path := hp
  sequence := by
    rw [Session.next, Store.issued, h.sequences_of_same hp]
    rfl

theorem schedule (h : s.Alike t) (hp : p.Same q) : (s.schedule p).Alike (t.schedule q) where
  settings := h.settings
  sequences r := by
    have hr : p.Same r ↔ q.Same r := ⟨hp.symm.trans, hp.trans⟩
    simp only [Session.schedule, Store.sequences_issue, hr, h.sequences]
  verdicts := h.verdicts
  scheduled := congrArg (· + 1) h.scheduled
  launches := by
    simp only [Session.schedule, h.settings]
    exact List.rel_append h.launches (rel_launchesOf _ (h.next hp))
  running := List.rel_append h.running (.cons (h.next hp) .nil)
  ended := h.ended
  inbox := h.inbox
  completions := h.completions
  notices := h.notices
  toolReported := h.toolReported

theorem trigger (h : s.Alike t) (hp : p.Same q) (language : Language) :
    (s.trigger p language).1 = (t.trigger q language).1 ∧
      (s.trigger p language).2.Alike (t.trigger q language).2 := by
  rw [Session.trigger, Session.trigger, h.settings]
  split
  · refine ⟨?_, h.schedule hp⟩
    -- of the new launch the decision tells the number only, and whether there is one
    have hl := rel_launchesOf t.settings (h.next hp)
    rw [(h.next hp).sequence, h.launches.length_eq]
    revert hl
    generalize launchesOf t.settings (s.next p) = l
    generalize launchesOf t.settings (t.next q) = m
    intro hl
    cases hl <;> rfl
  · exact ⟨rfl, h⟩

theorem close (h : s.Alike t) (hp : p.Same q) : (s.close p).Alike (t.close q) := by
  have hr (r : Path) : p.Same r ↔ q.Same r := ⟨hp.symm.trans, hp.trans⟩
  exact { h with
    sequences := fun r => by
      simp only [Session.close, Store.sequences_close, hr, h.sequences]
    verdicts := fun r => by
      simp only [Session.close, Store.close, PathMap.get?_erase, hr, h.verdicts] }

theorem finish (h : s.Alike t) (number : Nat) {a b : Ending} (hab : a.Alike b) :
    (s.finish number a).Alike (t.finish number b) := by
  have hf := rel_find? (p := fun i => i.number == number) (q := fun i => i.number == number)
    h.running fun i j hij => by rw [hij.number]
  rw [Session.finish, Session.finish]
  cases hi : s.running.find? fun i => i.number == number with
  | none =>
    cases hj : t.running.find? fun i => i.number == number with
    | none => exact h
    | some j =>
      rw [hi, hj] at hf
      cases hf
  | some i =>
    cases hj : t.running.find? fun i => i.number == number with
    | none =>
      rw [hi, hj] at hf
      cases hf
    | some j =>
      rw [hi, hj] at hf
      cases hf with
      | some hij =>
        exact { h with
          running := List.rel_filter (fun i j hij => by simp only [hij.number]) h.running
          ended := congrArg (· + 1) h.ended
          inbox := by
            simp only [h.settings]
            exact List.rel_append h.inbox (rel_eventsOf _ hij hab) }

theorem completionOf (h : s.Alike t) (he : e.Alike f) :
    (s.completionOf e).Alike (t.completionOf f) where
  path := he.invocation.path
  sequence := he.invocation.sequence
  status := he.report.status_eq
  stale := by
    have hget : s.store.sequences.get? e.path = t.store.sequences.get? f.path :=
      h.sequences_of_same he.invocation.path
    have hs : e.sequence = f.sequence := he.invocation.sequence
    simp only [Session.completionOf, Store.isCurrent, hget, hs]

theorem notices_noteFailure (h : s.Alike t) {a b : LaunchFailure} (hab : a.Alike b) :
    (s.noteFailure a).notices = (t.noteFailure b).notices := by
  rw [noteFailure, noteFailure, h.toolReported]
  split
  · exact h.notices
  · rw [hab.binary?_eq]
    cases hb : b.binary? with
    | none => exact h.notices
    | some binary =>
      have hm : a.message = b.message := hab.message_eq (by rw [hab.binary?_eq, hb]; rfl)
      simp only [h.notices, hm]

theorem notices_handle (h : s.Alike t) (he : e.Alike f) :
    (s.handle e).notices = (t.handle f).notices := by
  have hr := he.report
  rw [Session.handle, Session.handle]
  revert hr
  generalize e.report = r
  generalize f.report = r'
  intro hr
  cases hr with
  | failed hab => exact h.notices_noteFailure hab
  | refl =>
    cases r with
    | failed a => exact h.notices_noteFailure (.refl a)
    | clean | findings => exact h.notices

theorem decides_iff (h : s.Alike t) (he : e.Alike f) :
    History.Decides p (e, s.completionOf e) ↔ History.Decides p (f, t.completionOf f) := by
  have hc := h.completionOf he
  have hp : e.path.Same p ↔ f.path.Same p :=
    ⟨he.invocation.path.symm.trans, he.invocation.path.trans⟩
  rw [History.Decides, History.Decides, hp, hc.stale, hc.status]

theorem handle (h : s.Alike t) (he : e.Alike f) : (s.handle e).Alike (t.handle f) where
  settings := by rw [settings_handle, settings_handle, h.settings]
  sequences p := by
    have hp : e.path.Same p ↔ f.path.Same p :=
      ⟨he.invocation.path.symm.trans, he.invocation.path.trans⟩
    rw [sequences_handle, sequences_handle, h.sequences]
    simp only [hp]
  verdicts p := by
    rw [records_handle, records_handle, he.report.records_eq, h.verdicts]
    simp only [h.decides_iff he]
  scheduled := by rw [handle_eq, handle_eq t, h.scheduled]
  launches := by
    rw [handle_eq, handle_eq t]
    exact h.launches
  running := by
    rw [running_handle, running_handle]
    exact h.running
  ended := by rw [ended_handle, ended_handle, h.ended]
  inbox := by
    rw [inbox_handle, inbox_handle]
    exact h.inbox
  completions := by
    rw [completions_handle, completions_handle]
    exact List.rel_append h.completions (.cons (h.completionOf he) .nil)
  notices := h.notices_handle he
  toolReported := by
    rw [handle_eq, handle_eq t, h.toolReported, he.report.toolUnavailable_eq]

theorem drain (h : s.Alike t) (budget : Nat) :
    (drain budget s).2.Alike (Session.drain budget t).2 := by
  induction budget generalizing s t with
  | zero => exact h
  | succ budget ih =>
    have hi := h.inbox
    rw [Session.drain, Session.drain]
    cases hs : s.inbox with
    | nil =>
      rw [hs, List.forall₂_nil_left_iff] at hi
      rw [hi]
      exact h
    | cons e es =>
      rw [hs, List.forall₂_cons_left_iff] at hi
      obtain ⟨f, fs, hef, hes, ht⟩ := hi
      rw [ht]
      have hrest : Alike { s with inbox := es } { t with inbox := fs } := { h with inbox := hes }
      exact ih (hrest.handle hef)

theorem poll (h : s.Alike t) (budget : Nat) : (s.poll budget).2.Alike (t.poll budget).2 := by
  have hreaped : Alike { s with ended := 0 } { t with ended := 0 } := { h with ended := rfl }
  exact hreaped.drain budget

theorem finishes {a b : Invocation → Ending}
    (hab : ∀ i j : Invocation, i.Alike j → (a i).Alike (b j)) {is js : List Invocation}
    (hij : Forall₂ Invocation.Alike is js) (h : s.Alike t) :
    (is.foldl (fun s i => s.finish i.number (a i)) s).Alike
      (js.foldl (fun s i => s.finish i.number (b i)) t) := by
  induction hij generalizing s t with
  | nil => exact h
  | @cons i j is js hij _ ih =>
    rw [List.foldl_cons, List.foldl_cons, hij.number]
    exact ih (h.finish j.number (hab i j hij))

theorem idle (h : s.Alike t) {a b : Invocation → Ending}
    (hab : ∀ i j : Invocation, i.Alike j → (a i).Alike (b j)) : (s.idle a).Alike (t.idle b) := by
  have hf := finishes hab h.running h
  rw [Session.idle, Session.idle, hf.inbox.length_eq]
  exact hf.poll _

theorem act (h : s.Alike t) {a b : Action} (hab : a.Respells b) : (s.act a).Alike (t.act b) := by
  cases hab with
  | trigger hp hl =>
    obtain rfl := hl.eq hp
    exact (h.trigger hp _).2
  | close hp => exact h.close hp
  | finish number he => exact h.finish number he
  | poll budget => exact h.poll budget
  | idle he => exact h.idle he
  | takeCompletions => exact { h with completions := .nil }
  | takeNotices => exact { h with notices := rfl }

theorem acts {as bs : List Action} (hab : Forall₂ Action.Respells as bs) (h : s.Alike t) :
    (as.foldl Session.act s).Alike (bs.foldl Session.act t) := by
  induction hab generalizing s t with
  | nil => exact h
  | cons hab _ ih => exact ih (h.act hab)

/-! ## What is seen -/

theorem looksLike (h : s.Alike t) : s.LooksLike t := by
  have hfiles : Forall₂ EntryAlike s.snapshot.files t.snapshot.files :=
    Snapshot.rel_files h.verdicts
  have hrecords : s.snapshot.records = t.snapshot.records := by
    rw [Snapshot.records, Snapshot.records, List.flatMap_def, List.flatMap_def,
      map_eq_of_forall₂ (hfiles.imp fun _ _ h => h.2)]
  have hempty : s.snapshot.isEmpty = t.snapshot.isEmpty := by
    rw [Snapshot.isEmpty, Snapshot.isEmpty, Bool.eq_iff_iff, List.isEmpty_iff_length_eq_zero,
      List.isEmpty_iff_length_eq_zero, hfiles.length_eq]
  have herrors : s.snapshot.errors = t.snapshot.errors := by
    rw [Snapshot.errors, hrecords, Snapshot.errors]
  have hwarnings : s.snapshot.warnings = t.snapshot.warnings := by
    rw [Snapshot.warnings, hrecords, Snapshot.warnings]
  exact {
    pending := by rw [pending, pending, h.running.length_eq, h.ended]
    launches := h.launches
    sequences := fun p q => h.sequences_of_same
    diagnostics := fun p q hp => by
      rw [diagnostics, diagnostics, Store.get, Store.get, h.verdicts, PathMap.get?_congr hp]
    files := hfiles
    total := by rw [Snapshot.total, hrecords, Snapshot.total]
    errors := herrors
    warnings := hwarnings
    status := by rw [Snapshot.status, Snapshot.status, hempty, herrors, hwarnings]
    completions := h.completions
    withFindings := Completion.rel_pathsWhere h.completions _
    unlocated := Completion.rel_pathsWhere h.completions _
    notices := h.notices }

theorem isRunning_eq (h : s.Alike t) (number : Nat) :
    s.isRunning number = t.isRunning number := by
  have hmap (s : Session) : s.isRunning number = (s.running.map (·.number)).any (· == number) := by
    rw [isRunning, List.any_map]
    rfl
  rw [hmap, hmap, map_eq_of_forall₂ (h.running.imp fun _ _ h => h.number)]

theorem answerTo (h : s.Alike t) {a b : Action} (hab : a.Respells b) :
    (s.answerTo a).Alike (t.answerTo b) := by
  cases hab with
  | @trigger p q language _ hp hl =>
    obtain rfl := hl.eq hp
    exact .of_eq (congrArg Reply.decided (h.trigger hp language).1)
  | close | idle => exact .refl _
  | finish number => exact .of_eq (congrArg Reply.wasRunning (h.isRunning_eq number))
  | poll budget => exact .of_eq (by rw [answerTo_poll, answerTo_poll, h.inbox.length_eq])
  | takeCompletions => exact .of_completions h.completions
  | takeNotices => exact .of_eq (congrArg Reply.notices h.notices)

theorem answers {as bs : List Action} (hab : Forall₂ Action.Respells as bs) (h : s.Alike t) :
    Forall₂ Reply.Alike (s.answers as) (t.answers bs) := by
  induction hab generalizing s t with
  | nil => exact .nil
  | cons hab _ ih => exact .cons (h.answerTo hab) (ih (h.act hab))

/-! ## Scripts -/

theorem invocationOf_eq (h : s.Alike t) (launch : Nat) :
    s.invocationOf launch = t.invocationOf launch := by
  rw [invocationOf, invocationOf, map_eq_of_forall₂ (h.launches.imp fun _ _ h => h.invocation)]

theorem actionOf (h : s.Alike t) {x y : Step} (hxy : x.Respells y) :
    (s.actionOf x).Respells (t.actionOf y) := by
  cases hxy with
  | opened hp hl | saved hp hl => exact .trigger hp hl
  | closed hp => exact .close hp
  | finished launch he =>
    rw [Session.actionOf, Session.actionOf, h.invocationOf_eq]
    exact .finish _ he
  | polled budget => exact .poll budget
  | idled he => exact .idle he
  | tookCompletions => exact .takeCompletions
  | tookNotices => exact .takeNotices

theorem followUps_opened (h : s.Alike t) (hp : p.Same q) (language : Language) :
    Forall₂ Action.Respells (s.followUps (.opened p language))
      (t.followUps (.opened q language)) := by
  obtain ⟨hd, hs⟩ := h.trigger hp language
  simp only [Session.followUps]
  revert hd hs
  obtain ⟨d, s'⟩ := s.trigger p language
  obtain ⟨d', t'⟩ := t.trigger q language
  rintro rfl hs
  obtain _ | ⟨sequence, _ | launch⟩ := d
  · exact .nil
  · have hn : s'.scheduled = t'.scheduled := hs.scheduled
    simp only [hn]
    exact .cons (.finish _ (.failed (.invalidTarget hp))) .nil
  · exact .nil

theorem actionsOf (h : s.Alike t) {x y : Step} (hxy : x.Respells y) :
    Forall₂ Action.Respells (s.actionsOf x) (t.actionsOf y) := by
  refine .cons (h.actionOf hxy) ?_
  cases hxy with
  | opened hp hl | saved hp hl =>
    obtain rfl := hl.eq hp
    exact h.followUps_opened hp _
  | closed | finished | polled | idled | tookCompletions | tookNotices => exact .nil

theorem steps {xs ys : List Step} (hxy : Forall₂ Step.Respells xs ys) (h : s.Alike t) :
    Forall₂ Reply.Alike (s.replies xs) (t.replies ys) ∧
      (xs.foldl (fun s x => (s.step x).2) s).Alike (ys.foldl (fun t y => (t.step y).2) t) := by
  induction hxy generalizing s t with
  | nil => exact ⟨.nil, h⟩
  | cons hxy _ ih =>
    obtain ⟨hreplies, hs⟩ := ih (acts (h.actionsOf hxy) h)
    exact ⟨.cons (h.answerTo (h.actionOf hxy)) hreplies, hs⟩

end Alike

/-- The spelling of paths changes nothing but the spelling of paths, whatever happens to a
session and in whatever script. -/
theorem looksLike_of_respells (settings : Settings) :
    (∀ as bs, Forall₂ Action.Respells as bs →
      Forall₂ Reply.Alike (answers { settings } as) (answers { settings } bs) ∧
      (after settings as).LooksLike (after settings bs)) ∧
    ∀ xs ys, Forall₂ Step.Respells xs ys →
      Forall₂ Reply.Alike (replies { settings } xs) (replies { settings } ys) ∧
      (run settings xs).LooksLike (run settings ys) := by
  have h := Alike.refl_start settings
  refine ⟨fun as bs hab => ⟨Alike.answers hab h, (Alike.acts hab h).looksLike⟩, fun xs ys hxy => ?_⟩
  obtain ⟨hreplies, hs⟩ := Alike.steps hxy h
  exact ⟨hreplies, hs.looksLike⟩

/-- A table keeps the spelling that came first, and so two runs may list one file differently. -/
theorem looksLike_of_respells_slashes :
    let ending : Ending :=
      .answered (.ok { code := some 1, stderr := "a.proto:3:5: 'Foo' is unknown" })
    let as : List Action := [.trigger ⟨"p//a.proto"⟩ (.ofPath ⟨"p//a.proto"⟩), .finish 1 ending,
      .poll 1, .trigger ⟨"p/."⟩ ⟨"proto3"⟩]
    let bs : List Action := [.trigger ⟨"p/./a.proto/"⟩ (.ofPath ⟨"p/./a.proto/"⟩),
      .finish 1 ending, .poll 1, .trigger ⟨"p"⟩ ⟨"proto3"⟩]
    let xs : List Step := [.opened ⟨"p//a.proto"⟩ (.ofPath ⟨"p//a.proto"⟩), .finished 1 ending,
      .polled 1, .saved ⟨"p/.."⟩ ⟨"proto3"⟩]
    let ys : List Step := [.opened ⟨"p/./a.proto/"⟩ (.ofPath ⟨"p/./a.proto/"⟩),
      .finished 1 ending, .polled 1, .saved ⟨"p/../."⟩ ⟨"proto3"⟩]
    (after {} as).snapshot.files.map (·.1.text) = ["p//a.proto"] ∧
      (after {} bs).snapshot.files.map (·.1.text) = ["p/./a.proto/"] ∧
      Forall₂ Action.Respells as bs ∧ (after {} as).LooksLike (after {} bs) ∧
      Forall₂ Step.Respells xs ys ∧ (run {} xs).LooksLike (run {} ys) := by
  intro ending as bs xs ys
  have hguessed {p q : Path} : Language.FitsBoth p q (.ofPath p) (.ofPath q) := .inr ⟨rfl, rfl⟩
  have hab : Forall₂ Action.Respells as bs :=
    .cons (.trigger (by decide +kernel) hguessed) (.cons (.finish 1 (.refl _))
      (.cons (.poll 1) (.cons (.trigger (by decide +kernel) (.inl rfl)) .nil)))
  have hxy : Forall₂ Step.Respells xs ys :=
    .cons (.opened (by decide +kernel) hguessed) (.cons (.finished 1 (.refl _))
      (.cons (.polled 1) (.cons (.saved (by decide +kernel) (.inl rfl)) .nil)))
  exact ⟨by decide +kernel, by decide +kernel, hab, ((looksLike_of_respells {}).1 as bs hab).2,
    hxy, ((looksLike_of_respells {}).2 xs ys hxy).2⟩

end Session

end DocumentLint
