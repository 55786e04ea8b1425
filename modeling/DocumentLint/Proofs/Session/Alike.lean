import DocumentLint.Proofs.Snapshot.Order
import DocumentLint.Session.Step

/-! # Respelling

Two texts that spell the same path lead to the same file name, language and
order. Whatever is made of them, such as commands, reports or completions, is
alike: it differs in the texts of paths only.
-/

namespace DocumentLint

open List (Forall₂)

/-! ## Lists that are alike -/

section Lists

variable {α β : Type} {R : α → α → Prop} {l l' : List α}

theorem map_eq_of_forall₂ {f : α → β} (h : Forall₂ (fun a b => f a = f b) l l') :
    l.map f = l'.map f := by
  induction h with
  | nil => rfl
  | cons hab _ ih => rw [List.map_cons, List.map_cons, hab, ih]

theorem rel_find? {p q : α → Bool} (h : Forall₂ R l l') (hpq : ∀ a b, R a b → p a = q b) :
    Option.Rel R (l.find? p) (l'.find? q) := by
  induction h with
  | nil => exact .none
  | @cons a b l l' hab _ ih =>
    rw [List.find?_cons, List.find?_cons, hpq a b hab]
    cases q b with
    | true => exact .some hab
    | false => exact ih

theorem rel_eraseRepsBy {r : α → α → Bool} (h : Forall₂ R l l')
    (hr : ∀ a b a' b', R a a' → R b b' → r a b = r a' b') :
    Forall₂ R (l.eraseRepsBy r) (l'.eraseRepsBy r) := by
  have hloop : ∀ {l l' acc acc' : List α} {a a' : α}, Forall₂ R l l' → R a a' →
      Forall₂ R acc acc' → Forall₂ R (List.eraseRepsBy.loop r a l acc)
        (List.eraseRepsBy.loop r a' l' acc') := by
    intro l l' acc acc' a a' h
    induction h generalizing a a' acc acc' with
    | nil => exact fun ha hacc => List.rel_reverse (.cons ha hacc)
    | @cons b b' l l' hb _ ih =>
      intro ha hacc
      rw [List.eraseRepsBy.loop, List.eraseRepsBy.loop, hr a b a' b' ha hb]
      cases r a' b' with
      | true => exact ih ha hacc
      | false => exact ih hb (.cons ha hacc)
  cases h with
  | nil => exact .nil
  | cons ha h => exact hloop h ha .nil

end Lists

/-! ## Paths -/

namespace Path

variable {p q p' q' : Path} {ps qs : List Path}

theorem Same.fileName?_eq (h : p.Same q) : p.fileName? = q.fileName? := by
  rw [fileName?, h, fileName?]

theorem Same.extension?_eq (h : p.Same q) : p.extension? = q.extension? := by
  rw [extension?, h.fileName?_eq, extension?]

theorem Same.language_eq (h : p.Same q) : Language.ofPath p = Language.ofPath q := by
  rw [Language.ofPath, h.extension?_eq, Language.ofPath]

theorem Same.same_eq (hp : p.Same p') (hq : q.Same q') :
    decide (p.Same q) = decide (p'.Same q') := by
  rw [decide_eq_decide, Same, hp, hq, Same]

theorem rel_mergeSort (h : Forall₂ Same ps qs) :
    Forall₂ Same (ps.mergeSort le) (qs.mergeSort le) := by
  let leComponents (a b : List Component) : Bool := (Ord.compare a b).isLE
  have hmap (ps : List Path) :
      (ps.mergeSort le).map components = (ps.map components).mergeSort leComponents :=
    List.map_mergeSort fun _ _ _ _ => rfl
  refine forall₂_of_map_eq ?_
  rw [hmap, hmap, map_eq_of_forall₂ h]

theorem rel_sortedOnce (h : Forall₂ Same ps qs) :
    Forall₂ Same (sortedOnce ps) (sortedOnce qs) :=
  rel_eraseRepsBy (rel_mergeSort h) fun _ _ _ _ ha hb => ha.same_eq hb

end Path

/-! ## What is made of paths -/

structure Invocation.Alike (i j : Invocation) : Prop where
  number : i.number = j.number
  path : i.path.Same j.path
  sequence : i.sequence = j.sequence

inductive LaunchFailure.Alike : LaunchFailure → LaunchFailure → Prop where
  | refl (f : LaunchFailure) : Alike f f
  | invalidTarget {p q : Path} : p.Same q → Alike (.invalidTarget p) (.invalidTarget q)

inductive Report.Alike : Report → Report → Prop where
  | refl (r : Report) : Alike r r
  | failed {f g : LaunchFailure} : f.Alike g → Alike (.failed f) (.failed g)

inductive Ending.Alike : Ending → Ending → Prop where
  | refl (e : Ending) : Alike e e
  | failed {f g : LaunchFailure} : f.Alike g →
      Alike (.answered (.error f)) (.answered (.error g))

structure Event.Alike (e f : Event) : Prop where
  invocation : e.invocation.Alike f.invocation
  report : e.report.Alike f.report

structure Completion.Alike (c d : Completion) : Prop where
  path : c.path.Same d.path
  sequence : c.sequence = d.sequence
  status : c.status = d.status
  stale : c.stale = d.stale

/-- The commands search directories that may be written differently. -/
structure Command.Alike (c d : Command) : Prop where
  program : c.program = d.program
  target : c.target.Same d.target
  args : ∃ before directory directory' after,
    c.args = before ++ ("--proto_path=" ++ directory) :: after ∧
    d.args = before ++ ("--proto_path=" ++ directory') :: after

structure Launch.Alike (l m : Launch) : Prop where
  invocation : l.invocation = m.invocation
  command : l.command.Alike m.command

variable {settings : Settings} {p q : Path} {i j : Invocation}

namespace LaunchFailure.Alike

variable {f g : LaunchFailure}

theorem binary?_eq (h : f.Alike g) : f.binary? = g.binary? := by cases h <;> rfl

theorem toolUnavailable_eq (h : f.Alike g) : f.toolUnavailable = g.toolUnavailable := by
  rw [toolUnavailable, h.binary?_eq, toolUnavailable]

theorem message_eq (h : f.Alike g) (hb : f.binary?.isSome) : f.message = g.message := by
  cases h with
  | refl => rfl
  | invalidTarget => simp [binary?] at hb

end LaunchFailure.Alike

namespace Report.Alike

variable {r r' : Report}

theorem records_eq (h : r.Alike r') : r.records = r'.records := by cases h <;> rfl

theorem status_eq (h : r.Alike r') : Status.ofReport r = Status.ofReport r' := by cases h <;> rfl

theorem toolUnavailable_eq (h : r.Alike r') :
    (r.failure?.any LaunchFailure.toolUnavailable) =
      r'.failure?.any LaunchFailure.toolUnavailable := by
  cases h with
  | refl => rfl
  | failed hab => exact hab.toolUnavailable_eq

end Report.Alike

theorem Command.alike_ofTarget (settings : Settings) (h : p.Same q) :
    (∃ f g, ofTarget settings p = .error f ∧ ofTarget settings q = .error g ∧ f.Alike g) ∨
    ∃ c d, ofTarget settings p = .ok c ∧ ofTarget settings q = .ok d ∧ c.Alike d := by
  rw [ofTarget, ofTarget, h.fileName?_eq]
  cases q.fileName? with
  | none => exact .inl ⟨_, _, rfl, rfl, .invalidTarget h⟩
  | some name =>
    exact .inr ⟨_, _, rfl, rfl, { program := rfl, target := h, args := ⟨_, _, _, _, rfl, rfl⟩ }⟩

theorem Report.alike_ofTarget {a b : Answer} (h : p.Same q)
    (hab : (Ending.answered a).Alike (.answered b)) :
    (ofTarget settings (fun _ => a) p).Alike (ofTarget settings (fun _ => b) q) := by
  obtain ⟨f, g, hf, hg, hfg⟩ | ⟨c, d, hc, hd, -⟩ := Command.alike_ofTarget settings h
  · rw [ofTarget, ofTarget, hf, hg]
    exact .failed hfg
  · rw [ofTarget, ofTarget, hc, hd]
    cases hab with
    | refl => exact .refl _
    | failed hfg => exact .failed hfg

theorem Session.rel_launchesOf (settings : Settings) (h : i.Alike j) :
    Forall₂ Launch.Alike (launchesOf settings i) (launchesOf settings j) := by
  obtain ⟨f, g, hf, hg, -⟩ | ⟨c, d, hc, hd, hcd⟩ :=
    Command.alike_ofTarget settings h.path
  · rw [launchesOf, launchesOf, hf, hg]
    exact .nil
  · rw [launchesOf, launchesOf, hc, hd]
    exact .cons ⟨h.number, hcd⟩ .nil

theorem Session.rel_eventsOf (settings : Settings) {a b : Ending} (h : i.Alike j)
    (hab : a.Alike b) :
    Forall₂ Event.Alike (eventsOf settings i a) (eventsOf settings j b) := by
  cases a with
  | lost =>
    cases hab
    exact .nil
  | answered a =>
    cases b with
    | lost => cases hab
    | answered b => exact .cons ⟨h, Report.alike_ofTarget h.path hab⟩ .nil

theorem Completion.rel_pathsWhere {cs ds : List Completion} (h : Forall₂ Alike cs ds)
    (f : Status → Bool) : Forall₂ Path.Same (pathsWhere f cs) (pathsWhere f ds) := by
  refine Path.rel_sortedOnce (List.rel_map (fun _ _ h => h.path) (List.rel_filter ?_ h))
  intro c d hcd
  simp only [hcd.stale, hcd.status]

end DocumentLint
