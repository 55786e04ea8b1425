import DocumentLint.Proofs.Session.Bookkeeping
import DocumentLint.Proofs.Snapshot.Order

/-! # Confluence

The order in which invocations end does not matter. While no file is touched,
the events that are handled are the same up to their order, and so are their
completions; handling two of them commutes, since at most one event of a file
is current.
-/

namespace DocumentLint

/-- Whether an action does no more than to let invocations end, each as it is due to, and to
handle and fetch what they have sent. -/
def Action.Awaits (due : Nat → Ending) : Action → Prop
  | .finish number ending => ending = due number
  | .idle ending => ∀ i, ending i = due i.number
  | .poll _ | .takeCompletions | .takeNotices => True
  | .trigger .. | .close _ => False

/-- Every invocation has ended, and every event was handled. -/
structure Session.AtRest (s : Session) : Prop where
  running : s.running = []
  inbox : s.inbox = []

namespace History

open Occurrence

/-- A history in which no file is touched and the invocations end as they are due to. -/
structure Quiet (due : Nat → Ending) (k : History) : Prop where
  untouched : ∀ o ∈ k, ∀ p, ¬ o.Touches p
  due : ∀ i ending, .ended i ending ∈ k → ending = due i.number

/-- The completion of an event as long as no file is touched. -/
def quietCompletion (h : History) (e : Event) : Completion where
  path := e.path
  sequence := e.sequence
  status := .ofReport e.report
  stale := newest? h e.path ≠ some e.invocation

variable {settings : Settings} {due : Nat → Ending} {h k : History} {o : Occurrence} {p : Path}

theorem handled_of_atRest {s s' : Session} (t : Tracks h s) (t' : Tracks (h ++ k) s')
    (hs : s'.settings = s.settings) (hr : s'.AtRest) :
    (handled k).map (·.1) = s.inbox ++ sent s.settings k := by
  have hsent := t'.inbox
  rw [hr.inbox, hs, sent_append, t.inbox, handled_append, List.map_append, List.append_nil,
    List.append_assoc] at hsent
  exact (List.append_cancel_left hsent).symm

namespace Quiet

theorem of_append {l : History} (hk : Quiet due (k ++ l)) : Quiet due k :=
  ⟨fun o ho => hk.untouched o (by simp [ho]), fun i e he => hk.due i e (by simp [he])⟩

theorem cases_mem (hk : Quiet due k) (ho : o ∈ k) :
    (∃ i, o = .ended i (due i.number)) ∨ ∃ e c, o = .handled e c := by
  cases o with
  | scheduled i => exact absurd (.refl _) (hk.untouched _ ho i.path)
  | closed q => exact absurd (.refl _) (hk.untouched _ ho q)
  | ended i ending => exact .inl ⟨i, by rw [hk.due i ending ho]⟩
  | handled e c => exact .inr ⟨e, c, rfl⟩

theorem cases_last (hk : Quiet due (k ++ [o])) :
    (∃ i, o = .ended i (due i.number)) ∨ ∃ e c, o = .handled e c :=
  hk.cases_mem (List.mem_append_right k (List.mem_singleton_self o))

theorem scheduled_eq_nil (hk : Quiet due k) : scheduled k = [] := by
  refine List.filterMap_eq_nil_iff.2 fun o ho => ?_
  obtain ⟨i, rfl⟩ | ⟨e, c, rfl⟩ := hk.cases_mem ho <;> rfl

theorem touches_eq_zero (hk : Quiet due k) : touches k p = 0 :=
  List.countP_eq_zero.2 fun o ho => by simpa using hk.untouched o ho p

theorem newest?_append (hk : Quiet due k) : newest? (h ++ k) p = newest? h p := by
  induction k using List.reverseRecOn with
  | nil => rw [List.append_nil]
  | append_singleton k o ih =>
    rw [← List.append_assoc, newest?_concat_of_not_touches (hk.untouched o (by simp) p),
      ih hk.of_append]

theorem sent_eq (hk : Quiet due k) : sent settings k =
    (ended k).flatMap fun i => Session.eventsOf settings i (due i.number) := by
  induction k using List.reverseRecOn with
  | nil => rfl
  | append_singleton k o ih =>
    rw [sent_append, ended_append, List.flatMap_append, ih hk.of_append]
    congr 1
    obtain ⟨i, rfl⟩ | ⟨e, c, rfl⟩ := hk.cases_last <;> simp [Occurrence.sent, ended?]

/-- What is read off a history step by step changes with the events that are handled only. -/
theorem foldl_eq {β : Type} (hk : Quiet due k) {f : β → Occurrence → β}
    {g : β → Event × Completion → β} (hended : ∀ b i ending, f b (.ended i ending) = b)
    (hhandled : ∀ b e c, f b (.handled e c) = g b (e, c)) (b : β) :
    k.foldl f b = (handled k).foldl g b := by
  induction k using List.reverseRecOn with
  | nil => rfl
  | append_singleton k o ih =>
    rw [List.foldl_append, ih hk.of_append, handled_append, List.foldl_append]
    obtain ⟨i, rfl⟩ | ⟨e, c, rfl⟩ := hk.cases_last
    · exact hended _ i _
    · exact hhandled _ e c

theorem sequence?_append (hk : Quiet due k) : sequence? (h ++ k) p =
    (handled k).foldl (fun q x => if x.1.path.Same p then q.bind FileSequence.settle else q)
      (sequence? h p) := by
  rw [sequence?, List.foldl_append]
  exact hk.foldl_eq (fun _ _ _ => rfl) (fun _ _ _ => rfl) _

theorem verdict?_append (hk : Quiet due k) : verdict? (h ++ k) p =
    (handled k).foldl (fun v x => if Decides p x then judge v x.1 else v) (verdict? h p) := by
  rw [verdict?, List.foldl_append]
  exact hk.foldl_eq (fun _ _ _ => rfl) (fun _ _ _ => rfl) _

theorem completion_eq (hk : Quiet due k) (hl : Lawful settings (h ++ k))
    (ht : ∀ p, touches h p < UInt64.size) {x : Event × Completion} (hx : x ∈ handled k) :
    x.2 = quietCompletion h x.1 := by
  obtain ⟨pre, post, rfl⟩ := List.append_of_mem (mem_handled_iff.1 hx)
  have hpre : Quiet due pre := hk.of_append
  rw [← List.append_assoc] at hl
  have hadmits := hl.admits
  have htouches : touches (h ++ pre) x.1.path < UInt64.size := by
    rw [touches_append, hpre.touches_eq_zero]
    exact ht x.1.path
  have hcurrent := hl.of_append.isCurrent_iff hadmits htouches
  rw [hpre.newest?_append] at hcurrent
  rw [hadmits.2, completionFor, quietCompletion,
    Bool.eq_iff_iff.2 (hcurrent.trans decide_eq_true_iff.symm)]
  simp

/-- Two events of a file that are handled while it is not touched are not both current. -/
theorem eq_of_decides (hk : Quiet due k) (hl : Lawful settings (h ++ k))
    (ht : ∀ p, touches h p < UInt64.size) {x y : Event × Completion} (hx : x ∈ handled k)
    (hy : y ∈ handled k) (hpx : Decides p x) (hpy : Decides p y) : x = y := by
  have hnewest {z : Event × Completion} (hz : z ∈ handled k) (hpz : Decides p z) :
      newest? h p = some z.1.invocation := by
    have hstale := hpz.2.1
    rw [hk.completion_eq hl ht hz] at hstale
    simpa [quietCompletion, newest?_congr hpz.1] using hstale
  have hxy : x.1.invocation = y.1.invocation :=
    Option.some.inj ((hnewest hx hpx).symm.trans (hnewest hy hpy))
  exact List.inj_on_of_nodup_map hl.nodup_settled (by simp [hx]) (by simp [hy]) hxy

/-! ## Coming to rest -/

variable {s' : Session}

theorem mem_ended_iff (hk : Quiet due k) (t' : Tracks (h ++ k) s') (hr : s'.AtRest)
    {i : Invocation} : i ∈ ended k ↔ i ∈ scheduled h ∧ i ∉ ended h := by
  have hscheduled : scheduled (h ++ k) = scheduled h := by simp [hk.scheduled_eq_nil]
  constructor
  · intro hi
    refine ⟨hscheduled ▸ t'.lawful.ended_subset (by simp [hi]), fun hm => ?_⟩
    have hnodup := t'.lawful.nodup_ended
    rw [ended_append] at hnodup
    exact List.disjoint_of_nodup_append hnodup hm hi
  · rintro ⟨hi, hm⟩
    have hrunning := t'.running
    rw [hr.running, hscheduled, eq_comm, List.filter_eq_nil_iff] at hrunning
    have hended : i ∈ ended (h ++ k) := by simpa [or_iff_not_imp_left] using hrunning i hi
    rw [ended_append, List.mem_append] at hended
    exact hended.resolve_left hm

variable {k₁ k₂ : History} {s s₁ s₂ : Session}

theorem perm_handled (hk₁ : Quiet due k₁) (hk₂ : Quiet due k₂) (t : Tracks h s)
    (t₁ : Tracks (h ++ k₁) s₁) (t₂ : Tracks (h ++ k₂) s₂) (hs₁ : s₁.settings = s.settings)
    (hs₂ : s₂.settings = s.settings) (hr₁ : s₁.AtRest) (hr₂ : s₂.AtRest)
    (ht : ∀ p, touches h p < UInt64.size) : (handled k₁).Perm (handled k₂) := by
  have hended : (ended k₁).Perm (ended k₂) := by
    have hnodup {k : History} {s' : Session} (t' : Tracks (h ++ k) s') : (ended k).Nodup := by
      have hnodup := t'.lawful.nodup_ended
      rw [ended_append] at hnodup
      exact hnodup.of_append_right
    refine (List.perm_ext_iff_of_nodup (hnodup t₁) (hnodup t₂)).2 fun i => ?_
    rw [hk₁.mem_ended_iff t₁ hr₁, hk₂.mem_ended_iff t₂ hr₂]
  have hevents : ((handled k₁).map (·.1)).Perm ((handled k₂).map (·.1)) := by
    rw [handled_of_atRest t t₁ hs₁ hr₁, handled_of_atRest t t₂ hs₂ hr₂, hk₁.sent_eq, hk₂.sent_eq]
    exact (hended.flatMap_right _).append_left _
  have hpairs {k : History} {s' : Session} (hk : Quiet due k) (t' : Tracks (h ++ k) s') :
      handled k = ((handled k).map (·.1)).map fun e => (e, quietCompletion h e) := by
    rw [List.map_map]
    exact (List.map_id' _).symm.trans
      (List.map_congr_left fun x hx => Prod.ext rfl (hk.completion_eq t'.lawful ht hx))
  rw [hpairs hk₁ t₁, hpairs hk₂ t₂]
  exact hevents.map _

theorem sequence?_eq_of_perm (hk₁ : Quiet due k₁) (hk₂ : Quiet due k₂)
    (hperm : (handled k₁).Perm (handled k₂)) : sequence? (h ++ k₁) p = sequence? (h ++ k₂) p := by
  rw [hk₁.sequence?_append, hk₂.sequence?_append]
  exact hperm.foldl_eq' (fun x _ y _ q => by split <;> split <;> rfl) _

theorem verdict?_eq_of_perm (hk₁ : Quiet due k₁) (hk₂ : Quiet due k₂)
    (hperm : (handled k₁).Perm (handled k₂)) (hl : Lawful settings (h ++ k₁))
    (ht : ∀ p, touches h p < UInt64.size) : verdict? (h ++ k₁) p = verdict? (h ++ k₂) p := by
  rw [hk₁.verdict?_append, hk₂.verdict?_append]
  refine hperm.foldl_eq' (fun x hx y hy v => ?_) _
  -- verdicts do not commute in general, but only one event decides
  by_cases hpx : Decides p x <;> by_cases hpy : Decides p y
  · rw [hk₁.eq_of_decides hl ht hx hy hpx hpy]
  all_goals simp [hpx, hpy]

end Quiet

end History

namespace Session

open History Occurrence

variable {s : Session} {a : Action} {as : List Action} {due : Nat → Ending}

theorem quiet_historyOf (ha : a.Awaits due) : Quiet due (s.historyOf a) where
  untouched o ho p := by
    refine not_touches_historyOf (fun _ _ => ?_) (fun _ => ?_) ho <;> rintro rfl <;> exact ha.elim
  due i ending hm := by
    cases a with
    | trigger path language => exact ha.elim
    | close path => exact ha.elim
    | finish number ending =>
      obtain ⟨j, hj, rfl⟩ := mem_historyOfFinish hm
      obtain ⟨rfl, rfl⟩ := Occurrence.ended.inj hj
      exact ha
    | poll budget =>
      obtain ⟨e, c, hc⟩ := mem_historyOfDrain hm
      cases hc
    | idle ending =>
      rw [historyOf, List.mem_append] at hm
      rcases hm with hm | hm
      · obtain ⟨j, l, hj, hn⟩ := mem_historyOfFinishes hm
        obtain ⟨rfl, rfl⟩ := Occurrence.ended.inj hj
        rw [ha, hn]
      · obtain ⟨e, c, hc⟩ := mem_historyOfDrain hm
        cases hc
    | takeCompletions | takeNotices => simp [historyOf] at hm

theorem quiet_history (ha : ∀ a ∈ as, a.Awaits due) : Quiet due (s.history as) := by
  induction as generalizing s with
  | nil => exact ⟨by simp [history], by simp [history]⟩
  | cons a as ih =>
    have hhead := quiet_historyOf (s := s) (ha a (by simp))
    have htail := ih (s := s.act a) fun b hb => ha b (by simp [hb])
    exact {
      untouched := fun o ho => (List.mem_append.1 ho).elim (hhead.untouched o) (htail.untouched o)
      due := fun i e he => (List.mem_append.1 he).elim (hhead.due i e) (htail.due i e) }

/-- However the invocations of a session end while no file is touched, it comes to the same
rest, with the same completions up to their order. No sequence number may have wrapped around,
since two runs of a file could then both be current. -/
theorem confluent_of_awaits (settings : Settings) (as as₁ as₂ : List Action) (due : Nat → Ending)
    (hn : ∀ p, touches (history { settings } as) p < UInt64.size)
    (h₁ : ∀ a ∈ as₁, a.Awaits due) (h₂ : ∀ a ∈ as₂, a.Awaits due)
    (hr₁ : (as₁.foldl act (after settings as)).AtRest)
    (hr₂ : (as₂.foldl act (after settings as)).AtRest) :
    let s := after settings as
    let s₁ := as₁.foldl act s
    let s₂ := as₂.foldl act s
    (∀ p, s₁.diagnostics p = s₂.diagnostics p) ∧
    s₁.snapshot = s₂.snapshot ∧
    (∀ p, s₁.store.sequences.get? p = s₂.store.sequences.get? p) ∧
    s₁.toolReported = s₂.toolReported ∧
    (handled (s.history as₁)).Perm (handled (s.history as₂)) ∧
    (s.takenBy as₁ ++ s₁.completions).Perm (s.takenBy as₂ ++ s₂.completions) := by
  intro s s₁ s₂
  have t := tracks_after settings as
  have t₁ := t.acts as₁
  have t₂ := t.acts as₂
  have hk₁ : Quiet due (s.history as₁) := quiet_history h₁
  have hk₂ : Quiet due (s.history as₂) := quiet_history h₂
  have hperm := hk₁.perm_handled hk₂ t t₁ t₂ (settings_acts s as₁) (settings_acts s as₂) hr₁ hr₂ hn
  have hfind (p : Path) : s₁.store.verdicts.find? p = s₂.store.verdicts.find? p := by
    rw [t₁.verdicts, t₂.verdicts]
    exact hk₁.verdict?_eq_of_perm hk₂ hperm t₁.lawful hn
  refine ⟨fun p => ?_, Snapshot.ofMap_congr hfind, fun p => ?_, ?_, hperm, ?_⟩
  · change ((s₁.store.verdicts.find? p).map (·.2)).getD [] = _
    rw [hfind]
    rfl
  · rw [t₁.sequences, t₂.sequences]
    exact hk₁.sequence?_eq_of_perm hk₂ hperm
  · rw [t₁.toolReported, t₂.toolReported, handled_append, handled_append]
    exact (hperm.append_left _).any_eq
  · rw [takenBy_append_completions, takenBy_append_completions]
    exact (hperm.map _).append_left _

/-- The newest of two runs decides, whether it ends last or first. -/
theorem confluent_of_awaits_two_runs :
    let path : Path := ⟨"a.proto"⟩
    let due : Nat → Ending
      | 1 => .answered (.ok { code := some 1, stderr := "a.proto:3:5: 'Foo' is unknown" })
      | _ => .answered (.ok { code := some 0 })
    let s := after {} [.trigger path ⟨"proto"⟩, .trigger path ⟨"proto"⟩]
    let s₁ := [.finish 1 (due 1), .poll 1, .finish 2 (due 2), .poll 1].foldl act s
    let s₂ := [.finish 2 (due 2), .finish 1 (due 1), .poll 1, .takeCompletions, .poll 1].foldl act s
    s₁.completions.map (·.stale) = [true, false] ∧ s₂.completions.map (·.stale) = [true] ∧
      s₁.AtRest ∧ s₂.AtRest ∧ s₁.snapshot = s₂.snapshot := by
  intro path due s s₁ s₂
  have hr₁ : s₁.AtRest := ⟨by decide +kernel, by decide +kernel⟩
  have hr₂ : s₂.AtRest := ⟨by decide +kernel, by decide +kernel⟩
  have hn (p : Path) := Nat.lt_of_le_of_lt
    (touches_history_le (s := { settings := {} }) (p := p)
      [.trigger path ⟨"proto"⟩, .trigger path ⟨"proto"⟩])
    (by decide : 2 < UInt64.size)
  exact ⟨by decide +kernel, by decide +kernel, hr₁, hr₂,
    (confluent_of_awaits {} _ _ _ due hn (by simp [Action.Awaits]) (by simp [Action.Awaits])
      hr₁ hr₂).2.1⟩

end Session

end DocumentLint
