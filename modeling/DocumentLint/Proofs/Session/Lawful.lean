import Mathlib.Data.List.Nodup
import DocumentLint.Proofs.Session.History

/-! # Lawful histories

In a lawful history every occurrence is admitted by what went before it:
invocations are numbered one by one, end once, and their events are handled in
the order in which they were sent. So each invocation is handled at most once.
-/

namespace DocumentLint.History

open Occurrence

variable {settings : Settings} {h : History} {o : Occurrence} {p : Path} {i : Invocation}
  {e : Event} {c : Completion}

/-- Whether an occurrence may come after a history. -/
def Admits (settings : Settings) (h : History) : Occurrence → Prop
  | .scheduled i =>
    i.number = (scheduled h).length + 1 ∧ i.sequence = ((sequence? h i.path).getD {}).issue.latest
  | .closed _ => True
  | .ended i _ => i ∈ scheduled h ∧ i ∉ ended h
  | .handled e c => (handled h).map (·.1) ++ [e] <+: sent settings h ∧ c = completionFor h e

inductive Lawful (settings : Settings) : History → Prop where
  | nil : Lawful settings []
  | snoc {h : History} {o : Occurrence} : Lawful settings h → Admits settings h o →
      Lawful settings (h ++ [o])

theorem lawful_concat_iff :
    Lawful settings (h ++ [o]) ↔ Lawful settings h ∧ Admits settings h o := by
  constructor
  · intro hl
    generalize hk : h ++ [o] = k at hl
    cases hl with
    | nil => simp at hk
    | snoc hl ho =>
      obtain ⟨hh, hk⟩ := List.append_inj' hk rfl
      cases List.singleton_inj.1 hk
      exact hh ▸ ⟨hl, ho⟩
  · exact fun ⟨hl, ho⟩ => hl.snoc ho

namespace Lawful

theorem of_append {k : History} (hl : Lawful settings (h ++ k)) : Lawful settings h := by
  induction k using List.reverseRecOn with
  | nil => simpa using hl
  | append_singleton k o ih =>
    rw [← List.append_assoc, lawful_concat_iff] at hl
    exact ih hl.1

theorem admits {k : History} (hl : Lawful settings (h ++ o :: k)) : Admits settings h o := by
  rw [← List.singleton_append, ← List.append_assoc] at hl
  exact (lawful_concat_iff.1 hl.of_append).2

/-! ## Invocations are scheduled, end and are handled once -/

theorem numbers_eq_range' (hl : Lawful settings h) :
    (scheduled h).map (·.number) = List.range' 1 (scheduled h).length := by
  induction hl with
  | nil => rfl
  | @snoc h o _ ho ih =>
    cases o with
    | scheduled i =>
      simp [scheduled?, ih, ho.1, List.range'_1_concat, Nat.add_comm 1]
    | closed | ended | handled => simpa [scheduled?] using ih

theorem nodup_numbers (hl : Lawful settings h) : ((scheduled h).map (·.number)).Nodup :=
  hl.numbers_eq_range' ▸ List.nodup_range'

theorem nodup_scheduled (hl : Lawful settings h) : (scheduled h).Nodup := hl.nodup_numbers.of_map

theorem eq_of_number_eq {i j : Invocation} (hl : Lawful settings h) (hi : i ∈ scheduled h)
    (hj : j ∈ scheduled h) (hn : i.number = j.number) : i = j :=
  List.inj_on_of_nodup_map hl.nodup_numbers hi hj hn

theorem not_mem_scheduled (hl : Lawful settings h) (hi : Admits settings h (.scheduled i)) :
    i ∉ scheduled h := by
  have hn := (hl.snoc hi).nodup_scheduled
  simp only [scheduled_append, scheduled_cons, scheduled?, scheduled_nil] at hn
  exact fun hm => List.disjoint_of_nodup_append hn hm (by simp)

theorem ended_subset (hl : Lawful settings h) : ended h ⊆ scheduled h := by
  induction hl with
  | nil => simp
  | @snoc h o _ ho ih =>
    intro j hj
    cases o with
    | ended i ending =>
      simp only [ended_append, ended_cons, ended?, ended_nil, List.mem_append] at hj
      rcases hj with hj | hj
      · simp [ih hj]
      · obtain rfl : j = i := by simpa using hj
        simp [ho.1]
    | scheduled | closed | handled =>
      have hj : j ∈ ended h := by simpa [ended?] using hj
      simp [ih hj]

theorem nodup_ended (hl : Lawful settings h) : (ended h).Nodup := by
  induction hl with
  | nil => simp
  | @snoc h o _ ho ih =>
    cases o with
    | ended i ending =>
      simp only [ended_append, ended_cons, ended?, ended_nil]
      refine List.nodup_append.2 ⟨ih, List.nodup_singleton i, fun j hj k hk => ?_⟩
      exact List.mem_singleton.1 hk ▸ ne_of_mem_of_not_mem hj ho.2
    | scheduled | closed | handled => simpa [ended?] using ih

theorem handled_prefix (hl : Lawful settings h) :
    (handled h).map (·.1) <+: sent settings h := by
  induction hl with
  | nil => simp
  | @snoc h o _ ho ih =>
    cases o with
    | handled e c => simpa [handled?, Occurrence.sent] using ho.1
    | scheduled | closed | ended => simpa [handled?] using ih.trans (List.prefix_append ..)

end Lawful

theorem mem_unhandled_iff :
    i ∈ unhandled h p ↔ i ∈ scheduled h ∧ i.path.Same p ∧ i ∉ settled h := by
  simp [unhandled]

theorem mem_sent_iff : e ∈ sent settings h ↔ ∃ answer,
    .ended e.invocation (.answered answer) ∈ h ∧
      e.report = .ofTarget settings (fun _ => answer) e.path := by
  simp only [sent, List.mem_flatMap]
  constructor
  · rintro ⟨o, ho, he⟩
    rcases o with _ | _ | ⟨i, answer | _⟩ | _ <;> simp [Occurrence.sent, Session.eventsOf] at he
    subst he
    exact ⟨answer, ho, rfl⟩
  · rintro ⟨answer, ho, he⟩
    refine ⟨_, ho, ?_⟩
    simp only [Occurrence.sent, Session.eventsOf, List.mem_singleton, Event.path] at he ⊢
    rw [← he]

theorem sent_sublist_ended (h : History) :
    ((sent settings h).map (·.invocation)).Sublist (ended h) := by
  induction h with
  | nil => simp
  | cons o h ih =>
    rw [sent_cons, ended_cons, List.map_append]
    refine List.Sublist.append ?_ ih
    rcases o with _ | _ | ⟨i, _ | _⟩ | _ <;> simp [Occurrence.sent, Session.eventsOf, ended?]

namespace Lawful

theorem nodup_sent (hl : Lawful settings h) : ((sent settings h).map (·.invocation)).Nodup :=
  hl.nodup_ended.sublist (sent_sublist_ended h)

theorem nodup_settled (hl : Lawful settings h) : (settled h).Nodup := by
  have hp := (hl.handled_prefix.map (·.invocation)).sublist
  rw [List.map_map] at hp
  exact hl.nodup_sent.sublist hp

theorem mem_sent_of_mem_handled (hl : Lawful settings h) {x : Event × Completion}
    (hx : x ∈ handled h) : x.1 ∈ sent settings h :=
  hl.handled_prefix.subset (List.mem_map_of_mem hx)

theorem completion_of_mem (hl : Lawful settings h) (hm : .handled e c ∈ h) :
    c.path = e.path ∧ c.sequence = e.sequence ∧ c.status = .ofReport e.report := by
  obtain ⟨before, rest, rfl⟩ := List.append_of_mem hm
  obtain rfl : c = completionFor before e := hl.admits.2
  exact ⟨rfl, rfl, rfl⟩

theorem mem_scheduled_of_mem_sent (hl : Lawful settings h) (he : e ∈ sent settings h) :
    e.invocation ∈ scheduled h :=
  hl.ended_subset ((sent_sublist_ended h).subset (List.mem_map_of_mem he))

theorem settled_subset (hl : Lawful settings h) : settled h ⊆ scheduled h := by
  intro i hi
  obtain ⟨x, hx, rfl⟩ := List.mem_map.1 hi
  exact hl.mem_scheduled_of_mem_sent (hl.mem_sent_of_mem_handled hx)

/-- An event that may be handled was not handled before. -/
theorem not_mem_settled (hl : Lawful settings h) (he : Admits settings h (.handled e c)) :
    e.invocation ∉ settled h := by
  have hn := (hl.snoc he).nodup_settled
  simp only [settled_append, settled_cons, handled?, settled_nil] at hn
  exact fun hm => List.disjoint_of_nodup_append hn hm (by simp)

theorem number_ne_of_mem_scheduled {k : History} (hl : Lawful settings (h ++ .scheduled i :: k))
    {j : Invocation} (hj : j ∈ scheduled (h ++ k)) : j.number ≠ i.number := by
  have hn := hl.nodup_numbers
  rw [scheduled_append, scheduled_cons, scheduled?, Option.toList_some, List.singleton_append,
    List.map_append, List.map_cons, List.nodup_middle, ← List.map_append, ← scheduled_append] at hn
  exact fun hij => (List.nodup_cons.1 hn).1 (hij ▸ List.mem_map_of_mem hj)

theorem number_ne_of_mem_handled {k : History} (hl : Lawful settings (h ++ .handled e c :: k))
    {x : Event × Completion} (hx : x ∈ handled (h ++ k)) :
    x.1.invocation.number ≠ e.invocation.number := by
  have hn := hl.nodup_settled
  rw [settled_append, settled_cons, handled?, Option.map_some, Option.toList_some,
    List.singleton_append, List.nodup_middle, ← settled_append] at hn
  have hsub : e.invocation :: settled (h ++ k) ⊆ scheduled (h ++ .handled e c :: k) := by
    refine List.Subset.trans (fun i hi => ?_) hl.settled_subset
    simpa [handled?, or_left_comm] using hi
  have hm : x.1.invocation ∈ settled (h ++ k) :=
    List.mem_map_of_mem (f := fun x : Event × Completion => x.1.invocation) hx
  intro hne
  have hxe : x.1.invocation = e.invocation :=
    hl.eq_of_number_eq (hsub (.tail _ hm)) (hsub (.head _)) hne
  exact (List.nodup_cons.1 hn).1 (hxe ▸ hm)

/-! ## What is left unhandled -/

theorem nodup_unhandled (hl : Lawful settings h) : (unhandled h p).Nodup :=
  hl.nodup_scheduled.filter _

theorem mem_unhandled (hl : Lawful settings h) (he : Admits settings h (.handled e c)) :
    e.invocation ∈ unhandled h e.path := by
  have hs : e ∈ sent settings h := he.1.subset (by simp)
  exact mem_unhandled_iff.2 ⟨hl.mem_scheduled_of_mem_sent hs, .refl _, hl.not_mem_settled he⟩

theorem unhandled_concat_scheduled (hl : Lawful settings h)
    (hi : Admits settings h (.scheduled i)) :
    unhandled (h ++ [.scheduled i]) p =
      if i.path.Same p then unhandled h p ++ [i] else unhandled h p := by
  have hnew : i ∉ settled h := fun hm => hl.not_mem_scheduled hi (hl.settled_subset hm)
  have hsettled : settled (h ++ [.scheduled i]) = settled h := by simp [handled?]
  rw [unhandled, hsettled]
  by_cases hs : i.path.Same p <;> simp [unhandled, scheduled?, hs, hnew]

theorem unhandled_concat_handled (hl : Lawful settings h) :
    unhandled (h ++ [.handled e c]) p = (unhandled h p).erase e.invocation := by
  have hscheduled : scheduled (h ++ [.handled e c]) = scheduled h := by simp [scheduled?]
  rw [hl.nodup_unhandled.erase_eq_filter, unhandled, unhandled, List.filter_filter, hscheduled]
  refine List.filter_congr fun j _ => ?_
  rw [Bool.eq_iff_iff]
  simp only [settled_append, settled_cons, handled?, Option.map_some, Option.toList_some,
    settled_nil, List.append_nil, List.mem_append, List.mem_singleton, decide_eq_true_eq,
    Bool.and_eq_true, bne_iff_ne, ne_eq]
  tauto

end Lawful

theorem unhandled_concat_of_eq_none (hs : o.scheduled? = none) (hh : o.handled? = none) :
    unhandled (h ++ [o]) p = unhandled h p := by
  have hscheduled : scheduled (h ++ [o]) = scheduled h := by simp [hs]
  have hsettled : settled (h ++ [o]) = settled h := by simp [hh]
  rw [unhandled, unhandled, hscheduled, hsettled]

end DocumentLint.History
