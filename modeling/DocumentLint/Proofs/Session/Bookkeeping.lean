import Mathlib.Data.List.Perm.Subperm
import DocumentLint.Proofs.Session.Tracking

/-! # The bookkeeping of sequence numbers

A file is kept in the books while it is open or has unhandled invocations. Its
entry counts the latter, and their sequence numbers increase up to the latest
one, which belongs to the newest invocation of an open file and to none of a
closed one. This holds as long as the numbers do not wrap around.
-/

namespace DocumentLint.History

open Occurrence

variable {settings : Settings} {h k : History} {o : Occurrence} {p : Path} {i : Invocation}
  {e : Event} {c : Completion} {q : FileSequence}

structure Balanced (h : History) (p : Path) (q : FileSequence) : Prop where
  outstanding : q.outstanding = (unhandled h p).length
  closed : q.closed = true ↔ newest? h p = none
  pending : q.closed = true → q.outstanding ≠ 0
  newest : ∀ i, newest? h p = some i → i.sequence = q.latest
  lt_latest : ∀ i ∈ unhandled h p, newest? h p ≠ some i → i.sequence < q.latest
  pos : ∀ i ∈ unhandled h p, 0 < i.sequence
  increasing : (unhandled h p).Pairwise fun i j => i.sequence < j.sequence
  bounded : q.latest.toNat ≤ touches h p

/-- The entry of a file is balanced, and only a file without one is closed and settled. -/
def Counted (h : History) (p : Path) : Prop :=
  match sequence? h p with
  | none => newest? h p = none ∧ unhandled h p = []
  | some q => Balanced h p q

theorem Balanced.le_latest (hb : Balanced h p q) : ∀ i ∈ unhandled h p, i.sequence ≤ q.latest := by
  intro i hi
  by_cases hn : newest? h p = some i
  · exact UInt64.le_of_eq (hb.newest i hn)
  · exact UInt64.le_of_lt (hb.lt_latest i hi hn)

theorem toNat_add_one {n : Nat} {x : UInt64} (hx : x.toNat ≤ n) (hn : n + 1 < UInt64.size) :
    (x + 1).toNat = x.toNat + 1 := by
  rw [UInt64.toNat_add]
  exact Nat.mod_eq_of_lt (by simpa using Nat.lt_of_le_of_lt (Nat.succ_le_succ hx) hn)

theorem lt_add_one {n : Nat} {x y : UInt64} (hx : x.toNat ≤ n) (hn : n + 1 < UInt64.size)
    (hy : y ≤ x) : y < x + 1 := by
  rw [UInt64.lt_iff_toNat_lt, toNat_add_one hx hn]
  exact Nat.lt_succ_of_le (UInt64.le_iff_toNat_le.1 hy)

namespace Counted

theorem balanced (hc : Counted h p) (hq : sequence? h p = some q) : Balanced h p q := by
  simpa only [Counted, hq] using hc

theorem isSome_iff (hc : Counted h p) :
    (sequence? h p).isSome ↔ IsOpen h p ∨ unhandled h p ≠ [] := by
  rw [← not_iff_not, not_or, not_isOpen_iff, not_not]
  cases hq : sequence? h p with
  | none => simpa [Counted, hq] using hc
  | some q =>
    have hb := hc.balanced hq
    simp only [Option.isSome_some, not_true, false_iff, not_and]
    intro hn hu
    -- closed, and nothing outstanding: such an entry is dropped
    exact hb.pending (hb.closed.2 hn) (by simp [hb.outstanding, hu])

theorem nil : Counted [] p := ⟨rfl, rfl⟩

theorem congr (hc : Counted h p) (hq : sequence? k p = sequence? h p)
    (hn : newest? k p = newest? h p) (hu : unhandled k p = unhandled h p)
    (ht : touches h p ≤ touches k p) : Counted k p := by
  rw [Counted, hq]
  cases hs : sequence? h p with
  | none => simpa [Counted, hs, hn, hu] using hc
  | some q =>
    have hb := hc.balanced hs
    exact {
      outstanding := hu ▸ hb.outstanding
      closed := hn ▸ hb.closed
      pending := hb.pending
      newest := hn ▸ hb.newest
      lt_latest := by simpa only [hn, hu] using hb.lt_latest
      pos := hu ▸ hb.pos
      increasing := hu ▸ hb.increasing
      bounded := hb.bounded.trans ht }

theorem getD (hc : Counted h p) : ((sequence? h p).getD {}).outstanding = (unhandled h p).length ∧
    (∀ i ∈ unhandled h p, 0 < i.sequence ∧ i.sequence ≤ ((sequence? h p).getD {}).latest) ∧
    (unhandled h p).Pairwise (fun i j => i.sequence < j.sequence) ∧
    ((sequence? h p).getD {}).latest.toNat ≤ touches h p := by
  cases hs : sequence? h p with
  | none =>
    have hu : unhandled h p = [] := by
      rw [Counted, hs] at hc
      exact hc.2
    simp [hu]
  | some q =>
    have hb := hc.balanced hs
    exact ⟨hb.outstanding, fun i hi => ⟨hb.pos i hi, hb.le_latest i hi⟩, hb.increasing, hb.bounded⟩

theorem schedule (hc : Counted h p) (hl : Lawful settings h)
    (hi : Admits settings h (.scheduled i)) (hp : i.path.Same p)
    (ht : touches h p + 1 < UInt64.size) : Counted (h ++ [.scheduled i]) p := by
  obtain ⟨hout, hle, hinc, hbound⟩ := hc.getD
  have hlatest : ((sequence? h p).getD {}).issue.latest = i.sequence := by
    rw [hi.2, sequence?_congr hp]
  have hnat : i.sequence.toNat = ((sequence? h p).getD {}).latest.toNat + 1 := by
    rw [← hlatest]
    exact toNat_add_one hbound ht
  have hlt : ∀ j ∈ unhandled h p, j.sequence < i.sequence := by
    intro j hj
    rw [← hlatest]
    exact lt_add_one hbound ht (hle j hj).2
  have hu : unhandled (h ++ [.scheduled i]) p = unhandled h p ++ [i] := by
    rw [hl.unhandled_concat_scheduled hi, if_pos hp]
  have hn : newest? (h ++ [.scheduled i]) p = some i := newest?_concat_of_touches hp
  have hq : sequence? (h ++ [.scheduled i]) p = some ((sequence? h p).getD {}).issue := by
    rw [sequence?_concat, countStep, if_pos hp]
  rw [Counted, hq]
  exact {
    outstanding := by simp [FileSequence.issue, hout, hu]
    closed := by simp [FileSequence.issue, hn]
    pending := by simp [FileSequence.issue]
    newest := by
      rintro j hj
      obtain rfl : i = j := by simpa [hn] using hj
      exact hlatest.symm
    lt_latest := by
      intro j hj hne
      rw [hu, List.mem_append, List.mem_singleton] at hj
      rcases hj with hj | rfl
      · exact hlatest ▸ hlt j hj
      · exact absurd hn hne
    pos := by
      intro j hj
      rw [hu, List.mem_append, List.mem_singleton] at hj
      rcases hj with hj | rfl
      · exact (hle j hj).1
      · rw [UInt64.lt_iff_toNat_lt, hnat]
        exact Nat.succ_pos _
    increasing := by
      rw [hu]
      exact List.pairwise_append.2
        ⟨hinc, List.pairwise_singleton .., fun j hj _ hm => List.mem_singleton.1 hm ▸ hlt j hj⟩
    bounded := by
      rw [hlatest, hnat, touches_concat_of_touches (o := .scheduled i) hp]
      exact Nat.succ_le_succ hbound }

theorem close {r : Path} (hc : Counted h p) (hr : r.Same p) (ht : touches h p + 1 < UInt64.size) :
    Counted (h ++ [.closed r]) p := by
  have hn : newest? (h ++ [.closed r]) p = none := newest?_concat_of_touches hr
  have hu : unhandled (h ++ [.closed r]) p = unhandled h p := unhandled_concat_of_eq_none rfl rfl
  rw [Counted, sequence?_concat, countStep, if_pos hr]
  cases hs : sequence? h p with
  | none =>
    rw [Counted, hs] at hc
    exact ⟨hn, hu ▸ hc.2⟩
  | some q =>
    have hb := hc.balanced hs
    rw [Option.bind_some, FileSequence.close]
    by_cases h0 : q.outstanding = 0
    · rw [if_pos h0]
      exact ⟨hn, hu ▸ List.eq_nil_of_length_eq_zero (hb.outstanding ▸ h0)⟩
    · rw [if_neg h0]
      exact {
        outstanding := hu ▸ hb.outstanding
        closed := by simp [hn]
        pending := fun _ => h0
        newest := by simp [hn]
        lt_latest := by
          intro j hj _
          exact lt_add_one hb.bounded ht (hb.le_latest j (hu ▸ hj))
        pos := hu ▸ hb.pos
        increasing := hu ▸ hb.increasing
        bounded := by
          rw [toNat_add_one hb.bounded ht, touches_concat_of_touches (o := .closed r) hr]
          exact Nat.succ_le_succ hb.bounded }

theorem handle (hc : Counted h p) (hl : Lawful settings h)
    (he : Admits settings h (.handled e c)) (hp : e.path.Same p) :
    Counted (h ++ [.handled e c]) p := by
  have hn : newest? (h ++ [.handled e c]) p = newest? h p := newest?_concat_of_not_touches id
  have hu := hl.unhandled_concat_handled (p := p) (e := e) (c := c)
  have hmem : e.invocation ∈ unhandled h p := by
    have hm := mem_unhandled_iff.1 (hl.mem_unhandled he)
    exact mem_unhandled_iff.2 ⟨hm.1, hp, hm.2.2⟩
  have hsub : ∀ j ∈ (unhandled h p).erase e.invocation, j ∈ unhandled h p := fun _ =>
    List.mem_of_mem_erase
  have ht : touches (h ++ [.handled e c]) p = touches h p := touches_concat_of_not_touches id
  rw [Counted, sequence?_concat, countStep, if_pos hp]
  cases hs : sequence? h p with
  | none =>
    rw [Counted, hs] at hc
    simp [hc.2] at hmem
  | some q =>
    have hb := hc.balanced hs
    have hlen : q.outstanding - 1 = ((unhandled h p).erase e.invocation).length := by
      rw [List.length_erase_of_mem hmem, hb.outstanding]
    rw [Option.bind_some, FileSequence.settle]
    by_cases h0 : q.outstanding - 1 = 0 ∧ q.closed
    · rw [if_pos h0]
      exact ⟨hn ▸ hb.closed.1 h0.2, hu ▸ List.eq_nil_of_length_eq_zero (hlen ▸ h0.1)⟩
    · rw [if_neg h0]
      exact {
        outstanding := hu ▸ hlen
        closed := hn ▸ hb.closed
        pending := fun hcl hz => h0 ⟨hz, hcl⟩
        newest := hn ▸ hb.newest
        lt_latest := by
          rw [hu, hn]
          exact fun j hj => hb.lt_latest j (hsub j hj)
        pos := by
          rw [hu]
          exact fun j hj => hb.pos j (hsub j hj)
        increasing := hu ▸ hb.increasing.sublist List.erase_sublist
        bounded := ht ▸ hb.bounded }

theorem snoc (hc : Counted h p) (hl : Lawful settings h) (ho : Admits settings h o)
    (ht : touches (h ++ [o]) p < UInt64.size) : Counted (h ++ [o]) p := by
  have hle : touches h p ≤ touches (h ++ [o]) p := touches_le_append
  cases o with
  | scheduled i =>
    by_cases hp : i.path.Same p
    · exact hc.schedule hl ho hp (touches_concat_of_touches (o := .scheduled i) hp ▸ ht)
    · refine hc.congr ?_ (newest?_concat_of_not_touches hp) ?_ hle
      · rw [sequence?_concat, countStep, if_neg hp]
      · rw [hl.unhandled_concat_scheduled ho, if_neg hp]
  | closed r =>
    by_cases hr : r.Same p
    · exact hc.close hr (touches_concat_of_touches (o := .closed r) hr ▸ ht)
    · refine hc.congr ?_ (newest?_concat_of_not_touches hr) ?_ hle
      · rw [sequence?_concat, countStep, if_neg hr]
      · exact unhandled_concat_of_eq_none rfl rfl
  | ended i ending =>
    refine hc.congr ?_ (newest?_concat_of_not_touches id) (unhandled_concat_of_eq_none rfl rfl) hle
    rw [sequence?_concat, countStep]
  | handled e c =>
    by_cases hp : e.path.Same p
    · exact hc.handle hl ho hp
    · refine hc.congr ?_ (newest?_concat_of_not_touches id) ?_ hle
      · rw [sequence?_concat, countStep, if_neg hp]
      · rw [hl.unhandled_concat_handled]
        exact List.erase_of_not_mem fun hm => hp (mem_unhandled_iff.1 hm).2.1

end Counted

/-- The invariant of the bookkeeping, over a whole history. -/
theorem Lawful.counted (hl : Lawful settings h) (ht : touches h p < UInt64.size) : Counted h p := by
  induction hl with
  | nil => exact .nil
  | @snoc h o hl ho ih =>
    have hle : touches h p ≤ touches (h ++ [o]) p := touches_le_append
    exact (ih (Nat.lt_of_le_of_lt hle ht)).snoc hl ho ht

/-- An event is current exactly if its invocation is the newest of an open file. -/
theorem Lawful.isCurrent_iff (hl : Lawful settings h) (he : Admits settings h (.handled e c))
    (ht : touches h e.path < UInt64.size) :
    ((sequence? h e.path).any fun q => q.latest == e.sequence) = true ↔
      newest? h e.path = some e.invocation := by
  have hmem := hl.mem_unhandled he
  have hc := hl.counted ht
  cases hs : sequence? h e.path with
  | none =>
    rw [Counted, hs] at hc
    simp [hc.2] at hmem
  | some q =>
    have hb := hc.balanced hs
    rw [Option.any_some, beq_iff_eq]
    constructor
    · intro hq
      by_contra hn
      exact absurd hq.symm (UInt64.ne_of_lt (hb.lt_latest _ hmem hn))
    · exact fun hn => (hb.newest _ hn).symm

theorem Lawful.stale_eq_false_iff (hl : Lawful settings h)
    (he : Admits settings h (.handled e c)) (ht : touches h e.path < UInt64.size) :
    c.stale = false ↔ newest? h e.path = some e.invocation := by
  rw [he.2, ← hl.isCurrent_iff he ht, completionFor, Bool.not_eq_false']

theorem Lawful.isOpen_of_verdict (hl : Lawful settings h) (ht : touches h p < UInt64.size)
    {path : Path} {records : List Record} (hv : verdict? h p = some (path, records)) :
    IsOpen h p ∧ records ≠ [] := by
  simp only [isOpen_iff]
  induction hl generalizing path records with
  | nil => simp [verdict?] at hv
  | @snoc h o hl ho ih =>
    have hlt : touches h p < UInt64.size := Nat.lt_of_le_of_lt touches_le_append ht
    rw [verdict?_concat] at hv
    cases o with
    | scheduled i =>
      by_cases hp : i.path.Same p
      · exact ⟨⟨i, newest?_concat_of_touches hp⟩, (ih hlt hv).2⟩
      · rw [newest?_concat_of_not_touches (o := .scheduled i) hp]
        exact ih hlt hv
    | closed r =>
      rw [verdictStep] at hv
      by_cases hr : r.Same p
      · simp [hr] at hv
      · rw [newest?_concat_of_not_touches (o := .closed r) hr]
        exact ih hlt (by simpa [hr] using hv)
    | ended i ending =>
      rw [newest?_concat_of_not_touches id]
      exact ih hlt hv
    | handled e c =>
      rw [newest?_concat_of_not_touches id]
      rw [verdictStep] at hv
      by_cases hd : Decides p (e, c)
      · rw [if_pos hd, judge] at hv
        have hlt' : touches h e.path < UInt64.size := touches_congr hd.1 ▸ hlt
        have hn := (hl.stale_eq_false_iff ho hlt').1 hd.2.1
        refine ⟨⟨_, newest?_congr hd.1 ▸ hn⟩, ?_⟩
        split at hv
        · simp at hv
        · simp_all
      · exact ih hlt (by simpa [hd] using hv)

end DocumentLint.History

namespace DocumentLint.Session

open History

/-- The books that a session with the given history keeps of a file. -/
structure Books (s : Session) (h : History) (p : Path) : Prop where
  kept : (s.store.sequences.get? p).isSome ↔ IsOpen h p ∨ unhandled h p ≠ []
  outstanding : ∀ q ∈ s.store.sequences.get? p, q.outstanding = (unhandled h p).length
  /-- No settling ever finds a count of zero. -/
  unsaturated : s.inbox.countP (fun e => e.path.Same p) ≤
    ((s.store.sequences.get? p).getD {}).outstanding
  closed : ∀ q ∈ s.store.sequences.get? p, q.closed = true ↔ ¬ IsOpen h p
  pending : ∀ q ∈ s.store.sequences.get? p, q.closed = true → 1 ≤ q.outstanding
  distinct : ((unhandled h p).map (·.sequence)).Nodup
  issued : ∀ q ∈ s.store.sequences.get? p, ∀ i ∈ unhandled h p,
    0 < i.sequence ∧ i.sequence ≤ q.latest
  superseded : ∀ q ∈ s.store.sequences.get? p, q.closed = true →
    ∀ i ∈ unhandled h p, i.sequence ≠ q.latest
  verdicts : ∀ records ∈ s.store.verdicts.get? p, IsOpen h p ∧ records ≠ []

variable {s : Session} {h : History} {p : Path}

/-- The events that wait for a file belong to different unhandled invocations of it. -/
theorem countP_inbox_le (t : Tracks h s) :
    s.inbox.countP (fun e => e.path.Same p) ≤ (unhandled h p).length := by
  have hsent := t.lawful.nodup_sent
  rw [t.inbox, List.map_append, List.map_map] at hsent
  obtain ⟨-, hinbox, hdisjoint⟩ := List.nodup_append.1 hsent
  have hnodup : ((s.inbox.filter fun e => e.path.Same p).map (·.invocation)).Nodup :=
    hinbox.sublist (List.filter_sublist.map _)
  have hsub : ((s.inbox.filter fun e => e.path.Same p).map (·.invocation)) ⊆ unhandled h p := by
    intro i hi
    obtain ⟨e, he, rfl⟩ := List.mem_map.1 hi
    obtain ⟨he, hp⟩ : e ∈ s.inbox ∧ e.path.Same p := by simpa using he
    have hs : e ∈ sent s.settings h := t.inbox ▸ List.mem_append_right _ he
    refine mem_unhandled_iff.2 ⟨t.lawful.mem_scheduled_of_mem_sent hs, hp, fun hm => ?_⟩
    exact hdisjoint _ hm _ (List.mem_map_of_mem he) rfl
  rw [List.countP_eq_length_filter, ← List.length_map (·.invocation)]
  exact (List.subperm_of_subset hnodup hsub).length_le

theorem books (t : Tracks h s) (ht : touches h p < UInt64.size) : Books s h p := by
  have hc : Counted h p := t.lawful.counted ht
  have hb : ∀ q ∈ s.store.sequences.get? p, Balanced h p q := fun q hq =>
    hc.balanced (t.sequences p ▸ hq)
  obtain ⟨hcount, -, hincreasing, -⟩ := hc.getD
  exact {
    kept := by
      rw [t.sequences, hc.isSome_iff]
    outstanding := fun q hq => (hb q hq).outstanding
    unsaturated := by
      rw [t.sequences, hcount]
      exact countP_inbox_le t
    closed := fun q hq => by rw [(hb q hq).closed, not_isOpen_iff]
    pending := fun q hq hq' => Nat.one_le_iff_ne_zero.2 ((hb q hq).pending hq')
    distinct := List.pairwise_map.2 (hincreasing.imp UInt64.ne_of_lt)
    issued := fun q hq i hi =>
      ⟨(hb q hq).pos i hi, (hb q hq).le_latest i hi⟩
    superseded := fun q hq hq' i hi => by
      have hn := (hb q hq).closed.1 hq'
      exact UInt64.ne_of_lt ((hb q hq).lt_latest i hi (by simp [hn]))
    verdicts := fun records hr => by
      rw [Option.mem_def, PathMap.get?, t.verdicts, Option.map_eq_some_iff] at hr
      obtain ⟨⟨path, _⟩, hv, rfl⟩ := hr
      exact t.lawful.isOpen_of_verdict ht hv }

/-- Whatever happens in a session, its books are right. There is one touch of a file for
each of its sequence numbers, and fewer actions than numbers keep these from wrapping around. -/
theorem books_after (settings : Settings) (as : List Action) (hn : as.length < UInt64.size)
    (p : Path) : Books (after settings as) (history { settings } as) p :=
  books (tracks_after settings as) (Nat.lt_of_le_of_lt (touches_history_le as) hn)

/-- A file that is closed under its first run is kept until that run has settled. -/
theorem books_after_early_close :
    let path : Path := ⟨"a/b.proto"⟩
    let as : List Action := [.trigger path ⟨"proto"⟩, .close ⟨"a//b.proto"⟩]
    as.length < UInt64.size ∧
      (after {} as).store.sequences.get? path =
        some { latest := 2, outstanding := 1, closed := true } ∧
      Books (after {} as) (history { settings := {} } as) path :=
  ⟨by decide, by decide +kernel, books_after {} _ (by decide) _⟩

end DocumentLint.Session
