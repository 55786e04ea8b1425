import Mathlib.Data.List.Nodup
import DocumentLint.Proofs.CommandLine.Outcome
import DocumentLint.Proofs.Snapshot.Faithful

/-! # Reports

Diagnostics are kept for each file, but they are listed for each target. A file
that several targets name has one entry for each of them, and its records are
written once for each. So everything is reported once exactly if no file is
named twice.
-/

namespace DocumentLint

/-! ## Sums -/

section Sums

variable {α : Type} {l : List α} {f g : α → Nat}

theorem sum_map_le_sum_map_mul (hf : ∀ a ∈ l, 1 ≤ f a) :
    (l.map g).sum ≤ (l.map fun a => f a * g a).sum := by
  induction l with
  | nil => exact Nat.le_refl 0
  | cons a l ih =>
    obtain ⟨hfa, hfl⟩ := List.forall_mem_cons.1 hf
    exact Nat.add_le_add (Nat.le_mul_of_pos_left _ hfa) (ih hfl)

/-- Multiplied by positive factors, a sum of positive numbers stays the same only if all of the
factors are one. -/
theorem sum_map_mul_eq_iff (hf : ∀ a ∈ l, 1 ≤ f a) (hg : ∀ a ∈ l, 0 < g a) :
    (l.map fun a => f a * g a).sum = (l.map g).sum ↔ ∀ a ∈ l, f a = 1 := by
  induction l with
  | nil => simp
  | cons a l ih =>
    obtain ⟨hfa, hfl⟩ := List.forall_mem_cons.1 hf
    obtain ⟨hga, hgl⟩ := List.forall_mem_cons.1 hg
    have hle : (l.map g).sum ≤ (l.map fun a => f a * g a).sum := sum_map_le_sum_map_mul hfl
    have hle' : g a ≤ f a * g a := Nat.le_mul_of_pos_left _ hfa
    rw [List.map_cons, List.map_cons, List.sum_cons, List.sum_cons, List.forall_mem_cons,
      ← ih hfl hgl]
    constructor
    · intro h
      have ha : f a * g a = 1 * g a := by omega
      exact ⟨Nat.eq_of_mul_eq_mul_right hga ha, by omega⟩
    · rintro ⟨ha, h⟩
      rw [ha, h, Nat.one_mul]

end Sums

theorem count_join {ls : List String} (hl : ∀ l ∈ ls, '\n' ∉ l.toList) :
    (String.join (ls.map (· ++ "\n"))).toList.count '\n' = ls.length := by
  induction ls with
  | nil => rfl
  | cons l ls ih =>
    obtain ⟨hl, hls⟩ := List.forall_mem_cons.1 hl
    rw [List.map_cons, String.join_cons, String.toList_append, String.toList_append,
      List.count_append, List.count_append, ih hls, List.count_eq_zero.2 hl, List.length_cons,
      Nat.zero_add, Nat.add_comm]
    rfl

namespace Path

variable {ps : List Path} {p : Path}

/-- The paths of a list that name a file. -/
def spellings (ps : List Path) (p : Path) : List Path := ps.filter fun q => q.Same p

theorem spellings_congr {q : Path} (hs : p.Same q) : spellings ps p = spellings ps q := by
  unfold spellings
  simp only [hs.congr_right]

theorem one_le_length_spellings_iff : 1 ≤ (spellings ps p).length ↔ ∃ q ∈ ps, q.Same p := by
  rw [spellings, Nat.one_le_iff_ne_zero, Ne, List.length_eq_zero_iff, List.filter_eq_nil_iff]
  simp

theorem distinct_iff_length_spellings :
    Distinct ps ↔ ∀ p ∈ ps, (spellings ps p).length = 1 := by
  have hnodup : Distinct ps ↔ (ps.map components).Nodup := by
    rw [List.Nodup, List.pairwise_map]
    exact Iff.rfl
  have hcount (p : Path) :
      (ps.map components).count p.components = (spellings ps p).length := by
    rw [List.count_eq_countP, List.countP_map, spellings, ← List.countP_eq_length_filter]
    refine List.countP_congr fun q _ => ?_
    rw [decide_eq_true_iff, Function.comp_apply, beq_iff_eq, Same]
  rw [hnodup, List.nodup_iff_count_eq_one, List.forall_mem_map]
  simp only [hcount]

theorem Distinct.length_spellings (h : Distinct ps) (hp : ∃ q ∈ ps, q.Same p) :
    (spellings ps p).length = 1 := by
  obtain ⟨q, hq, hs⟩ := hp
  rw [← spellings_congr hs]
  exact distinct_iff_length_spellings.1 h q hq

end Path

namespace Snapshot

variable {s : Snapshot} {targets : List Path} {entries : List Json}

/-! ## Entries -/

/-- The path that an entry of a report is about; entries are written for texts only. -/
def entryPath? : Json → Option Path
  | .object fields =>
    match fields.lookup "path" with
    | some (.text t) => some (.mk t)
    | _ => none
  | _ => none

/-- The entries of a report that are about a file. -/
def entriesFor (entries : List Json) (p : Path) : List Json :=
  entries.filter fun entry => (entryPath? entry).any fun q => q.Same p

theorem map_entryPath? (s : Snapshot) (ht : ∀ p ∈ targets, p.IsText) :
    (targets.map s.entry).map entryPath? = targets.map some := by
  rw [List.map_map]
  exact List.map_congr_left fun p hp => congrArg some (ht p hp).eq_mk.symm

theorem length_entriesFor (h : entries.map entryPath? = targets.map some) (p : Path) :
    (entriesFor entries p).length = (Path.spellings targets p).length := by
  calc (entriesFor entries p).length
      = (entries.map entryPath?).countP fun q => q.any fun q => q.Same p := by
        rw [entriesFor, ← List.countP_eq_length_filter, List.countP_map]
        rfl
    _ = (Path.spellings targets p).length := by
        rw [h, List.countP_map, Path.spellings, ← List.countP_eq_length_filter]
        rfl

/-! ## Lines -/

theorem forFile_eq_flatMap (hd : s.files.Pairwise fun a b => ¬ a.1.Same b.1) (p : Path) :
    s.forFile p = s.files.flatMap fun file => if p.Same file.1 then file.2 else [] := by
  obtain ⟨files⟩ := s
  rw [forFile]
  induction files with
  | nil => rfl
  | cons file files ih =>
    obtain ⟨hfile, hd⟩ := List.pairwise_cons.1 hd
    by_cases hp : p.Same file.1
    · have hnil : (files.flatMap fun file => if p.Same file.1 then file.2 else []) = [] := by
        refine List.flatMap_eq_nil_iff.2 fun other hother => if_neg fun hs => ?_
        exact hfile other hother (hp.symm.trans hs)
      simp [hp, hp.symm, hnil]
    · have hn : ¬ file.1.Same p := fun hs => hp hs.symm
      simpa [hp, hn] using ih hd

/-- The lines about a file: one for each of its records, under each path that names it. -/
def linesAbout (targets : List Path) (file : Path × List Record) : List String :=
  (Path.spellings targets file.1).flatMap fun t => file.2.map (Record.render t)

theorem length_linesAbout (targets : List Path) (file : Path × List Record) :
    (linesAbout targets file).length = (Path.spellings targets file.1).length * file.2.length := by
  rw [linesAbout, List.length_flatMap]
  simp only [List.length_map, List.map_const', List.sum_replicate_nat]

theorem perm_textLines (hd : s.files.Pairwise fun a b => ¬ a.1.Same b.1) (targets : List Path) :
    (s.textLines targets).Perm (s.files.flatMap (linesAbout targets)) := by
  induction targets with
  | nil => simp [textLines, linesAbout, Path.spellings]
  | cons t ts ih =>
    have hfirst : (s.forFile t).map (Record.render t) = s.files.flatMap fun file =>
        if t.Same file.1 then file.2.map (Record.render t) else [] := by
      rw [forFile_eq_flatMap hd, List.map_flatMap]
      refine List.flatMap_congr fun file _ => ?_
      split <;> rfl
    have hboth : linesAbout (t :: ts) = fun file =>
        (if t.Same file.1 then file.2.map (Record.render t) else []) ++ linesAbout ts file := by
      funext file
      by_cases hs : t.Same file.1 <;> simp [linesAbout, Path.spellings, hs]
    rw [textLines, List.flatMap_cons, ← textLines, hfirst, hboth]
    exact (ih.append_left _).trans (List.flatMap_append_perm ..)

theorem length_textLines (hd : s.files.Pairwise fun a b => ¬ a.1.Same b.1) (targets : List Path) :
    (s.textLines targets).length =
      (s.files.map fun file => (Path.spellings targets file.1).length * file.2.length).sum := by
  rw [(perm_textLines hd targets).length_eq, List.length_flatMap]
  simp only [length_linesAbout]

end Snapshot

namespace CommandLine

open History Snapshot

namespace Job

variable {j : Job} {c : Course} {file : Path × List Record} {p : Path} {r : Record}

/-! ## Diagnostics of a job -/

/-- The diagnostics when the course is over. -/
def snapshot (j : Job) (c : Course) : Snapshot := (c.await j.opened).snapshot

theorem distinct_files_snapshot (j : Job) (c : Course) :
    (j.snapshot c).files.Pairwise fun a b => ¬ a.1.Same b.1 :=
  distinct_files _

theorem verdict?_of_mem_files (hf : file ∈ (j.snapshot c).files) :
    verdict? (j.history ++ j.awaited c) file.1 = some file := by
  rw [← (j.tracks_await c).verdicts]
  exact mem_files_iff.1 hf

theorem length_pos_of_mem_files (hf : file ∈ (j.snapshot c).files) : 0 < file.2.length := by
  have hne : file.2 ≠ [] := records_ne_nil_of_verdict? (verdict?_of_mem_files hf)
  exact List.length_pos_iff.2 hne

theorem exists_target_of_mem_files (hf : file ∈ (j.snapshot c).files) :
    ∃ t ∈ j.targets, t.Same file.1 := by
  obtain ⟨i, hi, hp⟩ :=
    (j.tracks_await c).lawful.exists_scheduled_of_verdict? (verdict?_of_mem_files hf)
  rw [scheduled_append, (j.quiet_awaited c).scheduled_eq_nil, List.append_nil, ← started_eq] at hi
  exact ⟨i.path, mem_targets_of_mem_started hi, hp⟩

theorem await_eq_after (j : Job) (c : Course) :
    c.await j.opened = Session.after j.settings (openings j.documents ++ c.actions j.opened) := by
  rw [c.await_eq, Session.after, List.foldl_append, ← Session.after, ← opened_eq]

theorem legible_of_mem_forFile (hr : r ∈ (j.snapshot c).forFile p) : r.Legible := by
  unfold snapshot at hr
  rw [Session.forFile_snapshot, await_eq_after] at hr
  exact (Session.legible_of_mem_diagnostics hr).1

theorem not_mem_of_mem_textLines {line : String} (ht : ∀ t ∈ j.targets, '\n' ∉ t.text.toList)
    (hline : line ∈ (j.snapshot c).textLines j.targets) : '\n' ∉ line.toList := by
  obtain ⟨t, hm, hline⟩ := List.mem_flatMap.1 hline
  obtain ⟨r, hr, rfl⟩ := List.mem_map.1 hline
  exact (legible_of_mem_forFile hr).not_mem_render (ht t hm)

/-! ## What is reported -/

/-- How the diagnostics of a snapshot are written for the targets of a job. -/
structure Reports (j : Job) (s : Snapshot) (stdout : String) : Prop where
  json : j.format = .json → j.Writable → ∃ entries, stdout = (Json.array entries).render ++ "\n" ∧
    entries.map entryPath? = j.targets.map some ∧
    (∀ p, (entriesFor entries p).length = (Path.spellings j.targets p).length) ∧
    ((∀ p ∈ j.targets, (entriesFor entries p).length = 1) ↔ Path.Distinct j.targets)
  /-- What cannot be written to its end has the entries in front of the first name that is no
  text. -/
  broken : ¬ j.Writable → ∃ entries, stdout = Json.renderBroken entries "path" ∧
    entries.map entryPath? = (j.targets.takeWhile fun p => p.IsText).map some
  /-- The lines come in the order of the targets, and not of the files. -/
  text : j.format = .text → ∃ lines, stdout = unlines lines ∧
    lines.Perm (s.files.flatMap (linesAbout j.targets)) ∧ s.total ≤ lines.length ∧
    (lines.length = s.total ↔ ∀ file ∈ s.files, (Path.spellings j.targets file.1).length = 1) ∧
    ((∀ p ∈ j.targets, '\n' ∉ p.text.toList) → stdout.toList.count '\n' = lines.length)
  named : ∀ file ∈ s.files, ∃ p ∈ j.targets, p.Same file.1
  once : Path.Distinct j.targets → ∀ file ∈ s.files, (Path.spellings j.targets file.1).length = 1

theorem reports_conclude (j : Job) (c : Course) :
    j.Reports (j.snapshot c) ((j.conclude c).delivered none).stdout where
  json hf hw := by
    have hw : Format.json.CanWrite j.targets := hf ▸ hw
    have hpaths := map_entryPath? (j.snapshot c) (hw rfl)
    refine ⟨j.targets.map (j.snapshot c).entry, ?_, hpaths, length_entriesFor hpaths, ?_⟩
    · rw [stdout_delivered, hf, listing, if_pos hw, toJson, snapshot]
    · rw [Path.distinct_iff_length_spellings]
      simp only [length_entriesFor hpaths]
  broken hw := by
    have hf : j.format = .json := by
      by_contra hf
      exact hw fun h => absurd h hf
    have hw : ¬ Format.json.CanWrite j.targets := hf ▸ hw
    refine ⟨_, ?_, map_entryPath? (j.snapshot c) fun p hp => ?_⟩
    · rw [stdout_delivered, hf, listing, if_neg hw, snapshot]
    · simpa using List.mem_takeWhile_imp hp
  text hf := by
    have hd := j.distinct_files_snapshot c
    have hnamed : ∀ file ∈ (j.snapshot c).files, 1 ≤ (Path.spellings j.targets file.1).length :=
      fun file hfile => Path.one_le_length_spellings_iff.2 (exists_target_of_mem_files hfile)
    have hstdout : ((j.conclude c).delivered none).stdout =
        unlines ((j.snapshot c).textLines j.targets) := by
      rw [stdout_delivered, hf]
      rfl
    refine ⟨_, hstdout, perm_textLines hd j.targets, ?_, ?_, fun ht => ?_⟩
    · rw [total_eq_sum, length_textLines hd]
      exact sum_map_le_sum_map_mul hnamed
    · rw [total_eq_sum, length_textLines hd]
      exact sum_map_mul_eq_iff hnamed fun file hfile => length_pos_of_mem_files hfile
    · rw [hstdout]
      exact count_join fun line hline => not_mem_of_mem_textLines ht hline
  named _ := exists_target_of_mem_files
  once hd _ hfile := hd.length_spellings (exists_target_of_mem_files hfile)

end Job

/-- Files are reported as often as they are named. Of entries each target has one if no file is
named twice, and only then. Of lines there are as many as there are diagnostics if no file with
diagnostics is named twice, and only then. -/
theorem reports_runBy (w : Surroundings) (arguments : List Octets) (options : Options)
    (loaded : Settings) (c : Course) (hp : parse arguments = .ok options)
    (hl : Settings.load w.read w.environment w.account options.config w.present = .ok loaded)
    (hr : w.unresolved? options.files = none) :
    let j := w.job options loaded
    j.started.map (·.path) = j.targets ∧
    j.Reports (j.snapshot c) ((runBy w arguments c).delivered none).stdout := by
  intro j
  have hj : prepare w arguments = .ok j := prepare_of_resolved hp hl hr
  refine ⟨j.path_started, ?_⟩
  rw [runBy_eq_conclude hj]
  exact j.reports_conclude c

/-- A file is named in two spellings, so that its only record is on two lines. -/
theorem reports_runBy_respelled :
    let w : Surroundings :=
      { cwd := ⟨"/cwd"⟩
        account := ⟨"/"⟩
        environment := ⟨[]⟩
        read := fun _ => .error Host.Fault.noSuchFile
        launch := fun _ => .ok { code := some 0 } }
    let arguments (f : Format) :=
      ["--format", f.name, "a.proto", "./a.proto"].map Octets.ofText
    let options (f : Format) : Options :=
      { files := [⟨"a.proto"⟩, ⟨"./a.proto"⟩], format := some f }
    let c : Course :=
      { order := [2, 1]
        answer := fun _ => .ok { code := some 1, stderr := "a.proto:3:5: 'Foo' is unknown" } }
    let j (f : Format) := w.job (options f) {}
    (∀ f, parse (arguments f) = .ok (options f)) ∧
      Settings.load w.read w.environment w.account none w.present = .ok {} ∧
      (∀ f, w.unresolved? (options f).files = none) ∧
      (∃ entries, ((runBy w (arguments .json) c).delivered none).stdout =
          (Json.array entries).render ++ "\n" ∧ (entriesFor entries ⟨"/cwd/a.proto"⟩).length = 2) ∧
      ((j .text).snapshot c).total = 1 ∧
      (∃ lines, ((runBy w (arguments .text) c).delivered none).stdout = unlines lines ∧
        lines.length = 2) := by
  intro w arguments options c j
  have hp (f : Format) : parse (arguments f) = .ok (options f) := by
    cases f <;> decide +kernel
  have hl : Settings.load w.read w.environment w.account none w.present = .ok {} := rfl
  have hr (f : Format) : w.unresolved? (options f).files = none := rfl
  have htotal : ((j .text).snapshot c).total = 1 := by decide +kernel
  obtain ⟨-, hjson⟩ := reports_runBy w (arguments .json) (options .json) {} c (hp _) hl (hr _)
  obtain ⟨-, htext⟩ := reports_runBy w (arguments .text) (options .text) {} c (hp _) hl (hr _)
  refine ⟨hp, hl, hr, ?_, htotal, ?_⟩
  · obtain ⟨entries, hstdout, -, hlength, -⟩ := hjson.json rfl (by decide +kernel)
    exact ⟨entries, hstdout, (hlength _).trans (by decide +kernel)⟩
  · obtain ⟨lines, hstdout, hperm, -⟩ := htext.text rfl
    exact ⟨lines, hstdout, hperm.length_eq.trans (by decide +kernel)⟩

end CommandLine

end DocumentLint
