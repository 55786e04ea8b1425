import DocumentLint.Proofs.Diagnostic.Grammar
import DocumentLint.Proofs.Session.Listing

/-! # Positions

Whatever is reported stands on a line that is counted from one, and on columns the last of which
can be counted. The first column is one or more unless the linter wrote zeros for it: these are
taken over as they are.
-/

namespace DocumentLint

theorem Text.digitsValue_eq_zero_iff {cs : List Char} (h : ∀ c ∈ cs, c.isDigit = true) :
    digitsValue 10 cs = 0 ↔ ∀ c ∈ cs, c = '0' := by
  have hdigit (c : Char) (hc : c.isDigit = true) : digitValue c = 0 ↔ c = '0' := by
    have hle : 48 ≤ c.toNat := by
      simp only [Char.isDigit, Bool.and_eq_true, decide_eq_true_eq] at hc
      exact hc.1
    have hzero : c.toNat = 48 ↔ c = '0' := Char.toNat_inj (d := '0')
    rw [digitValue, if_pos hc, ← hzero]
    omega
  induction cs using List.reverseRecOn with
  | nil => simp [digitsValue]
  | append_singleton cs c ih =>
    rw [List.forall_mem_append, List.forall_mem_singleton] at h
    rw [digitsValue_concat, List.forall_mem_append, List.forall_mem_singleton]
    refine Iff.trans ?_ (and_congr (ih h.1) (hdigit c h.2))
    omega

namespace Record

/-- The numbers of the location end in zeros for the column. -/
def ZeroColumn (line : List Char) : Prop :=
  ∃ place rest i f g, line = place ++ ' ' :: rest ∧ ' ' ∉ place ∧
    Rightmost isNumber (Text.fields ':' place) i f g ∧ ∀ c ∈ g, c = '0'

/-- A record that was read from a line, and where it stands. -/
structure Positioned (line : List Char) (r : Record) : Prop where
  read : ofChars? line = some { r with severity := .warning }
  one_le_line : 1 ≤ r.line
  start_lt_stop : r.range.start < r.range.stop
  stop_lt : r.range.stop.toNat < UInt32.size
  one_le_start_iff : 1 ≤ r.range.start ↔ ¬ ZeroColumn line

variable {line place rest f g word : List Char} {i : ℕ} {r : Record}

theorem Spells.zeroColumn_iff (h : Spells place rest i f g word r) :
    ZeroColumn (place ++ ' ' :: rest) ↔ ∀ c ∈ g, c = '0' := by
  constructor
  · rintro ⟨place', rest', i', f', g', heq, hspace, hpair, hzero⟩
    obtain ⟨rfl, rfl⟩ := Text.append_sep_inj h.space hspace heq
    obtain ⟨rfl, rfl, rfl⟩ := h.pair.unique hpair
    exact hzero
  · intro hzero
    exact ⟨place, rest, i, f, g, rfl, h.space, h.pair, hzero⟩

theorem Positioned.of_ofChars? (h : ofChars? line = some { r with severity := .warning }) :
    r.Positioned line := by
  obtain ⟨place, rest, i, f, g, word, rfl, hr⟩ := ofChars?_eq_some_iff_spells.1 h
  have hdigits : ∀ c ∈ g, c.isDigit = true := by
    have hnumeral := isNumeral_of_isNumber g hr.pair.holds_right
    simp only [Text.isNumeral, Bool.and_eq_true, List.all_eq_true] at hnumeral
    exact hnumeral.2
  have hstart : r.range.start.toNat = Text.digitsValue 10 g := hr.start
  refine ⟨h, hr.one_le_line, r.range.start_lt_stop, r.range.stop.toNat_lt_size, ?_⟩
  rw [hr.zeroColumn_iff, ← Text.digitsValue_eq_zero_iff hdigits, ← hstart, UInt32.le_iff_toNat_le]
  exact Nat.one_le_iff_ne_zero

end Record

theorem Transcript.positioned_of_mem_records {raw : String} {trailer : Nat} {severity : Severity}
    {r : Record} (hr : r ∈ records raw trailer severity) :
    ∃ line ∈ lines raw, r.Positioned line := by
  obtain ⟨line, hline, read, hread, rfl⟩ := exists_of_mem_records hr
  have hwarning : read.severity = .warning := by
    obtain ⟨_, _, _, _, _, _, -, hspells⟩ := Record.ofChars?_eq_some_iff_spells.1 hread
    exact hspells.severity
  refine ⟨line, hline, .of_ofChars? ?_⟩
  rw [hread, ← hwarning]

namespace Session

open History

theorem mem_records_snapshot_iff {s : Session} {r : Record} :
    r ∈ s.snapshot.records ↔ ∃ p, r ∈ s.diagnostics p := by
  simp only [Snapshot.records, List.mem_flatMap, diagnostics_eq]
  constructor
  · rintro ⟨file, hfile, hr⟩
    refine ⟨file.1, ?_⟩
    rw [Snapshot.mem_files_iff.1 hfile]
    exact hr
  · rintro ⟨p, hr⟩
    cases hp : s.store.verdicts.find? p with
    | none => simp [hp] at hr
    | some file =>
      have hsame : file.1.Same p := PathMap.same_of_find?_eq_some hp
      refine ⟨file, Snapshot.mem_files_iff.2 ?_, by simpa [hp] using hr⟩
      rw [PathMap.find?_congr hsame, hp]

/-- Every record that is read from a text, and every one that a session stores or shows, stands
on a line that is counted from one and on columns the last of which is a word. Its first column
is at least one, unless the line it was read from has nothing but zeros there. -/
theorem positioned_after (settings : Settings) (as : List Action) :
    (∀ raw trailer severity, ∀ r ∈ Transcript.records raw trailer severity,
      ∃ line ∈ Transcript.lines raw, r.Positioned line) ∧
    ∀ r, (r ∈ (after settings as).snapshot.records ∨
        ∃ p, r ∈ (after settings as).diagnostics p ∨ r ∈ (after settings as).snapshot.forFile p) →
      ∃ i result, .ended i (.answered (.ok result)) ∈ history { settings } as ∧
        ∃ line ∈ Transcript.lines result.errorText, r.Positioned line := by
  refine ⟨fun raw trailer severity r hr => Transcript.positioned_of_mem_records hr, ?_⟩
  intro r hr
  have hstored : ∃ p, r ∈ (after settings as).diagnostics p := by
    rcases hr with hr | ⟨p, hr | hr⟩
    · exact mem_records_snapshot_iff.1 hr
    · exact ⟨p, hr⟩
    · exact ⟨p, forFile_snapshot (after settings as) p ▸ hr⟩
  obtain ⟨p, hr⟩ := hstored
  obtain ⟨i, result, hended, hr⟩ := exists_result_of_mem_diagnostics hr
  exact ⟨i, result, hended, Transcript.positioned_of_mem_records hr⟩

/-- A column of zeros is shown as column zero, beside one that is counted from one. -/
theorem positioned_after_zero :
    let path : Path := ⟨"a.proto"⟩
    let raw := "a.proto:3:00: 'Foo' is unknown\na.proto:4:1: 'Ba' is odd"
    let as : List Action := [.trigger path ⟨"proto"⟩,
      .finish 1 (.answered (.ok { code := some 1, stderr := raw })), .poll 1]
    let zero : Record := { line := 3, range := ⟨0, 3, by decide⟩, reason := "'Foo' is unknown" }
    let one : Record := { line := 4, range := ⟨1, 3, by decide⟩, reason := "'Ba' is odd" }
    (after {} as).diagnostics path = [zero, one] ∧ Transcript.records raw 0 .warning = [zero, one] ∧
      (∃ line ∈ Transcript.lines raw, zero.Positioned line) ∧
      ∃ i result, .ended i (.answered (.ok result)) ∈ history { settings := {} } as ∧
        ∃ line ∈ Transcript.lines result.errorText, one.Positioned line := by
  intro path raw as zero one
  have hshown : (after {} as).diagnostics path = [zero, one] := by decide +kernel
  have hread : Transcript.records raw 0 .warning = [zero, one] := by decide +kernel
  exact ⟨hshown, hread, (positioned_after {} as).1 raw 0 .warning zero (by simp [hread]),
    (positioned_after {} as).2 one (.inr ⟨path, .inl (by simp [hshown])⟩)⟩

end Session

end DocumentLint
