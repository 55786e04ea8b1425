import Mathlib.Data.List.Basic
import DocumentLint.CommandLine.Listing
import DocumentLint.Proofs.Diagnostic.Grammar
import DocumentLint.Proofs.Diagnostic.LineBreaks

/-! # Rendered records

A record that was read from a line is written as a line that reads back as the
same record, with the label of its severity in front of the reason. The path
in front may hold colons and digits, but no space.
-/

namespace DocumentLint

namespace Text

theorem isNumeral_toDigits (n : Nat) : isNumeral (Nat.toDigits 10 n) = true := by
  have hd : ∀ c ∈ Nat.toDigits 10 n, c.isDigit = true := fun _ =>
    Nat.isDigit_of_mem_toDigits (by decide) (by decide)
  simpa [isNumeral, List.all_eq_true] using hd

theorem digitsValue_toDigits (n : Nat) : digitsValue 10 (Nat.toDigits 10 n) = n := by
  have hd : ∀ m, ∀ c ∈ Nat.toDigits 10 n, 10 * m + digitValue c = 10 * m + (c.toNat - 48) := by
    intro m c hc
    rw [digitValue, if_pos (Nat.isDigit_of_mem_toDigits (by decide) (by decide) hc)]
  exact (List.foldl_ext _ _ 0 hd).trans (Nat.ofDigitChars_toDigits (by decide) (by decide))

theorem not_mem_toDigits {c : Char} (hc : c.isDigit = false) (n : Nat) :
    c ∉ Nat.toDigits 10 n := fun hm =>
  Bool.noConfusion (hc.symm.trans (Nat.isDigit_of_mem_toDigits (by decide) (by decide) hm))

theorem trim_infix (cs : List Char) : trim cs <:+: cs := by
  obtain ⟨front, back, hcs, -⟩ := trim_eq_iff.1 (Eq.refl (trim cs))
  exact ⟨front, back, hcs.symm⟩

end Text

namespace Record

variable {cs place rest reason : List Char} {r : Record} {path : Path}

/-! ## Locations -/

theorem number?_toDigits (n : UInt32) : number? (Nat.toDigits 10 n.toNat) = some n := by
  rw [number?, Text.digitsValue_toDigits, if_pos ⟨Text.isNumeral_toDigits _, n.toNat_lt_size⟩,
    UInt32.ofNat_toNat]

theorem numberPairs_concat (fs : List (List Char)) (f g : List Char) :
    numberPairs (fs ++ [f, g]) = numberPairs (fs ++ [f]) ++ numberPair f g := by
  have hone (x : List Char) : numberPairs [x] = [] := rfl
  induction fs with
  | nil => simp [numberPairs_cons_cons, hone]
  | cons a fs ih =>
    cases fs with
    | nil => simp [numberPairs_cons_cons, hone]
    | cons b fs => simpa [numberPairs_cons_cons] using ih

/-- Two numbers in front of the last colon are the location, whatever stands before them. -/
theorem location?_of_numbers {f g : List Char} {line column : UInt32}
    (hf : number? f = some line) (hg : number? g = some column) (hl : 0 < line)
    (hfc : ':' ∉ f) (hgc : ':' ∉ g) (cs : List Char) :
    location? (cs ++ ':' :: (f ++ ':' :: (g ++ [':']))) = some (line, column) := by
  have hfields : Text.fields ':' (cs ++ ':' :: (f ++ ':' :: (g ++ [':']))) =
      Text.fields ':' cs ++ [f, g, []] := by
    rw [Text.fields_append, Text.fields_append, Text.fields_append, Text.fields_of_not_mem hfc,
      Text.fields_of_not_mem hgc]
    rfl
  -- the empty field after the last colon encloses the two numbers
  have henclosed : enclosed (Text.fields ':' cs ++ [f, g, []]) =
      (Text.fields ':' cs).tail ++ [f, g] := by
    rw [enclosed, List.tail_append_of_ne_nil (Text.fields_ne_nil ':' cs),
      List.dropLast_append_of_ne_nil (by simp)]
    rfl
  rw [location?, hfields, henclosed, numberPairs_concat, numberPair, hf, hg]
  simp [hl]

/-! ## Reading a line -/

theorem token?_append (h : '\'' ∉ cs) (rest : List Char) : token? (cs ++ rest) = token? rest := by
  induction cs with
  | nil => rfl
  | cons c cs ih =>
    rw [List.mem_cons, not_or] at h
    rw [List.cons_append, token?, ih h.2]
    exact fun hc => h.1 hc.symm

/-- What holds of each record that was read from a line. -/
structure Legible (r : Record) : Prop where
  line_pos : 0 < r.line
  oneLine : '\n' ∉ r.reason.toList
  trimmed : ∀ c ∈ r.reason.toList.getLast?, ¬ Text.isBlank c
  token : ∃ word, token? r.reason.toList = some word ∧
    ColumnRange.spanning? r.range.start word.length = some r.range

theorem Legible.of_ofChars? (hcs : '\n' ∉ cs) (h : ofChars? cs = some r) : r.Legible := by
  obtain ⟨place, rest, word, rfl, -, hplace, hword, hrange, hreason, -⟩ :=
    ofChars?_eq_some_iff.1 h
  have htext : r.reason.toList = Text.trim rest := by rw [hreason, String.toList_ofList]
  exact
    { line_pos := line_pos_of_location? hplace
      oneLine := fun hm => hcs <| List.mem_append_right _ <| List.mem_cons_of_mem _ <|
        (Text.trim_infix rest).subset (htext ▸ hm)
      trimmed := fun c hc => Text.not_isBlank_of_mem_getLast?_trimEnd (htext ▸ hc)
      token := ⟨word, htext ▸ hword, hrange⟩ }

theorem Legible.reason_ne_nil (h : r.Legible) : r.reason.toList ≠ [] := by
  obtain ⟨word, hword, -⟩ := h.token
  intro hnil
  rw [hnil] at hword
  cases hword

/-! ## Writing a record -/

/-- The record that is read back: it has the label of its severity in front of the reason. -/
def labelled (r : Record) : Record := { r with reason := r.severity.label ++ ": " ++ r.reason }

theorem toList_reason_labelled (r : Record) :
    r.labelled.reason.toList = (r.severity.label ++ ": ").toList ++ r.reason.toList :=
  String.toList_append

theorem toList_render (path : Path) (r : Record) : (r.render path).toList =
    (path.text.toList ++ ':' :: (Nat.toDigits 10 r.line.toNat ++
      ':' :: (Nat.toDigits 10 r.range.start.toNat ++ [':']))) ++
      ' ' :: r.labelled.reason.toList := by
  have hs (s : String) : toString s = s := rfl
  have hn (n : UInt32) : (toString n).toList = Nat.toDigits 10 n.toNat := Nat.toList_repr
  simp [render, labelled, hs, hn]

theorem Legible.trim_labelled (h : r.Legible) :
    Text.trim r.labelled.reason.toList = r.labelled.reason.toList := by
  have hhead (v : Severity) : ∀ c ∈ (v.label ++ ": ").toList.head?, ¬ Text.isBlank c := by
    cases v <;> simp [Severity.label, Text.isBlank]
  have hlead (v : Severity) : (v.label ++ ": ").toList ≠ [] := by cases v <;> decide
  rw [toList_reason_labelled, Text.trim, Text.trimStart_eq_self, Text.trimEnd_eq_self]
  · rw [List.getLast?_append_of_ne_nil _ h.reason_ne_nil]
    exact h.trimmed
  · rw [List.head?_append_of_ne_nil _ (hlead _)]
    exact hhead _

theorem token?_labelled (r : Record) :
    token? r.labelled.reason.toList = token? r.reason.toList := by
  have hlead (v : Severity) : '\'' ∉ (v.label ++ ": ").toList := by cases v <;> decide
  rw [toList_reason_labelled, token?_append (hlead _)]

/-- A record that was read from a line is read back, under any path without spaces. -/
theorem Legible.ofChars?_render (h : r.Legible) (hpath : ' ' ∉ path.text.toList) :
    ofChars? (r.render path).toList = some { r.labelled with severity := .warning } := by
  obtain ⟨word, hword, hrange⟩ := h.token
  have hspace (n : Nat) : ' ' ∉ Nat.toDigits 10 n := Text.not_mem_toDigits (by decide) n
  have hcolon (n : Nat) : ':' ∉ Nat.toDigits 10 n := Text.not_mem_toDigits (by decide) n
  rw [toList_render]
  refine ofChars?_eq_some_iff.2 ⟨_, _, word, rfl, by simp [hpath, hspace], ?_, ?_, hrange, ?_, rfl⟩
  · exact location?_of_numbers (number?_toDigits _) (number?_toDigits _) h.line_pos (hcolon _)
      (hcolon _) _
  · rw [h.trim_labelled, token?_labelled, hword]
  · rw [h.trim_labelled, String.ofList_toList]

theorem Legible.not_mem_render (h : r.Legible) (hpath : '\n' ∉ path.text.toList) :
    '\n' ∉ (r.render path).toList := by
  have hdigits (n : Nat) : '\n' ∉ Nat.toDigits 10 n := Text.not_mem_toDigits (by decide) n
  have hlead (v : Severity) : '\n' ∉ (v.label ++ ": ").toList := by cases v <;> decide
  rw [toList_render, toList_reason_labelled]
  simp only [List.mem_append, List.mem_cons, hpath, hdigits, hlead, h.oneLine]
  decide

end Record

namespace Transcript

variable {ls : List String} {severity : Severity} {r : Record}

theorem dropReturn_subset (line : List Char) : dropReturn line ⊆ line := by
  rw [dropReturn]
  split
  · exact List.dropLast_subset line
  · exact List.Subset.refl line

theorem not_mem_of_mem_lines {raw : String} {line : List Char} (h : line ∈ lines raw) :
    '\n' ∉ line := by
  obtain ⟨field, hfield, rfl⟩ := List.mem_map.1 h
  exact fun hm => Text.not_mem_of_mem_fields hfield (dropReturn_subset field hm)

theorem legible_of_mem_records {raw : String} {trailer : Nat}
    (hr : r ∈ records raw trailer severity) : r.Legible ∧ r.severity = severity := by
  obtain ⟨line, hline, read, hread, rfl⟩ := exists_of_mem_records hr
  have hlegible : read.Legible := .of_ofChars? (not_mem_of_mem_lines hline) hread
  exact ⟨⟨hlegible.line_pos, hlegible.oneLine, hlegible.trimmed, hlegible.token⟩, rfl⟩

theorem records_join (hl : ∀ l ∈ ls, '\n' ∉ l.toList) (severity : Severity) :
    records (String.join (ls.map (· ++ "\n"))) 0 severity =
      ls.filterMap fun l => (Record.ofLine? l).map ({ · with severity }) := by
  have hread (ls : List String) (hl : ∀ l ∈ ls, '\n' ∉ l.toList) :
      readings (String.join (ls.map (· ++ "\n"))) = ls.map Record.ofLine? ++ [none] := by
    induction ls with
    | nil => rfl
    | cons l ls ih =>
      obtain ⟨hl, hls⟩ := List.forall_mem_cons.1 hl
      rw [List.map_cons, String.join_cons, readings_append_feed, readings_of_not_mem hl, ih hls]
      rfl
  rw [records_zero, hread ls hl, kept, List.filterMap_append, List.filterMap_map]
  exact List.append_nil _

end Transcript

namespace Snapshot

variable {s : Snapshot} {targets : List Path} {severity : Severity}

/-- The listing of records that were read from lines is read back line by line. -/
theorem records_listing
    (hs : ∀ path ∈ targets, ∀ r ∈ s.forFile path, r.Legible ∧ r.severity = severity)
    (ht : ∀ path ∈ targets, ' ' ∉ path.text.toList ∧ '\n' ∉ path.text.toList) :
    Transcript.records (s.listing .text targets) 0 severity =
      targets.flatMap fun path => (s.forFile path).map Record.labelled := by
  have hlines : ∀ l ∈ s.textLines targets, '\n' ∉ l.toList := by
    intro l hl
    obtain ⟨path, hpath, hl⟩ := List.mem_flatMap.1 hl
    obtain ⟨r, hr, rfl⟩ := List.mem_map.1 hl
    exact (hs path hpath r hr).1.not_mem_render (ht path hpath).2
  have hread : ∀ path ∈ targets, ∀ r ∈ s.forFile path,
      (Record.ofLine? (r.render path)).map ({ · with severity }) = some r.labelled := by
    intro path hpath r hr
    obtain ⟨hlegible, rfl⟩ := hs path hpath r hr
    rw [Record.ofLine?, hlegible.ofChars?_render (ht path hpath).1]
    rfl
  rw [listing, Transcript.records_join hlines, textLines, List.filterMap_flatMap]
  refine List.flatMap_congr fun path hpath => ?_
  rw [List.filterMap_map, List.filterMap_eq_map_iff_forall_eq_some]
  intro r hr
  rw [Function.comp_apply]
  exact hread path hpath r hr

end Snapshot

end DocumentLint
