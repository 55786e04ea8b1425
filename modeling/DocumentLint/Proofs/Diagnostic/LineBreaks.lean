import Mathlib.Data.List.Basic
import DocumentLint.Diagnostic.Transcript

/-! # Line breaks

A transcript is read line by line: each line is a record or none on its own, whatever stands
around it, and whether a line feed or a carriage return with one separates it from the next.
Lines that are cut off at the end take away only what they are themselves.
-/

namespace DocumentLint

/-- What separates two lines. -/
inductive LineBreak where
  | feed
  | returnFeed
  deriving DecidableEq, Repr

def LineBreak.text : LineBreak → String
  | .feed => "\n"
  | .returnFeed => "\r\n"

namespace Record

theorem ofChars?_concat_return (cs : List Char) : ofChars? (cs ++ ['\r']) = ofChars? cs := by
  have htrim (cs : List Char) : Text.trim (cs ++ ['\r']) = Text.trim cs := Text.trim_concat rfl
  rw [ofChars?, ofChars?, Text.splitFirst_concat (by decide)]
  cases Text.splitFirst ' ' cs with
  | none => rfl
  | some parts => simp [htrim]

theorem ofLine?_append_return (l : String) : ofLine? (l ++ "\r") = ofLine? l := by
  rw [ofLine?, ofLine?, String.toList_append]
  exact ofChars?_concat_return l.toList

end Record

namespace Transcript

variable {severity : Severity}

theorem exists_of_mem_records {raw : String} {trailer : Nat} {r : Record}
    (hr : r ∈ records raw trailer severity) :
    ∃ line ∈ lines raw, ∃ read, Record.ofChars? line = some read ∧ { read with severity } = r := by
  obtain ⟨line, hline, hr⟩ := List.mem_filterMap.1 hr
  exact ⟨line, List.mem_of_mem_take hline, Option.map_eq_some_iff.1 hr⟩

theorem ofChars?_dropReturn (line : List Char) :
    Record.ofChars? (dropReturn line) = Record.ofChars? line := by
  rw [dropReturn]
  split
  · next h =>
    obtain ⟨cs, rfl⟩ := List.getLast?_eq_some_iff.1 h
    rw [List.dropLast_concat, Record.ofChars?_concat_return]
  · rfl

/-- What each line of a text is on its own. -/
def readings (raw : String) : List (Option Record) := (lines raw).map Record.ofChars?

theorem readings_eq (raw : String) :
    readings raw = (Text.fields '\n' raw.toList).map Record.ofChars? := by
  rw [readings, lines, List.map_map]
  exact List.map_congr_left fun line _ => ofChars?_dropReturn line

theorem readings_append_feed (a b : String) :
    readings (a ++ "\n" ++ b) = readings a ++ readings b := by
  rw [readings_eq, readings_eq, readings_eq, ← List.map_append, ← Text.fields_append]
  simp

theorem readings_of_not_mem {l : String} (h : '\n' ∉ l.toList) :
    readings l = [Record.ofLine? l] := by
  rw [readings_eq, Text.fields_of_not_mem h]
  rfl

/-- The records among some readings, with a severity. -/
def kept (severity : Severity) (rs : List (Option Record)) : List Record :=
  rs.filterMap (·.map ({ · with severity }))

theorem records_eq_kept (raw : String) (trailer : Nat) (severity : Severity) :
    records raw trailer severity =
      kept severity ((readings raw).take ((readings raw).length - trailer)) := by
  rw [records, kept, readings, List.length_map, ← List.map_take, List.filterMap_map]
  rfl

theorem records_zero (raw : String) (severity : Severity) :
    records raw 0 severity = kept severity (readings raw) := by
  rw [records_eq_kept, Nat.sub_zero, List.take_length]

theorem records_append_feed (a b : String) (severity : Severity) :
    records (a ++ "\n" ++ b) 0 severity = records a 0 severity ++ records b 0 severity := by
  rw [records_zero, records_zero, records_zero, readings_append_feed]
  exact List.filterMap_append ..

theorem records_add_prefix (raw : String) (trailer more : Nat) (severity : Severity) :
    records raw (trailer + more) severity <+: records raw trailer severity := by
  rw [records_eq_kept, records_eq_kept]
  exact (List.take_prefix_take_left (by omega)).filterMap _

/-! ## Texts by their lines -/

/-- The text of a first line, and of further lines with the break in front of each. -/
def written (first : String) : List (LineBreak × String) → String
  | [] => first
  | (b, l) :: rest => first ++ b.text ++ written l rest

/-- A text as lines without line feeds, with a break between each two of them. -/
structure Layout where
  first : String
  rest : List (LineBreak × String)
  unbroken : ∀ l ∈ first :: rest.map (·.2), '\n' ∉ l.toList

namespace Layout

def lines (t : Layout) : List String := t.first :: t.rest.map (·.2)

def text (t : Layout) : String := written t.first t.rest

end Layout

theorem readings_written {first : String} {rest : List (LineBreak × String)}
    (h : ∀ l ∈ first :: rest.map (·.2), '\n' ∉ l.toList) :
    readings (written first rest) = (first :: rest.map (·.2)).map Record.ofLine? := by
  induction rest generalizing first with
  | nil => exact readings_of_not_mem (h first List.mem_cons_self)
  | cons next rest ih =>
    obtain ⟨b, l⟩ := next
    obtain ⟨hfirst, hrest⟩ := List.forall_mem_cons.1 h
    have hread : readings (first ++ b.text ++ written l rest) =
        Record.ofLine? first :: readings (written l rest) := by
      cases b with
      | feed =>
        rw [LineBreak.text, readings_append_feed, readings_of_not_mem hfirst]
        rfl
      | returnFeed =>
        -- the carriage return counts to the line, which it does not change
        have hreturn : '\n' ∉ (first ++ "\r").toList := by simp [hfirst]
        have htext : first ++ "\r\n" = first ++ "\r" ++ "\n" := by
          rw [String.append_assoc]
          rfl
        rw [LineBreak.text, htext, readings_append_feed, readings_of_not_mem hreturn,
          Record.ofLine?_append_return]
        rfl
    rw [written, hread, ih hrest]
    rfl

theorem Layout.readings_text (t : Layout) : readings t.text = t.lines.map Record.ofLine? :=
  readings_written t.unbroken

theorem kept_map_filter (severity : Severity) (ls : List String) :
    kept severity ((ls.filter fun l => (Record.ofLine? l).isSome).map Record.ofLine?) =
      kept severity (ls.map Record.ofLine?) := by
  rw [kept, kept, List.filterMap_map, List.filterMap_map, List.filterMap_filter]
  refine List.filterMap_congr fun l _ => ?_
  cases h : Record.ofLine? l <;> simp [h]

/-- A text is read by its lines, without those cut off at the end: of the others, each that is a
record is kept, in order. Neither the breaks nor the lines that are no records matter to the
others, cutting off more lines takes records away at the end only, and without a cut the text
on either side of a line feed is read on its own. -/
theorem records_layout (t : Layout) (trailer : Nat) (severity : Severity) :
    records t.text trailer severity =
      ((t.lines.take (if trailer ≤ t.lines.length then t.lines.length - trailer else 0)).filterMap
        fun l => (Record.ofLine? l).map ({ · with severity })) ∧
    (∀ t' : Layout, t'.lines = t.lines →
      records t'.text trailer severity = records t.text trailer severity) ∧
    (∀ t' : Layout, t'.lines.map Record.ofLine? = t.lines.map Record.ofLine? →
      records t'.text trailer severity = records t.text trailer severity) ∧
    (∀ t' : Layout, (t'.lines.filter fun l => (Record.ofLine? l).isSome) =
        t.lines.filter (fun l => (Record.ofLine? l).isSome) →
      records t'.text 0 severity = records t.text 0 severity) ∧
    (∀ raw more, records raw (trailer + more) severity <+: records raw trailer severity) ∧
    ∀ a b, records (a ++ "\n" ++ b) 0 severity = records a 0 severity ++ records b 0 severity := by
  have hread (t : Layout) : records t.text trailer severity =
      kept severity ((t.lines.map Record.ofLine?).take (t.lines.length - trailer)) := by
    rw [records_eq_kept, t.readings_text, List.length_map]
  have hsame (t' : Layout) (h : t'.lines.map Record.ofLine? = t.lines.map Record.ofLine?) :
      records t'.text trailer severity = records t.text trailer severity := by
    have hlength : t'.lines.length = t.lines.length := by simpa using congrArg List.length h
    rw [hread, hread, h, hlength]
  refine ⟨?_, fun t' h => hsame t' (by rw [h]), hsame, fun t' h => ?_,
    fun raw more => records_add_prefix raw trailer more severity,
    fun a b => records_append_feed a b severity⟩
  · have hcut : (if trailer ≤ t.lines.length then t.lines.length - trailer else 0) =
        t.lines.length - trailer := by
      split <;> omega
    rw [hread, hcut, kept, ← List.map_take, List.filterMap_map]
    rfl
  · rw [records_zero, records_zero, t.readings_text, t'.readings_text, ← kept_map_filter, h,
      kept_map_filter]

/-- Mixed breaks, carriage returns within the lines, and a last line that is cut off. -/
theorem records_layout_mixed :
    let lines := ["junk", "b.proto:3:4: 'BB' is bad\r\r", "c.proto:5:6: 'C' is bad"]
    let t : Layout :=
      { first := "a.proto:1:2: 'A' is bad\r"
        rest := [.returnFeed, .feed, .returnFeed].zip lines
        unbroken := by decide }
    let t' : Layout :=
      { first := t.first
        rest := [.feed, .returnFeed, .feed].zip lines
        unbroken := by decide }
    t'.lines = t.lines ∧ t'.text ≠ t.text ∧
      (records t.text 1 .error).map (·.line) = [1, 3] ∧
      records t'.text 1 .error = records t.text 1 .error := by
  intro lines t t'
  have h : t'.lines = t.lines := rfl
  exact ⟨h, by decide +kernel, by decide +kernel, (records_layout t 1 .error).2.1 t' h⟩

end Transcript

end DocumentLint
