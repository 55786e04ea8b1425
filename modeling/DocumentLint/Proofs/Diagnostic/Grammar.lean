import DocumentLint.Proofs.Diagnostic.Location

/-! # The grammar of diagnostic lines

A line is a record exactly if it is a location, a space and a text that names a word in single
quotes, and its columns fit in words. The parts of the line determine the record. Where the
rightmost digits of a location fit, they decide alone; otherwise the pair that decides stands
further left.
-/

namespace DocumentLint

theorem isLeast_succ_iff {P : ℕ → Prop} {i : ℕ} :
    IsLeast {i | P i} (i + 1) ↔ ¬ P 0 ∧ IsLeast {i | P (i + 1)} i := by
  constructor
  · rintro ⟨hi, hmin⟩
    exact ⟨fun h0 => absurd (hmin h0) (by omega), hi,
      fun j hj => Nat.le_of_succ_le_succ (hmin hj)⟩
  · rintro ⟨h0, hi, hmin⟩
    refine ⟨hi, fun j hj => ?_⟩
    cases j with
    | zero => exact absurd hj h0
    | succ j => exact Nat.succ_le_succ (hmin hj)

namespace Record

variable {cs w word place rest f g : List Char} {c : Char} {i : ℕ} {s : String} {r : Record}

/-! ## Quoted words -/

/-- At place `i` of a text a word stands in single quotes. -/
def QuotedAt (cs : List Char) (i : ℕ) (word : List Char) : Prop :=
  word ≠ [] ∧ (∀ c ∈ word, Text.isWord c = true) ∧
    ∃ after, cs.drop i = '\'' :: (word ++ '\'' :: after)

/-- The leftmost word in single quotes. -/
def FirstQuoted (cs word : List Char) : Prop :=
  ∃ i, IsLeast {i | ∃ w, QuotedAt cs i w} i ∧ QuotedAt cs i word

theorem ne_nil_of_firstQuoted (h : FirstQuoted cs word) : word ≠ [] := by
  obtain ⟨i, -, hne, -⟩ := h
  exact hne

theorem not_quotedAt_nil : ¬ QuotedAt [] i w := by
  rintro ⟨-, -, after, h⟩
  simp at h

theorem quotedAt_zero_iff : QuotedAt (c :: cs) 0 w ↔ c = '\'' ∧ cs.takeWhile Text.isWord = w ∧
    w ≠ [] ∧ (cs.dropWhile Text.isWord).head? = some '\'' := by
  have hquote : Text.isWord '\'' = false := by decide +kernel
  constructor
  · rintro ⟨hne, hw, after, h⟩
    obtain ⟨rfl, rfl⟩ := List.cons.inj h
    rw [List.takeWhile_append_of_pos hw, List.dropWhile_append_of_pos hw,
      List.takeWhile_cons_of_neg (by simp [hquote]), List.dropWhile_cons_of_neg (by simp [hquote])]
    exact ⟨rfl, List.append_nil _, hne, rfl⟩
  · rintro ⟨rfl, rfl, hne, h⟩
    obtain ⟨after, hafter⟩ := List.head?_eq_some_iff.1 h
    refine ⟨hne, List.all_eq_true.1 List.all_takeWhile, after, ?_⟩
    rw [List.drop_zero, ← hafter, List.takeWhile_append_dropWhile]

theorem firstQuoted_cons_iff : FirstQuoted (c :: cs) word ↔
    QuotedAt (c :: cs) 0 word ∨ (∀ w, ¬ QuotedAt (c :: cs) 0 w) ∧ FirstQuoted cs word := by
  constructor
  · rintro ⟨i, hi, hw⟩
    cases i with
    | zero => exact .inl hw
    | succ i =>
      obtain ⟨h0, hi⟩ := isLeast_succ_iff.1 hi
      exact .inr ⟨not_exists.1 h0, i, hi, hw⟩
  · rintro (hw | ⟨h0, i, hi, hw⟩)
    · exact ⟨0, ⟨⟨word, hw⟩, fun j _ => Nat.zero_le j⟩, hw⟩
    · exact ⟨i + 1, isLeast_succ_iff.2 ⟨not_exists.2 h0, hi⟩, hw⟩

theorem token?_eq_some_iff : token? cs = some word ↔ FirstQuoted cs word := by
  fun_induction token? cs with
  | case1 =>
    refine iff_of_false (by simp) ?_
    rintro ⟨i, -, h⟩
    exact not_quotedAt_nil h
  | case2 cs w h =>
    have h0 : QuotedAt ('\'' :: cs) 0 w := quotedAt_zero_iff.2 ⟨rfl, rfl, h⟩
    rw [firstQuoted_cons_iff, Option.some.injEq]
    constructor
    · rintro rfl
      exact .inl h0
    · rintro (hw | ⟨hn, -⟩)
      · exact (quotedAt_zero_iff.1 hw).2.1
      · exact absurd h0 (hn w)
  | case3 cs w h ih =>
    have h0 (v : List Char) : ¬ QuotedAt ('\'' :: cs) 0 v := by
      intro hv
      obtain ⟨-, rfl, hne, hq⟩ := quotedAt_zero_iff.1 hv
      exact h ⟨hne, hq⟩
    rw [firstQuoted_cons_iff, ih]
    simp [h0]
  | case4 c cs hc ih =>
    have h0 (v : List Char) : ¬ QuotedAt (c :: cs) 0 v := fun hv => hc (quotedAt_zero_iff.1 hv).1
    rw [firstQuoted_cons_iff, ih]
    simp [h0]

/-! ## Lines -/

/-- A line that is a record: a location, a space, and a reason that names a word. -/
theorem ofChars?_eq_some_iff : ofChars? cs = some r ↔
    ∃ place rest word, cs = place ++ ' ' :: rest ∧ ' ' ∉ place ∧
      location? place = some (r.line, r.range.start) ∧
      token? (Text.trim rest) = some word ∧
      ColumnRange.spanning? r.range.start word.length = some r.range ∧
      r.reason = String.ofList (Text.trim rest) ∧ r.severity = .warning := by
  constructor
  · intro h
    obtain ⟨⟨place, rest⟩, hsplit, h⟩ := Option.bind_eq_some_iff.1 h
    obtain ⟨⟨line, column⟩, hplace, h⟩ := Option.bind_eq_some_iff.1 h
    obtain ⟨word, hword, h⟩ := Option.bind_eq_some_iff.1 h
    obtain ⟨range, hrange, h⟩ := Option.bind_eq_some_iff.1 h
    obtain rfl := Option.some.inj h
    obtain rfl : range.start = column := (ColumnRange.spanning?_eq_some_iff.1 hrange).2.1
    obtain ⟨rfl, hspace⟩ := Text.splitFirst_eq_some_iff.1 hsplit
    exact ⟨place, rest, word, rfl, hspace, hplace, hword, hrange, rfl, rfl⟩
  · rintro ⟨place, rest, word, rfl, hspace, hplace, hword, hrange, hreason, hseverity⟩
    rw [ofChars?, Text.splitFirst_eq_some_iff.2 ⟨rfl, hspace⟩]
    simp [hplace, hword, hrange, ← hreason, ← hseverity]

/-- The parts of a line that is a record: the text up to the first space, in which the numbers `f`
and `g` stand side by side, and the text behind it, which is a reason that quotes a word. -/
structure Parts (place rest : List Char) (i : ℕ) (f g reason word : List Char) : Prop where
  space : ' ' ∉ place
  pair : Rightmost isNumber (Text.fields ':' place) i f g
  line_pos : 1 ≤ Text.digitsValue 10 f
  trims : Text.TrimsTo rest reason
  quoted : FirstQuoted reason word
  fits : Text.digitsValue 10 g + word.length < UInt32.size

/-- The record that the parts of a line tell. -/
structure Spells (place rest : List Char) (i : ℕ) (f g word : List Char) (r : Record) : Prop
    extends Parts place rest i f g r.reason.toList word where
  line : r.line.toNat = Text.digitsValue 10 f
  start : r.range.start.toNat = Text.digitsValue 10 g
  stop : r.range.stop.toNat = Text.digitsValue 10 g + word.length
  severity : r.severity = .warning

theorem toNat_ofNat_digitsValue (h : isNumber f = true) :
    (UInt32.ofNat (Text.digitsValue 10 f)).toNat = Text.digitsValue 10 f := by
  rw [isNumber, Bool.and_eq_true, decide_eq_true_eq] at h
  exact UInt32.toNat_ofNat_of_lt' h.2

theorem Parts.exists_spells {reason : List Char} (h : Parts place rest i f g reason word) :
    ∃ r, Spells place rest i f g word r := by
  have hstart := toNat_ofNat_digitsValue h.pair.holds_right
  have hstop := UInt32.toNat_ofNat_of_lt' h.fits
  have hword := List.length_pos_iff.2 (ne_nil_of_firstQuoted h.quoted)
  let range : ColumnRange :=
    { start := .ofNat (Text.digitsValue 10 g)
      stop := .ofNat (Text.digitsValue 10 g + word.length)
      start_lt_stop := by
        rw [UInt32.lt_iff_toNat_lt, hstart, hstop]
        omega }
  refine ⟨⟨.ofNat (Text.digitsValue 10 f), range, String.ofList reason, .warning⟩, ?_,
    toNat_ofNat_digitsValue h.pair.holds_left, hstart, hstop, rfl⟩
  rw [String.toList_ofList]
  exact h

theorem ofChars?_eq_some_iff_spells : ofChars? cs = some r ↔
    ∃ place rest i f g word, cs = place ++ ' ' :: rest ∧ Spells place rest i f g word r := by
  constructor
  · intro h
    obtain ⟨place, rest, word, rfl, hspace, hplace, hword, hrange, hreason, hseverity⟩ :=
      ofChars?_eq_some_iff.1 h
    obtain ⟨i, f, g, hpair, hf, hg, hpos⟩ := location?_eq_some_iff.1 hplace
    have hline := (number?_eq_some_iff.1 hf).2
    have hstart := (number?_eq_some_iff.1 hg).2
    have hstop := (ColumnRange.spanning?_eq_some_iff.1 hrange).2.2
    have htrim : Text.trim rest = r.reason.toList := by rw [hreason, String.toList_ofList]
    have hlt := r.range.stop.toNat_lt_size
    rw [UInt32.lt_iff_toNat_lt] at hpos
    exact ⟨place, rest, i, f, g, word, rfl,
      { space := hspace
        pair := hpair
        line := hline.symm
        line_pos := hline ▸ hpos
        start := hstart.symm
        trims := Text.trim_eq_iff.1 htrim
        quoted := token?_eq_some_iff.1 (htrim ▸ hword)
        fits := by omega
        stop := by omega
        severity := hseverity }⟩
  · rintro ⟨place, rest, i, f, g, word, rfl, h⟩
    have htrim : Text.trim rest = r.reason.toList := Text.trim_eq_iff.2 h.trims
    have hword : token? r.reason.toList = some word := token?_eq_some_iff.2 h.quoted
    have hplace : location? place = some (r.line, r.range.start) := by
      refine location?_eq_some_iff.2 ⟨i, f, g, h.pair, ?_, ?_, ?_⟩
      · exact number?_eq_some_iff.2 ⟨isNumeral_of_isNumber f h.pair.holds_left, h.line.symm⟩
      · exact number?_eq_some_iff.2 ⟨isNumeral_of_isNumber g h.pair.holds_right, h.start.symm⟩
      · rw [UInt32.lt_iff_toNat_lt, h.line]
        exact h.line_pos
    refine ofChars?_eq_some_iff.2 ⟨place, rest, word, rfl, h.space, hplace, htrim ▸ hword, ?_, ?_,
      h.severity⟩
    · rw [ColumnRange.spanning?_eq_some_iff, h.stop, h.start]
      exact ⟨List.length_pos_iff.2 (ne_nil_of_firstQuoted h.quoted), rfl, rfl⟩
    · rw [htrim, String.ofList_toList]

theorem Spells.one_le_line (h : Spells place rest i f g word r) : 1 ≤ r.line := by
  rw [UInt32.le_iff_toNat_le, h.line]
  exact h.line_pos

/-- A line is a record exactly if it has the parts of one, and they tell which. Lines are counted
from one, and a record covers at least one column. -/
theorem ofLine?_iff_spells (s : String) (r : Record) :
    (ofLine? s = some r ↔ ∃ place rest i f g word,
      s.toList = place ++ ' ' :: rest ∧ Spells place rest i f g word r) ∧
    ((∃ r, ofLine? s = some r) ↔ ∃ place rest i f g reason word,
      s.toList = place ++ ' ' :: rest ∧ Parts place rest i f g reason word) ∧
    (ofLine? s = some r → 1 ≤ r.line ∧ r.range.start < r.range.stop) := by
  have hread (r : Record) : ofLine? s = some r ↔ ∃ place rest i f g word,
      s.toList = place ++ ' ' :: rest ∧ Spells place rest i f g word r :=
    ofChars?_eq_some_iff_spells
  refine ⟨hread r, ⟨?_, ?_⟩, fun h => ⟨?_, r.range.start_lt_stop⟩⟩
  · rintro ⟨r, h⟩
    obtain ⟨place, rest, i, f, g, word, hs, hspells⟩ := (hread r).1 h
    exact ⟨place, rest, i, f, g, _, word, hs, hspells.toParts⟩
  · rintro ⟨place, rest, i, f, g, reason, word, hs, hparts⟩
    obtain ⟨r, hspells⟩ := hparts.exists_spells
    exact ⟨r, (hread r).2 ⟨place, rest, i, f, g, word, hs, hspells⟩⟩
  · obtain ⟨place, rest, i, f, g, word, -, hspells⟩ := (hread r).1 h
    exact hspells.one_le_line

/-- Digits in the path, zeros in front, a field behind the numbers, quotes without a word. -/
theorem ofLine?_iff_spells_crowded :
    let s := "v1:2:3:a.proto:007:4294967290:warning:  '''Größe' is 'odd' \r"
    let r : Record :=
      { line := 7
        range := ⟨4294967290, 4294967295, by decide⟩
        reason := "'''Größe' is 'odd'" }
    ofLine? s = some r ∧ (1 ≤ r.line ∧ r.range.start < r.range.stop) ∧
      ∃ place rest i f g word,
        s.toList = place ++ ' ' :: rest ∧ Spells place rest i f g word r := by
  intro s r
  have h : ofLine? s = some r := by decide +kernel
  exact ⟨h, (ofLine?_iff_spells s r).2.2 h, (ofLine?_iff_spells s r).1.1 h⟩

/-! ## The rightmost digits -/

theorem ofChars?_iff_of_space (hspace : ' ' ∉ place) : ofChars? (place ++ ' ' :: rest) = some r ↔
    ∃ i f g word, Spells place rest i f g word r := by
  rw [ofChars?_eq_some_iff_spells]
  constructor
  · rintro ⟨place', rest', i, f, g, word, heq, h⟩
    obtain ⟨rfl, rfl⟩ := Text.append_sep_inj hspace h.space heq
    exact ⟨i, f, g, word, h⟩
  · rintro ⟨i, f, g, word, h⟩
    exact ⟨place, rest, i, f, g, word, rfl, h⟩

/-- The rightmost two adjacent rows of digits decide if both fit in words: the record is located
there, and there is none if the line would be zero. If one of them does not fit, the record is
located at numbers further left, if there are any. -/
theorem ofLine?_of_rightmost_numerals (s : String) (place rest : List Char) (i : ℕ)
    (f g : List Char) (hs : s.toList = place ++ ' ' :: rest) (hspace : ' ' ∉ place)
    (h : Rightmost Text.isNumeral (Text.fields ':' place) i f g) :
    let fit := isNumber f = true ∧ isNumber g = true
    (fit → Text.digitsValue 10 f = 0 → ofLine? s = none) ∧
    (fit → ∀ r, ofLine? s = some r ↔ ∃ word, Spells place rest i f g word r) ∧
    (¬ fit → ∀ r, ofLine? s = some r ↔
      ∃ j f' g' word, j < i ∧ Spells place rest j f' g' word r) := by
  intro fit
  have hread (r : Record) :
      ofLine? s = some r ↔ ∃ j f' g' word, Spells place rest j f' g' word r := by
    rw [ofLine?, hs]
    exact ofChars?_iff_of_space hspace
  have hfit (hf : fit) (r : Record) :
      ofLine? s = some r ↔ ∃ word, Spells place rest i f g word r := by
    have hpair : Rightmost isNumber (Text.fields ':' place) i f g :=
      h.of_imp isNumeral_of_isNumber hf.1 hf.2
    rw [hread]
    constructor
    · rintro ⟨j, f', g', word, hr⟩
      obtain ⟨rfl, rfl, rfl⟩ := hpair.unique hr.pair
      exact ⟨word, hr⟩
    · rintro ⟨word, hr⟩
      exact ⟨i, f, g, word, hr⟩
  refine ⟨fun hf hzero => ?_, hfit, fun hf r => ?_⟩
  · rw [Option.eq_none_iff_forall_ne_some]
    intro r hr
    obtain ⟨word, hr⟩ := (hfit hf r).1 hr
    exact absurd hr.line_pos (by omega)
  · rw [hread]
    constructor
    · rintro ⟨j, f', g', word, hr⟩
      refine ⟨j, f', g', word, lt_of_le_of_ne (h.le isNumeral_of_isNumber hr.pair) ?_, hr⟩
      rintro rfl
      obtain rfl : f = f' := Option.some.inj (h.left.symm.trans hr.pair.left)
      obtain rfl : g = g' := Option.some.inj (h.right.symm.trans hr.pair.right)
      exact hf ⟨hr.pair.holds_left, hr.pair.holds_right⟩
    · rintro ⟨j, f', g', word, -, hr⟩
      exact ⟨j, f', g', word, hr⟩

/-- A line number that does not fit leaves the location to digits in the path. -/
theorem ofLine?_of_rightmost_numerals_large :
    let s := "a:7:8:b:4294967296:1: 'Foo' is not defined"
    let place := "a:7:8:b:4294967296:1:".toList
    let rest := "'Foo' is not defined".toList
    let r : Record :=
      { line := 7
        range := ⟨8, 11, by decide⟩
        reason := "'Foo' is not defined" }
    s.toList = place ++ ' ' :: rest ∧ ' ' ∉ place ∧
      Rightmost Text.isNumeral (Text.fields ':' place) 4 "4294967296".toList "1".toList ∧
      isNumber "4294967296".toList = false ∧ ofLine? s = some r ∧
      ∃ j f g word, j < 4 ∧ Spells place rest j f g word r := by
  intro s place rest r
  have hs : s.toList = place ++ ' ' :: rest := by decide +kernel
  have hspace : ' ' ∉ place := by decide +kernel
  have h : Rightmost Text.isNumeral (Text.fields ':' place) 4 "4294967296".toList "1".toList := by
    decide +kernel
  have hlarge : isNumber "4294967296".toList = false := by decide +kernel
  have hr : ofLine? s = some r := by decide +kernel
  have hleft := (ofLine?_of_rightmost_numerals s place rest 4 _ _ hs hspace h).2.2
    (fun hfit => Bool.noConfusion (hlarge.symm.trans hfit.1)) r
  exact ⟨hs, hspace, h, hlarge, hr, hleft.1 hr⟩

end Record

end DocumentLint
