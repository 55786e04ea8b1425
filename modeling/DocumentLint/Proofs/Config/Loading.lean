import Mathlib.Data.Set.Insert
import DocumentLint.Config.Source
import DocumentLint.Proofs.Config.Expansion

/-! # References in settings

Whether a text holds settings is told before any reference is expanded. The binary, its arguments
and the output setting are then expanded in the environment, each on its own; the language marker
is not, so the same documents are linted in every environment.
-/

namespace DocumentLint.Settings

variable {lookup lookup' : String → Option String} {document : String} {written s s' : Settings}

def ofText (document : String) : Except ParseFailure Settings :=
  match Toml.document? document with
  | none => .error .malformed
  | some v => ofDocument v

theorem parse_eq (lookup : String → Option String) (document : String) :
    parse lookup document = (ofText document).map (Expansion.settings lookup) := by
  unfold parse ofText
  cases Toml.document? document <;> rfl

theorem parse_eq_ok_iff :
    parse lookup document = .ok s ↔
      ∃ written, ofText document = .ok written ∧ s = Expansion.settings lookup written := by
  rw [parse_eq]
  cases ofText document with
  | error failure => simp [Except.map]
  | ok written => simp [Except.map, eq_comm]

theorem parse_eq_error_iff {failure : ParseFailure} :
    parse lookup document = .error failure ↔ ofText document = .error failure := by
  rw [parse_eq]
  cases ofText document with
  | error failure => simp [Except.map]
  | ok written => simp [Except.map]

/-! ## Places of texts -/

inductive Place where
  | binary
  | argument (i : Nat)
  | lintOut
  | languageMarker
  deriving DecidableEq, Repr

def textAt? (s : Settings) : Place → Option String
  | .binary => some s.binary
  | .argument i => s.args[i]?
  | .lintOut => some s.lintOut
  | .languageMarker => some s.languageMarker

structure Expands (lookup : String → Option String) (places : Set Place) (written s : Settings) :
    Prop where
  expanded : ∀ place ∈ places,
    s.textAt? place = (written.textAt? place).map (Expansion.text lookup)
  kept : ∀ place ∉ places, s.textAt? place = written.textAt? place
  enabled : s.enabled = written.enabled
  severity : s.severity = written.severity
  trailerLines : s.trailerLines = written.trailerLines

theorem Expands.unique {places : Set Place} (h : Expands lookup places written s)
    (h' : Expands lookup places written s') : s = s' := by
  have htext (place : Place) : s.textAt? place = s'.textAt? place := by
    by_cases hplace : place ∈ places
    · rw [h.expanded place hplace, h'.expanded place hplace]
    · rw [h.kept place hplace, h'.kept place hplace]
  have hbinary : s.binary = s'.binary := Option.some.inj (htext .binary)
  have hargs : s.args = s'.args := List.ext_getElem? fun i => htext (.argument i)
  have hlintOut : s.lintOut = s'.lintOut := Option.some.inj (htext .lintOut)
  have hmarker : s.languageMarker = s'.languageMarker := Option.some.inj (htext .languageMarker)
  have henabled : s.enabled = s'.enabled := h.enabled.trans h'.enabled.symm
  have hseverity : s.severity = s'.severity := h.severity.trans h'.severity.symm
  have htrailer : s.trailerLines = s'.trailerLines := h.trailerLines.trans h'.trailerLines.symm
  cases s
  cases s'
  rw [mk.injEq]
  exact ⟨henabled, hbinary, hargs, hlintOut, hmarker, hseverity, htrailer⟩

theorem expands_settings (lookup : String → Option String) (written : Settings) :
    Expands lookup {.languageMarker}ᶜ written (Expansion.settings lookup written) where
  expanded place hplace := by
    cases place with
    | binary => rfl
    | argument i => simp [textAt?, Expansion.settings]
    | lintOut => rfl
    | languageMarker => exact absurd rfl hplace
  kept place hplace := by
    obtain rfl : place = .languageMarker := by simpa using hplace
    rfl
  enabled := rfl
  severity := rfl
  trailerLines := rfl

theorem accepts_eq_of_parse (h : parse lookup document = .ok s)
    (h' : parse lookup' document = .ok s') (language : Language) :
    s.accepts language = s'.accepts language := by
  obtain ⟨written, hwritten, rfl⟩ := parse_eq_ok_iff.1 h
  obtain ⟨written', hwritten', rfl⟩ := parse_eq_ok_iff.1 h'
  obtain rfl : written = written' := Except.ok.inj (hwritten.symm.trans hwritten')
  rfl

theorem expands_univ_iff (h : Expands lookup {.languageMarker}ᶜ written s) :
    Expands lookup Set.univ written s ↔
      Expansion.text lookup written.languageMarker = written.languageMarker := by
  have hmarker : s.languageMarker = written.languageMarker :=
    Option.some.inj (h.kept .languageMarker (by simp))
  constructor
  · intro hall
    have hexpanded : s.languageMarker = Expansion.text lookup written.languageMarker :=
      Option.some.inj (hall.expanded .languageMarker (Set.mem_univ _))
    exact hexpanded.symm.trans hmarker
  · intro hfixed
    refine ⟨fun place _ => ?_, fun place hplace => absurd (Set.mem_univ _) hplace,
      h.enabled, h.severity, h.trailerLines⟩
    by_cases hplace : place = .languageMarker
    · subst hplace
      simp [textAt?, hmarker, hfixed]
    · exact h.expanded place hplace

/-- A document that holds settings gives them in every environment, with every text expanded but
the language marker. No text is left out exactly if expansion keeps the marker, and that is so in
every environment exactly if the marker holds no reference. -/
theorem parse_expands_texts (h : ofText document = .ok written) :
    (∀ lookup, ∃ s, parse lookup document = .ok s ∧
      (∀ t, Expands lookup {.languageMarker}ᶜ written t ↔ t = s) ∧
      (Expands lookup Set.univ written s ↔
        Expansion.text lookup written.languageMarker = written.languageMarker)) ∧
    ((∀ lookup, ∃ s, parse lookup document = .ok s ∧ Expands lookup Set.univ written s) ↔
      ¬ Expansion.HasReference written.languageMarker.toList) := by
  have hparse (lookup : String → Option String) :
      parse lookup document = .ok (Expansion.settings lookup written) :=
    parse_eq_ok_iff.2 ⟨written, h, rfl⟩
  refine ⟨fun lookup => ⟨_, hparse lookup, fun t => ⟨fun ht => ?_, ?_⟩, ?_⟩, ?_⟩
  · exact ht.unique (expands_settings lookup written)
  · rintro rfl
    exact expands_settings lookup written
  · exact expands_univ_iff (expands_settings lookup written)
  · rw [← Expansion.forall_text_eq_iff]
    constructor
    · intro hall lookup
      obtain ⟨s, hs, hexpands⟩ := hall lookup
      obtain rfl : s = Expansion.settings lookup written :=
        Except.ok.inj (hs.symm.trans (hparse lookup))
      exact (expands_univ_iff (expands_settings lookup written)).1 hexpands
    · intro hfixed lookup
      have hexpands := expands_settings lookup written
      exact ⟨_, hparse lookup, (expands_univ_iff hexpands).2 (hfixed lookup)⟩

/-- A marker may be a reference too, and then it is searched for as it is written. -/
theorem parse_expands_texts_marker :
    let lookup (name : String) : Option String := if name = "KIND" then some "proto" else none
    let document := "[linter]\nargs = ['-I', '$\x7bKIND\x7ds']\nlanguage_marker = '$\x7bKIND\x7d'\n"
    let written : Settings :=
      { args := ["-I", "$\x7bKIND\x7ds"], languageMarker := "$\x7bKIND\x7d" }
    let s : Settings := { args := ["-I", "protos"], languageMarker := "$\x7bKIND\x7d" }
    ofText document = .ok written ∧ parse lookup document = .ok s ∧
      Expands lookup {.languageMarker}ᶜ written s ∧ ¬ Expands lookup Set.univ written s := by
  intro lookup document written s
  have hwritten : ofText document = .ok written := by
    have hsome : (ofText document).toOption = some written := by decide +kernel
    cases htext : ofText document with
    | error failure => simp [htext, Except.toOption] at hsome
    | ok t =>
      obtain rfl : t = written := by simpa [htext, Except.toOption] using hsome
      rfl
  obtain ⟨t, ht, hexpands, hall⟩ := (parse_expands_texts hwritten).1 lookup
  have hs : Expansion.settings lookup written = s := by decide +kernel
  obtain rfl : t = s := by
    rw [parse_eq, hwritten] at ht
    exact (Except.ok.inj ht).symm.trans hs
  refine ⟨hwritten, ht, (hexpands s).2 rfl, ?_⟩
  rw [hall]
  decide +kernel

end DocumentLint.Settings
