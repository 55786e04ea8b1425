import DocumentLint.Proofs.Diagnostic.Rendering
import DocumentLint.Proofs.Session.Verdicts
import DocumentLint.Proofs.Snapshot.Order

/-! # Listings of sessions

Whatever a session shows of a file was read from the lines of a linter, so the
listing of its snapshot is a linter's text once more.
-/

namespace DocumentLint.Session

open History

theorem exists_result_of_mem_diagnostics {settings : Settings} {as : List Action} {p : Path}
    {r : Record} (hr : r ∈ (after settings as).diagnostics p) :
    ∃ i result, .ended i (.answered (.ok result)) ∈ history { settings } as ∧
      r ∈ Transcript.records result.errorText settings.trailerLines settings.severity := by
  have t : Tracks (history { settings } as) (after settings as) := tracks_after settings as
  have hs : (after settings as).settings = settings := settings_acts { settings } as
  rw [diagnostics_eq, t.verdicts, records_verdict?_eq] at hr
  cases hd : decisive? (history { settings } as) p with
  | none => simp [hd] at hr
  | some e =>
    obtain ⟨result, hended, hrecords⟩ := t.lawful.exists_result_of_decisive? hd
    rw [hd, Option.map_some, Option.getD_some, hrecords, hs, ← result.errorText_eq] at hr
    split at hr
    · cases hr
    · exact ⟨e.invocation, result, hended, hr⟩

theorem legible_of_mem_diagnostics {settings : Settings} {as : List Action} {p : Path} {r : Record}
    (hr : r ∈ (after settings as).diagnostics p) :
    r.Legible ∧ r.severity = settings.severity := by
  obtain ⟨_, _, -, hr⟩ := exists_result_of_mem_diagnostics hr
  exact Transcript.legible_of_mem_records hr

theorem forFile_snapshot (s : Session) (p : Path) : s.snapshot.forFile p = s.diagnostics p :=
  Snapshot.forFile_ofMap _ p

/-- The text that lists what a session found reads back as just that, target by target. Each
reason has the label of its severity in front; the paths may hold colons and digits. -/
theorem records_listing_after (settings : Settings) (as : List Action) (targets : List Path)
    (ht : ∀ path ∈ targets, ' ' ∉ path.text.toList ∧ '\n' ∉ path.text.toList) :
    let s := (after settings as).snapshot
    Transcript.records (s.listing .text targets) 0 settings.severity =
      targets.flatMap fun path => (s.forFile path).map fun r =>
        { r with reason := r.severity.label ++ ": " ++ r.reason } := by
  refine Snapshot.records_listing (fun path _ r hr => ?_) ht
  rw [forFile_snapshot] at hr
  exact legible_of_mem_diagnostics hr

/-- A path that looks like a location is not mistaken for one. -/
theorem records_listing_after_numbered :
    let path : Path := ⟨"7:8:/a.proto:1:2:"⟩
    let result : ProcessResult :=
      { code := some 1, stderr := "a.proto:3:5: 'Foo' is unknown\r\na.proto:0:1: 'Bar'" }
    let as : List Action := [.trigger path ⟨"proto"⟩, .finish 1 (.answered (.ok result)), .poll 1]
    let s := (after {} as).snapshot
    (∀ p ∈ [path], ' ' ∉ p.text.toList ∧ '\n' ∉ p.text.toList) ∧
      s.listing .text [path] = "7:8:/a.proto:1:2::3:5: warning: 'Foo' is unknown\n" ∧
      Transcript.records (s.listing .text [path]) 0 .warning =
        [path].flatMap fun p => (s.forFile p).map fun r =>
          { r with reason := r.severity.label ++ ": " ++ r.reason } :=
  ⟨by decide, by decide +kernel, records_listing_after {} _ _ (by decide)⟩

end DocumentLint.Session
