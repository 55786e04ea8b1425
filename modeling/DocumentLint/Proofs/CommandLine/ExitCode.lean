import DocumentLint.Proofs.CommandLine.Outcome
import DocumentLint.Proofs.Session.Launches

/-! # The exit code for findings

A run that gets as far as linting exits with 1 only after a process that found
something, unless its diagnostics cannot be written. The same code stands for
settings that cannot be loaded and files that cannot be resolved, though no
process was launched then.
-/

namespace DocumentLint.CommandLine

open History

variable {j : Job} {c : Course} {i : Invocation}

/-- The linter was run to its end on a target and did not exit with zero. -/
def Job.Found (j : Job) (c : Course) (launched : List Command) : Prop :=
  ∃ i ∈ j.started, i.number ∈ c.order ∧
    ∃ command ∈ launched, Command.ofTarget j.settings i.path = .ok command ∧
      ∃ result, c.answer i.number = .ok result ∧ result.code ≠ some 0

theorem exists_of_exitsNonZero {answer : Nat → Answer} (settings : Settings)
    (h : ExitsNonZero answer i) :
    (∃ command, Command.ofTarget settings i.path = .ok command) ∧
      ∃ result, answer i.number = .ok result ∧ result.code ≠ some 0 := by
  obtain ⟨result, hr, h0⟩ := h
  obtain ⟨name, hn, ha⟩ := Option.bind_eq_some_iff.1 hr
  refine ⟨⟨_, by rw [Command.ofTarget, hn]⟩, result, ?_, h0⟩
  cases hr : answer i.number <;> simp_all [Except.toOption]

namespace Job

theorem launched_conclude (j : Job) (c : Course) : (j.conclude c).launched =
    j.started.flatMap fun i => (Command.ofTarget j.settings i.path).toOption.toList := by
  have hopened : j.opened.launches = j.started.flatMap (Session.launchesOf j.settings) := by
    rw [opened_eq, Session.after, Session.launches_acts, started_eq]
    rfl
  have hawait : (c.await j.opened).launches = j.opened.launches := by
    rw [c.await_eq, Session.launches_acts, ← awaited, (j.quiet_awaited c).scheduled_eq_nil,
      List.flatMap_nil, List.append_nil]
  have hlaunched : (j.conclude c).launched = (c.await j.opened).launched := by
    rw [conclude_eq]
  rw [hlaunched, Session.launched, hawait, hopened, List.map_flatMap]
  exact List.flatMap_congr fun i _ => Session.commands_launchesOf j.settings i

theorem found_of_code_conclude (h : (j.conclude c).code = 1) :
    j.Found c (j.conclude c).launched := by
  have hfound : ∃ x ∈ (c.await j.opened).completions, x.status.hasFindings = true := by
    rw [code_conclude_eq, exitCode_eq] at h
    split at h
    · cases h
    · split at h
      · next hx =>
        obtain ⟨x, hx, -, hstatus⟩ := hx
        exact ⟨x, hx, hstatus⟩
      · cases h
  obtain ⟨x, hx, hstatus⟩ := hfound
  rw [completions_await] at hx
  obtain ⟨y, hy, rfl⟩ := List.mem_map.1 hx
  obtain ⟨i, hi, hm, -, hreport⟩ := event_of_mem_handled hy
  rw [hreport] at hstatus
  obtain ⟨⟨command, hcommand⟩, hresult⟩ :=
    exists_of_exitsNonZero j.settings (hasFindings_status_iff.1 hstatus)
  refine ⟨i, hi, hm, command, ?_, hcommand, hresult⟩
  rw [launched_conclude, List.mem_flatMap]
  exact ⟨i, hi, by simp [hcommand, Except.toOption]⟩

end Job

/-! ## Runs that end before anything is linted -/

structure Aborted (o : Outcome) : Prop where
  code : o.code = 1
  stdout : o.stdout = ""
  refusal : o.refusal = none
  launched : o.launched = []

variable {w : Surroundings} {arguments : List Octets} {options : Options} {settings : Settings}

theorem Aborted.code_delivered {o : Outcome} (h : Aborted o) (fault? : Option Host.Fault) :
    (o.delivered fault?).code = 1 := by
  have hempty : o.stdout.isEmpty = true := by simp [h.stdout]
  rw [Outcome.delivered, if_pos hempty, h.refusal]
  exact h.code

theorem aborted_of_failure {failure : ConfigFailure} (hp : parse arguments = .ok options)
    (hl : Settings.load w.read w.environment w.account options.config w.present =
      .error failure) : Aborted (runBy w arguments c) := by
  have hj : prepare w arguments = .error (ofFailure failure) := by
    simp only [prepare, hp, hl]
  rw [runBy, hj]
  exact ⟨rfl, rfl, rfl, rfl⟩

theorem aborted_of_unresolved {x : Path × Host.Fault} (hp : parse arguments = .ok options)
    (hl : Settings.load w.read w.environment w.account options.config w.present = .ok settings)
    (hr : w.unresolved? options.files = some x) : Aborted (runBy w arguments c) := by
  have hj : ∃ lines, prepare w arguments = .error (ofUnresolved x.1 x.2 lines) := by
    simp only [prepare, hp, hl, hr]
    exact ⟨_, rfl⟩
  obtain ⟨lines, hj⟩ := hj
  rw [runBy, hj]
  exact ⟨rfl, rfl, rfl, rfl⟩

theorem Outcome.code_delivered_of_not_fault {o : Outcome} {fault? : Option Host.Fault}
    (hf : ¬ (fault?.isSome = true ∧ o.stdout ≠ "")) (hrefusal : o.refusal = none) :
    (o.delivered fault?).code = o.code := by
  have hnone : (if o.stdout.isEmpty then none else fault?) = none := by
    cases fault? with
    | none => exact ite_self _
    | some fault =>
      have hempty : o.stdout = "" := by simpa using hf
      simp [hempty]
  rw [Outcome.delivered, hnone, hrefusal]

/-- A run exits with 1 if its settings cannot be loaded or one of its files cannot be resolved,
and no process is launched then. Otherwise it does so only if there are diagnostics that cannot
be written, be it for the output or for the name of a target, or if a process was launched and
ended, but did not exit with zero. -/
theorem code_delivered_runBy (w : Surroundings) (arguments : List Octets) (options : Options)
    (c : Course) (fault? : Option Host.Fault) (hp : parse arguments = .ok options) :
    let load := Settings.load w.read w.environment w.account options.config w.present
    let o := runBy w arguments c
    let code := (o.delivered fault?).code
    (∀ failure, load = .error failure → code = 1 ∧ o.launched = []) ∧
    ∀ settings, load = .ok settings →
      (∀ x, w.unresolved? options.files = some x → code = 1 ∧ o.launched = []) ∧
      (w.unresolved? options.files = none → code = 1 →
        (fault?.isSome = true ∧ o.stdout ≠ "") ∨ ¬ (w.job options settings).Writable ∨
          (w.job options settings).Found c o.launched) := by
  intro load o code
  refine ⟨fun failure hl => ?_, fun settings hl => ⟨fun x hr => ?_, fun hr h1 => ?_⟩⟩
  · have h : Aborted o := aborted_of_failure hp hl
    exact ⟨h.code_delivered fault?, h.launched⟩
  · have h : Aborted o := aborted_of_unresolved hp hl hr
    exact ⟨h.code_delivered fault?, h.launched⟩
  · have ho : o = (w.job options settings).conclude c :=
      runBy_eq_conclude (prepare_of_resolved hp hl hr) c
    by_cases hf : fault?.isSome = true ∧ o.stdout ≠ ""
    · exact .inl hf
    · by_cases hw : (w.job options settings).Writable
      · have hrefusal : o.refusal = none := by
          rw [ho, Job.refusal_conclude, if_pos hw]
        have hcode : code = o.code := Outcome.code_delivered_of_not_fault hf hrefusal
        right; right
        rw [ho] at hcode ⊢
        exact Job.found_of_code_conclude (hcode ▸ h1)
      · exact .inr (.inl hw)

/-- With a configuration file that is not there, a run exits as if it had found something. -/
theorem code_delivered_runBy_missing :
    let w : Surroundings :=
      { cwd := ⟨"/cwd"⟩
        account := ⟨"/"⟩
        environment := ⟨[]⟩
        read := fun _ => .error Host.Fault.noSuchFile
        launch := fun _ => .ok { code := some 0 } }
    let arguments := ["--config", "missing.toml", "a.proto"].map Octets.ofText
    let options : Options := { files := [⟨"a.proto"⟩], config := some ⟨"missing.toml"⟩ }
    let c : Course := { order := [1], answer := fun _ => .ok { code := some 0 } }
    let o := runBy w arguments c
    parse arguments = .ok options ∧
      Settings.load w.read w.environment w.account options.config w.present =
        .error (.unreadable ⟨"missing.toml"⟩ Host.Fault.noSuchFile) ∧
      run w arguments = o ∧ (o.delivered none).code = 1 ∧ o.launched = [] := by
  intro w arguments options c o
  have hp : parse arguments = .ok options := by decide +kernel
  have hl : Settings.load w.read w.environment w.account options.config w.present =
      .error (.unreadable ⟨"missing.toml"⟩ Host.Fault.noSuchFile) := rfl
  have hj : prepare w arguments = .error (ofFailure (.unreadable ⟨"missing.toml"⟩
      Host.Fault.noSuchFile)) := by
    simp only [prepare, hp, hl]
  have hrun : run w arguments = o := by
    simp only [o, run, attempt, runBy, hj]
    rfl
  exact ⟨hp, hl, hrun, (code_delivered_runBy w arguments options c none hp).1 _ hl⟩

end DocumentLint.CommandLine
