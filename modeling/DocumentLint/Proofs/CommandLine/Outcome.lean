import DocumentLint.Proofs.CommandLine.Waiting
import DocumentLint.Proofs.Path.SortedOnce
import DocumentLint.Proofs.Session.Listing

/-! # What a run says

Three summaries are made of the runs of a job: its exit code, its list of
diagnostics and its remarks on files without any. All of them follow from what
each invocation is answered, whatever the order in which they end. A list that
cannot be written to its end has an exit code and a complaint of its own.
-/

namespace DocumentLint.CommandLine

open History

theorem exitCode_eq (completions : List Completion) : exitCode completions =
    if ∃ x ∈ completions, x.status = .launchFailed then 2
    else if ∃ x ∈ completions, x.stale = false ∧ x.status.hasFindings = true then 1
    else 0 := by
  have hempty : (Completion.withFindings completions).isEmpty = true ↔
      ¬ ∃ x ∈ completions, x.stale = false ∧ x.status.hasFindings = true := by
    rw [List.isEmpty_iff, Completion.withFindings, Completion.pathsWhere,
      Path.sortedOnce_eq_nil_iff, List.map_eq_nil_iff, List.filter_eq_nil_iff]
    simp
  have hfailed : (completions.any fun x => x.status == .launchFailed) = true ↔
      ∃ x ∈ completions, x.status = .launchFailed := by simp
  rw [exitCode, if_congr hfailed rfl (if_congr hempty rfl rfl), ite_not]

/-! ## What the answers say -/

/-- The process that an invocation ran; there is none if it failed to launch. -/
def process? (answer : Nat → Answer) (i : Invocation) : Option ProcessResult :=
  i.path.fileName?.bind fun _ => (answer i.number).toOption

/-- An invocation ran a process that did not exit with zero, be it that it was killed. -/
def ExitsNonZero (answer : Nat → Answer) (i : Invocation) : Prop :=
  ∃ r ∈ process? answer i, r.code ≠ some 0

instance (answer : Nat → Answer) : DecidablePred (ExitsNonZero answer) := fun i =>
  inferInstanceAs (Decidable (∃ r ∈ process? answer i, r.code ≠ some 0))

namespace Job

variable (j : Job) (answer : Nat → Answer)

/-- The records of a process, unless it exited with zero. -/
def recordsOf (r : ProcessResult) : List Record :=
  if r.code = some 0 then []
  else Transcript.records r.errorText j.settings.trailerLines j.settings.severity

def records (i : Invocation) : List Record := ((process? answer i).map j.recordsOf).getD []

/-- What is said of a file: the records of the invocation of the last target that names it. -/
def shown (p : Path) : List Record := ((j.last? p).map (j.records answer)).getD []

def exitStatus : Nat :=
  if ∃ i ∈ j.started, process? answer i = none then 2
  else if ∃ p ∈ j.targets, ∃ i ∈ j.last? p, ExitsNonZero answer i then 1
  else 0

def textLines : List String :=
  j.targets.flatMap fun p => (j.shown answer p).map (Record.render p)

/-- The invocations after which no target names their file again. -/
def lastOnes : List Invocation := j.started.filter fun i => j.last? i.path = some i

/-- The last invocations that did not exit with zero and left no records. -/
def unlocatedOnes : List Invocation :=
  j.lastOnes.filter fun i => ExitsNonZero answer i ∧ j.records answer i = []

def unlocated : List Path := ((j.unlocatedOnes answer).map (·.path)).mergeSort Path.le

/-- The list of diagnostics can be written to its end: entries are written for texts only. -/
def Writable : Prop := j.format = .json → ∀ p ∈ j.targets, p.IsText

instance : Decidable j.Writable := inferInstanceAs (Decidable (j.format = .json → _))

variable {j : Job} {c : Course} {i : Invocation}

theorem report_of_process? {r : ProcessResult} (h : process? c.answer i = some r) :
    (j.event c i).report = .ofAnswer j.settings (.ok r) := by
  obtain ⟨name, hn, ha⟩ := Option.bind_eq_some_iff.1 h
  have ha : c.answer i.number = .ok r := by
    cases hr : c.answer i.number <;> simp_all [Except.toOption]
  rw [event, Report.ofTarget, Command.ofTarget, hn, ha]

theorem exists_failure_of_process? (h : process? c.answer i = none) :
    ∃ failure, (j.event c i).report = .failed failure := by
  rw [event, Report.ofTarget, Command.ofTarget]
  cases hn : i.path.fileName? with
  | none => exact ⟨_, rfl⟩
  | some name =>
    cases ha : c.answer i.number with
    | error failure => exact ⟨failure, rfl⟩
    | ok r => simp [process?, hn, ha, Except.toOption] at h

theorem status_completion (j : Job) (c : Course) (i : Invocation) :
    (j.completion c i).status = match process? c.answer i with
      | some r => if r.code = some 0 then .clean else .findings (j.recordsOf r).length
      | none => .launchFailed := by
  rw [completion]
  cases hp : process? c.answer i with
  | none =>
    obtain ⟨failure, hf⟩ := exists_failure_of_process? (j := j) hp
    rw [hf]
    rfl
  | some r =>
    rw [report_of_process? hp]
    by_cases h0 : r.code = some 0 <;>
      simp [Report.ofAnswer, ProcessResult.success, recordsOf, Status.ofReport, h0]

theorem status_eq_launchFailed_iff :
    (j.completion c i).status = .launchFailed ↔ process? c.answer i = none := by
  rw [status_completion]
  cases process? c.answer i with
  | none => simp
  | some r => by_cases h0 : r.code = some 0 <;> simp [h0]

theorem hasFindings_status_iff :
    (j.completion c i).status.hasFindings = true ↔ ExitsNonZero c.answer i := by
  rw [status_completion, ExitsNonZero]
  cases process? c.answer i with
  | none => simp [Status.hasFindings]
  | some r => by_cases h0 : r.code = some 0 <;> simp [h0, Status.hasFindings]

theorem mem_completions_await_iff (hc : c.Covers j) (hn : j.documents.length < UInt64.size)
    {x : Completion} :
    x ∈ (c.await j.opened).completions ↔ ∃ i ∈ j.started, x = j.completion c i := by
  rw [(perm_completions_await hc hn).mem_iff, List.mem_map]
  simp only [eq_comm]

theorem mem_targets_of_mem_started (hi : i ∈ j.started) : i.path ∈ j.targets :=
  j.path_started ▸ List.mem_map_of_mem hi

theorem conclude_eq (j : Job) (c : Course) :
    j.conclude c =
      let s := c.await j.opened
      { code := exitCode s.completions
        stdout := s.snapshot.listing j.format j.targets
        refusal := j.format.refusal? j.targets
        stderr := unlines (skipped j.settings j.documents ++
          CommandLine.remarks s.notices s.completions)
        launched := s.launched } := by
  have hsettings : (c.await j.opened).settings = j.settings := j.settings_await c
  rw [targets, ← hsettings]
  rfl

theorem code_conclude_eq (j : Job) (c : Course) :
    (j.conclude c).code = exitCode (c.await j.opened).completions := by
  rw [conclude_eq]

theorem code_conclude (hc : c.Covers j) (hn : j.documents.length < UInt64.size) :
    (j.conclude c).code = j.exitStatus c.answer := by
  have hfailed : (∃ x ∈ (c.await j.opened).completions, x.status = .launchFailed) ↔
      ∃ i ∈ j.started, process? c.answer i = none := by
    simp only [mem_completions_await_iff hc hn]
    constructor
    · rintro ⟨_, ⟨i, hi, rfl⟩, hstatus⟩
      exact ⟨i, hi, status_eq_launchFailed_iff.1 hstatus⟩
    · rintro ⟨i, hi, hp⟩
      exact ⟨_, ⟨i, hi, rfl⟩, status_eq_launchFailed_iff.2 hp⟩
  have hfound : (∃ x ∈ (c.await j.opened).completions,
      x.stale = false ∧ x.status.hasFindings = true) ↔
        ∃ p ∈ j.targets, ∃ i ∈ j.last? p, ExitsNonZero c.answer i := by
    simp only [mem_completions_await_iff hc hn]
    constructor
    · rintro ⟨_, ⟨i, hi, rfl⟩, hstale, hstatus⟩
      have hlast : j.last? i.path = some i := by simpa [completion] using hstale
      exact ⟨i.path, mem_targets_of_mem_started hi, i, hlast, hasFindings_status_iff.1 hstatus⟩
    · rintro ⟨p, -, i, hi, hexit⟩
      obtain ⟨hstarted, hp⟩ := mem_started_of_last? hi
      have hlast : j.last? i.path = some i := last?_congr hp ▸ hi
      exact ⟨_, ⟨i, hstarted, rfl⟩, by simp [completion, hlast], hasFindings_status_iff.2 hexit⟩
  rw [code_conclude_eq, exitCode_eq, exitStatus, if_congr hfailed rfl rfl,
    if_congr hfound rfl rfl]

theorem refusal_conclude (j : Job) (c : Course) :
    (j.conclude c).refusal = if j.Writable then none else some .pathNotText := by
  rw [conclude_eq]
  rfl

theorem delivered_conclude (j : Job) (c : Course) :
    (j.conclude c).delivered none =
      if j.Writable then j.conclude c else (j.conclude c).failed .pathNotText := by
  rw [Outcome.delivered, ite_self, refusal_conclude]
  split_ifs <;> rfl

theorem code_delivered (hc : c.Covers j) (hn : j.documents.length < UInt64.size) :
    ((j.conclude c).delivered none).code = if j.Writable then j.exitStatus c.answer else 1 := by
  rw [delivered_conclude, ← code_conclude hc hn]
  split_ifs <;> rfl

theorem stdout_delivered (j : Job) (c : Course) : ((j.conclude c).delivered none).stdout =
    (c.await j.opened).snapshot.listing j.format j.targets := by
  rw [delivered_conclude, conclude_eq]
  split_ifs <;> rfl

end Job

end DocumentLint.CommandLine
