import DocumentLint.CommandLine.Arguments
import DocumentLint.Config.Source
import DocumentLint.Session.Basic

/-! # Runs of the command line

Every file is treated as a document that has just been opened. When all runs
have ended, the diagnostics are listed, and the exit code tells the worst that
happened: 2 for a linter that could not be run, 1 for findings, else 0.
-/

namespace DocumentLint.CommandLine

/-- What a run of the program depends on besides its arguments. -/
structure Surroundings where
  cwd : Path
  /-- Why the working directory cannot be told, if so. -/
  cwdFault : Option Host.Fault := none
  /-- The home directory of the account, in case its variable is not set. -/
  account : Path
  environment : Host.Environment
  read : Path → Except Host.Fault (List UInt8)
  /-- Whether there is anything at a path. -/
  present : Path → Bool := fun path => Host.Fault.tellsPresence (read path)
  launch : Command → Answer

structure Outcome where
  code : Nat
  stdout : String := ""
  /-- Why the output breaks off, if it does. -/
  refusal : Option Host.Fault := none
  stderr : String := ""
  launched : List Command := []

def unlines (lines : List String) : String := String.join (lines.map (· ++ "\n"))

/-! ## Lint sessions of the command line -/

def Options.language (o : Options) (path : Path) : Language :=
  match o.languageId with
  | some id => ⟨id⟩
  | none => .ofPath path

/-- The files of the arguments, made absolute, with their languages. -/
def documents (cwd : Path) (o : Options) : List (Path × Language) :=
  o.files.map fun file =>
    let path := file.absolute cwd
    (path, o.language path)

def openAll (settings : Settings) (documents : List (Path × Language)) : Session :=
  documents.foldl (fun s d => (s.trigger d.1 d.2).2) { settings }

/-- The documents that are linted, in the order of the arguments. -/
def targets (settings : Settings) (documents : List (Path × Language)) : List Path :=
  (documents.filter fun d => settings.accepts d.2).map (·.1)

def skipped (settings : Settings) (documents : List (Path × Language)) : List String :=
  (documents.filter fun d => !settings.accepts d.2).map fun (path, language) =>
    s!"protolens: skipping {path.text} (language '{language.id}' is not linted)"

def exitCode (completions : List Completion) : Nat :=
  if completions.any fun c => c.status == .launchFailed then 2
  else if (Completion.withFindings completions).isEmpty then 0
  else 1

def noticeLine (notice : Notice) : String := s!"protolens: {notice.message}"

def unlocatedLine (path : Path) : String :=
  s!"protolens: {path.text}: linter reported problems without locatable diagnostics"

/-- What is said in the end of the notices and completions of a session. -/
def remarks (notices : List Notice) (completions : List Completion) : List String :=
  notices.map noticeLine ++ (Completion.unlocated completions).map unlocatedLine

/-- The outcome of a session in which every run has ended, in whatever order. -/
def conclude (format : Format) (documents : List (Path × Language)) (s : Session) : Outcome :=
  let (notices, s) := s.takeNotices
  let (completions, s) := s.takeCompletions
  { code := exitCode completions
    stdout := s.snapshot.listing format (targets s.settings documents)
    refusal := format.refusal? (targets s.settings documents)
    stderr := unlines (skipped s.settings documents ++ remarks notices completions)
    launched := s.launched }

/-- Lints documents; each launched command ends with its answer. -/
def lint (settings : Settings) (launch : Command → Answer) (format : Format)
    (documents : List (Path × Language)) : Outcome :=
  conclude format documents ((openAll settings documents).idle fun i =>
    .answered (Command.ofTarget settings i.path >>= launch))

/-! ## Failures of the program itself -/

/-- A numbered cause; its further lines are set in below the first. -/
def cause (number : Nat) (message : String) : String :=
  let lines := (Text.fields '\n' message.toList).map String.ofList
  s!"    {number}: " ++ "\n       ".intercalate lines

def ofFailure (failure : ConfigFailure) : Outcome :=
  let causes := match failure with
    | .unreadable _ fault => [cause 0 failure.message, cause 1 fault.message]
    | .invalid path _ => [cause 0 s!"failed to parse config at {path.text}:"]
  { code := 1, stderr := unlines (["Error: loading configuration", "", "Caused by:"] ++ causes) }

/-- The first file that needs the working directory when that cannot be told. -/
def Surroundings.unresolved? (w : Surroundings) (files : List Path) : Option (Path × Host.Fault) :=
  w.cwdFault.bind fun fault => (files.find? fun file => !file.isAbsolute).map fun file =>
    (file, fault)

/-- Only the documents in front of a file that cannot be resolved are looked at. -/
def ofUnresolved (file : Path) (fault : Host.Fault) (skipped : List String) : Outcome :=
  { code := 1
    stderr := unlines (skipped ++
      ["Error: resolving path " ++ file.text, "", "Caused by:", "    " ++ fault.message]) }

def Outcome.failed (o : Outcome) (fault : Host.Fault) : Outcome :=
  { o with
    code := 1
    refusal := none
    stderr := o.stderr ++
      unlines ["Error: writing diagnostics", "", "Caused by:", "    " ++ fault.message] }

/-- The outcome when standard output may be at fault, which is noticed only if there is
something to write. Where the output breaks off, what was written before stays. -/
def Outcome.delivered (o : Outcome) (fault? : Option Host.Fault) : Outcome :=
  match if o.stdout.isEmpty then none else fault?, o.refusal with
  | some fault, _ => { o.failed fault with stdout := "" }
  | none, some fault => o.failed fault
  | none, none => o

def ofStop : Stop → Outcome
  | .usage e => { code := 2, stderr := unlines ["error: " ++ e.message] }
  | .version => { code := 0, stdout := "protolens 0.1.0\n" }
  | .help => { code := 0 }

/-! ## Whole runs -/

/-- What is left to do when the arguments are read, the settings loaded and the files resolved. -/
structure Job where
  settings : Settings
  format : Format
  documents : List (Path × Language)

def Surroundings.job (w : Surroundings) (options : Options) (settings : Settings) : Job where
  settings := { settings with binary := options.linter.getD settings.binary }
  format := options.format.getD .text
  documents := documents w.cwd options

def prepare (w : Surroundings) (arguments : List Octets) : Except Outcome Job :=
  match parse arguments with
  | .error stop => .error (ofStop stop)
  | .ok options =>
    match Settings.load w.read w.environment w.account options.config w.present with
    | .error failure => .error (ofFailure failure)
    | .ok settings =>
      let job := w.job options settings
      match w.unresolved? options.files with
      | some (file, fault) =>
        let resolved := job.documents.take (options.files.takeWhile Path.isAbsolute).length
        .error (ofUnresolved file fault (skipped job.settings resolved))
      | none => .ok job

/-- A run up to the writing of its output. -/
def attempt (w : Surroundings) (arguments : List Octets) : Outcome :=
  match prepare w arguments with
  | .error outcome => outcome
  | .ok job => lint job.settings w.launch job.format job.documents

def run (w : Surroundings) (arguments : List Octets) : Outcome :=
  (attempt w arguments).delivered none

end DocumentLint.CommandLine
