import DocumentLint.CommandLine.Run

/-! # The program

Collects the surroundings of a run and writes out what comes of it. No
process can be started from here, so that every launch meets the fault of a
system without processes.
-/

namespace DocumentLint.Main

/-- Error numbers come with either sign. -/
def fault : IO.Error → Host.Fault
  | .noFileOrDirectory _ code _ | .permissionDenied _ code _ | .inappropriateType _ code _ =>
    .code code.toInt32.toInt.natAbs
  | e => .custom .other (toString e)

def readBytes (path : Path) : IO (Except Host.Fault (List UInt8)) := do
  try
    let bytes ← IO.FS.readBinFile path.text
    return .ok bytes.toList
  catch e => return .error (fault e)

/-- Whether a path can be followed to its end. -/
def isPresent (path : Path) : IO Bool := do
  try
    let _ ← IO.FS.realPath path.text
    return true
  catch _ => return false

def environment : IO Host.Environment := do
  match ← readBytes ⟨"/proc/self/environ"⟩ with
  | .ok bytes => return ⟨(Text.fields 0 bytes).map Octets.mk⟩
  | .error _ => return ⟨[]⟩

def currentDirectory : IO (Except Host.Fault Path) := do
  try
    return .ok ⟨toString (← IO.currentDir)⟩
  catch e => return .error (fault e)

/-- Runs the command line in the surroundings of this process, up to the writing of its output. -/
def runHere (arguments : List String) : IO CommandLine.Outcome := do
  let arguments := arguments.map Octets.ofText
  let environment ← environment
  let account : Path := ⟨"/"⟩
  let named := match CommandLine.parse arguments with
    | .ok options => options.config
    | .error _ => none
  let place := named.getD (Settings.defaultPath (Settings.homeDirectory environment account))
  let content ← readBytes place
  let present ← isPresent place
  let (cwd, cwdFault) := match ← currentDirectory with
    | .ok cwd => (cwd, none)
    | .error fault => (⟨""⟩, some fault)
  return CommandLine.attempt
    { cwd, cwdFault, account, environment
      read := fun _ => content
      present := fun _ => present
      launch := fun c => .error (.ofFault c.program (.bare .unsupported)) }
    arguments

/-- Writes out what an attempt has for the standard output. -/
def deliver (outcome : CommandLine.Outcome) : IO CommandLine.Outcome := do
  let stdout ← IO.getStdout
  try
    stdout.putStr outcome.stdout
    stdout.flush
    return outcome.delivered none
  catch e => return outcome.delivered (some (fault e))

end DocumentLint.Main

def main (arguments : List String) : IO UInt32 := do
  let outcome ← DocumentLint.Main.deliver (← DocumentLint.Main.runHere arguments)
  (← IO.getStderr).putStr outcome.stderr
  return outcome.code.toUInt32
