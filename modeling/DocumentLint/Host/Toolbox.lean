import DocumentLint.Host.Files
import DocumentLint.Linter.Report
import DocumentLint.Text.Utf8

/-! # Toolboxes

A toolbox is a directory of programs together with what they would answer. A
binary of one component is looked up there, a longer one from the working directory.
What runs answers by the file that it is to lint, its second to last argument.
-/

namespace DocumentLint.Host

/-- What becomes of a program when it is started. -/
inductive Tool where
  | runs
  | badFormat
  | missingInterpreter
  | deniedInterpreter
  | notExecutable
  | directory
  deriving DecidableEq, Repr

structure Response where
  /-- A process without an exit code was killed. -/
  code : Option Int32 := some 0
  stdout : List UInt8 := []
  stderr : List UInt8 := []
  deriving DecidableEq, Repr

structure Toolbox where
  files : Files
  /-- The names that lead to the directory of the programs. -/
  bin : List Octets
  tools : List (String × Tool)
  responses : List (String × Response)
  /-- The answer about every file that has none of its own. -/
  fallback : Response := {}

namespace Toolbox

/-- A toolbox in the directory `bin` of the working directory, within a tree of other files. -/
def ofTree (files : Files) (tools : List (String × Tool)) (responses : List (String × Response))
    (fallback : Response) : Toolbox :=
  let bin := files.cwd ++ [Octets.ofText "bin"]
  let entries := tools.map fun t =>
    (bin ++ [Octets.ofText t.1], if t.2 = .directory then Entry.directory else Entry.file [])
  { files := { files with entries := files.entries ++ (bin, .directory) :: entries }
    bin, tools, responses, fallback }

def tool? (b : Toolbox) (name : Octets) : Option Tool :=
  (b.tools.find? fun t => Octets.ofText t.1 = name).map (·.2)

/-- Where a binary is looked for. A longer relative path loses what follows its last
component, so that a separator at its end asks for no directory. -/
def location (b : Toolbox) (binary : Path) : Path :=
  if binary.components.length ≤ 1 then (Files.pathOf b.bin).join binary
  else if binary.isAbsolute then binary
  else (Files.pathOf b.files.cwd).extend binary

/-- The program that a binary names, if it can be executed. -/
def program? (b : Toolbox) (binary : String) : Option Tool := do
  match b.files.resolve (b.location ⟨binary⟩) with
  | .ok (place, .file _) =>
    if place.dropLast = b.bin then
      match ← b.tool? (← place.getLast?) with
      | .notExecutable | .directory => none
      | tool => some tool
    else none
  | _ => none

def responseTo (b : Toolbox) (args : List String) : Response :=
  let target := args.dropLast.getLast?.getD ""
  ((b.responses.find? fun r => r.1 = target).map (·.2)).getD b.fallback

/-- How many bytes an argument may have. -/
def argumentLimit : Nat := 131071

def launch (b : Toolbox) (c : Command) : Answer :=
  match b.program? c.program with
  | none => .error (.notFound c.program)
  | some tool =>
    let failed (fault : Fault) : Answer := .error (.ofFault c.program fault)
    if c.args.any fun arg => '\x00' ∈ arg.toList then
      failed (.custom .invalidInput "nul byte found in provided data")
    else if c.args.any fun arg => argumentLimit < arg.utf8ByteSize then
      failed (.code .argumentsTooLong)
    else match tool with
      | .runs =>
        let r := b.responseTo c.args
        .ok
          { code := r.code
            stdout := Text.Utf8.decodeLossy r.stdout
            stderr := Text.Utf8.decodeLossy r.stderr }
      | .badFormat => failed (.code .badFormat)
      | .deniedInterpreter => failed (.code .denied)
      | _ => failed .noSuchFile

/-- Argument lists in order, item by item. -/
def precedes (a b : List String) : Bool := (compare a b).isLE

/-- The arguments of every command that really ran, in order. -/
def calls (b : Toolbox) (commands : List Command) : List (List String) :=
  ((commands.filter fun c => (b.launch c).isOk).map (·.args)).mergeSort precedes

end Toolbox

end DocumentLint.Host
