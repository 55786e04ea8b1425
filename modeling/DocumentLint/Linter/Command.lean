import DocumentLint.Linter.Failure
import DocumentLint.Linter.Settings

/-! # Linter commands

The command for a target searches the directory of the target and names the
target by its file name alone, both as they are shown. A bare file name is
searched in `.`, and a path without a file name has no command.
-/

namespace DocumentLint

structure Command where
  program : String
  args : List String
  target : Path
  deriving DecidableEq, Repr

namespace Command

/-- Where a target is searched for. -/
def directory (target : Path) : Path :=
  match target.parent? with
  | some dir => if dir.octets.isEmpty then ⟨"."⟩ else dir
  | none => ⟨"."⟩

def ofTarget (settings : Settings) (target : Path) : Except LaunchFailure Command :=
  match target.fileName? with
  | none => .error (.invalidTarget target)
  | some name =>
    .ok
      { program := settings.binary
        args := settings.args ++
          ["--proto_path=" ++ (directory target).text, name.text,
            "--lint_out=" ++ settings.lintOut]
        target }

def display (c : Command) : String := " ".intercalate (c.program :: c.args)

end Command

end DocumentLint
