import DocumentLint.Linter.Settings
import DocumentLint.Text.Fields

/-! # Expanding references

A reference `$`, `{`, name, `}` stands for the value of a variable, and for
nothing when the variable is unknown or the name is empty. Values are put in
as they are, and a reference that is never closed is plain text.
-/

namespace DocumentLint.Expansion

def valueOf (lookup : String → Option String) (name : List Char) : List Char :=
  if name.isEmpty then [] else ((lookup (String.ofList name)).getD "").toList

def chars (lookup : String → Option String) : List Char → List Char
  | [] => []
  | '$' :: '\x7b' :: cs =>
    match _h : Text.splitFirst '\x7d' cs with
    | none => '$' :: '\x7b' :: cs
    | some (name, rest) => valueOf lookup name ++ chars lookup rest
  | c :: cs => c :: chars lookup cs
termination_by cs => cs.length
decreasing_by
  · obtain ⟨rfl, _⟩ := Text.splitFirst_eq_some_iff.1 _h
    simp only [List.length_cons, List.length_append]
    omega
  · simp

def text (lookup : String → Option String) (s : String) : String :=
  String.ofList (chars lookup s.toList)

/-- Expands the binary, its arguments and the output setting, and leaves the
language marker as it is. -/
def settings (lookup : String → Option String) (s : Settings) : Settings :=
  { s with
    binary := text lookup s.binary
    args := s.args.map (text lookup)
    lintOut := text lookup s.lintOut }

end DocumentLint.Expansion
