import DocumentLint.Config.Value
import DocumentLint.Linter.Settings

/-! # Decoding settings

Settings are a table by key or a list by position; what is absent keeps its
default, and unknown keys are passed over. The first value that does not fit,
in the order of the keys, is the error.
-/

namespace DocumentLint

/-- Why a value is no settings. -/
inductive Mismatch where
  | wrongType (found : Value) (expected : String)
  | wrongValue (found : Value) (expected : String)
  | unknownSeverity (name : String)
  | tooLong (count : Nat)
  | notAVariant
  | emptyVariant
  | manyVariants
  | variantNotEmpty (found : Value)

namespace Mismatch

def message (dialect : Dialect) : Mismatch → String
  | .wrongType found expected =>
    s!"invalid type: {found.describe dialect}, expected {expected}"
  | .wrongValue found expected =>
    s!"invalid value: {found.describe dialect}, expected {expected}"
  | .unknownSeverity name =>
    let names := Severity.all.map fun v => "`" ++ v.name ++ "`"
    "unknown variant `" ++ name ++ "`, expected one of " ++ ", ".intercalate names
  | .tooLong count => s!"invalid length {count}, expected fewer elements in array"
  | .notAVariant => "wanted string or table"
  | .emptyVariant => "wanted exactly 1 element, found 0 elements"
  | .manyVariants => "wanted exactly 1 element, more than 1 element"
  | .variantNotEmpty found =>
    match found with
    | .list _ => "expected empty array"
    | .table _ => "expected empty table"
    | _ => s!"expected table, found {found.kind}"

end Mismatch

abbrev Decoded := Except Mismatch

namespace Value

def toBool : Value → Decoded Bool
  | .bool b => .ok b
  | v => .error (.wrongType v "a boolean")

def toText : Value → Decoded String
  | .text s => .ok s
  | v => .error (.wrongType v "a string")

def toTexts : Value → Decoded (List String)
  | .list items => items.mapM toText
  | v => .error (.wrongType v "a sequence")

/-- A count of 64 bits. -/
def toCount : Value → Decoded Nat
  | .integer n =>
    if n < 0 then .error (.wrongValue (.integer n) "usize")
    else if n < UInt64.size then .ok n.toNat
    else .error (.wrongType (.integer n) "usize")
  | v => .error (.wrongType v "usize")

def severityOfName (name : String) : Decoded Severity :=
  match Severity.ofName? name with
  | some v => .ok v
  | none => .error (.unknownSeverity name)

/-- A severity is written by its name, or as the only key of a table. -/
def toSeverity (dialect : Dialect) (v : Value) : Decoded Severity :=
  match dialect, v with
  | _, .text s => severityOfName s
  | .json, .table [(name, inner)] => do
    let severity ← severityOfName name
    match inner with
    | .null => .ok severity
    | v => .error (.wrongType v "unit")
  | .json, .table entries => .error (.wrongValue (.table entries) "map with a single key")
  | .json, v => .error (.wrongType v "string or map")
  | .toml, .table [(name, inner)] => do
    let severity ← severityOfName name
    match inner with
    | .list [] | .table [] => .ok severity
    | v => .error (.variantNotEmpty v)
  | .toml, .table [] => .error .emptyVariant
  | .toml, .table _ => .error .manyVariants
  | .toml, _ => .error .notAVariant

end Value

namespace Settings

inductive Field where
  | enabled
  | binary
  | args
  | lintOut
  | languageMarker
  | severity
  | trailerLines
  deriving DecidableEq, Repr

namespace Field

/-- The fields in the order of a list by position. -/
def all : List Field :=
  [.enabled, .binary, .args, .lintOut, .languageMarker, .severity, .trailerLines]

def key : Field → String
  | .enabled => "enabled"
  | .binary => "binary"
  | .args => "args"
  | .lintOut => "lint_out"
  | .languageMarker => "language_marker"
  | .severity => "severity"
  | .trailerLines => "trailer_lines"

def ofKey? (key : String) : Option Field := all.find? fun f => f.key = key

end Field

def set (dialect : Dialect) (s : Settings) (field : Field) (v : Value) : Decoded Settings :=
  match field with
  | .enabled => return { s with enabled := ← v.toBool }
  | .binary => return { s with binary := ← v.toText }
  | .args => return { s with args := ← v.toTexts }
  | .lintOut => return { s with lintOut := ← v.toText }
  | .languageMarker => return { s with languageMarker := ← v.toText }
  | .severity => return { s with severity := ← v.toSeverity dialect }
  | .trailerLines => return { s with trailerLines := ← v.toCount }

def ofTable (dialect : Dialect) (entries : List (String × Value)) : Decoded Settings :=
  entries.foldlM (fun s e => match Field.ofKey? e.1 with
    | some field => s.set dialect field e.2
    | none => .ok s) {}

/-- Surplus values are an error in one dialect and passed over in the other. -/
def ofList (dialect : Dialect) (items : List Value) : Decoded Settings := do
  let s ← (Field.all.zip items).foldlM (fun (s : Settings) e => s.set dialect e.1 e.2) {}
  if dialect = .json ∧ Field.all.length < items.length then .error (.tooLong items.length)
  else .ok s

def ofValue (dialect : Dialect) : Value → Decoded Settings
  | .table entries => ofTable dialect entries
  | .list items => ofList dialect items
  | .moment _ => .ok {}
  | v => .error (.wrongType v "struct LinterConfig")

end Settings

end DocumentLint
