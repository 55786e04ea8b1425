import DocumentLint.CommandLine.Listing
import DocumentLint.Text.ControlSequence
import DocumentLint.Text.Fields

/-! # Command line arguments

Options take one value each, behind an equals sign or in the next argument,
and may be given once. Every other argument is a file, of which there must be
one; after `--` all are. The values of an option or a row of files are checked
when the next argument makes them complete. Files may have any name, but other
values have to be texts.
-/

namespace DocumentLint.CommandLine

inductive Flag where
  | config
  | languageId
  | linter
  | format
  deriving DecidableEq, Repr

namespace Flag

def all : List Flag := [.config, .languageId, .linter, .format]

def name : Flag → String
  | .config => "config"
  | .languageId => "language-id"
  | .linter => "linter"
  | .format => "format"

def ofName? (s : String) : Option Flag := all.find? fun f => f.name = s

/-- How usage errors write an option and its value. -/
def usage : Flag → String
  | .config => "--config <CONFIG>"
  | .languageId => "--language-id <LANGUAGE_ID>"
  | .linter => "--linter <LINTER>"
  | .format => "--format <FORMAT>"

end Flag

structure Options where
  files : List Path := []
  config : Option Path := none
  languageId : Option String := none
  linter : Option String := none
  format : Option Format := none
  deriving DecidableEq, Repr

inductive UsageError where
  | unexpectedArgument (argument : String)
  | unexpectedValue (value switch : String)
  | missingValue (flag : Flag)
  | emptyFile
  | unknownFormat (value : String)
  | unreadable
  | repeated (flag : Flag)
  | missingFiles
  deriving DecidableEq, Repr

namespace UsageError

/-- An argument as messages show it, without the control sequences in it. -/
def quoted (argument : String) : String := s!"'{Text.ControlSequence.strip argument}'"

def message : UsageError → String
  | .unexpectedArgument argument => s!"unexpected argument {quoted argument} found"
  | .unexpectedValue value switch =>
    s!"unexpected value {quoted value} for '--{switch}' found; no more were expected"
  | .missingValue flag => s!"a value is required for '{flag.usage}' but none was supplied"
  | .emptyFile => "a value is required for '<FILES>...' but none was supplied"
  | .unknownFormat value => s!"invalid value {quoted value} for '{Flag.format.usage}'"
  | .unreadable => "invalid UTF-8 was detected in one or more arguments"
  | .repeated flag => s!"the argument '{flag.usage}' cannot be used multiple times"
  | .missingFiles => "the following required arguments were not provided:"

end UsageError

/-- Why no files are linted: a usage error, or a question about the program itself. -/
inductive Stop where
  | usage (e : UsageError)
  | version
  | help
  deriving DecidableEq, Repr

abbrev Parsed := Except Stop

/-- What was read but not checked yet. -/
inductive Pending where
  | nothing
  | option (flag : Flag) (value : Option Octets)
  | files (names : List Octets)
  deriving DecidableEq, Repr

namespace Options

def has (o : Options) : Flag → Bool
  | .config => o.config.isSome
  | .languageId => o.languageId.isSome
  | .linter => o.linter.isSome
  | .format => o.format.isSome

/-- An option with a value; a repeated option is refused before its value is looked at. -/
def set (o : Options) (flag : Flag) (value : Octets) : Parsed Options :=
  if o.has flag then .error (.usage (.repeated flag))
  else match flag with
    | .config =>
      if value.isEmpty then .error (.usage (.missingValue flag))
      else .ok { o with config := some ⟨value⟩ }
    | .languageId =>
      match value.text? with
      | some id => .ok { o with languageId := some id }
      | none => .error (.usage .unreadable)
    | .linter =>
      match value.text? with
      | some binary => .ok { o with linter := some binary }
      | none => .error (.usage .unreadable)
    | .format =>
      if value.isEmpty then .error (.usage (.missingValue flag))
      else match value.text?.bind Format.ofName? with
        | some format => .ok { o with format := some format }
        | none => .error (.usage (.unknownFormat value.text))

def resolve (o : Options) : Pending → Parsed Options
  | .nothing => .ok o
  | .option flag none => .error (.usage (.missingValue flag))
  | .option flag (some value) => o.set flag value
  | .files names =>
    if names.any Octets.isEmpty then .error (.usage .emptyFile)
    else .ok { o with files := o.files ++ names.map Path.ofOctets }

end Options

/-- An argument in the form of an option, with the value behind its equals sign. -/
inductive Shape where
  | long (name : Octets) (value : Option Octets)
  | short (letter : Char)
  /-- No letter can be read behind the hyphen. -/
  | unreadable (rest : Octets)
  | separator
  | plain
  deriving DecidableEq, Repr

def equalsSign : UInt8 := 0x3D

def shape (argument : Octets) : Shape :=
  match argument.bytes with
  | [0x2D, 0x2D] => .separator
  | 0x2D :: 0x2D :: bytes =>
    match Text.splitFirst equalsSign bytes with
    | some (name, value) => .long ⟨name⟩ (some ⟨value⟩)
    | none => .long ⟨bytes⟩ none
  | 0x2D :: b :: bytes =>
    match Text.Utf8.scan .start (b :: bytes) with
    | some letter :: _ => .short letter
    | _ => .unreadable ⟨b :: bytes⟩
  | _ => .plain

/-- Where the reading stands: the options so far, what is pending, and whether
only files may follow. -/
structure Reading where
  options : Options := {}
  pending : Pending := .nothing
  filesOnly : Bool := false
  deriving DecidableEq, Repr

namespace Reading

def file (r : Reading) (name : Octets) : Parsed Reading :=
  match r.pending with
  | .files names => .ok { r with pending := .files (names ++ [name]) }
  | pending => do return { r with options := ← r.options.resolve pending, pending := .files [name] }

/-- A question about the program is answered once everything before it is in order. -/
def ask {α : Type} (r : Reading) (answer : Stop) : Parsed α := do
  let _ ← r.options.resolve r.pending
  throw answer

def long (r : Reading) (name : Octets) (value : Option Octets) : Parsed Reading :=
  match name.text?.bind Flag.ofName?, value with
  | some flag, none => do
    return { r with options := ← r.options.resolve r.pending, pending := .option flag none }
  | some flag, some value => do
    let options ← r.options.resolve r.pending
    return { r with options := ← options.set flag value, pending := .nothing }
  | none, value =>
    let name := name.text
    if name = "version" ∨ name = "help" then
      match value with
      | some value => throw (.usage (.unexpectedValue value.text name))
      | none => r.ask (if name = "version" then .version else .help)
    else throw (.usage (.unexpectedArgument ("--" ++ name)))

def short (r : Reading) (letter : Char) : Parsed Reading :=
  if letter = 'V' then r.ask .version
  else if letter = 'h' then r.ask .help
  else throw (.usage (.unexpectedArgument (String.ofList ['-', letter])))

def next (r : Reading) (argument : Octets) : Parsed Reading :=
  if r.filesOnly then r.file argument
  else match shape argument with
    | .separator => .ok { r with filesOnly := true }
    | .long name value => r.long name value
    | .short letter => r.short letter
    | .unreadable rest => throw (.usage (.unexpectedArgument ("-" ++ rest.text)))
    | .plain =>
      match r.pending with
      | .option flag none => .ok { r with pending := .option flag (some argument) }
      | _ => r.file argument

end Reading

def parse (arguments : List Octets) : Parsed Options := do
  let r ← arguments.foldlM Reading.next {}
  let options ← r.options.resolve r.pending
  if options.files.isEmpty then throw (.usage .missingFiles)
  return options

end DocumentLint.CommandLine
