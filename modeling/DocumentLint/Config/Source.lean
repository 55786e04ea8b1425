import DocumentLint.Config.Decode
import DocumentLint.Config.Expansion
import DocumentLint.Host.Environment
import DocumentLint.Host.Fault
import DocumentLint.Path.Join
import DocumentLint.Text.Utf8
import DocumentLint.Toml.Document

/-! # Sources of settings

Settings are read from a file that the user names, or else from the default
place in the home directory if there is anything. Without either they are the
defaults; a named file that cannot be read is an error.
-/

namespace DocumentLint

inductive ParseFailure where
  | malformed
  | mismatch (m : Mismatch)

inductive ConfigFailure where
  | unreadable (path : Path) (fault : Host.Fault)
  | invalid (path : Path) (failure : ParseFailure)

namespace ConfigFailure

/-- The headline of a failure; that of an invalid file breaks off before the cause. -/
def message : ConfigFailure → String
  | .unreadable path fault => s!"failed to read config at {path.text}: {fault.message}"
  | .invalid path _ => s!"failed to parse config at {path.text}: "

end ConfigFailure

namespace Settings

/-- Settings stand in the table `linter`; whatever else the document holds is passed over.
Integers beyond 64 bits are tolerated only as long as everything fits. -/
def ofDocument (v : Value) : Except ParseFailure Settings :=
  match v.get? "linter" with
  | none => .ok {}
  | some linter =>
    match ofValue .toml linter with
    | .ok settings => .ok settings
    | .error m => if v.hasWideInteger then .error .malformed else .error (.mismatch m)

def parse (lookup : String → Option String) (text : String) : Except ParseFailure Settings :=
  match Toml.document? text with
  | none => .error .malformed
  | some v => (ofDocument v).map (Expansion.settings lookup)

/-- Where settings are looked for in a home directory. -/
def defaultPath (home : Path) : Path := (home.join ⟨".protolens"⟩).join ⟨"config.toml"⟩

/-- The home directory by its variable; an empty one counts as unset. -/
def homeDirectory (e : Host.Environment) (account : Path) : Path :=
  match e.value? "HOME" with
  | some home => if home.isEmpty then account else ⟨home⟩
  | none => account

def ofBytes (lookup : String → Option String) (path : Path) (bytes : List UInt8) :
    Except ConfigFailure Settings :=
  match Text.Utf8.decode? bytes with
  | none => .error (.unreadable path (.custom .invalidData "stream did not contain valid UTF-8"))
  | some text => (parse lookup text).mapError (.invalid path)

def loadFrom (read : Path → Except Host.Fault (List UInt8)) (lookup : String → Option String)
    (path : Path) : Except ConfigFailure Settings :=
  match read path with
  | .ok bytes => ofBytes lookup path bytes
  | .error fault => .error (.unreadable path fault)

/-- Settings from the named file, or from the default place where there is something. Whether
there is may be told apart from reading: of what cannot be reached nothing is read. -/
def load (read : Path → Except Host.Fault (List UInt8)) (e : Host.Environment) (account : Path)
    (named : Option Path)
    (present : Path → Bool := fun path => Host.Fault.tellsPresence (read path)) :
    Except ConfigFailure Settings :=
  match named with
  | some path => loadFrom read e.lookup path
  | none =>
    let path := defaultPath (homeDirectory e account)
    if present path then loadFrom read e.lookup path else .ok {}

end Settings

end DocumentLint
