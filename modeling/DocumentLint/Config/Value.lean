import DocumentLint.Decimal.Shortest
import DocumentLint.Text.Quoted

/-! # Configuration values

What a configuration is made of before it is understood. Tables list their
keys in order, each once.
-/

namespace DocumentLint

/-- The language that a configuration is written in. -/
inductive Dialect where
  | json
  | toml
  deriving DecidableEq, Repr

/-- How the messages about a configuration write its decimals. -/
def Dialect.decimals : Dialect → Decimal.Style
  | .json => .compact
  | .toml => .full

inductive Value where
  | null
  | bool (b : Bool)
  | integer (n : Int)
  | float (x : Float)
  | text (s : String)
  | moment (s : String)
  | list (items : List Value)
  | table (entries : List (String × Value))
  deriving Inhabited

namespace Value

/-- Keeps the order of the keys; a key that is there receives the new value. -/
def enter (entries : List (String × Value)) (key : String) (v : Value) : List (String × Value) :=
  match entries with
  | [] => [(key, v)]
  | (k, w) :: rest =>
    if key = k then (k, v) :: rest
    else if key < k then (key, v) :: (k, w) :: rest
    else (k, w) :: enter rest key v

def ofEntries (entries : List (String × Value)) : Value :=
  .table (entries.foldl (fun t e => enter t e.1 e.2) [])

def get? (v : Value) (key : String) : Option Value :=
  match v with
  | .table entries => (entries.find? fun e => e.1 = key).map (·.2)
  | _ => none

/-- How a message names a value that does not fit. -/
def describe (dialect : Dialect) : Value → String
  | .null => "null"
  | .bool b => s!"boolean `{b}`"
  | .integer n => s!"integer `{n}`"
  | .float x => s!"floating point `{Decimal.render dialect.decimals x}`"
  | .text s => s!"string {Text.quoted s}"
  | .list _ => "sequence"
  | .moment _ | .table _ => "map"

/-- The word for the kind of a value. -/
def kind : Value → String
  | .null => "null"
  | .bool _ => "boolean"
  | .integer _ => "integer"
  | .float _ => "float"
  | .text _ => "string"
  | .moment _ => "datetime"
  | .list _ => "array"
  | .table _ => "table"

mutual

/-- Whether a value holds an integer that 64 bits with a sign cannot. -/
def hasWideInteger : Value → Bool
  | .integer n => n < Int64.minValue.toInt || Int64.maxValue.toInt < n
  | .list items => anyWide items
  | .table entries => anyWideEntry entries
  | _ => false

def anyWide : List Value → Bool
  | [] => false
  | v :: vs => hasWideInteger v || anyWide vs

def anyWideEntry : List (String × Value) → Bool
  | [] => false
  | (_, v) :: es => hasWideInteger v || anyWideEntry es

end

end Value

end DocumentLint
