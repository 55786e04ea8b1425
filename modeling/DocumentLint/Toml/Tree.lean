import DocumentLint.Config.Value

/-! # Trees of tables

A document opens tables by headers and adds keys to them. A table can be
opened once. One that came into being on the way to another belongs to whoever
comes first, a header of its own or a dotted key with a value for it, and
dotted keys keep to themselves what is theirs.
-/

namespace DocumentLint.Toml

/-- How a table came into being. -/
inductive Origin where
  | header
  | implied
  | dotted
  deriving DecidableEq, Repr

inductive Node where
  | leaf (v : Value)
  | table (origin : Origin) (entries : List (String × Node))
  | series (items : List (List (String × Node)))

abbrev Entries := List (String × Node)

namespace Entries

def find? (es : Entries) (key : String) : Option Node :=
  (List.find? (fun e => e.1 = key) es).map (·.2)

/-- Replaces the node of a key that is there, and adds one that is not. -/
def set (es : Entries) (key : String) (n : Node) : Entries :=
  if (es.find? key).isSome then es.map fun e => if e.1 = key then (key, n) else e
  else es ++ [(key, n)]

/-- Puts an entry in place of the last table of a series. -/
def setLast (items : List (List (String × Node))) (last : List (String × Node)) : Node :=
  .series (items.dropLast ++ [last])

/-- Adds a value under a dotted key; fails where the key is taken. A table that a
header opened is not even passed through, and any other becomes one of dotted keys
when it takes the value. A table of a series is passed through, but takes none. -/
def put? (takes : Bool) (es : Entries) (path : List String) (v : Value) : Option Entries :=
  match path with
  | [] => none
  | [key] => if takes && (es.find? key).isNone then some (es ++ [(key, .leaf v)]) else none
  | key :: path =>
    match es.find? key with
    | none => (put? true [] path v).map fun inner => es ++ [(key, .table .dotted inner)]
    | some (.table .header _) | some (.leaf _) => none
    | some (.table origin inner) =>
      (put? true inner path v).map fun inner =>
        es.set key (.table (if path.length = 1 then .dotted else origin) inner)
    | some (.series items) => do
      let last ← put? false (← items.getLast?) path v
      return es.set key (setLast items last)

/-- Changes the table that a header path leads to, which it makes where it is missing.
A series of tables stands for its last one. -/
def descend? (es : Entries) (path : List String) (change : Entries → Option Entries) :
    Option Entries :=
  match path with
  | [] => change es
  | key :: path =>
    match es.find? key with
    | none => (descend? [] path change).map fun inner => es ++ [(key, .table .implied inner)]
    | some (.table origin inner) =>
      (descend? inner path change).map fun inner => es.set key (.table origin inner)
    | some (.series items) => do
      let last ← descend? (← items.getLast?) path change
      return es.set key (setLast items last)
    | some (.leaf _) => none

def openTable? (key : String) (es : Entries) : Option Entries :=
  match es.find? key with
  | none => some (es ++ [(key, .table .header [])])
  | some (.table .implied inner) => some (es.set key (.table .header inner))
  | some _ => none

def openItem? (key : String) (es : Entries) : Option Entries :=
  match es.find? key with
  | none => some (es ++ [(key, .series [[]])])
  | some (.series items) => some (es.set key (.series (items ++ [[]])))
  | some _ => none

end Entries

mutual

def Node.value : Node → Value
  | .leaf v => v
  | .table _ entries => .ofEntries (entryValues entries)
  | .series items => .list (itemValues items)

def entryValues : List (String × Node) → List (String × Value)
  | [] => []
  | (key, n) :: es => (key, n.value) :: entryValues es

def itemValues : List (List (String × Node)) → List Value
  | [] => []
  | es :: items => .ofEntries (entryValues es) :: itemValues items

end

end DocumentLint.Toml
