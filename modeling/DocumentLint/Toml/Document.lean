import DocumentLint.Toml.Quotation
import DocumentLint.Toml.Scalar
import DocumentLint.Toml.Tree

/-! # TOML documents

A document is read line by line into a tree of tables. Arrays and inline
tables nest up to a fixed depth, and a dotted key has a bounded number of
parts. Whatever breaks the grammar makes the document no document at all. A
byte order mark in front is skipped.
-/

namespace DocumentLint.Toml

/-- How deep arrays and inline tables nest, and how many parts a key has. -/
def depthLimit : Nat := 80

/-- The parts of a dotted key, each of which takes at least one character. -/
def parts? : Nat → List Char → Option (List String × List Char)
  | 0, _ => none
  | fuel + 1, cs => do
    let (name, cs) ← key? (skipBlanks cs)
    match skipBlanks cs with
    | '.' :: cs =>
      let (names, cs) ← parts? fuel cs
      return (name :: names, cs)
    | cs => return ([name], cs)

def keyPath? (cs : List Char) : Option (List String × List Char) := do
  let (names, cs) ← parts? cs.length cs
  if names.length ≤ depthLimit then some (names, cs) else none

def after? (mark : Char) : List Char → Option (List Char)
  | c :: cs => if c = mark then some cs else none
  | [] => none

mutual

/-- A value at the front of a text, inside `depth` arrays and inline tables. -/
def value? : Nat → Nat → List Char → Option (Value × List Char)
  | 0, _, _ => none
  | fuel + 1, depth, cs =>
    match cs with
    | '[' :: cs =>
      if depth < depthLimit then (items? fuel (depth + 1) cs).map fun r => (.list r.1, r.2)
      else none
    | '\x7b' :: cs =>
      if depth < depthLimit then
        (pairs? fuel (depth + 1) [] cs).map fun r => (.ofEntries (entryValues r.1), r.2)
      else none
    | '"' :: _ | '\'' :: _ => (quotation? cs).map fun r => (.text (String.ofList r.1), r.2)
    | cs => scalar? cs

def items? : Nat → Nat → List Char → Option (List Value × List Char)
  | 0, _, _ => none
  | fuel + 1, depth, cs => do
    match ← skipGap? false cs with
    | ']' :: cs => return ([], cs)
    | cs =>
      let (v, cs) ← value? fuel depth cs
      match ← skipGap? false cs with
      | ']' :: cs => return ([v], cs)
      | ',' :: cs =>
        let (vs, cs) ← items? fuel depth cs
        return (v :: vs, cs)
      | _ => none

/-- The entries of an inline table up to its closing brace, after those that were read.
Its lines may break anywhere but inside a dotted key. -/
def pairs? : Nat → Nat → Entries → List Char → Option (Entries × List Char)
  | 0, _, _, _ => none
  | fuel + 1, depth, es, cs => do
    match ← skipGap? false cs with
    | '\x7d' :: cs => return (es, cs)
    | cs =>
      let (path, cs) ← keyPath? cs
      let cs ← after? '=' (← skipGap? false cs)
      let (v, cs) ← value? fuel depth (← skipGap? false cs)
      let es ← es.put? true path v
      match ← skipGap? false cs with
      | '\x7d' :: cs => return (es, cs)
      | ',' :: cs => pairs? fuel depth es cs
      | _ => none

end

structure Reading where
  root : Entries := []
  current : List String := []

namespace Reading

def openTable? (r : Reading) (path : List String) : Option Reading := do
  let key ← path.getLast?
  return { root := ← r.root.descend? path.dropLast (Entries.openTable? key), current := path }

def openItem? (r : Reading) (path : List String) : Option Reading := do
  let key ← path.getLast?
  return { root := ← r.root.descend? path.dropLast (Entries.openItem? key), current := path }

def put? (r : Reading) (path : List String) (v : Value) : Option Reading := do
  return { r with root := ← r.root.descend? r.current fun es => es.put? true path v }

end Reading

/-- One line that is neither blank nor a comment, up to where it may end. -/
def line? (r : Reading) (cs : List Char) : Option (Reading × List Char) :=
  match cs with
  | '[' :: '[' :: cs => do
    let (path, cs) ← keyPath? cs
    match cs with
    | ']' :: ']' :: cs => return (← r.openItem? path, cs)
    | _ => none
  | '[' :: cs => do
    let (path, cs) ← keyPath? cs
    let cs ← after? ']' cs
    return (← r.openTable? path, cs)
  | cs => do
    let (path, cs) ← keyPath? cs
    let cs ← after? '=' cs
    let cs := skipBlanks cs
    let (v, cs) ← value? (2 * cs.length + 2) 0 cs
    return (← r.put? path v, cs)

/-- Reads line after line; every round takes at least one character. -/
def lines? : Nat → Reading → List Char → Option Reading
  | 0, _, _ => none
  | fuel + 1, r, cs =>
    match lineEnd? cs with
    | some [] => some r
    | some cs => lines? fuel r cs
    | none => do
      let (r, cs) ← line? r (skipBlanks cs)
      match ← lineEnd? cs with
      | [] => some r
      | cs => lines? fuel r cs

def document? (s : String) : Option Value := do
  let cs := match s.toList with
    | '\uFEFF' :: cs => cs
    | cs => cs
  let r ← lines? (cs.length + 1) {} cs
  return .ofEntries (entryValues r.root)

end DocumentLint.Toml
