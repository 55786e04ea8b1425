import DocumentLint.Text.Fields

/-! # JSON texts

A JSON value is written over several lines, two blanks deeper for each level.
Texts escape quotes, backslashes and controls, and nothing else.
-/

namespace DocumentLint

inductive Json where
  | number (n : Nat)
  | text (s : String)
  | array (items : List Json)
  | object (fields : List (String × Json))

namespace Json

def escapeChar (c : Char) : List Char :=
  if c = '"' then ['\\', '"']
  else if c = '\\' then ['\\', '\\']
  else if c = '\x08' then ['\\', 'b']
  else if c = '\x0c' then ['\\', 'f']
  else if c = '\n' then ['\\', 'n']
  else if c = '\r' then ['\\', 'r']
  else if c = '\t' then ['\\', 't']
  else if c.toNat < 0x20 then
    ['\\', 'u', '0', '0', Nat.digitChar (c.toNat / 16), Nat.digitChar (c.toNat % 16)]
  else [c]

def quote (s : String) : List Char := '"' :: s.toList.flatMap escapeChar ++ ['"']

def newline (depth : Nat) : List Char := '\n' :: List.replicate (2 * depth) ' '

/-- Parts between two brackets, each on lines of its own. -/
def enclose (depth : Nat) (opening closing : Char) (parts : List (List Char)) : List Char :=
  if parts.isEmpty then [opening, closing]
  else opening :: Text.joinFields ',' (parts.map (newline (depth + 1) ++ ·)) ++ newline depth
    ++ [closing]

mutual

def chars (depth : Nat) : Json → List Char
  | .number n => Nat.toDigits 10 n
  | .text s => quote s
  | .array items => enclose depth '[' ']' (itemChars (depth + 1) items)
  | .object fields => enclose depth '\x7b' '\x7d' (fieldChars (depth + 1) fields)

def itemChars (depth : Nat) : List Json → List (List Char)
  | [] => []
  | v :: vs => chars depth v :: itemChars depth vs

def fieldChars (depth : Nat) : List (String × Json) → List (List Char)
  | [] => []
  | (key, v) :: fields => (quote key ++ [':', ' '] ++ chars depth v) :: fieldChars depth fields

end

def render (v : Json) : String := String.ofList (chars 0 v)

/-- What is written of an array of objects, if after some items the value of the first field of
an object cannot be written. -/
def renderBroken (items : List Json) (key : String) : String :=
  let broken := '\x7b' :: newline 2 ++ quote key ++ [':', ' ']
  String.ofList ('[' :: Text.joinFields ',' ((itemChars 1 items ++ [broken]).map (newline 1 ++ ·)))

end Json

end DocumentLint
