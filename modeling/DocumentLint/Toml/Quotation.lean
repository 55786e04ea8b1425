import DocumentLint.Text.Digits
import DocumentLint.Toml.Space

/-! # Quoted texts

A text is quoted once or three times, with double quotes if it is to hold
escapes. Three quotes may enclose line breaks, and up to two more quotes
before the closing ones belong to the text.
-/

namespace DocumentLint.Toml

/-- A character given by exactly `count` hexadecimal digits, which name no surrogate. -/
def hexChar? (count : Nat) (cs : List Char) : Option (Char × List Char) :=
  let digits := cs.take count
  let code := Text.digitsValue 16 digits
  if digits.length = count ∧ digits.all (Text.isDigitIn 16) ∧ code.isValidChar then
    some (Char.ofNat code, cs.drop count)
  else none

def letterEscape? : Char → Option Char
  | 'b' => some '\x08'
  | 't' => some '\t'
  | 'n' => some '\n'
  | 'f' => some '\x0c'
  | 'r' => some '\r'
  | 'e' => some '\x1b'
  | '"' => some '"'
  | '\\' => some '\\'
  | _ => none

def hexLength? : Char → Option Nat
  | 'x' => some 2
  | 'u' => some 4
  | 'U' => some 8
  | _ => none

def escape? : List Char → Option (Char × List Char)
  | [] => none
  | c :: cs =>
    match hexLength? c with
    | some count => hexChar? count cs
    | none => (letterEscape? c).map fun c => (c, cs)

theorem length_le_of_hexChar? {count : Nat} {cs rest : List Char} {c : Char}
    (h : hexChar? count cs = some (c, rest)) : rest.length ≤ cs.length := by
  simp only [hexChar?] at h
  split at h
  · simp only [Option.some.injEq, Prod.mk.injEq] at h
    rw [← h.2, List.length_drop]
    omega
  · simp at h

theorem length_lt_of_escape? {cs rest : List Char} {c : Char} (h : escape? cs = some (c, rest)) :
    rest.length < cs.length := by
  cases cs with
  | nil => simp [escape?] at h
  | cons d cs =>
    rw [escape?] at h
    split at h
    · have := length_le_of_hexChar? h
      simp only [List.length_cons]
      omega
    · obtain ⟨e, _, he⟩ := Option.map_eq_some_iff.1 h
      simp [← (Prod.mk.inj he).2]

/-- The rest of a text in double quotes, and what follows it. -/
def basic? : List Char → Option (List Char × List Char)
  | [] => none
  | '"' :: cs => some ([], cs)
  | '\\' :: cs =>
    match _h : escape? cs with
    | some (c, rest) => (basic? rest).map fun r => (c :: r.1, r.2)
    | none => none
  | c :: cs => if isPlain c then (basic? cs).map fun r => (c :: r.1, r.2) else none
termination_by cs => cs.length
decreasing_by
  · have := length_lt_of_escape? _h
    simp only [List.length_cons]
    omega
  · simp

def literal? : List Char → Option (List Char × List Char)
  | [] => none
  | '\'' :: cs => some ([], cs)
  | c :: cs => if isPlain c then (literal? cs).map fun r => (c :: r.1, r.2) else none

def closing? (quote : Char) (cs : List Char) : Option (List Char × List Char) :=
  let count := min 5 (cs.takeWhile (· == quote)).length
  if 3 ≤ count then some (List.replicate (count - 3) quote, cs.drop count) else none

/-- The rest of a text in three double quotes, and what follows it. A backslash
at the end of a line takes away the space up to the next text. -/
def longBasic? : List Char → Option (List Char × List Char)
  | [] => none
  | '\\' :: cs =>
    match _h : escape? cs with
    | some (c, rest) => (longBasic? rest).map fun r => (c :: r.1, r.2)
    | none => if (lineBreak? (skipBlanks cs)).isSome then longBasic? (skipSpace cs) else none
  | '\r' :: '\n' :: cs => (longBasic? cs).map fun r => ('\r' :: '\n' :: r.1, r.2)
  | c :: cs =>
    match closing? '"' (c :: cs) with
    | some r => some r
    | none =>
      if isPlain c || c == '\n' then (longBasic? cs).map fun r => (c :: r.1, r.2) else none
termination_by cs => cs.length
decreasing_by
  · have := length_lt_of_escape? _h
    simp only [List.length_cons]
    omega
  · have := length_skipSpace_le cs
    simp only [List.length_cons]
    omega
  · simp only [List.length_cons]
    omega
  · simp

def longLiteral? : List Char → Option (List Char × List Char)
  | [] => none
  | '\r' :: '\n' :: cs => (longLiteral? cs).map fun r => ('\r' :: '\n' :: r.1, r.2)
  | c :: cs =>
    match closing? '\'' (c :: cs) with
    | some r => some r
    | none =>
      if isPlain c || c == '\n' then (longLiteral? cs).map fun r => (c :: r.1, r.2) else none

/-- A line break right behind the opening quotes is no part of the text. -/
def dropBreak (cs : List Char) : List Char := (lineBreak? cs).getD cs

def quotation? : List Char → Option (List Char × List Char)
  | '"' :: '"' :: '"' :: cs => longBasic? (dropBreak cs)
  | '"' :: cs => basic? cs
  | '\'' :: '\'' :: '\'' :: cs => longLiteral? (dropBreak cs)
  | '\'' :: cs => literal? cs
  | _ => none

/-- A key between separators: bare, or in single or double quotes. -/
def key? : List Char → Option (String × List Char)
  | '"' :: cs => (basic? cs).map fun r => (String.ofList r.1, r.2)
  | '\'' :: cs => (literal? cs).map fun r => (String.ofList r.1, r.2)
  | cs =>
    let isBare (c : Char) : Bool := c.isAlphanum || c == '_' || c == '-'
    let name := cs.takeWhile isBare
    if name.isEmpty then none else some (String.ofList name, cs.dropWhile isBare)

end DocumentLint.Toml
