import DocumentLint.Config.Value
import DocumentLint.Text.Digits
import DocumentLint.Text.Fields

/-! # Unquoted values

Truth values, integers in four bases, floats, dates and times. Digits may be
parted by single underscores, and a decimal integer has no leading zero.
Integers must fit into 128 bits, and a finite float must not overflow.
-/

namespace DocumentLint.Toml

/-- The digits of a group, without the underscores between them. -/
def group? (base : Nat) (cs : List Char) : Option (List Char) :=
  let parts := Text.fields '_' cs
  if parts.all fun part => !part.isEmpty && part.all (Text.isDigitIn base) then some parts.flatten
  else none

def sign (cs : List Char) : Bool × List Char :=
  match cs with
  | '-' :: cs => (true, cs)
  | '+' :: cs => (false, cs)
  | cs => (false, cs)

/-- Decimal digits without a leading zero. -/
def decimal? (cs : List Char) : Option (List Char) :=
  match group? 10 cs with
  | some ('0' :: _ :: _) => none
  | digits => digits

def integer? (cs : List Char) : Option Int := do
  let n : Int ← match cs with
    | '0' :: 'x' :: cs => (group? 16 cs).map fun ds => Int.ofNat (Text.digitsValue 16 ds)
    | '0' :: 'o' :: cs => (group? 8 cs).map fun ds => Int.ofNat (Text.digitsValue 8 ds)
    | '0' :: 'b' :: cs => (group? 2 cs).map fun ds => Int.ofNat (Text.digitsValue 2 ds)
    | cs =>
      let (negative, cs) := sign cs
      (decimal? cs).map fun ds =>
        let n := Int.ofNat (Text.digitsValue 10 ds)
        if negative then -n else n
  if -(Nat.pow 2 127) ≤ n ∧ n < Nat.pow 2 128 then some n else none

/-- The double nearest to `digits * 10 ^ exponent`. Far outside the range of
doubles the exact power is not needed. -/
def nearest (digits : Nat) (exponent : Int) : Float :=
  let top := exponent + (Nat.toDigits 10 digits).length
  if digits = 0 ∨ top < -400 then 0
  else if 400 < top then Float.ofScientific 1 false 400
  else if 0 ≤ exponent then Float.ofScientific digits false exponent.toNat
  else Float.ofScientific digits true (-exponent).toNat

def exponent? (cs : List Char) : Option Int :=
  let (negative, cs) := sign cs
  (group? 10 cs).map fun ds =>
    let n := Int.ofNat (Text.digitsValue 10 ds)
    if negative then -n else n

def magnitude? (cs : List Char) : Option Float := do
  let isMark (c : Char) : Bool := c == 'e' || c == 'E'
  let mantissa := cs.takeWhile (!isMark ·)
  let exponent ← match cs.dropWhile (!isMark ·) with
    | [] => some 0
    | _ :: cs => exponent? cs
  match Text.splitFirst '.' mantissa with
  | some (whole, fraction) =>
    let whole ← decimal? whole
    let fraction ← group? 10 fraction
    return nearest (Text.digitsValue 10 (whole ++ fraction)) (exponent - fraction.length)
  | none =>
    if mantissa.length = cs.length then none
    else return nearest (Text.digitsValue 10 (← decimal? mantissa)) exponent

def float? (cs : List Char) : Option Float := do
  let (negative, cs) := sign cs
  let x ← match cs with
    | ['i', 'n', 'f'] => some (1 / 0)
    | ['n', 'a', 'n'] => some (0 / 0)
    | cs => (magnitude? cs).filter Float.isFinite
  return if negative then -x else x

/-! ## Dates and times -/

/-- Exactly `count` decimal digits at the front of a text. -/
def number? (count : Nat) (cs : List Char) : Option (Nat × List Char) :=
  let digits := cs.take count
  if digits.length = count ∧ digits.all Char.isDigit then
    some (Text.digitsValue 10 digits, cs.drop count)
  else none

def daysIn (year month : Nat) : Nat :=
  if month = 2 then
    if year % 4 = 0 ∧ (year % 100 ≠ 0 ∨ year % 400 = 0) then 29 else 28
  else if month ∈ [4, 6, 9, 11] then 30
  else 31

def mark? (p : Char → Bool) : List Char → Option (List Char)
  | c :: cs => if p c then some cs else none
  | [] => none

def date? (cs : List Char) : Option (List Char) := do
  let (year, cs) ← number? 4 cs
  let cs ← mark? (· == '-') cs
  let (month, cs) ← number? 2 cs
  let cs ← mark? (· == '-') cs
  let (day, cs) ← number? 2 cs
  if 1 ≤ month ∧ month ≤ 12 ∧ 1 ≤ day ∧ day ≤ daysIn year month then some cs else none

/-- A time of day; seconds and their fraction may be left out. -/
def time? (cs : List Char) : Option (List Char) := do
  let (hour, cs) ← number? 2 cs
  let cs ← mark? (· == ':') cs
  let (minute, cs) ← number? 2 cs
  if 23 < hour ∨ 59 < minute then none
  else match mark? (· == ':') cs with
    | none => some cs
    | some cs =>
      let (second, cs) ← number? 2 cs
      if 60 < second then none
      else match mark? (· == '.') cs with
        | none => some cs
        | some cs => if (cs.head?.any Char.isDigit) then some (cs.dropWhile Char.isDigit) else none

def offset? (cs : List Char) : Option (List Char) :=
  match cs with
  | [] => some []
  | c :: cs =>
    if c == 'Z' || c == 'z' then some cs
    else if c == '+' || c == '-' then do
      let (hour, cs) ← number? 2 cs
      let cs ← mark? (· == ':') cs
      let (minute, cs) ← number? 2 cs
      if hour ≤ 23 ∧ minute ≤ 59 then some cs else none
    else none

def isMoment (cs : List Char) : Bool :=
  match date? cs with
  | some [] => true
  | some (c :: cs) =>
    (c == 'T' || c == 't' || c == ' ') && ((time? cs).bind offset?).any List.isEmpty
  | none => (time? cs).any List.isEmpty

def isWordChar (c : Char) : Bool :=
  c.isAlphanum || c == '_' || c == '+' || c == '-' || c == '.' || c == ':'

/-- The characters of an unquoted value at the front of a text. A space may
part a date from a time. -/
def word (cs : List Char) : List Char × List Char :=
  let first := cs.takeWhile isWordChar
  match date? first, cs.dropWhile isWordChar with
  | some [], ' ' :: d :: rest =>
    if d.isDigit then
      (first ++ ' ' :: (d :: rest).takeWhile isWordChar, (d :: rest).dropWhile isWordChar)
    else (first, ' ' :: d :: rest)
  | _, rest => (first, rest)

def scalar? (cs : List Char) : Option (Value × List Char) :=
  let (word, rest) := word cs
  if word = "true".toList then some (.bool true, rest)
  else if word = "false".toList then some (.bool false, rest)
  else if isMoment word then some (.moment (String.ofList word), rest)
  else match integer? word with
    | some n => some (.integer n, rest)
    | none => (float? word).map fun x => (.float x, rest)

end DocumentLint.Toml
