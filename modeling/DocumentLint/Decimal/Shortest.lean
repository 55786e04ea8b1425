/-! # Shortest decimals

A binary fraction stands for every real that rounds to it. Its shortest
decimal is the one with the fewest digits among those, and of two as short
the nearer one. A style decides between two that are as near, and says which
decimals are written out and which with an exponent.
-/

namespace DocumentLint.Decimal

/-- The value `mantissa * 2 ^ exponent`; `narrow` when the gap below it is
half the gap above it. -/
structure Binary where
  mantissa : Nat
  exponent : Int
  narrow : Bool
  deriving DecidableEq, Repr

structure Scaled where
  digits : Nat
  exponent : Int
  deriving DecidableEq, Repr

/-- Which of two neighbouring multiples stands for what lies halfway between them. -/
inductive Tie where
  | up
  | even
  deriving DecidableEq, Repr

namespace Binary

/-- Four times the mantissa and the ends of the interval that rounds to it. -/
def quarters (b : Binary) : Nat × Nat × Nat :=
  (4 * b.mantissa - (if b.narrow then 1 else 2), 4 * b.mantissa, 4 * b.mantissa + 2)

/-- A quarter unit of the mantissa, as a fraction of whole numbers. -/
def unit (b : Binary) : Nat × Nat :=
  (Nat.pow 2 (b.exponent - 2).toNat, Nat.pow 2 (2 - b.exponent).toNat)

/-- The grid of multiples of `10 ^ k` holds this multiple of the interval, if any. -/
def onGrid? (b : Binary) (tie : Tie) (k : Int) : Option Nat :=
  let (lo, mid, hi) := b.quarters
  let (num, den) := b.unit
  let up := num * Nat.pow 10 (-k).toNat
  let down := den * Nat.pow 10 k.toNat
  let below := mid * up / down
  let fits (n : Nat) : Bool :=
    if b.mantissa % 2 = 0 then lo * up ≤ n * down && n * down ≤ hi * up
    else lo * up < n * down && n * down < hi * up
  let above := below + 1
  if fits below && fits above then
    match compare (mid * up - below * down) (above * down - mid * up) with
    | .lt => some below
    | .gt => some above
    | .eq => if tie = .even ∧ below % 2 = 0 then some below else some above
  else if fits below then some below
  else if fits above then some above
  else none

def search (b : Binary) (tie : Tie) : Nat → Int → Scaled
  | 0, k => ⟨0, k⟩
  | tries + 1, k =>
    match b.onGrid? tie k with
    | some n => ⟨n, k⟩
    | none => search b tie tries (k - 1)

def countDigits (n : Nat) : Nat := (Nat.toDigits 10 n).length

/-- The first grid is too coarse for two digits, so that the last digit found is no
zero, and no double needs more than seventeen. -/
def shortest (b : Binary) (tie : Tie) : Scaled :=
  let (num, den) := b.unit
  b.search tie 20 (countDigits (4 * b.mantissa * num) - countDigits den + 1)

end Binary

namespace Scaled

/-- How many digits stand before the point, counted down below zero for zeros behind it. -/
def magnitude (d : Scaled) : Int := Binary.countDigits d.digits + d.exponent

def positional (d : Scaled) : List Char :=
  let digits := Nat.toDigits 10 d.digits
  if 0 ≤ d.exponent then digits ++ List.replicate d.exponent.toNat '0' ++ ['.', '0']
  else
    let places := (-d.exponent).toNat
    let padded := List.replicate (places + 1 - digits.length) '0' ++ digits
    padded.take (padded.length - places) ++ '.' :: padded.drop (padded.length - places)

def exponential (d : Scaled) : List Char :=
  let digits := Nat.toDigits 10 d.digits
  let fraction := if digits.length = 1 then [] else '.' :: digits.drop 1
  let power := d.magnitude - 1
  let sign := if power < 0 then '-' else '+'
  digits.take 1 ++ fraction ++ 'e' :: sign :: Nat.toDigits 10 power.natAbs

end Scaled

structure Style where
  tie : Tie
  /-- The magnitudes that are written without an exponent. -/
  writesOut : Int → Bool

namespace Style

def full : Style := ⟨.up, fun _ => true⟩

/-- An exponent beyond sixteen digits before the point, or four zeros behind it. -/
def compact : Style := ⟨.even, fun magnitude => -4 ≤ magnitude && magnitude ≤ 16⟩

end Style

def ofBits (bits : UInt64) : Bool × Binary :=
  let bits : Nat := bits.toNat
  let fraction : Nat := bits % Nat.pow 2 52
  let exponent : Nat := bits / Nat.pow 2 52 % Nat.pow 2 11
  let negative : Bool := bits / Nat.pow 2 63 == 1
  if exponent = 0 then (negative, ⟨fraction, -1074, false⟩)
  else (negative, ⟨fraction + Nat.pow 2 52, (exponent : Int) - 1075, fraction = 0 ∧ 1 < exponent⟩)

def render (style : Style) (x : Float) : String :=
  if x.isNaN then "NaN"
  else if x.isInf then if x < 0 then "-inf" else "inf"
  else
    let (negative, b) := ofBits x.toBits
    let d := if b.mantissa = 0 then ⟨0, 0⟩ else b.shortest style.tie
    let text := if style.writesOut d.magnitude then d.positional else d.exponential
    String.ofList (if negative then '-' :: text else text)

end DocumentLint.Decimal
