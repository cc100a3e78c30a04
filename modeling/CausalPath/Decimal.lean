/-!
# Decimal text of binary fractions

A finite double is `m * 2 ^ q` with a natural number `m`. This module writes such a number in
decimal in two ways, both in exact arithmetic: with the fewest digits that read back
(`Decimal.shortest`), and with a fixed number of places (`Decimal.fixed`), where a tie goes to the
even neighbour. `Decimal.toFloat` goes the other way.
-/

namespace CausalPath

/-- The magnitude `mantissa * 2 ^ exponent` of a finite double. -/
structure Binary where
  mantissa : Nat
  exponent : Int
  deriving DecidableEq, Repr

namespace Binary

/-- The magnitude of a double; that of an infinity or a non-number has no meaning. -/
def ofFloat (x : Float) : Binary :=
  -- 52 bits of fraction below 11 bits of exponent
  let bits : Nat := x.toBits.toNat
  let biased : Nat := bits / 0x10000000000000 % 0x800
  let fraction : Nat := bits % 0x10000000000000
  if biased = 0 then ⟨fraction, -1074⟩ else ⟨0x10000000000000 + fraction, (biased : Int) - 1075⟩

def quotient (b : Binary) : Nat × Nat :=
  (b.mantissa * Nat.pow 2 b.exponent.toNat, Nat.pow 2 (-b.exponent).toNat)

end Binary

def isNegative (x : Float) : Bool := 0x8000000000000000 ≤ x.toBits.toNat

/-- Rounds a quotient to the nearest natural number; a tie goes to the even neighbour. -/
def roundDiv (num den : Nat) : Nat :=
  let q := num / den
  let twice := 2 * (num % den)
  if twice < den then q else if den < twice then q + 1 else q + q % 2

namespace Decimal

def digits (n : Nat) : String := toString n

def zeros (n : Nat) : String := String.ofList (List.replicate n '0')

/-! ## § 1. Fixed places -/

/-- A magnitude with a fixed number of places, at least one. -/
def fixedMagnitude (b : Binary) (places : Nat) : String :=
  let (num, den) := b.quotient
  let scaled := roundDiv (num * Nat.pow 10 places) den
  let fraction := digits (scaled % Nat.pow 10 places)
  digits (scaled / Nat.pow 10 places) ++ "." ++ zeros (places - fraction.length) ++ fraction

/-- A finite double with a fixed number of places, at least one. -/
def fixed (x : Float) (places : Nat) : String :=
  (if isNegative x then "-" else "") ++ fixedMagnitude (.ofFloat x) places

/-! ## § 2. Fewest digits -/

/-- The numbers that round to a double: `low ≤ 4 * value / unit ≤ high` in quarters of the unit
`2 ^ exponent`, both ends included just when the mantissa is even. -/
structure Interval where
  low : Nat
  high : Nat
  closed : Bool

/-- The interval of a positive magnitude. Below a power of two the doubles lie closer. -/
def interval (b : Binary) : Interval where
  low :=
    if b.mantissa = 0x10000000000000 ∧ -1074 < b.exponent then
      4 * b.mantissa - 1
    else
      4 * b.mantissa - 2
  high := 4 * b.mantissa + 2
  closed := b.mantissa % 2 = 0

/-- Whether `n * 10 ^ scale` lies in the interval of a magnitude. -/
def isInside (b : Binary) (n : Nat) (scale : Int) : Bool :=
  let i := interval b
  -- compare `n * 10 ^ scale` with `x / 4 * 2 ^ exponent` without denominators
  let left := 4 * n * Nat.pow 10 scale.toNat * Nat.pow 2 (-b.exponent).toNat
  let right (x : Nat) := x * Nat.pow 2 b.exponent.toNat * Nat.pow 10 (-scale).toNat
  if i.closed then
    right i.low ≤ left && left ≤ right i.high
  else
    right i.low < left && left < right i.high

/-- The number of decimal places before the point: `value < 10 ^ k`, and `10 ^ (k - 1) ≤ value`. -/
def magnitudeOf (b : Binary) : Int :=
  let (num, den) := b.quotient
  if den ≤ num then
    (digits (num / den)).length
  else
    -- the first power of ten that lifts the value to one or more
    1 - (lift num den 400 : Nat)
where
  /-- How often a value below one is multiplied by ten until it reaches one. -/
  lift (num den : Nat) : Nat → Nat
    | 0 => 0
    | k + 1 => if den ≤ num then 0 else lift (num * 10) den k + 1

/-- The neighbour of a magnitude on the grid of multiples of `10 ^ scale` that reads back: the
nearer one of two, the even one of two equally near. -/
def hit? (b : Binary) (scale : Int) : Option Nat :=
  let (num, den) := b.quotient
  let num := num * Nat.pow 10 (-scale).toNat
  let den := den * Nat.pow 10 scale.toNat
  let below := num / den
  let nearest := roundDiv num den
  let other := if nearest = below then below + 1 else below
  if isInside b nearest scale then some nearest
  else if isInside b other scale then some other
  else none

/-- The decimal with the fewest digits that reads back, as digits and scale. -/
def fewest (b : Binary) : Nat × Int :=
  let top := magnitudeOf b
  let found := (List.range 17).findSome? fun (k : Nat) =>
    let scale := top - (k + 1)
    (hit? b scale).map fun n => (n, scale)
  found.getD (0, 0)

/-- Drops the zeros at the end of a number and raises its scale. -/
def trim (n : Nat) (scale : Int) : Nat → Nat × Int
  | 0 => (n, scale)
  | k + 1 => if n % 10 = 0 ∧ n ≠ 0 then trim (n / 10) (scale + 1) k else (n, scale)

/-- The notation of numbers in reports: at least one place after the point; an exponent below `1e-5`
and from `1e16` on, without plus sign and without needless point. -/
def layout (n : Nat) (scale : Int) : String :=
  let text := digits n
  let point := (text.length : Int) + scale
  if 0 ≤ scale ∧ point ≤ 16 then
    text ++ zeros scale.toNat ++ ".0"
  else if 0 < point ∧ point ≤ 16 then
    String.ofList (text.toList.take point.toNat) ++ "." ++
      String.ofList (text.toList.drop point.toNat)
  else if -5 < point ∧ point ≤ 0 then
    "0." ++ zeros (-point).toNat ++ text
  else
    let exponent := toString (point - 1)
    match text.toList with
    | [] => ""
    | [d] => String.ofList [d] ++ "e" ++ exponent
    | d :: rest => String.ofList [d] ++ "." ++ String.ofList rest ++ "e" ++ exponent

/-- The shortest decimal text of a double that reads back, if the double is finite. -/
def shortest? (x : Float) : Option String :=
  if x.isFinite then
    let b := Binary.ofFloat x
    let sign := if isNegative x then "-" else ""
    if b.mantissa = 0 then
      some (sign ++ "0.0")
    else
      let (n, scale) := fewest b
      let (n, scale) := trim n scale 17
      some (sign ++ layout n scale)
  else
    none

/-! ## § 3. Reading -/

/-- The double nearest to `n * 10 ^ scale`. Scales beyond all doubles go to zero or infinity. -/
def toFloat (n : Nat) (scale : Int) : Float :=
  let size := (digits n).length
  if n = 0 ∨ scale + size < -400 then
    0.0
  else if 400 < scale + size then
    1.0 / 0.0
  else if scale < 0 then
    Float.ofScientific n true (-scale).toNat
  else
    Float.ofScientific n false scale.toNat

end Decimal

end CausalPath
