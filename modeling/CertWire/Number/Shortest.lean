import CertWire.Number.Binary64

/-! The shortest decimal text that reads back as the same binary64 number. On the decimal
grid of 1, 2, … 17 digits the two neighbours of the value are tested; the first grid with
one that rounds to the value decides the number of digits, and the nearer one the digits. -/

namespace CertWire.Binary64

/-- The decimals that round to a value: they lie from `low` to `high`, the ends included or
not, where all is counted in quarters of a unit. -/
structure Basin where
  low : Nat
  centre : Nat
  high : Nat
  closed : Bool

def basin (units : Nat) : Basin :=
  let step := Nat.pow 2 (coarseness units)
  let significand := units / step
  let below := if significand = Nat.pow 2 52 ∧ 1 < step then step else 2 * step
  { low := 4 * units - below, centre := 4 * units, high := 4 * units + 2 * step, closed := significand % 2 == 0 }

def Basin.holds (basin : Basin) (point : Nat) : Bool :=
  if basin.closed then basin.low ≤ point && point ≤ basin.high else basin.low < point && point < basin.high

/-- Quarters of a unit in 1. -/
def quarters : Nat := Nat.pow 2 (unitBits + 2)

/-- The least exponent of ten above a positive count of quarters. -/
def decimalOrder (centre : Nat) : Int :=
  if quarters ≤ centre then (Nat.toDigits 10 (centre / quarters)).length
  else
    match (List.range 330).find? fun places => quarters ≤ centre * Nat.pow 10 (places + 1) with
    | some places => -places
    | none => 0

/-- The multiple of `10 ^ place` nearest to the value among the two around it, if either
rounds to the value; a tie goes to the even one. -/
def nearestOnGrid? (basin : Basin) (place : Int) : Option Nat :=
  let grid := quarters * Nat.pow 10 place.toNat
  let scale := Nat.pow 10 (-place).toNat
  let scaled : Basin := { basin with
    low := basin.low * scale, centre := basin.centre * scale, high := basin.high * scale }
  let floor := scaled.centre / grid
  let twice := 2 * (scaled.centre % grid)
  match scaled.holds (floor * grid), scaled.holds ((floor + 1) * grid) with
  | true, true => some (if twice < grid ∨ (twice = grid ∧ floor % 2 = 0) then floor else floor + 1)
  | true, false => some floor
  | false, true => some (floor + 1)
  | false, false => none

/-- Decimal digits without zeros at the end, and the place of the point before them: the
value is `0.d₁d₂… * 10 ^ point`. -/
structure Decimal where
  digits : List Char
  point : Int

def dropTrailingZeros (digits : List Char) : List Char := (digits.reverse.dropWhile (· == '0')).reverse

/-- The shortest decimal that rounds to a positive number of units. -/
def shortest (units : Nat) : Decimal :=
  let basin := basin units
  let order := decimalOrder basin.centre
  match (List.range 17).findSome? fun (count : Nat) =>
      (nearestOnGrid? basin (order - (count + 1 : Nat))).map fun point => (count + 1, point) with
  | some (count, point) =>
    let digits := Nat.toDigits 10 point
    { digits := dropTrailingZeros digits, point := order + digits.length - count }
  | none => { digits := ['0'], point := 1 }

/-- Positional text for a point from -3 to 16, at least one place behind it; else an
exponent of at least two digits with its sign. -/
def Decimal.text (decimal : Decimal) : String :=
  let size : Int := decimal.digits.length
  let zeros (count : Int) := List.replicate count.toNat '0'
  String.ofList <|
    if -4 < decimal.point ∧ decimal.point ≤ 16 then
      if decimal.point ≤ 0 then '0' :: '.' :: zeros (-decimal.point) ++ decimal.digits
      else if size ≤ decimal.point then decimal.digits ++ zeros (decimal.point - size) ++ ['.', '0']
      else decimal.digits.take decimal.point.toNat ++ '.' :: decimal.digits.drop decimal.point.toNat
    else
      let exponent := decimal.point - 1
      let digits := Nat.toDigits 10 exponent.natAbs
      decimal.digits.take 1 ++ (if 1 < size then '.' :: decimal.digits.drop 1 else []) ++
        'e' :: (if exponent < 0 then '-' else '+') :: zeros (2 - digits.length) ++ digits

/-- The text of a number. -/
def text : Binary64 → String
  | finite negative units =>
    (if negative then "-" else "") ++ (if units = 0 then "0.0" else (shortest units).text)
  | infinite negative => if negative then "-inf" else "inf"
  | notANumber => "nan"

end CertWire.Binary64
