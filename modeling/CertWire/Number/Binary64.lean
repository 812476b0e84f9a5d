/-! Binary64 numbers by their exact values. Every finite one is a whole number of units of
2^-1074, so comparing with integers needs no rounding; only reading a decimal does. -/

namespace CertWire

inductive Binary64
  | finite (negative : Bool) (units : Nat)
  | infinite (negative : Bool)
  | notANumber
deriving DecidableEq, Repr

namespace Binary64

/-- The unit in which finite values are counted is `2 ^ -unitBits`. -/
def unitBits : Nat := 1074

/-- The values with this many units or more are out of range. -/
def unitLimit : Nat := Nat.pow 2 (1024 + unitBits)

/-- How far the grid of representable values is coarser than one unit, as a power of two. -/
def coarseness (units : Nat) : Nat := units.log2 - 52

/-- The quotient rounded to a whole number, a tie to the even one. -/
def roundQuotient (numerator denominator : Nat) : Nat :=
  let quotient := numerator / denominator
  let twice := 2 * (numerator % denominator)
  if denominator < twice ∨ (twice = denominator ∧ quotient % 2 = 1) then quotient + 1 else quotient

/-- The representable value nearest to a quotient. -/
def ofRatio (negative : Bool) (numerator denominator : Nat) : Binary64 :=
  let scaled := numerator * Nat.pow 2 unitBits
  let step := Nat.pow 2 (coarseness (scaled / denominator))
  let units := roundQuotient scaled (denominator * step) * step
  if units < unitLimit then finite negative units else infinite negative

/-- The representable value nearest to `digits * 10 ^ scale`. Magnitudes far outside the
range are settled by their order alone. -/
def ofDecimal (negative : Bool) (digits : Nat) (scale : Int) : Binary64 :=
  let order : Int := (Nat.toDigits 10 digits).length + scale
  if digits = 0 ∨ order < -330 then finite negative 0
  else if 310 < order then infinite negative
  else if 0 ≤ scale then ofRatio negative (digits * Nat.pow 10 scale.toNat) 1
  else ofRatio negative digits (Nat.pow 10 (-scale).toNat)

/-- The number of units with its sign. -/
def signedUnits (negative : Bool) (units : Nat) : Int := if negative then -units else units

end Binary64

/-- A number of a document as it compares with others: all that counts is its place on the
extended line, whether it was written as an integer or not. -/
inductive Magnitude
  | lowest
  | units (count : Int)
  | highest
  | unordered
deriving DecidableEq, Repr

namespace Magnitude

def ofInt (number : Int) : Magnitude := units (number * (Nat.pow 2 Binary64.unitBits : Nat))

def ofBinary64 : Binary64 → Magnitude
  | .finite negative count => units (Binary64.signedUnits negative count)
  | .infinite true => lowest
  | .infinite false => highest
  | .notANumber => unordered

/-- Whether `left` comes before or at `right`. -/
def le : (left right : Magnitude) → Bool
  | unordered, _ | _, unordered => false
  | lowest, _ | _, highest => true
  | highest, _ | _, lowest => false
  | units left, units right => left ≤ right

end Magnitude
end CertWire
