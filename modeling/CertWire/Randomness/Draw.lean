/-! Drawing numbers from a source of 32-bit words. Every draw says how many words it takes,
so a seed determines all of them; a draw that fails leaves the source as it was. -/

namespace CertWire.Randomness

/-- A source of words, each of which comes with the source that gives the next. -/
class WordSource (σ : Type) where
  next : σ → UInt32 × σ

/-- Why a number cannot be drawn. -/
inductive DrawFault
  | emptyRange (low high : Int)
  | negativeWidth
deriving DecidableEq, Repr

/-- The message names the range by its first number, the number past its last, and its size. -/
def DrawFault.message : DrawFault → String
  | emptyRange low high => s!"empty range for randrange() ({low}, {high + 1}, {high + 1 - low})"
  | negativeWidth => "number of bits must be non-negative"

abbrev Draw (σ : Type) := ExceptT DrawFault (StateM σ)

variable {σ : Type} [WordSource σ]

def word : Draw σ UInt32 := ExceptT.lift (modifyGet WordSource.next)

/-- A number of so many bits. They are the high bits of a word; of a longer number, the
lowest 32 bits are drawn first. -/
def bits (width : Nat) : Draw σ Nat := do
  if width = 0 then return 0
  let lowest ← word
  if width ≤ 32 then return lowest.toNat >>> (32 - width)
  return lowest.toNat + (← bits (width - 32)) <<< 32
termination_by width

/-- A number of so many bits, if there can be so many. -/
def bitsOfWidth (width : Int) : Draw σ Nat :=
  if width < 0 then throw .negativeWidth else bits width.toNat

/-- The denominator of fractions. -/
def fractionUnit : Nat := Nat.pow 2 53

/-- The numerator of a fraction of one: 27 bits of one word above 26 bits of the next. -/
def fraction : Draw σ Nat := do
  let high ← word
  let low ← word
  return high.toNat >>> 5 <<< 26 + low.toNat >>> 6

/-- Whether a fraction is below so many hundredths. -/
def isBelow (numerator hundredths : Nat) : Bool := 100 * numerator < hundredths * fractionUnit

/-- How many bits a number has. -/
def bitLength (number : Nat) : Nat := if number = 0 then 0 else number.log2 + 1

/-- How often a draw below a bound is tried. In principle it goes on until a number fits. Half of the numbers
or more are below the bound, so only a source that is not random at all ever gets this far. -/
def attemptLimit : Nat := 10000

/-- Draws as many bits as the bound has until they are below it, or 0 after that many attempts. -/
def belowWithin (bound : Nat) : (attempts : Nat) → Draw σ Nat
  | 0 => pure 0
  | attempts + 1 => do
    let candidate ← bits (bitLength bound)
    if candidate < bound then return candidate else belowWithin bound attempts

/-- A number below the bound. -/
def below (bound : Nat) : Draw σ Nat := belowWithin bound attemptLimit

/-- A number from a range that includes both ends. -/
def between (low high : Int) : Draw σ Int := do
  if high < low then throw (.emptyRange low high)
  return low + (← below (high - low + 1).toNat)

def octet : Draw σ UInt8 := return UInt8.ofNat (← bits 8)

/-- Octets of a random length, which is drawn first. -/
def octets (longest : Int) : Draw σ (List UInt8) := do
  let length ← between 0 longest
  (List.replicate length.toNat ()).mapM fun _ => octet

end CertWire.Randomness
