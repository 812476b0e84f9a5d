/-! Octet strings and their big-endian integers. Any number of octets reads as a
natural number; writing keeps only the low bits of an integer, negative or not. -/

namespace CertWire

/-- A string of octets, most significant first where it stands for a number. -/
abbrev Octets := List UInt8

namespace Octets

/-- The big-endian value of the octets; the empty string has value 0. -/
def value (octets : Octets) : Nat :=
  octets.foldl (fun high octet => high * 256 + octet.toNat) 0

/-- The low `8 * width` bits of a number, as exactly `width` big-endian octets. -/
def ofInt : (width : Nat) → (number : Int) → Octets
  | 0, _ => []
  | width + 1, number => ofInt width (number / 256) ++ [UInt8.ofNat (number % 256).toNat]

/-- The low 8 bits of a number as one octet. -/
def ofInt8 (number : Int) : Octets := ofInt 1 number

/-- The low 16 bits of a number as two octets. -/
def ofInt16 (number : Int) : Octets := ofInt 2 number

@[simp] theorem length_ofInt (width : Nat) (number : Int) : (ofInt width number).length = width := by
  induction width generalizing number with
  | zero => rfl
  | succ width ih => simp [ofInt, ih]

/-- Whether a number can count octets or point at one: it fits in 64 bits with a sign. -/
def isIndex (number : Int) : Bool := -0x8000000000000000 ≤ number && number < 0x8000000000000000

end Octets
end CertWire
