import CertWire.Octets
import Mathlib.Algebra.Ring.Int.Defs
import Mathlib.Algebra.Ring.Nat
import Mathlib.Data.List.Induction

/-! Octets as digits of base 256. Writing reduces a number modulo the width, whatever its
sign, and reading is exact, so each string of octets is the one writing of its value. -/

namespace CertWire.Octets

@[simp] theorem value_nil : value [] = 0 := rfl

theorem value_append_singleton (octets : Octets) (octet : UInt8) :
    value (octets ++ [octet]) = value octets * 256 + octet.toNat := by
  simp only [value, List.foldl_append, List.foldl_cons, List.foldl_nil]

@[simp] theorem value_singleton (octet : UInt8) : value [octet] = octet.toNat := by
  simp only [value, List.foldl_cons, List.foldl_nil, Nat.zero_mul, Nat.zero_add]

theorem value_append (high low : Octets) : value (high ++ low) = value high * 256 ^ low.length + value low := by
  induction low using List.reverseRecOn with
  | nil => simp
  | append_singleton low octet ih =>
    rw [← List.append_assoc, value_append_singleton, value_append_singleton, ih, List.length_append,
      List.length_singleton, Nat.pow_succ, Nat.add_mul, Nat.mul_assoc, Nat.add_assoc]

theorem value_lt (octets : Octets) : value octets < 256 ^ octets.length := by
  induction octets using List.reverseRecOn with
  | nil => simp
  | append_singleton octets octet ih =>
    have digit : octet.toNat < 256 := octet.toNat_lt
    rw [value_append_singleton, List.length_append, List.length_singleton, Nat.pow_succ]
    omega

private theorem digit_ofNat (number : Int) : ((UInt8.ofNat (number % 256).toNat).toNat : Int) = number % 256 := by
  have below : (number % 256).toNat < 256 := by omega
  rw [UInt8.toNat_ofNat_of_lt' below]
  omega

private theorem emod_pow_succ (number : Int) (width : Nat) :
    number % 256 ^ (width + 1) = number / 256 % 256 ^ width * 256 + number % 256 := by
  have quotient : number / 256 / 256 ^ width = number / (256 * 256 ^ width) := Int.ediv_ediv_of_nonneg (by decide)
  rw [Int.pow_succ, Int.mul_comm (256 ^ width) 256, Int.emod_def, Int.emod_def (number / 256), Int.emod_def number 256,
    quotient]
  grind

/-- Writing keeps the low octets of a number: negative numbers come out as their complements. -/
theorem value_ofInt (width : Nat) (number : Int) : (value (ofInt width number) : Int) = number % 256 ^ width := by
  induction width generalizing number with
  | zero => simp [ofInt]
  | succ width ih =>
    calc (value (ofInt (width + 1) number) : Int)
        = value (ofInt width (number / 256)) * 256 + (UInt8.ofNat (number % 256).toNat).toNat := by
          rw [ofInt, value_append_singleton, Int.natCast_add, Int.natCast_mul]; rfl
      _ = number / 256 % 256 ^ width * 256 + number % 256 := by rw [ih, digit_ofNat]
      _ = number % 256 ^ (width + 1) := (emod_pow_succ number width).symm

/-- Reading and writing again restores the octets. -/
theorem ofInt_value (octets : Octets) : ofInt octets.length (value octets) = octets := by
  induction octets using List.reverseRecOn with
  | nil => rfl
  | append_singleton octets octet ih =>
    have digit : octet.toNat < 256 := octet.toNat_lt
    have high : (value (octets ++ [octet]) : Int) / 256 = value octets := by
      rw [value_append_singleton]; omega
    have low : ((value (octets ++ [octet]) : Int) % 256).toNat = octet.toNat := by
      rw [value_append_singleton]; omega
    rw [List.length_append, List.length_singleton, ofInt, high, low, ih, UInt8.ofNat_toNat]

/-- As many octets as another string, and the same value, make it the same string. -/
theorem value_injective {octets others : Octets} (length : octets.length = others.length)
    (same : value octets = value others) : octets = others := by
  calc octets = ofInt octets.length (value octets) := (ofInt_value octets).symm
    _ = ofInt others.length (value others) := by rw [length, same]
    _ = others := ofInt_value others

/-- The codec is arithmetic in base 256. A number of any sign comes back modulo the width it was written
in, reading goes by the places of the octets, and strings of a width are the numbers below its modulus. -/
theorem codec_is_positional :
    (∀ width number, (ofInt width number).length = width ∧ (value (ofInt width number) : Int) = number % 256 ^ width) ∧
    (∀ number, ((ofInt8 number).length = 1 ∧ (value (ofInt8 number) : Int) = number % 256) ∧
      (ofInt16 number).length = 2 ∧ (value (ofInt16 number) : Int) = number % 65536) ∧
    (∀ high low, value (high ++ low) = value high * 256 ^ low.length + value low) ∧
    (∀ octets, value octets < 256 ^ octets.length) ∧
    (∀ octets others, octets.length = others.length → value octets = value others → octets = others) ∧
    (∀ octets, octets.length = 1 → ofInt8 (value octets) = octets) ∧
    ∀ octets, octets.length = 2 → ofInt16 (value octets) = octets := by
  refine ⟨?_, ?_, value_append, value_lt, fun _ _ => value_injective, ?_, ?_⟩
  · intro width number
    exact ⟨length_ofInt width number, value_ofInt width number⟩
  · intro number
    exact ⟨⟨length_ofInt 1 number, value_ofInt 1 number⟩, length_ofInt 2 number, value_ofInt 2 number⟩
  · intro octets length
    rw [ofInt8, ← length, ofInt_value]
  · intro octets length
    rw [ofInt16, ← length, ofInt_value]

/-- A negative number in three octets, and strings of one octet and of two. A leading zero changes the
string and not its value. -/
theorem codec_is_positional_negative :
    (ofInt 3 (-2)).length = ([0xff, 0xff, 0xfe] : Octets).length ∧
      value (ofInt 3 (-2)) = value [0xff, 0xff, 0xfe] ∧ ofInt 3 (-2) = [0xff, 0xff, 0xfe] ∧
    ofInt8 (value [0xfe]) = [0xfe] ∧ ofInt16 (value [0x12, 0xff]) = [0x12, 0xff] ∧
      value [0, 7] = value [7] := by
  obtain ⟨-, -, -, -, injective, octet, octets⟩ := codec_is_positional
  have length : (ofInt 3 (-2)).length = ([0xff, 0xff, 0xfe] : Octets).length := length_ofInt 3 (-2)
  have same : value (ofInt 3 (-2)) = value [0xff, 0xff, 0xfe] := by decide
  exact ⟨length, same, injective _ _ length same, octet _ rfl, octets _ rfl, rfl⟩

end CertWire.Octets
