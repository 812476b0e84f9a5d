import CertWire.Text.Base64

/-! Base 64 text with other octets anywhere in it. The reader passes over them in whatever state it is, so
they change nothing, and of the text that is left it makes the octets that were written. -/

namespace CertWire.Text.Base64

/-- The octet is no letter, no digit, neither of the two signs, and no padding. -/
structure Foreign (octet : UInt8) : Prop where
  capital : ¬ ('A'.toNat ≤ octet.toNat ∧ octet.toNat ≤ 'Z'.toNat)
  small : ¬ ('a'.toNat ≤ octet.toNat ∧ octet.toNat ≤ 'z'.toNat)
  digit : ¬ ('0'.toNat ≤ octet.toNat ∧ octet.toNat ≤ '9'.toNat)
  sign : octet.toNat ≠ '+'.toNat ∧ octet.toNat ≠ '/'.toNat
  padding : octet.toNat ≠ '='.toNat

/-- The first text is the second one with foreign octets put in at any places. -/
inductive Wraps : Octets → Octets → Prop
  | done : Wraps [] []
  | foreign {octet : UInt8} {text encoded : Octets} (foreign : Foreign octet) (rest : Wraps text encoded) :
      Wraps (octet :: text) encoded
  | kept {octet : UInt8} {text encoded : Octets} (rest : Wraps text encoded) : Wraps (octet :: text) (octet :: encoded)

variable {octet : UInt8} {text encoded : Octets} {sextet : Nat}

theorem Foreign.ne_padding (foreign : Foreign octet) : octet ≠ Base64.padding := by
  rintro rfl
  exact foreign.padding rfl

theorem Foreign.sextet?_eq_none (foreign : Foreign octet) : sextet? octet = none := by
  have capital : ¬ (0x41 ≤ octet.toNat ∧ octet.toNat ≤ 0x5a) := foreign.capital
  have small : ¬ (0x61 ≤ octet.toNat ∧ octet.toNat ≤ 0x7a) := foreign.small
  have digit : ¬ (0x30 ≤ octet.toNat ∧ octet.toNat ≤ 0x39) := foreign.digit
  have sign : octet.toNat ≠ 0x2b ∧ octet.toNat ≠ 0x2f := foreign.sign
  unfold sextet?
  dsimp only
  rw [if_neg capital, if_neg small, if_neg digit, if_neg sign.1, if_neg sign.2]

private theorem decodeFrom_foreign (foreign : Foreign octet) (progress : Progress) (text : Octets) :
    decodeFrom progress (octet :: text) = decodeFrom progress text := by
  rw [decodeFrom, if_neg foreign.ne_padding, foreign.sextet?_eq_none]

/-- The state of the reader is arbitrary, since foreign octets may stand even between two pads. -/
theorem Wraps.decodeFrom (wraps : Wraps text encoded) (progress : Progress) :
    decodeFrom progress text = decodeFrom progress encoded := by
  induction wraps generalizing progress with
  | done => rfl
  | foreign foreign rest ih => rw [decodeFrom_foreign foreign, ih]
  | kept rest ih => simp only [Base64.decodeFrom, ih]

private theorem letter_facts :
    ∀ sextet < 64, letter sextet ≠ padding ∧ sextet? (letter sextet) = some sextet := by decide

private theorem decodeFrom_letter (small : sextet < 64) (progress : Progress) (text : Octets) :
    decodeFrom progress (letter sextet :: text) = decodeFrom (progress.letter sextet) text := by
  obtain ⟨ne, reads⟩ := letter_facts sextet small
  rw [decodeFrom, if_neg ne, reads]

/-- What is known at the end of a group. -/
def between (decoded : Octets) : Progress := ⟨decoded, 0, 0, 0⟩

private theorem ofNat_eq {octet : UInt8} {number : Nat} (same : number = octet.toNat) : UInt8.ofNat number = octet := by
  rw [same, UInt8.ofNat_toNat]

variable (decoded : Octets) (first second third : UInt8)

/-- Two letters give an octet and the high bits of the next one. -/
theorem decodeFrom_two_letters {low : Nat} (small : low < 16) (text : Octets) :
    decodeFrom (between decoded) (letter (first.toNat / 4) :: letter (first.toNat % 4 * 16 + low) :: text) =
      decodeFrom ⟨first :: decoded, 2, low, 0⟩ text := by
  have bound : first.toNat < 256 := first.toNat_lt
  have whole : UInt8.ofNat (first.toNat / 4 * 4 + (first.toNat % 4 * 16 + low) / 16) = first := ofNat_eq (by omega)
  have rest : (first.toNat % 4 * 16 + low) % 16 = low := by omega
  rw [decodeFrom_letter (by omega), decodeFrom_letter (by omega)]
  simp only [Progress.letter, between, whole, rest]

private theorem decodeFrom_third_letter {low : Nat} (small : low < 4) (text : Octets) :
    decodeFrom ⟨decoded, 2, second.toNat / 16, 0⟩ (letter (second.toNat % 16 * 4 + low) :: text) =
      decodeFrom ⟨second :: decoded, 3, low, 0⟩ text := by
  have bound : second.toNat < 256 := second.toNat_lt
  have whole : UInt8.ofNat (second.toNat / 16 * 16 + (second.toNat % 16 * 4 + low) / 4) = second := ofNat_eq (by omega)
  have rest : (second.toNat % 16 * 4 + low) % 4 = low := by omega
  rw [decodeFrom_letter (by omega)]
  simp only [Progress.letter, whole, rest]

private theorem decodeFrom_last_letter (text : Octets) :
    decodeFrom ⟨decoded, 3, third.toNat / 64, 0⟩ (letter (third.toNat % 64) :: text) =
      decodeFrom (between (third :: decoded)) text := by
  have bound : third.toNat < 256 := third.toNat_lt
  have whole : UInt8.ofNat (third.toNat / 64 * 64 + third.toNat % 64) = third := ofNat_eq (by omega)
  rw [decodeFrom_letter (by omega)]
  simp only [Progress.letter, between, whole]

/-- The pads of a last group stop the reader, one where an octet is wanting and two where two are. -/
theorem decodeFrom_encode (octets : Octets) :
    decodeFrom (between decoded) (encode octets) = .ok (decoded.reverse ++ octets) := by
  induction octets using encode.induct generalizing decoded with
  | case1 => rw [encode, List.append_nil]; rfl
  | case2 first =>
    have two := decodeFrom_two_letters decoded first (show 0 < 16 by decide) [padding, padding]
    rw [Nat.add_zero] at two
    rw [encode, two]
    simp [decodeFrom]
  | case3 first second =>
    have bound : second.toNat < 256 := second.toNat_lt
    have two := decodeFrom_two_letters decoded first (show second.toNat / 16 < 16 by omega)
    have three := decodeFrom_third_letter (first :: decoded) second (show 0 < 4 by decide) [padding]
    rw [Nat.add_zero] at three
    rw [encode, two, three]
    simp [decodeFrom]
  | case4 first second third rest ih =>
    have bound : second.toNat < 256 := second.toNat_lt
    have alsoBound : third.toNat < 256 := third.toNat_lt
    rw [encode, decodeFrom_two_letters decoded first (by omega), decodeFrom_third_letter _ second (by omega),
      decodeFrom_last_letter, ih]
    simp

theorem decode_encode (octets : Octets) : decode (encode octets) = .ok octets := decodeFrom_encode [] octets

theorem Wraps.decode {octets : Octets} (wraps : Wraps text (encode octets)) : decode text = .ok octets := by
  rw [Base64.decode, wraps.decodeFrom]
  exact decode_encode octets

end CertWire.Text.Base64
