import CertWire.Text.Hex
import CertWire.Text.Numeral
import Mathlib.Data.List.TakeWhile

/-! Octets in hexadecimal and integers in decimal digits. What is written in digits is read back
as it was, and has none of the marks by which other text is told apart. -/

namespace CertWire.Text

theorem Points.toString_ofString (text : String) : (Points.ofString text).toString = text := by
  have same : Char.ofNat ∘ Char.toNat = id := funext Char.ofNat_toNat
  rw [Points.toString, Points.ofString, List.map_map, same, List.map_id, String.ofList_toList]

theorem Points.ofString_inj {left right : String} : Points.ofString left = Points.ofString right ↔ left = right := by
  refine ⟨fun same => ?_, congrArg Points.ofString⟩
  rw [← toString_ofString left, same, toString_ofString]

namespace Hex

theorem digitChar_facts : ∀ digit < 16,
    digit? (Nat.digitChar digit).toNat = some digit ∧ isSpace (Nat.digitChar digit).toNat = false ∧
      (Nat.digitChar digit).toNat < 0x80 := by
  decide

private theorem decodePairs_encodeOctet (position : Nat) (decoded : Octets) (octet : UInt8) (rest : Points) :
    decodePairs position decoded ((encodeOctet octet).map Char.toNat ++ rest) =
      decodePairs (position + 2) (octet :: decoded) rest := by
  have bound : octet.toNat < 256 := octet.toNat_lt
  obtain ⟨high, notSpace, _⟩ := digitChar_facts (octet.toNat / 16) (by omega)
  obtain ⟨low, _, _⟩ := digitChar_facts (octet.toNat % 16) (by omega)
  have whole : 16 * (octet.toNat / 16) + octet.toNat % 16 = octet.toNat := by omega
  rw [encodeOctet, List.map_cons, List.map_singleton, List.cons_append, List.singleton_append, decodePairs.eq_def]
  simp only [notSpace, high, low, whole, UInt8.ofNat_toNat, Bool.false_eq_true, if_false]

private theorem decodePairs_encode (octets : Octets) (position : Nat) (decoded : Octets) :
    decodePairs position decoded ((octets.flatMap encodeOctet).map Char.toNat) = .ok (decoded.reverse ++ octets) := by
  induction octets generalizing position decoded with
  | nil => simp [decodePairs]
  | cons octet rest ih =>
    rw [List.flatMap_cons, List.map_append, decodePairs_encodeOctet, ih, List.reverse_cons, List.append_assoc,
      List.singleton_append]

theorem exists_digit_of_mem_encode {octets : Octets} {character : Char} (member : character ∈ (encode octets).toList) :
    ∃ digit < 16, character = Nat.digitChar digit := by
  rw [encode, String.toList_ofList, List.mem_flatMap] at member
  obtain ⟨octet, _, member⟩ := member
  have bound : octet.toNat < 256 := octet.toNat_lt
  simp only [encodeOctet, List.mem_cons, List.not_mem_nil, or_false] at member
  rcases member with rfl | rfl
  · exact ⟨octet.toNat / 16, by omega, rfl⟩
  · exact ⟨octet.toNat % 16, by omega, rfl⟩

theorem decode_encode (octets : Octets) : decode (.ofString (encode octets)) = .ok octets := by
  have ascii : (Points.ofString (encode octets)).findIdx? (0x80 ≤ ·) = none := by
    rw [List.findIdx?_eq_none_iff, Points.ofString, List.forall_mem_map]
    intro character member
    obtain ⟨digit, bound, rfl⟩ := exists_digit_of_mem_encode member
    have := (digitChar_facts digit bound).2.2
    simp only [decide_eq_false_iff_not]
    omega
  rw [decode, ascii, Points.ofString, encode, String.toList_ofList]
  exact decodePairs_encode octets 0 []

theorem encode_inj {left right : Octets} : encode left = encode right ↔ left = right := by
  refine ⟨fun same => ?_, congrArg encode⟩
  have back := decode_encode left
  rw [same, decode_encode] at back
  exact (Except.ok.inj back).symm

theorem encode_append (front back : Octets) : encode (front ++ back) = encode front ++ encode back := by
  rw [encode, encode, encode, List.flatMap_append, String.ofList_append]

end Hex

namespace Numeral

/-- The integer has no more digits than are read. -/
def Short (number : Int) : Prop := (Nat.toDigits 10 number.natAbs).length ≤ digitLimit

theorem short_of_natAbs_lt {number : Int} (small : number.natAbs < 100000) : Short number := by
  have few : (Nat.toDigits 10 number.natAbs).length ≤ 5 := (Nat.length_toDigits_le_iff (by decide) (by decide)).mpr small
  exact Nat.le_trans few (by decide)

theorem toList_toString (number : Int) :
    (toString number).toList = (if number < 0 then ['-'] else []) ++ Nat.toDigits 10 number.natAbs := by
  rw [Int.toString_eq_repr, Int.repr_eq_if]
  by_cases negative : number < 0
  · have same : (-number).toNat = number.natAbs := by omega
    rw [if_neg (by omega), if_pos negative, String.toList_append, same, Nat.repr_eq_ofList_toDigits,
      String.toList_ofList, String.toList_ofList]
  · have same : number.toNat = number.natAbs := by omega
    rw [if_pos (by omega), if_neg negative, same, Nat.repr_eq_ofList_toDigits, String.toList_ofList, List.nil_append]

theorem signed_natAbs (number : Int) : (if number < 0 then -(number.natAbs : Int) else number.natAbs) = number := by
  split <;> omega

theorem isDigit_of_mem_toDigits (number : Nat) : ∀ digit ∈ Nat.toDigits 10 number, digit.isDigit = true :=
  fun _ member => Nat.isDigit_of_mem_toDigits (by decide) (by decide) member

theorem ofDigitChars_eq_foldl (digits : List Char) (start : Nat) :
    Nat.ofDigitChars 10 digits start = digits.foldl (fun high digit => high * 10 + (digit.toNat - 0x30)) start := by
  rw [Nat.ofDigitChars]
  congr 1
  funext high digit
  rw [Nat.mul_comm]
  rfl

theorem toNat_of_isDigit {character : Char} (digit : character.isDigit = true) :
    0x30 ≤ character.toNat ∧ character.toNat ≤ 0x39 := by
  simp only [Char.isDigit, Bool.and_eq_true, decide_eq_true_eq, ge_iff_le, UInt32.le_iff_toNat_le] at digit
  exact digit

theorem decimalDigit?_of_ascii {point : Nat} (least : 0x30 ≤ point) (most : point ≤ 0x39) :
    decimalDigit? point = some (point - 0x30) := by
  have first : zeroDigits.find? (fun start => start ≤ point && point < start + 10) = some 0x30 :=
    List.find?_cons_of_pos (by simp only [Bool.and_eq_true, decide_eq_true_eq]; omega)
  rw [decimalDigit?, first, Option.map_some]

/-- Digits as points, which are read as one group to its end. -/
theorem readable_of_isDigit {digits : List Char} (all : ∀ digit ∈ digits, digit.isDigit = true) :
    (∀ point ∈ digits.map Char.toNat, isDigitOrJoint point = true) ∧
      (digits.map Char.toNat).filterMap decimalDigit? = digits.map (·.toNat - 0x30) ∧
      ∀ afterDigit, isGrouped afterDigit (digits.map Char.toNat) = (afterDigit || !digits.isEmpty) := by
  induction digits with
  | nil => simp [isGrouped]
  | cons digit rest ih =>
    rw [List.forall_mem_cons] at all
    obtain ⟨least, most⟩ := toNat_of_isDigit all.1
    have known := decimalDigit?_of_ascii least most
    have plain : digit.toNat ≠ joint := by unfold joint; intro same; rw [same] at most; revert most; decide
    obtain ⟨joined, decoded, grouped⟩ := ih all.2
    refine ⟨?_, ?_, ?_⟩
    · rw [List.map_cons, List.forall_mem_cons]
      exact ⟨by simp [isDigitOrJoint, known], joined⟩
    · rw [List.map_cons, List.filterMap_cons_some known, decoded, List.map_cons]
    · intro afterDigit
      rw [List.map_cons, isGrouped, if_neg plain, grouped]
      simp

private theorem isSpace_eq_false {point : Nat} (mark : point = '-'.toNat ∨ 0x30 ≤ point ∧ point ≤ 0x39) :
    isSpace point = false := by
  have dash : '-'.toNat = 0x2d := rfl
  unfold isSpace isBlankPoint
  simp only [Bool.and_eq_false_iff, Bool.or_eq_false_iff, decide_eq_false_iff_not, beq_eq_false_iff_ne]
  omega

private theorem dropWhile_isSpace_digits {digits : List Char} (all : ∀ digit ∈ digits, digit.isDigit = true) :
    (digits.map Char.toNat).dropWhile isSpace = digits.map Char.toNat := by
  cases digits with
  | nil => rfl
  | cons first others =>
    have notSpace := isSpace_eq_false (.inr (toNat_of_isDigit (all first List.mem_cons_self)))
    rw [List.map_cons, List.dropWhile_cons_of_neg (by simp [notSpace])]

theorem head?_digits_ne {digits : List Char} (all : ∀ digit ∈ digits, digit.isDigit = true) {mark : Nat}
    (before : mark < 0x30) : (digits.map Char.toNat).head? ≠ some mark := by
  cases digits with
  | nil => simp
  | cons first others =>
    have least := (toNat_of_isDigit (all first List.mem_cons_self)).1
    simp only [List.map_cons, List.head?_cons, ne_eq, Option.some.injEq]
    omega

/-- Digits are read to their end, behind a minus sign or alone. -/
theorem read_digits {digits : List Char} (all : ∀ digit ∈ digits, digit.isDigit = true) (occupied : digits ≠ [])
    (few : digits.length ≤ digitLimit) (negative : Prop) [Decidable negative] :
    read ((if negative then ['-'.toNat] else []) ++ digits.map Char.toNat) =
      .ok (if negative then -(Nat.ofDigitChars 10 digits 0 : Int) else Nat.ofDigitChars 10 digits 0) := by
  obtain ⟨joined, decoded, grouped⟩ := readable_of_isDigit all
  have taken := List.takeWhile_eq_self_iff.mpr joined
  have ended := List.dropWhile_eq_nil_iff.mpr joined
  have unspaced := dropWhile_isSpace_digits all
  have noMinus : (digits.map Char.toNat).head? ≠ some '-'.toNat := head?_digits_ne all (by decide)
  have noPlus : (digits.map Char.toNat).head? ≠ some '+'.toNat := head?_digits_ne all (by decide)
  have minus : isSpace '-'.toNat = false := isSpace_eq_false (.inl rfl)
  have occupied : digits.isEmpty = false := by simpa using occupied
  have filled : ¬ digitLimit < digits.length := by omega
  rw [ofDigitChars_eq_foldl]
  by_cases below : negative
  · simp only [read, below, if_true, List.cons_append, List.nil_append, List.dropWhile_cons_of_neg, minus,
      Bool.false_eq_true, not_false_eq_true, List.head?_cons, true_or, List.drop_succ_cons, List.drop_zero, taken, ended,
      decoded, grouped, List.length_map, filled, occupied, List.foldl_map]
    rfl
  · simp only [read, below, if_false, List.nil_append, unspaced, noMinus, noPlus, or_self, taken, ended, decoded, grouped,
      List.length_map, filled, occupied, List.foldl_map]
    rfl

/-- An integer is read back from its decimal digits. -/
theorem read_toString {number : Int} (short : Short number) : read (.ofString (toString number)) = .ok number := by
  have text : (if number < 0 then ['-'] else []).map Char.toNat = if number < 0 then ['-'.toNat] else [] := by
    split <;> rfl
  rw [Points.ofString, toList_toString, List.map_append, text,
    read_digits (isDigit_of_mem_toDigits number.natAbs) Nat.toDigits_ne_nil short, Nat.ofDigitChars_ten_toDigits,
    signed_natAbs]

end Numeral
end CertWire.Text
