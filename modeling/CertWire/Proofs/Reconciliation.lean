import CertWire.Certificate.Sequence

/-! The conditions of a record as comparisons of its declared length with its payload. The
reconciled payload is one cut of the payload at the declared length, whatever the condition. -/

namespace CertWire.Certificate

variable {certificate : Certificate}

theorem condition_eq_tooShort_iff : certificate.condition = .tooShort ↔ certificate.declaredLength < 1 := by
  grind [condition]

theorem condition_eq_truncated_iff :
    certificate.condition = .truncated ↔
      1 ≤ certificate.declaredLength ∧ certificate.payload.length < certificate.declaredLength := by
  grind [condition]

theorem condition_eq_excessData_iff :
    certificate.condition = .excessData ↔
      1 ≤ certificate.declaredLength ∧ certificate.declaredLength < certificate.payload.length := by
  grind [condition]

theorem condition_eq_none_iff :
    certificate.condition = .none ↔
      1 ≤ certificate.declaredLength ∧ certificate.declaredLength = certificate.payload.length := by
  grind [condition]

theorem condition_ne_outOfBounds (certificate : Certificate) : certificate.condition ≠ .outOfBounds := by
  grind [condition]

/-- Where the declared length is too short the cut leaves nothing, and where the payload
ends before it the cut leaves all of it. -/
theorem effectivePayload_eq_take (certificate : Certificate) :
    certificate.effectivePayload = certificate.payload.take certificate.declaredLength.toNat := by
  unfold effectivePayload
  split
  next short =>
    rw [condition_eq_tooShort_iff] at short
    rw [Int.toNat_of_nonpos (by omega), List.take_zero]
  next => rfl
  next notShort notExcess =>
    have usable : ¬ certificate.declaredLength < 1 := fun short => notShort (condition_eq_tooShort_iff.mpr short)
    have fits : ¬ certificate.declaredLength < certificate.payload.length := fun excess =>
      notExcess (condition_eq_excessData_iff.mpr ⟨by omega, excess⟩)
    exact (List.take_of_length_le (by omega)).symm

theorem effectivePayload_clipped (certificate : Certificate) :
    certificate.clipped.effectivePayload = certificate.effectivePayload := by
  rw [effectivePayload_eq_take, effectivePayload_eq_take, clipped, effectivePayload_eq_take, List.take_take, Nat.min_self]

theorem clipped_eq_self (fits : certificate.payload.length ≤ certificate.declaredLength) :
    certificate.clipped = certificate := by
  have whole : certificate.payload.length ≤ certificate.declaredLength.toNat := by omega
  rw [clipped, effectivePayload_eq_take, List.take_of_length_le whole]

theorem surplus_eq_drop (usable : 1 ≤ certificate.declaredLength) :
    certificate.surplus = certificate.payload.drop certificate.declaredLength.toNat := by
  unfold surplus
  split
  next => rfl
  next within =>
    have fits : ¬ certificate.declaredLength < certificate.payload.length := fun excess =>
      within (condition_eq_excessData_iff.mpr ⟨usable, excess⟩)
    exact (List.drop_of_length_le (by omega)).symm

theorem surplus_eq_nil (within : certificate.condition ≠ .excessData) : certificate.surplus = [] := if_neg within

theorem effectivePayload_append_surplus (usable : 1 ≤ certificate.declaredLength) :
    certificate.effectivePayload ++ certificate.surplus = certificate.payload := by
  rw [effectivePayload_eq_take, surplus_eq_drop usable, List.take_append_drop]

theorem effectivePayload_of_tooShort (short : certificate.condition = .tooShort) : certificate.effectivePayload = [] := by
  unfold effectivePayload
  rw [short]

theorem length_effectivePayload (nonneg : 0 ≤ certificate.declaredLength) :
    (certificate.effectivePayload.length : Int) = certificate.effectiveLength := by
  rw [effectivePayload_eq_take, List.length_take]
  unfold effectiveLength
  split
  next truncated =>
    rw [condition_eq_truncated_iff] at truncated
    omega
  next whole =>
    rw [condition_eq_truncated_iff] at whole
    omega

theorem effectiveLength_le (nonneg : 0 ≤ certificate.declaredLength) :
    0 ≤ certificate.effectiveLength ∧ certificate.effectiveLength ≤ certificate.declaredLength := by
  have length := length_effectivePayload nonneg
  rw [effectivePayload_eq_take, List.length_take] at length
  omega

theorem surplus_eq_nil_iff : certificate.surplus = [] ↔ certificate.condition ≠ .excessData := by
  constructor
  · intro empty excess
    obtain ⟨usable, longer⟩ := condition_eq_excessData_iff.mp excess
    rw [surplus_eq_drop usable, List.drop_eq_nil_iff] at empty
    omega
  · exact surplus_eq_nil

end CertWire.Certificate
