import CertWire.Proofs.Positional
import CertWire.Proofs.Reconciliation

/-! The octets of a record. Three octets of header carry the kind and the declared length,
so a reader finds the end of what was written whatever follows it. -/

namespace CertWire.Certificate

/-- What is written of a record whose declared length fits: the kind and the declared length
in their fields, and the payload up to the declared length. -/
def wire (certificate : Certificate) : Octets :=
  Octets.ofInt8 certificate.kind ++ Octets.ofInt16 certificate.declaredLength ++
    certificate.payload.take certificate.declaredLength.toNat

/-- The declared length fits its field and the payload. -/
def Encodable (certificate : Certificate) : Prop :=
  0 ≤ certificate.declaredLength ∧ certificate.declaredLength ≤ min 65535 (certificate.payload.length : Int)

/-- Kind and declared length fit their fields, and the payload is as long as declared. -/
structure Complete (certificate : Certificate) : Prop where
  kind_nonneg : 0 ≤ certificate.kind
  kind_le : certificate.kind ≤ 255
  declaredLength_pos : 1 ≤ certificate.declaredLength
  declaredLength_le : certificate.declaredLength ≤ 65535
  declaredLength_eq : certificate.declaredLength = certificate.payload.length

variable {certificate : Certificate} {buffer octets : Octets}

theorem Complete.encodable (complete : certificate.Complete) : certificate.Encodable := by
  have positive := complete.declaredLength_pos
  have fits := complete.declaredLength_le
  have filled := complete.declaredLength_eq
  unfold Encodable
  omega

private theorem refused_iff :
    (certificate.declaredLength < 0 ∨ (maxPayloadLength : Int) < certificate.declaredLength ∨
      (certificate.payload.length : Int) < certificate.declaredLength) ↔ ¬ certificate.Encodable := by
  unfold Encodable maxPayloadLength
  omega

theorem encode_of_encodable (fits : certificate.Encodable) : certificate.encode = .ok certificate.wire :=
  if_neg (fun refused => refused_iff.mp refused fits)

theorem encode_of_not_encodable (unfit : ¬ certificate.Encodable) :
    ∃ error, certificate.encode = .error error ∧ error.condition = .outOfBounds :=
  ⟨_, if_pos (refused_iff.mpr unfit), rfl⟩

theorem encode_eq_ok_iff : certificate.encode = .ok octets ↔ certificate.Encodable ∧ octets = certificate.wire := by
  by_cases fits : certificate.Encodable
  · simp only [encode_of_encodable fits, Except.ok.injEq, fits, true_and, eq_comm]
  · obtain ⟨error, refused, _⟩ := encode_of_not_encodable fits
    simp only [refused, fits, false_and, reduceCtorEq]

theorem build_of_fits (kind : Int) {payload : Octets} (fits : payload.length ≤ maxPayloadLength) :
    build kind payload = .ok ⟨kind, payload.length, payload⟩ :=
  if_neg (Nat.not_lt_of_le fits)

private theorem ofOctets?_header_append (kind declared : Int) (rest : Octets) :
    ofOctets? (Octets.ofInt8 kind ++ Octets.ofInt16 declared ++ rest) = some ⟨kind % 256, declared % 65536, rest⟩ := by
  have kindField : (Octets.value (Octets.ofInt8 kind) : Int) = kind % 256 := Octets.value_ofInt 1 kind
  have lengthField : (Octets.value (Octets.ofInt16 declared) : Int) = declared % 65536 := Octets.value_ofInt 2 declared
  rw [← kindField, ← lengthField]
  simp [Octets.ofInt8, Octets.ofInt16, Octets.ofInt, ofOctets?, Octets.value]

theorem ofOctets?_eq_none_iff : ofOctets? buffer = none ↔ buffer.length < 3 := by
  unfold ofOctets?
  split
  next => simp only [reduceCtorEq, List.length_cons, false_iff]; omega
  next noHeader =>
    simp only [true_iff]
    match buffer, noHeader with
    | [], _ | [_], _ | [_, _], _ => simp
    | kind :: high :: low :: payload, noHeader => exact (noHeader kind high low payload rfl).elim

theorem ofOctets?_eq_some_iff :
    ofOctets? buffer = some certificate ↔ ∃ kind high low payload,
      buffer = kind :: high :: low :: payload ∧ certificate = ⟨kind.toNat, Octets.value [high, low], payload⟩ := by
  constructor
  · intro found
    unfold ofOctets? at found
    split at found
    next kind high low payload =>
      cases found
      exact ⟨kind, high, low, payload, rfl, rfl⟩
    next => cases found
  · rintro ⟨kind, high, low, payload, rfl, rfl⟩
    rfl

theorem eq_header_append_of_ofOctets? (found : ofOctets? buffer = some certificate) :
    buffer = Octets.ofInt8 certificate.kind ++ Octets.ofInt16 certificate.declaredLength ++ certificate.payload := by
  obtain ⟨kind, high, low, payload, rfl, rfl⟩ := ofOctets?_eq_some_iff.mp found
  have kindField : Octets.ofInt8 (Octets.value [kind]) = [kind] := Octets.ofInt_value [kind]
  have lengthField : Octets.ofInt16 (Octets.value [high, low]) = [high, low] := Octets.ofInt_value [high, low]
  rw [Octets.value_singleton] at kindField
  simp only [kindField, lengthField, List.cons_append, List.nil_append]

theorem wire_clipped (certificate : Certificate) : certificate.clipped.wire = certificate.wire := by
  rw [wire, wire, clipped, effectivePayload_eq_take, List.take_take, Nat.min_self]

theorem wire_append_surplus (found : ofOctets? buffer = some certificate) (usable : 1 ≤ certificate.declaredLength) :
    certificate.wire ++ certificate.surplus = buffer := by
  rw [surplus_eq_drop usable, wire, List.append_assoc, List.take_append_drop]
  exact (eq_header_append_of_ofOctets? found).symm

theorem ofOctets?_bounds (found : ofOctets? buffer = some certificate) :
    0 ≤ certificate.kind ∧ certificate.kind ≤ 255 ∧
      0 ≤ certificate.declaredLength ∧ certificate.declaredLength ≤ 65535 := by
  obtain ⟨kind, high, low, payload, rfl, rfl⟩ := ofOctets?_eq_some_iff.mp found
  have kindBound : kind.toNat < 256 := kind.toNat_lt
  have lengthBound : Octets.value [high, low] < 256 ^ 2 := Octets.value_lt [high, low]
  refine ⟨?_, ?_, ?_, ?_⟩ <;> dsimp only <;> omega

theorem read_of_ofOctets? (found : ofOctets? buffer = some certificate) :
    read buffer = ⟨some certificate, certificate.surplus, certificate.condition⟩ := by
  unfold read
  rw [found]

theorem read_of_headless (headless : ofOctets? buffer = none) : read buffer = ⟨none, [], .tooShort⟩ := by
  unfold read
  rw [headless]

/-- The record that is read where it was written and other octets follow. -/
def reread (certificate : Certificate) (tail : Octets) : Certificate where
  kind := certificate.kind % 256
  declaredLength := certificate.declaredLength
  payload := certificate.payload.take certificate.declaredLength.toNat ++ tail

theorem Encodable.length_take (fits : certificate.Encodable) :
    ((certificate.payload.take certificate.declaredLength.toNat).length : Int) = certificate.declaredLength := by
  unfold Encodable at fits
  rw [List.length_take]
  omega

theorem Complete.length_wire (complete : certificate.Complete) :
    certificate.wire.length = headerSize + certificate.declaredLength.toNat := by
  have cut := complete.encodable.length_take
  have nonneg := complete.encodable.1
  rw [wire, List.length_append, List.length_append, Octets.ofInt8, Octets.ofInt16, Octets.length_ofInt,
    Octets.length_ofInt, headerSize, kindSize, lengthSize]
  omega

theorem ofOctets?_wire_append (fits : certificate.Encodable) (tail : Octets) :
    ofOctets? (certificate.wire ++ tail) = some (certificate.reread tail) := by
  have inField : certificate.declaredLength % 65536 = certificate.declaredLength := by
    unfold Encodable at fits
    omega
  rw [wire, List.append_assoc, ofOctets?_header_append, inField]
  rfl

theorem condition_reread (fits : certificate.Encodable) (tail : Octets) :
    (certificate.reread tail).condition =
      if certificate.declaredLength = 0 then .tooShort else if tail = [] then .none else .excessData := by
  have nonneg := fits.1
  have payload : ((certificate.reread tail).payload.length : Int) = certificate.declaredLength + tail.length := by
    rw [reread, List.length_append, Int.natCast_add, fits.length_take]
  have declared : (certificate.reread tail).declaredLength = certificate.declaredLength := rfl
  split
  next zero => exact condition_eq_tooShort_iff.mpr (by omega)
  next nonzero =>
    split
    next empty =>
      subst tail
      exact condition_eq_none_iff.mpr ⟨by omega, by rw [payload, declared]; simp⟩
    next occupied =>
      have positive : 0 < tail.length := List.length_pos_iff.mpr occupied
      exact condition_eq_excessData_iff.mpr ⟨by omega, by omega⟩

theorem surplus_reread (fits : certificate.Encodable) (tail : Octets) :
    (certificate.reread tail).surplus = if certificate.declaredLength = 0 then [] else tail := by
  have nonneg := fits.1
  have declared : (certificate.reread tail).declaredLength = certificate.declaredLength := rfl
  split
  next zero => exact surplus_eq_nil (by rw [condition_reread fits, if_pos zero]; decide)
  next nonzero =>
    have cut := fits.length_take
    rw [surplus_eq_drop (by omega), declared]
    exact List.drop_left' (by omega)

theorem reread_nil (certificate : Certificate) :
    certificate.reread [] = ⟨certificate.kind % 256, certificate.declaredLength,
      certificate.payload.take certificate.declaredLength.toNat⟩ := by
  rw [reread, List.append_nil]

theorem clipped_reread (fits : certificate.Encodable) (tail : Octets) :
    (certificate.reread tail).clipped = certificate.reread [] := by
  have cut := fits.length_take
  have payload : (certificate.payload.take certificate.declaredLength.toNat ++ tail).take
      certificate.declaredLength.toNat = certificate.payload.take certificate.declaredLength.toNat :=
    List.take_left' (by omega)
  rw [clipped, effectivePayload_eq_take, reread_nil, reread, payload]

theorem reread_nil_eq_self_iff (fits : certificate.Encodable) :
    certificate.reread [] = certificate ↔
      0 ≤ certificate.kind ∧ certificate.kind ≤ 255 ∧ certificate.declaredLength = certificate.payload.length := by
  constructor
  · intro same
    have kind : certificate.kind % 256 = certificate.kind := congrArg Certificate.kind same
    have payload : certificate.payload.take certificate.declaredLength.toNat ++ [] = certificate.payload :=
      congrArg Certificate.payload same
    have cut := fits.length_take
    rw [List.append_nil] at payload
    rw [payload] at cut
    exact ⟨by omega, by omega, cut.symm⟩
  · rintro ⟨nonneg, small, filled⟩
    have kind : certificate.kind % 256 = certificate.kind := by omega
    rw [reread, List.append_nil, List.take_of_length_le (by omega), kind]

end CertWire.Certificate
