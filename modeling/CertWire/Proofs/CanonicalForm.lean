import CertWire.Proofs.Reencoding

/-! The canonical form of a record that was read: its kind, and its reconciled payload under the length
that this payload has. It can always be written, because no reconciled payload is longer than
the length field can tell, and what is written of it is read back as it was. -/

namespace CertWire.Certificate

/-- The record with the reconciled payload and the length of that. -/
def canonical (certificate : Certificate) : Certificate where
  kind := certificate.kind
  declaredLength := certificate.effectivePayload.length
  payload := certificate.effectivePayload

/-- Reads a record, makes a record of its kind and its reconciled payload, and writes that. There is
nothing to write where no record is read. -/
def rewrite? (buffer : Octets) : Option (Except CertificateError Octets) :=
  (read buffer).certificate.map fun certificate => build certificate.kind certificate.data.1 >>= encode

variable {certificate : Certificate} {buffer : Octets}

private theorem effectivePayload_canonical (certificate : Certificate) :
    certificate.canonical.effectivePayload = certificate.effectivePayload := by
  rw [effectivePayload_eq_take]
  exact List.take_of_length_le (Nat.le_refl _)

theorem canonical_canonical (certificate : Certificate) : certificate.canonical.canonical = certificate.canonical := by
  have payload := effectivePayload_canonical certificate
  rw [canonical, payload]
  rfl

/-- Only a payload that ends early is shorter than declared. -/
theorem canonical_eq_clipped (nonneg : 0 ≤ certificate.declaredLength) (whole : certificate.condition ≠ .truncated) :
    certificate.canonical = certificate.clipped := by
  have length := length_effectivePayload nonneg
  rw [effectiveLength, if_neg whole] at length
  rw [canonical, length]
  rfl

/-- The bound that no reader checks: the payload is cut at a length that came from two octets. -/
theorem length_effectivePayload_le (found : ofOctets? buffer = some certificate) :
    certificate.effectivePayload.length ≤ maxPayloadLength := by
  obtain ⟨_, _, nonneg, fits⟩ := ofOctets?_bounds found
  have cut := (effectiveLength_le nonneg).2
  rw [← length_effectivePayload nonneg] at cut
  have bound : (maxPayloadLength : Int) = 65535 := rfl
  omega

theorem build_canonical (found : ofOctets? buffer = some certificate) :
    build certificate.kind certificate.effectivePayload = .ok certificate.canonical :=
  build_of_fits certificate.kind (length_effectivePayload_le found)

theorem canonical_encodable (found : ofOctets? buffer = some certificate) : certificate.canonical.Encodable := by
  have fits := length_effectivePayload_le found
  have bound : maxPayloadLength = 65535 := rfl
  have declared : certificate.canonical.declaredLength = certificate.effectivePayload.length := rfl
  have payload : certificate.canonical.payload.length = certificate.effectivePayload.length := rfl
  unfold Encodable
  omega

private theorem reread_canonical (found : ofOctets? buffer = some certificate) :
    certificate.canonical.reread [] = certificate.canonical := by
  obtain ⟨nonneg, small, _, _⟩ := ofOctets?_bounds found
  exact (reread_nil_eq_self_iff (canonical_encodable found)).mpr ⟨nonneg, small, rfl⟩

private theorem ofOctets?_canonical (found : ofOctets? buffer = some certificate) :
    ofOctets? certificate.canonical.wire = some certificate.canonical := by
  have again := ofOctets?_wire_append (canonical_encodable found) []
  rw [reread_canonical found, List.append_nil] at again
  exact again

theorem read_canonical (found : ofOctets? buffer = some certificate) :
    read certificate.canonical.wire =
      ⟨some certificate.canonical, [], if certificate.effectivePayload = [] then .tooShort else .none⟩ := by
  have condition := condition_reread (canonical_encodable found) []
  have empty : certificate.canonical.declaredLength = 0 ↔ certificate.effectivePayload = [] :=
    Int.natCast_eq_zero.trans List.length_eq_zero_iff
  simp only [reread_canonical found, if_true, empty] at condition
  have alone : certificate.canonical.surplus = [] := by
    apply surplus_eq_nil
    rw [condition]
    split <;> decide
  rw [read_of_ofOctets? (ofOctets?_canonical found), alone, condition]

private theorem rewrite?_of_ofOctets? (found : ofOctets? buffer = some certificate) :
    rewrite? buffer = some (.ok certificate.canonical.wire) := by
  have written := encode_of_encodable (canonical_encodable found)
  rw [rewrite?, read_of_ofOctets? found]
  dsimp only [Option.map, data]
  rw [build_canonical found]
  exact congrArg some written

private theorem rewrite?_canonical (found : ofOctets? buffer = some certificate) :
    rewrite? certificate.canonical.wire = some (.ok certificate.canonical.wire) := by
  rw [rewrite?_of_ofOctets? (ofOctets?_canonical found), canonical_canonical]

private theorem wire_canonical_of_whole (found : ofOctets? buffer = some certificate)
    (whole : certificate.condition = .none ∨ certificate.condition = .excessData) :
    certificate.canonical.wire ++ certificate.surplus = buffer := by
  obtain ⟨_, _, nonneg, _⟩ := ofOctets?_bounds found
  have usable : 1 ≤ certificate.declaredLength := by
    rw [condition_eq_none_iff, condition_eq_excessData_iff] at whole
    omega
  have untruncated : certificate.condition ≠ .truncated := by
    rcases whole with same | same <;> simp [same]
  rw [canonical_eq_clipped nonneg untruncated, wire_clipped]
  exact wire_append_surplus found usable

/-- The octets are alike but for the length field behind the kind, which is not the same. -/
structure DiffersInLength (first second : Octets) : Prop where
  length : first.length = second.length
  kind : first.take kindSize = second.take kindSize
  payload : first.drop headerSize = second.drop headerSize
  differs : (first.drop kindSize).take lengthSize ≠ (second.drop kindSize).take lengthSize

private theorem differsInLength_of_fields {kind declared other : Int} {payload : Octets}
    (different : declared % 65536 ≠ other % 65536) :
    DiffersInLength (Octets.ofInt8 kind ++ Octets.ofInt16 declared ++ payload)
      (Octets.ofInt8 kind ++ Octets.ofInt16 other ++ payload) := by
  have unlike : Octets.ofInt16 declared ≠ Octets.ofInt16 other := by
    intro same
    have field : (Octets.value (Octets.ofInt16 declared) : Int) = declared % 65536 := Octets.value_ofInt 2 declared
    have otherField : (Octets.value (Octets.ofInt16 other) : Int) = other % 65536 := Octets.value_ofInt 2 other
    apply different
    rw [← field, ← otherField, same]
  constructor
  · simp [Octets.ofInt8, Octets.ofInt16]
  · rfl
  · rfl
  · exact unlike

private theorem differsInLength_of_truncated (found : ofOctets? buffer = some certificate)
    (truncated : certificate.condition = .truncated) : DiffersInLength certificate.canonical.wire buffer := by
  obtain ⟨usable, early⟩ := condition_eq_truncated_iff.mp truncated
  obtain ⟨_, _, _, fits⟩ := ofOctets?_bounds found
  have payload : certificate.effectivePayload = certificate.payload := by
    rw [effectivePayload_eq_take]
    exact List.take_of_length_le (by omega)
  have canonical : certificate.canonical = ⟨certificate.kind, certificate.payload.length, certificate.payload⟩ := by
    rw [canonical, payload]
  have written : certificate.canonical.wire =
      Octets.ofInt8 certificate.kind ++ Octets.ofInt16 certificate.payload.length ++ certificate.payload := by
    rw [canonical, wire]
    dsimp only
    rw [List.take_of_length_le (by omega)]
  rw [written, eq_header_append_of_ofOctets? found]
  exact differsInLength_of_fields (by omega)

/-- Whatever was read, a record can be made of its kind and its reconciled payload and be written, and
that is read back with nothing left over. Where the record was whole this restores its octets,
and where its payload ended early the octets but for the length field. To write what was
written again changes nothing. -/
theorem canonical_form_of_read (buffer : Octets) (whole : 3 ≤ buffer.length) :
    ∃ certificate remainder condition, read buffer = ⟨some certificate, remainder, condition⟩ ∧
      ∃ built octets, build certificate.kind certificate.data.1 = .ok built ∧ built.encode = .ok octets ∧
        read octets = ⟨some built, [], if certificate.data.1 = [] then .tooShort else .none⟩ ∧
        built.data.1 = certificate.data.1 ∧
        (condition = .none ∨ condition = .excessData → octets ++ remainder = buffer) ∧
        (condition = .truncated → DiffersInLength octets buffer) ∧
        rewrite? buffer = some (.ok octets) ∧ rewrite? octets = some (.ok octets) := by
  obtain ⟨certificate, found⟩ := exists_certificate_of_whole whole
  refine ⟨certificate, certificate.surplus, certificate.condition, read_of_ofOctets? found, certificate.canonical,
    certificate.canonical.wire, build_canonical found, encode_of_encodable (canonical_encodable found), ?_, ?_, ?_, ?_, ?_, ?_⟩
  · exact read_canonical found
  · exact effectivePayload_canonical certificate
  · exact wire_canonical_of_whole found
  · exact differsInLength_of_truncated found
  · exact rewrite?_of_ofOctets? found
  · exact rewrite?_canonical found

/-- Ten octets are declared and four are there, which the canonical form declares. -/
theorem canonical_form_of_read_truncated :
    3 ≤ ([3, 0, 10, 1, 2, 3, 4] : Octets).length ∧ rewrite? [3, 0, 10, 1, 2, 3, 4] = some (.ok [3, 0, 4, 1, 2, 3, 4]) ∧
      DiffersInLength [3, 0, 4, 1, 2, 3, 4] [3, 0, 10, 1, 2, 3, 4] ∧
      rewrite? [3, 0, 4, 1, 2, 3, 4] = some (.ok [3, 0, 4, 1, 2, 3, 4]) := by
  have whole : 3 ≤ ([3, 0, 10, 1, 2, 3, 4] : Octets).length := by decide
  have reading : read [3, 0, 10, 1, 2, 3, 4] = ⟨some ⟨3, 10, [1, 2, 3, 4]⟩, [], .truncated⟩ := by
    simp [read, ofOctets?, Octets.value, surplus, condition]
  have rewritten : rewrite? [3, 0, 10, 1, 2, 3, 4] = some (.ok [3, 0, 4, 1, 2, 3, 4]) := rfl
  obtain ⟨certificate, remainder, condition, same, built, octets, _, _, _, _, _, truncated, first, again⟩ :=
    canonical_form_of_read [3, 0, 10, 1, 2, 3, 4] whole
  rw [reading] at same
  cases same
  rw [rewritten] at first
  cases first
  exact ⟨whole, rewritten, truncated rfl, again⟩

end CertWire.Certificate
