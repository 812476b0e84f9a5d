import CertWire.Proofs.WireForm

/-! Records written back. The reader, the reconciled payload and the writer each find the end
of a record for themselves. They agree on every buffer, so what was read can be written
again in its own octets, unless the buffer ended before the payload did. -/

namespace CertWire.Certificate

variable {certificate : Certificate} {buffer : Octets}

theorem exists_certificate_of_whole (whole : headerSize ≤ buffer.length) :
    ∃ certificate, ofOctets? buffer = some certificate := by
  cases found : ofOctets? buffer with
  | none =>
    have short : buffer.length < 3 := ofOctets?_eq_none_iff.mp found
    exact absurd whole (Nat.not_le_of_lt short)
  | some certificate => exact ⟨certificate, rfl⟩

/-- The stored payload is everything after the header, whatever was declared. -/
theorem header_append_payload (found : ofOctets? buffer = some certificate) :
    buffer.take headerSize ++ certificate.payload = buffer := by
  obtain ⟨kind, high, low, payload, rfl, rfl⟩ := ofOctets?_eq_some_iff.mp found
  rfl

private theorem wire_of_ofOctets? (found : ofOctets? buffer = some certificate) :
    certificate.wire = buffer.take headerSize ++ certificate.effectivePayload := by
  have split := eq_header_append_of_ofOctets? found
  have header : (Octets.ofInt8 certificate.kind ++ Octets.ofInt16 certificate.declaredLength).length = headerSize := by
    simp [Octets.ofInt8, Octets.ofInt16, headerSize, kindSize, lengthSize]
  have front : buffer.take headerSize = Octets.ofInt8 certificate.kind ++ Octets.ofInt16 certificate.declaredLength := by
    rw [split]
    exact List.take_left' header
  rw [wire, front, effectivePayload_eq_take]

/-- The length field of a header is never too wide, so only a payload that ends early keeps a
record that was read from being written. -/
theorem encodable_iff_not_truncated (found : ofOctets? buffer = some certificate) :
    certificate.Encodable ↔ certificate.condition ≠ .truncated := by
  obtain ⟨_, _, nonneg, fits⟩ := ofOctets?_bounds found
  rw [Ne, condition_eq_truncated_iff]
  unfold Encodable
  omega

theorem encode_refused_iff : (∃ error, certificate.encode = .error error) ↔ ¬ certificate.Encodable := by
  constructor
  · rintro ⟨error, refused⟩ fits
    rw [encode_of_encodable fits] at refused
    cases refused
  · intro unfit
    obtain ⟨error, refused, _⟩ := encode_of_not_encodable unfit
    exact ⟨error, refused⟩

/-- Writing a record that was read restores its octets, and with the remainder the whole
buffer. It fails exactly on a record whose payload ended early; even then header and payload
account for every octet. -/
theorem encode_undoes_read (buffer : Octets) (whole : 3 ≤ buffer.length) :
    ∃ certificate remainder condition, read buffer = ⟨some certificate, remainder, condition⟩ ∧
      buffer.take 3 ++ certificate.payload = buffer ∧
      (condition = .none ∨ condition = .excessData →
        (∃ octets, certificate.encode = .ok octets ∧ octets ++ remainder = buffer) ∧
        buffer.take 3 ++ certificate.data.1 ++ remainder = buffer ∧ (remainder = [] ↔ condition = .none)) ∧
      (condition = .truncated →
        (∃ error, certificate.encode = .error error ∧ error.condition = .outOfBounds) ∧
        remainder = [] ∧ buffer.take 3 ++ certificate.data.1 = buffer) ∧
      (condition = .tooShort →
        certificate.encode = .ok (buffer.take 3) ∧ remainder = [] ∧ certificate.data.1 = []) ∧
      condition ≠ .outOfBounds ∧
      ((∃ error, certificate.encode = .error error) ↔ condition = .truncated) := by
  obtain ⟨certificate, found⟩ := exists_certificate_of_whole whole
  have payload := header_append_payload found
  have fits := encodable_iff_not_truncated found
  refine ⟨certificate, certificate.surplus, certificate.condition, read_of_ofOctets? found, payload, ?_, ?_, ?_,
    condition_ne_outOfBounds certificate, ?_⟩
  · intro complete
    have usable : 1 ≤ certificate.declaredLength := by
      rw [condition_eq_none_iff, condition_eq_excessData_iff] at complete
      omega
    have whole : buffer.take 3 ++ certificate.effectivePayload ++ certificate.surplus = buffer := by
      rw [List.append_assoc, effectivePayload_append_surplus usable]
      exact payload
    refine ⟨⟨certificate.wire, ?_, wire_append_surplus found usable⟩, whole, ?_⟩
    · exact encode_of_encodable (fits.mpr (by rcases complete with same | same <;> simp [same]))
    · rw [surplus_eq_nil_iff]
      rcases complete with same | same <;> simp [same]
  · intro truncated
    have usable := (condition_eq_truncated_iff.mp truncated).1
    have ended : certificate.surplus = [] := surplus_eq_nil (by simp [truncated])
    have whole := effectivePayload_append_surplus usable
    rw [ended, List.append_nil] at whole
    refine ⟨encode_of_not_encodable (fun encodable => fits.mp encodable truncated), ended, ?_⟩
    rw [data, whole]
    exact payload
  · intro short
    have empty := effectivePayload_of_tooShort short
    refine ⟨?_, surplus_eq_nil (by simp [short]), empty⟩
    rw [encode_of_encodable (fits.mpr (by simp [short])), wire_of_ofOctets? found, empty, List.append_nil]
    rfl
  · rw [encode_refused_iff, fits, Decidable.not_not]

/-- Ten octets are declared and four are there. -/
theorem encode_undoes_read_truncated :
    3 ≤ ([3, 0, 10, 1, 2, 3, 4] : Octets).length ∧
      read [3, 0, 10, 1, 2, 3, 4] = ⟨some ⟨3, 10, [1, 2, 3, 4]⟩, [], .truncated⟩ ∧
      ∃ error, encode ⟨3, 10, [1, 2, 3, 4]⟩ = .error error ∧ error.condition = .outOfBounds := by
  have whole : 3 ≤ ([3, 0, 10, 1, 2, 3, 4] : Octets).length := by decide
  have reading : read [3, 0, 10, 1, 2, 3, 4] = ⟨some ⟨3, 10, [1, 2, 3, 4]⟩, [], .truncated⟩ := by
    simp [read, ofOctets?, Octets.value, surplus, condition]
  obtain ⟨certificate, remainder, condition, same, _, _, truncated, _⟩ := encode_undoes_read [3, 0, 10, 1, 2, 3, 4] whole
  rw [reading] at same
  cases same
  exact ⟨whole, reading, (truncated rfl).1⟩

end CertWire.Certificate
