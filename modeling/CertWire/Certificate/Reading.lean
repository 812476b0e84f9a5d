import CertWire.Certificate.Basic

/-! Reading one certificate from the front of a buffer. The lenient reader returns what it
found together with a condition; the strict one refuses every condition but `none`. -/

namespace CertWire

/-- What the front of a buffer holds. -/
structure Reading where
  certificate : Option Certificate
  remainder : Octets
  condition : Condition
deriving DecidableEq, Repr

namespace Certificate

/-- Splits a header from what follows it, all of which becomes the payload; nothing if the
buffer is shorter than a header. -/
def ofOctets? : Octets → Option Certificate
  | kind :: high :: low :: payload => some ⟨kind.toNat, Octets.value [high, low], payload⟩
  | _ => none

/-- The octets past the declared length, where there are any. -/
def surplus (certificate : Certificate) : Octets :=
  if certificate.condition = .excessData then certificate.payload.drop certificate.declaredLength.toNat else []

/-- Reads one certificate. Its payload is everything after the header, unclipped; the octets
past the declared length are also the remainder, so that the next record can be read. -/
def read (buffer : Octets) : Reading :=
  match ofOctets? buffer with
  | none => ⟨none, [], .tooShort⟩
  | some certificate => ⟨some certificate, certificate.surplus, certificate.condition⟩

/-- The warning due when a buffer is read. -/
def readingWarning? (buffer : Octets) : Option Warning :=
  match ofOctets? buffer with
  | none =>
    some ⟨"read_certificate", Condition.tooShort.reason,
      [("certificate_bytes_length", .octetCount buffer), ("certificate_min_size", .natural headerSize)]⟩
  | some certificate => certificate.lengthWarning?

/-- Reads one certificate and refuses any anomaly. Where a remainder is allowed, octets past
the declared length are none. -/
def readStrict (allowRemainder : Bool) (buffer : Octets) : Except CertificateError (Certificate × Octets) :=
  match ofOctets? buffer with
  | none => .error (.of .tooShort "")
  | some certificate => do
    let condition := certificate.condition
    (if condition = .excessData ∧ allowRemainder then .none else condition).require ""
    return (certificate, certificate.surplus)

theorem readStrict_of_headless {buffer : Octets} (headless : ofOctets? buffer = none) (allowRemainder : Bool) :
    readStrict allowRemainder buffer = .error (.of .tooShort "") := by
  rw [readStrict, headless]

theorem readStrict_of_ofOctets? {buffer : Octets} {certificate : Certificate}
    (found : ofOctets? buffer = some certificate) (allowRemainder : Bool) :
    readStrict allowRemainder buffer =
      if certificate.condition = .none ∨ (certificate.condition = .excessData ∧ allowRemainder) then
        .ok (certificate, certificate.surplus)
      else .error (.of certificate.condition "") := by
  rw [readStrict, found]
  dsimp only
  by_cases allowed : certificate.condition = .excessData ∧ allowRemainder
  · rw [if_pos allowed, if_pos (.inr allowed)]
    rfl
  rw [if_neg allowed]
  by_cases settled : certificate.condition = .none
  · rw [settled, if_pos (.inl rfl)]
    rfl
  · rw [if_neg (not_or.mpr ⟨settled, allowed⟩), Condition.require_of_ne settled]
    rfl

theorem length_surplus_lt {buffer : Octets} {certificate : Certificate}
    (found : ofOctets? buffer = some certificate) : certificate.surplus.length < buffer.length := by
  unfold ofOctets? at found
  split at found
  · cases found
    simp only [surplus]
    split <;> simp only [List.length_drop, List.length_cons, List.length_nil] <;> omega
  · cases found

theorem length_remainder_lt {allowRemainder : Bool} {buffer remainder : Octets} {certificate : Certificate}
    (taken : readStrict allowRemainder buffer = .ok (certificate, remainder)) :
    remainder.length < buffer.length := by
  cases found : ofOctets? buffer with
  | none =>
    rw [readStrict_of_headless found] at taken
    cases taken
  | some certificate =>
    rw [readStrict_of_ofOctets? found] at taken
    split at taken <;> cases taken
    exact length_surplus_lt found

end Certificate
end CertWire
