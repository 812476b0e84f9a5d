import CertWire.Certificate.Reading

/-! Certificates packed back to back. A record that others follow is cut to its declared
length; the last one keeps the condition that tells how the buffer ended. -/

namespace CertWire

/-- One record of a sequence. -/
structure Record where
  certificate : Option Certificate
  condition : Condition
deriving DecidableEq, Repr

/-- One step through a packed buffer: the record it gives, the warning due, and the octets
left for the next step. -/
structure Advance where
  record : Record
  warning : Option Warning
  rest : Octets

namespace Certificate

/-- The next step, if the buffer has an octet left. -/
def advance? (buffer : Octets) : Option Advance :=
  if buffer.isEmpty then none
  else
    let warning := readingWarning? buffer
    match ofOctets? buffer with
    | none => some ⟨⟨none, .tooShort⟩, warning, []⟩
    | some certificate =>
      let condition := certificate.condition
      if condition = .excessData then some ⟨⟨some certificate.clipped, .none⟩, warning, certificate.surplus⟩
      else some ⟨⟨some certificate, condition⟩, warning, []⟩

theorem length_rest_lt {buffer : Octets} {step : Advance} (next : advance? buffer = some step) :
    step.rest.length < buffer.length := by
  unfold advance? at next
  split at next
  · cases next
  next occupied =>
    have positive : 0 < buffer.length := by simpa [List.length_pos_iff] using occupied
    split at next
    · cases next; exact positive
    next certificate found =>
      dsimp only at next
      split at next <;> cases next
      · exact length_surplus_lt found
      · exact positive

/-- All steps through a buffer. -/
def advances (buffer : Octets) : List Advance :=
  match _found : advance? buffer with
  | none => []
  | some step => step :: advances step.rest
termination_by buffer.length
decreasing_by exact length_rest_lt _found

/-- The records packed in a buffer. -/
def readAll (buffer : Octets) : List Record := (advances buffer).map Advance.record

/-- The warnings due while the records are read, in order. -/
def readAllWarnings (buffer : Octets) : List Warning := (advances buffer).filterMap Advance.warning

/-- Reads strictly, record by record, up to the end or to the first refusal: the records
taken, cut to their declared lengths, and the refusal if there was one. -/
def readEach (buffer : Octets) : List Certificate × Option CertificateError :=
  if buffer.isEmpty then ([], none)
  else
    match _taken : readStrict true buffer with
    | .error refusal => ([], some refusal)
    | .ok (certificate, remainder) =>
      let (others, refusal) := readEach remainder
      (certificate.clipped :: others, refusal)
termination_by buffer.length
decreasing_by exact length_remainder_lt _taken

end Certificate
end CertWire
