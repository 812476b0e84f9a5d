import CertWire.Condition
import CertWire.Octets
import CertWire.Text.Quoted
import CertWire.Warning

/-! The certificate record: a kind, a declared length and an opaque payload. The declared
length comes from a peer, so it is reconciled with the payload whenever it is asked for,
and a record that lies about its length stays open to inspection. -/

namespace CertWire

/-- A record as it was made or read. Its payload may be shorter or longer than declared. -/
structure Certificate where
  kind : Int
  declaredLength : Int
  payload : Octets
deriving DecidableEq, Repr

namespace Certificate

def kindSize : Nat := 1

def lengthSize : Nat := 2

/-- A header is the kind and the declared length. -/
def headerSize : Nat := kindSize + lengthSize

/-- The largest kind that a header can tell. -/
def maxKind : Nat := 0xff

def maxPayloadLength : Nat := 0xffff

/-- The size of the signature that accompanies a bare certificate. -/
def signatureSize : Nat := 40

/-- The assigned kinds. Any other kind is legal and has no name. -/
def kindNames : List (Int × String) :=
  [(0, "NULL"), (1, "HASHCASH"), (2, "HIDDEN"), (3, "SIGNED"), (4, "MULTIPLE"), (5, "KEY")]

def kindName? (certificate : Certificate) : Option String := kindNames.lookup certificate.kind

/-- How the declared length and the payload agree. A declared length of 0 is too short,
although a header alone is well formed on the wire. -/
def condition (certificate : Certificate) : Condition :=
  if certificate.declaredLength < 1 then .tooShort
  else if certificate.payload.length < certificate.declaredLength then .truncated
  else if certificate.declaredLength < certificate.payload.length then .excessData
  else .none

/-- The length that can be relied on: the declared one, unless the payload ends before. -/
def effectiveLength (certificate : Certificate) : Int :=
  if certificate.condition = .truncated then certificate.payload.length else certificate.declaredLength

/-- The payload that can be relied on: nothing where the declared length is too short, else
the payload up to the declared length. -/
def effectivePayload (certificate : Certificate) : Octets :=
  match certificate.condition with
  | .tooShort => []
  | .excessData => certificate.payload.take certificate.declaredLength.toNat
  | _ => certificate.payload

/-- The reconciled length and the condition behind it. -/
def length (certificate : Certificate) : Int × Condition :=
  (certificate.effectiveLength, certificate.condition)

/-- The reconciled payload and the condition behind it. -/
def data (certificate : Certificate) : Octets × Condition :=
  (certificate.effectivePayload, certificate.condition)

/-- The warning due when the length is reconciled: none where it agrees with the payload. -/
def lengthWarning? (certificate : Certificate) : Option Warning :=
  let condition := certificate.condition
  let declared := ("certificate_bytes_length", Json.integer certificate.declaredLength)
  match condition with
  | .none => none
  | .tooShort =>
    some ⟨"Certificate.length", condition.reason,
      [declared, ("certificate_min_size", .natural (headerSize - 1))]⟩
  | _ =>
    some ⟨"Certificate.length", condition.reason,
      [declared, ("certificate_actual_length", .octetCount certificate.payload)]⟩

/-- The record with its payload cut to the reconciled one. -/
def clipped (certificate : Certificate) : Certificate :=
  { certificate with payload := certificate.effectivePayload }

/-- The record whose declared length is the length of its payload, if that fits the field. -/
def build (kind : Int) (payload : Octets) : Except CertificateError Certificate :=
  if maxPayloadLength < payload.length then
    .error (.of .outOfBounds s!"payload of {payload.length} bytes exceeds maximum {maxPayloadLength}")
  else .ok ⟨kind, payload.length, payload⟩

/-- The octets of the record. The declared length decides: it has to fit its field and the
payload, of which the rest is left out. Of the kind only the low 8 bits are written. -/
def encode (certificate : Certificate) : Except CertificateError Octets :=
  let declared := certificate.declaredLength
  let available := certificate.payload.length
  if declared < 0 ∨ maxPayloadLength < declared ∨ available < declared then
    .error (.of .outOfBounds s!"declared length {declared} out of bounds for payload of {available} bytes")
  else
    .ok (Octets.ofInt8 certificate.kind ++ Octets.ofInt16 declared ++ certificate.payload.take declared.toNat)

/-- The record as messages show it. -/
def shown (certificate : Certificate) : String :=
  let payload := Text.quotedOctets certificate.payload
  s!"Certificate(kind={certificate.kind}, declared_length={certificate.declaredLength}, payload={payload})"

end Certificate
end CertWire
