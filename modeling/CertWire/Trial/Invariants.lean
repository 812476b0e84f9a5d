import CertWire.Certificate.Reading
import CertWire.Trial.Finding
import CertWire.Trial.Setting

/-! Invariants of certificates, tried on random ones: exactly one condition applies and it
is the right one, clipping twice is clipping once, and what is well formed comes back from
its encoding. -/

namespace CertWire.Trial.Invariants
open CommandLine Randomness

structure Settings where
  seed : Int
  trials : Int
  /-- The longest payload that is drawn. -/
  maxPayload : Int

def Settings.read (environment : Environment) : Except SettingFault Settings := do
  let seed ← (seedSetting 1337).read environment
  let trials ← Setting.read ⟨"I2PCERT_TRIALS", 2000⟩ environment
  let maxPayload ← Setting.read ⟨"I2PCERT_GEN_MAX_PAYLOAD", 96⟩ environment
  return ⟨seed, trials, maxPayload⟩

def heading : String := "INVARIANT FAIL"

/-- The condition that a certificate is expected to be under. -/
def expectedCondition (certificate : Certificate) : Condition :=
  let available : Int := certificate.payload.length
  if certificate.declaredLength < 1 then .tooShort
  else if available < certificate.declaredLength then .truncated
  else if certificate.declaredLength < available then .excessData
  else .none

inductive Violation
  | classification (got : Condition)
  | agreement
  | clipping (once : Octets)
  | roundTrip (wire : Octets)
  | stability
deriving DecidableEq, Repr

def Violation.label : Violation → String
  | classification _ => "condition classification"
  | agreement => "data/length condition agreement"
  | clipping _ => "clipping idempotence"
  | roundTrip _ => "round-trip"
  | stability => "encode stability"

/-- What a violation adds to the evidence. -/
def Violation.evidence? : Violation → Option (Text.Points × Evidence)
  | classification got => some ("got", .value (.text got.name))
  | clipping once => some ("once", .octets once)
  | roundTrip wire => some ("wire", .octets wire)
  | agreement | stability => none

/-- Length and payload have to be reconciled as expected and alike. -/
def reconciliation? (certificate : Certificate) : Option Violation :=
  let (length, condition) := certificate.length
  let (once, conditionOfData) := certificate.data
  let again := { certificate with payload := once }.effectivePayload
  if condition ≠ expectedCondition certificate then some (.classification condition)
  else if conditionOfData ≠ condition then some .agreement
  else if condition ≠ .tooShort ∧ (again ≠ once ∨ once.length ≠ length) then some (.clipping once)
  else none

/-- A well-formed certificate has to be read back from its encoding. -/
def roundTrip? (certificate : Certificate) : Except CertificateError (Option Violation) := do
  if certificate.condition ≠ .none then return none
  let wire ← certificate.encode
  return if Certificate.read wire = ⟨some certificate, [], .none⟩ then none else some (.roundTrip wire)

/-- A certificate whose payload is long enough has to have one encoding. -/
def stability? (certificate : Certificate) : Except CertificateError (Option Violation) := do
  if certificate.payload.length < certificate.declaredLength then return none
  let first ← certificate.encode
  let second ← certificate.encode
  return if first = second then none else some .stability

/-- The first violation, unless an encoding is refused before. -/
def violation? (certificate : Certificate) : Except CertificateError (Option Violation) := do
  if let some violation := reconciliation? certificate then return some violation
  if let some violation ← roundTrip? certificate then return some violation
  stability? certificate

def Violation.finding (violation : Violation) (trial : Nat) (certificate : Certificate) : Finding :=
  let circumstances : List (Text.Points × Evidence) :=
    [("trial", .value (.natural trial)), ("cert", .value (.text certificate.shown))]
  ⟨violation.label, circumstances ++ violation.evidence?.toList⟩

variable {σ : Type} [WordSource σ]

def randomPayload (maxPayload : Int) : Draw σ Octets := octets maxPayload

/-- A declared length for a payload of so many octets: the true one in half of the cases,
else one that is too short or too long. -/
def declaredLength (available : Nat) : Draw σ Int := do
  let choice ← fraction
  if isBelow choice 50 then return available
  if isBelow choice 75 then between 0 (available - 1 : Nat)
  else return available + (← between 1 16)

def randomCertificate (maxPayload : Int) : Draw σ Certificate := do
  let payload ← randomPayload maxPayload
  let declared ← declaredLength payload.length
  let kind ← between 0 Certificate.maxKind
  return ⟨kind, declared, payload⟩

def trial (maxPayload : Int) (index : Nat) : Run σ (Option Finding) := do
  let drawn ← drawing (randomCertificate maxPayload)
  return (← certificate (violation? drawn)).map fun violation => violation.finding index drawn

/-- All trials of a run. -/
def run (settings : Settings) : Run σ Outcome :=
  outcomeOfRounds settings.trials (trial settings.maxPayload) heading
    s!"OK: invariants passed for TRIALS={settings.trials} seed={settings.seed}"

end CertWire.Trial.Invariants
