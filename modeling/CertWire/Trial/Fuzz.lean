import CertWire.Certificate.Sequence
import CertWire.Trial.Finding
import CertWire.Trial.Setting

/-! Reading hostile buffers: random octets, encodings with a length that lies, and packed
sequences. The reader always has to answer, and the header, the payload and the remainder
it answers with have to account for the buffer. -/

namespace CertWire.Trial.Fuzz
open CommandLine Randomness

structure Settings where
  seed : Int
  rounds : Int

def Settings.read (environment : Environment) : Except SettingFault Settings := do
  let seed ← (seedSetting 4242).read environment
  let rounds ← Setting.read ⟨"I2PCERT_FUZZ_ROUNDS", 5000⟩ environment
  return ⟨seed, rounds⟩

def heading : String := "MISMATCH"

/-- What a reader did with a buffer: it answered, or it failed with an error of that name. -/
abbrev Attempt := Except String Reading

/-- In what an answer does not account for the buffer. -/
inductive Flaw
  | failed (error : String)
  | missingCertificate
  | payloadSplit
  | remainderSplit
  | unexpectedRemainder
deriving DecidableEq, Repr

def Flaw.description : Flaw → String
  | failed error => "raised " ++ error
  | missingCertificate => "missing certificate"
  | payloadSplit => "payload split"
  | remainderSplit => "remainder split"
  | unexpectedRemainder => "unexpected remainder"

/-- The first flaw of an answer. A certificate may be missing only where a header does not
fit; its payload has to be all that follows the header; and where that is too much, the
reconciled payload and the remainder have to be all of it. -/
def flaw? (attempt : Attempt) (buffer : Octets) : Option Flaw :=
  match attempt with
  | .error error => some (.failed error)
  | .ok reading =>
    let header := buffer.take Certificate.headerSize
    match reading.certificate with
    | none =>
      if reading.condition ≠ .tooShort ∨ Certificate.headerSize ≤ buffer.length then some .missingCertificate
      else none
    | some certificate =>
      if header ++ certificate.payload ≠ buffer then some .payloadSplit
      else if reading.condition = .excessData then
        if header ++ certificate.effectivePayload ++ reading.remainder ≠ buffer then some .remainderSplit else none
      else if reading.remainder ≠ [] then some .unexpectedRemainder
      else none

/-- The evidence of every finding: the round and its input. -/
def finding (label : Text.Points) (round : Int) (input : Evidence) : Finding :=
  ⟨label, [("round", .value (.integer round)), ("input", input)]⟩

def Flaw.finding (flaw : Flaw) (label : Text.Points) (round : Int) (input : Evidence) : Finding :=
  Fuzz.finding (label ++ s!" {flaw.description}") round input

/-- Why an answer cannot be judged by what was given to the reader. -/
inductive JudgingFault
  /-- A size is asked for, and there is none. -/
  | sizeless
  /-- Octets have to be joined to its front, and cannot be. -/
  | unjoinable
deriving DecidableEq, Repr

/-- The first flaw of an answer to what was given in the place of a buffer. Octets take part
in the judgement as they are; of all else only the size does. -/
def judge (given : Content) (attempt : Attempt) : Except JudgingFault (Option Flaw) :=
  match given, attempt with
  | .octets buffer, _ | .buffer buffer, _ => .ok (flaw? attempt buffer)
  | _, .error error => .ok (some (.failed error))
  | _, .ok ⟨some _, _, _⟩ => .error .unjoinable
  | _, .ok ⟨none, _, condition⟩ =>
    if condition ≠ .tooShort then .ok (some .missingCertificate)
    else
      match given.size? with
      | none => .error .sizeless
      | some size => .ok (if Certificate.headerSize ≤ size then some .missingCertificate else none)

/-- Checks the reader on a buffer. -/
def checkRead (label : String) (round : Nat) (buffer : Octets) : Option Finding :=
  (flaw? (.ok (Certificate.read buffer)) buffer).map fun flaw => flaw.finding label round (.octets buffer)

/-- Encodings packed into a sequence have to give the certificates that each of them gives
alone, all of them well formed. -/
def isSequenceRead (parts : List Octets) : Bool :=
  let records := Certificate.readAll parts.flatten
  records.map Record.certificate == parts.map (fun part => (Certificate.read part).certificate) &&
    records.all fun record => record.condition = .none

def checkSequence (label : String) (round : Nat) (parts : List Octets) : Option Finding :=
  if isSequenceRead parts then none else some (finding label round (.octets parts.flatten))

variable {σ : Type} [WordSource σ]

/-- The encoding of a certificate of an assigned kind with up to 40 octets of payload, at
least one. -/
def encoding : Run σ Octets := do
  let drawn ← drawing (octets 40)
  let payload := if drawn.isEmpty then [0] else drawn
  let kind ← drawing (between 0 5)
  certificate (Certificate.build kind payload >>= Certificate.encode)

/-- An encoding under another declared length, sometimes with octets appended. -/
def mutatedEncoding : Run σ Octets := do
  let intact ← encoding
  let length ← drawing (bits 16)
  let mutated := intact.take 1 ++ Octets.ofInt16 length ++ intact.drop 3
  if isBelow (← drawing fraction) 30 then return mutated ++ (← drawing (octets 8))
  return mutated

def encodings : Run σ (List Octets) := do
  let count ← drawing (between 1 5)
  (List.replicate count.toNat ()).mapM fun _ => encoding

def round (index : Nat) : Run σ (Option Finding) := do
  let choice ← drawing fraction
  if isBelow choice 40 then return checkRead "A random" index (← drawing (octets 12))
  if isBelow choice 75 then return checkRead "B mutated length" index (← mutatedEncoding)
  return checkSequence "C sequence" index (← encodings)

/-- All rounds of a run. -/
def run (settings : Settings) : Run σ Outcome :=
  outcomeOfRounds settings.rounds round heading
    s!"OK: fuzz rounds={settings.rounds} seed={settings.seed} (no mismatches)"

end CertWire.Trial.Fuzz
