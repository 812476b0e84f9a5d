import CertWire.CommandLine.Outcome
import CertWire.Condition
import CertWire.Content
import CertWire.Json.Printing
import CertWire.Randomness.Draw
import CertWire.Text.Hex

/-! Trials in rounds. A round draws its input and checks it; the first round that finds a
check violated ends the run with a report, which shows what it takes to see it again. -/

namespace CertWire.Trial
open CommandLine Randomness

/-- A value that a report shows. -/
inductive Evidence
  | octets (content : Octets)
  /-- Octets in a place where they may still change. -/
  | buffer (content : Octets)
  | value (json : Json)

/-- How content is shown. -/
def Evidence.ofContent : Content → Evidence
  | .octets content | .view content => .octets content
  | .buffer content => .buffer content
  | .numbers values => .value (.array (values.map .integer))
  | .count number => .value (.integer number)
  | .text points => .value (.string points)

/-- Octets are shown in hexadecimal digits, unless they may still change. -/
def Evidence.shown : Evidence → String
  | .octets content => Text.quoted (Text.Hex.encode content)
  | .buffer content => Text.quotedBuffer content
  | .value json => json.shown

/-- A check that was violated, and the circumstances. -/
structure Finding where
  label : Text.Points
  evidence : List (Text.Points × Evidence)

namespace Finding

/-- Adds evidence, in the place of any of the same name. -/
def insert (finding : Finding) (name : Text.Points) (shown : Evidence) : Finding :=
  if finding.evidence.any (·.1 == name) then
    { finding with evidence := finding.evidence.map fun item => if item.1 == name then (name, shown) else item }
  else { finding with evidence := finding.evidence ++ [(name, shown)] }

def evidenceText (finding : Finding) : String :=
  let items := finding.evidence.map fun (name, evidence) => Text.quotedPoints name ++ ": " ++ evidence.shown
  "\x7b" ++ ", ".intercalate items ++ "\x7d"

/-- The end of a run that found something. -/
def report (finding : Finding) (heading : String) : Outcome :=
  ⟨1, heading ++ ": " ++ finding.label ++ s!"\nCTX: {finding.evidenceText}\n", []⟩

end Finding

/-- What breaks off a run without a report. -/
inductive Interruption
  | draw (fault : DrawFault)
  | certificate (error : CertificateError)
deriving DecidableEq, Repr

abbrev Run (σ : Type) := ExceptT Interruption (StateM σ)

variable {σ : Type}

def drawing {α : Type} (draw : Draw σ α) : Run σ α := ExceptT.adapt Interruption.draw draw

def certificate {α : Type} (result : Except CertificateError α) : Run σ α :=
  ExceptT.mk (pure (result.mapError Interruption.certificate))

/-- Runs so many rounds in turn, up to the first that finds something. -/
def firstFinding (round : Nat → Run σ (Option Finding)) : (index remaining : Nat) → Run σ (Option Finding)
  | _, 0 => pure none
  | index, remaining + 1 => do
    match ← round index with
    | some finding => return some finding
    | none => firstFinding round (index + 1) remaining

/-- The outcome of so many rounds, none if the number is negative. -/
def outcomeOfRounds (count : Int) (round : Nat → Run σ (Option Finding)) (heading success : String) :
    Run σ Outcome := do
  match ← firstFinding round 0 count.toNat with
  | some finding => return finding.report heading
  | none => return ⟨0, .ofString (success ++ "\n"), []⟩

end CertWire.Trial
