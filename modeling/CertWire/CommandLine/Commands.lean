import CertWire.Certificate.Sequence
import CertWire.CommandLine.Request
import CertWire.CommandLine.Surroundings
import CertWire.Json.Printing
import CertWire.Text.Base64
import CertWire.Text.Hex
import CertWire.Version

/-! The commands: `parse` prints certificates as JSON, `encode` writes one in hexadecimal,
`version` names the program. -/

namespace CertWire.CommandLine

def badInput (reason : String) : Outcome := ⟨2, [], [.message s!"i2pcert: bad input: {reason}\n"]⟩

def badCertificate (error : CertificateError) : Outcome :=
  ⟨2, [], [.message s!"i2pcert: error [{error.condition.name}]: {error.message}\n"]⟩

def badHexDigit (position : Nat) : String :=
  s!"non-hexadecimal number found in fromhex() arg at position {position}"

/-- Where the octets to parse come from. -/
inductive InputSource
  | hex (text : Text.Points)
  | file (path : Text.Points)
  | standardInput
deriving DecidableEq, Repr

/-- Hexadecimal text shuts out the other sources; an empty or blank file name does not count. -/
def ParseSettings.source (settings : ParseSettings) : Except Escape InputSource :=
  match settings.hex, settings.input with
  | .given text, _ => .ok (.hex text)
  | .blank, _ => .error .noHexText
  | .absent, .given path => .ok (if path = [] then .standardInput else .file path)
  | .absent, _ => .ok .standardInput

/-- The octets of a source, or why they are no good input. -/
def InputSource.octets (source : InputSource) (base64 : Bool) (surroundings : Surroundings) :
    Except Escape (Except String Octets) :=
  let decoded (content : Octets) : Except String Octets :=
    if base64 then (Text.Base64.decode content).mapError Text.Base64.Fault.message else .ok content
  match source with
  | .hex text => .ok ((Text.Hex.decode text).mapError badHexDigit)
  | .file path =>
    match surroundings.openFile path with
    | .ok content => .ok (decoded content)
    | .error fault =>
      if fault.isOfName then .ok (.error (fault.message path)) else .error (.cannotOpen fault path)
  | .standardInput => .ok (decoded surroundings.standardInput)

/-- The person at the terminal is told when input is expected. -/
def InputSource.notices (source : InputSource) (surroundings : Surroundings) : List Notice :=
  if source = .standardInput ∧ surroundings.terminal then [.prompt] else []

/-- A record as JSON: its condition, and what there is of a certificate. -/
def describe (record : Record) (remainder : Option Octets) : Json :=
  let condition := [(.ofString "condition", .text record.condition.name)]
  match record.certificate with
  | none => .object condition
  | some certificate =>
    .object <| condition ++
      [(.ofString "type", .integer certificate.kind),
        (.ofString "type_name", (certificate.kindName?.map Json.text).getD .null),
        (.ofString "declared_length", .integer certificate.declaredLength),
        (.ofString "effective_length", .integer certificate.effectiveLength),
        (.ofString "payload_hex", .text (Text.Hex.encode certificate.effectivePayload))] ++
      (remainder.map fun octets => (.ofString "remainder_hex", .text (Text.Hex.encode octets))).toList

/-- The status of a run that printed records under these conditions. -/
def statusOf (strict : Bool) (conditions : List Condition) : Nat :=
  if conditions.any Condition.isFatal then 2
  else if strict && conditions.any Condition.isWarning then 1
  else 0

/-- What is printed for an input, the conditions of the printed records, and how many
warnings were due while reading it. -/
structure Report where
  json : Json
  conditions : List Condition
  warnings : Nat

/-- The report on one certificate at the front of the input. -/
def reportOne (input : Octets) : Report :=
  let reading := Certificate.read input
  { json := describe ⟨reading.certificate, reading.condition⟩ (some reading.remainder)
    conditions := [reading.condition]
    warnings := (Certificate.readingWarning? input).toList.length }

/-- The report on every certificate packed in the input. -/
def reportAll (input : Octets) : Report :=
  let steps := Certificate.advances input
  { json := .array (steps.map fun step => describe step.record none)
    conditions := steps.map (·.record.condition)
    warnings := (steps.filterMap Advance.warning).length }

def runParse (level : LogLevel) (settings : ParseSettings) (surroundings : Surroundings) :
    Except Escape Outcome := do
  let source ← settings.source
  let prompt := source.notices surroundings
  match ← source.octets settings.base64 surroundings with
  | .error reason =>
    let outcome := badInput reason
    return { outcome with notices := prompt ++ outcome.notices }
  | .ok input =>
    let report := if settings.all then reportAll input else reportOne input
    let warnings := if level.showsWarnings then List.replicate report.warnings .formatWarning else []
    return ⟨statusOf settings.strict report.conditions, .ofString (report.json.document ++ "\n"), prompt ++ warnings⟩

/-- The octets of the certificate that is asked for. What a blank setting stands for has no
octets, but a length that does not fit is refused before a blank kind comes to matter. -/
def encodeOctets (settings : EncodeSettings) (payload : Octets) : Except Escape (Except CertificateError Octets) :=
  let made : Except Escape (Except CertificateError Certificate) :=
    let kind := match settings.kind with | .given kind => kind | _ => 0
    match settings.length with
    | .absent => .ok (Certificate.build kind payload)
    | .given length => .ok (.ok ⟨kind, length, payload⟩)
    | .blank => .error .noLength
  do
    match (← made) >>= Certificate.encode with
    | .error error => return .error error
    | .ok octets => if settings.kind = .blank then .error .noKind else return .ok octets

def runEncode (settings : EncodeSettings) : Except Escape Outcome := do
  let payload ←
    match settings.payloadHex with
    | .given text => pure (Text.Hex.decode text)
    | .blank => .error .noHexText
    | .absent => pure (.ok [])
  match payload with
  | .error position => return badInput (badHexDigit position)
  | .ok payload =>
    match ← encodeOctets settings payload with
    | .error error => return badCertificate error
    | .ok octets => return ⟨0, .ofString (Text.Hex.encode octets ++ "\n"), []⟩

def Command.run (command : Command) (level : LogLevel) (surroundings : Surroundings) : Except Escape Outcome :=
  match command with
  | .parse settings => runParse level settings surroundings
  | .encode settings => runEncode settings
  | .version => .ok ⟨0, s!"i2pcert {CertWire.version}\n", []⟩

/-- Where a command takes its octets from, if it takes any. -/
def Command.source? : Command → Option InputSource
  | .parse settings => settings.source.toOption
  | _ => none

/-- A run of the command line. Without a command it shows the help and fails. -/
def run (surroundings : Surroundings) (arguments : List Text.Points) : Except Escape Outcome :=
  match requestOf surroundings.logLevel arguments with
  | .error outcome => .ok outcome
  | .ok request =>
    match request.command with
    | none => .ok (mainProgram.showHelp 1)
    | some command => command.run request.level surroundings

end CertWire.CommandLine
