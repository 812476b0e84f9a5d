import CertWire.CommandLine.Options
import CertWire.CommandLine.Outcome
import CertWire.Text.CaseMapping
import CertWire.Text.Numeral

/-! What the arguments of the command line ask for: a command with its settings, or an
outcome that is settled without running one. -/

namespace CertWire.CommandLine

/-- A setting as the command line leaves it. A separator that is attached in place of the value is
dropped and leaves it blank, which is neither absent nor a value. -/
inductive Setting (α : Type)
  | absent
  | blank
  | given (value : α)
deriving DecidableEq, Repr

def Setting.ofValue {α : Type} : Option α → Setting α
  | none => blank
  | some value => given value

inductive LogLevel
  | debug
  | info
  | warning
  | error
  | critical
deriving DecidableEq, Repr

namespace LogLevel

def all : List LogLevel := [debug, info, warning, error, critical]

def name : LogLevel → String
  | debug => "DEBUG"
  | info => "INFO"
  | warning => "WARNING"
  | error => "ERROR"
  | critical => "CRITICAL"

def ofName? (name : Text.Points) : Option LogLevel := all.find? (.ofString ·.name = name)

/-- Whether warnings are written at this level. -/
def showsWarnings : LogLevel → Bool
  | debug | info | warning => true
  | error | critical => false

end LogLevel

/-- What the `parse` command is asked for. -/
structure ParseSettings where
  hex : Setting Text.Points
  input : Setting Text.Points
  base64 : Bool
  all : Bool
  strict : Bool
deriving DecidableEq, Repr

/-- What the `encode` command is asked for. -/
structure EncodeSettings where
  kind : Setting Int
  payloadHex : Setting Text.Points
  length : Setting Int
deriving DecidableEq, Repr

inductive Command
  | parse (settings : ParseSettings)
  | encode (settings : EncodeSettings)
  | version
deriving DecidableEq, Repr

/-- An accepted command line: the log level, and the command unless none was given. -/
structure Request where
  level : LogLevel
  command : Option Command
deriving DecidableEq, Repr

def helpOption : Declaration := ⟨["-h", "--help"], false⟩
def logLevelOption : Declaration := ⟨["--log-level"], true⟩
def hexOption : Declaration := ⟨["--hex"], true⟩
def inputOption : Declaration := ⟨["--input", "-i"], true⟩
def base64Option : Declaration := ⟨["--base64"], false⟩
def allOption : Declaration := ⟨["--all"], false⟩
def strictOption : Declaration := ⟨["--strict"], false⟩
def kindOption : Declaration := ⟨["--type", "-t"], true⟩
def payloadOption : Declaration := ⟨["--payload-hex"], true⟩
def lengthOption : Declaration := ⟨["--length"], true⟩

def textOfLines (lines : List String) : String := String.join (lines.map (· ++ "\n"))

def mainProgram : Program where
  name := "i2pcert"
  usage := textOfLines
    ["usage: i2pcert [-h] [--log-level \x7bDEBUG,INFO,WARNING,ERROR,CRITICAL\x7d]",
      "               \x7bparse,encode,version\x7d ..."]
  details := textOfLines
    ["I2P certificate reader and serializer",
      "",
      "positional arguments:",
      "  \x7bparse,encode,version\x7d",
      "    parse               Read a certificate and print it as JSON",
      "    encode              Emit a certificate's wire bytes (hex)",
      "    version             Print version and exit",
      "",
      "options:",
      "  -h, --help            show this help message and exit",
      "  --log-level \x7bDEBUG,INFO,WARNING,ERROR,CRITICAL\x7d",
      "                        Logging level for format warnings (default:",
      "                        $I2PCERT_LOG_LEVEL or WARNING)"]

def parseProgram : Program where
  name := "i2pcert parse"
  usage := textOfLines
    ["usage: i2pcert parse [-h] [--hex HEX] [--input FILE] [--base64] [--all]",
      "                     [--strict]"]
  details := textOfLines
    ["options:",
      "  -h, --help            show this help message and exit",
      "  --hex HEX             Certificate bytes as hex instead of stdin",
      "  --input FILE, -i FILE",
      "                        Read bytes from FILE instead of stdin",
      "  --base64              Input (file or stdin) is base64 text",
      "  --all                 Read every certificate packed in the input",
      "  --strict              Exit 1 on truncated or excess data"]

def encodeProgram : Program where
  name := "i2pcert encode"
  usage := textOfLines
    ["usage: i2pcert encode [-h] --type CERT_TYPE [--payload-hex HEX]",
      "                      [--length LENGTH]"]
  details := textOfLines
    ["options:",
      "  -h, --help            show this help message and exit",
      "  --type CERT_TYPE, -t CERT_TYPE",
      "                        Certificate type (0-255)",
      "  --payload-hex HEX     Payload bytes as hex",
      "  --length LENGTH       Declared length (default: payload size)"]

def versionProgram : Program where
  name := "i2pcert version"
  usage := textOfLines ["usage: i2pcert version [-h]"]
  details := textOfLines ["options:", "  -h, --help  show this help message and exit"]

/-- The refusal of a value that is not among the choices. -/
def invalidChoice (label : String) (value : Text.Points) (choices : List String) : String :=
  s!"argument {label}: invalid choice: " ++ Text.quotedPoints value ++ " (choose from " ++
    ", ".intercalate (choices.map Text.quoted) ++ ")"

/-- The refusal of arguments that belong to nothing. -/
def unrecognized (arguments : List Text.Points) : Text.Points :=
  "unrecognized arguments: " ++ List.intercalate " " arguments

/-- Lets the options take effect one after the other. A call for help settles the outcome, as
does a value that is refused; so does what stopped the run over the arguments, after the
options before it. -/
def settle {σ : Type} (program : Program) (apply : σ → Occurrence → Except String σ) (scan : Scan) :
    σ → List Occurrence → Except Outcome σ
  | settings, [] =>
    match scan.fault with
    | some fault => .error (program.refuse fault.message)
    | none => .ok settings
  | settings, occurrence :: rest =>
    if occurrence.declaration = helpOption then .error (program.showHelp 0)
    else
      match apply settings occurrence with
      | .error reason => .error (program.refuse reason)
      | .ok settings => settle program apply scan settings rest

/-- The settings that the arguments of a program give, and what they leave over. -/
def settingsOf {σ : Type} (program : Program) (declarations : List Declaration) (expectsCommand : Bool)
    (start : σ) (apply : σ → Occurrence → Except String σ) (arguments : List Text.Points) :
    Except Outcome (σ × Scan) := do
  let scan := scanArguments declarations expectsCommand arguments
  let settings ← settle program apply scan start scan.occurrences
  return (settings, scan)

def applyParse (settings : ParseSettings) (occurrence : Occurrence) : Except String ParseSettings :=
  if occurrence.declaration = hexOption then .ok { settings with hex := .ofValue occurrence.value }
  else if occurrence.declaration = inputOption then .ok { settings with input := .ofValue occurrence.value }
  else if occurrence.declaration = base64Option then .ok { settings with base64 := true }
  else if occurrence.declaration = allOption then .ok { settings with all := true }
  else .ok { settings with strict := true }

/-- The integer that an option is given. -/
def integerSetting (occurrence : Occurrence) : Except String (Setting Int) :=
  match occurrence.value with
  | none => .ok .blank
  | some text =>
    match Text.Numeral.read text with
    | .ok number => .ok (.given number)
    | .error _ => .error (s!"argument {occurrence.declaration.label}: invalid int value: " ++ Text.quotedPoints text)

def applyEncode (settings : EncodeSettings) (occurrence : Occurrence) : Except String EncodeSettings :=
  if occurrence.declaration = kindOption then return { settings with kind := ← integerSetting occurrence }
  else if occurrence.declaration = lengthOption then return { settings with length := ← integerSetting occurrence }
  else .ok { settings with payloadHex := .ofValue occurrence.value }

/-- A level is named in any letter case. -/
def applyLogLevel (_ : Setting Text.Points) (occurrence : Occurrence) : Except String (Setting Text.Points) :=
  match occurrence.value with
  | none => .ok .blank
  | some text =>
    let name := Text.upper text
    if (LogLevel.ofName? name).isSome then .ok (.given name)
    else .error (invalidChoice logLevelOption.label name (LogLevel.all.map LogLevel.name))

def commandNames : List String := ["parse", "encode", "version"]

/-- The command with its settings, and the arguments it leaves over. -/
def commandOf (name : Text.Points) (arguments : List Text.Points) :
    Except Outcome (Command × List Text.Points) := do
  if name = "parse" then
    let declarations := [helpOption, hexOption, inputOption, base64Option, allOption, strictOption]
    let (settings, scan) ← settingsOf parseProgram declarations false
      ⟨.absent, .absent, false, false, false⟩ applyParse arguments
    return (.parse settings, scan.leftover)
  else if name = "encode" then
    let declarations := [helpOption, kindOption, payloadOption, lengthOption]
    let (settings, scan) ← settingsOf encodeProgram declarations false
      ⟨.absent, .given [], .absent⟩ applyEncode arguments
    if settings.kind = .absent then
      throw (encodeProgram.refuse s!"the following arguments are required: {kindOption.label}")
    return (.encode settings, scan.leftover)
  else if name = "version" then
    let (_, scan) ← settingsOf versionProgram [helpOption] false () (fun _ _ => .ok ()) arguments
    return (.version, scan.leftover)
  else throw (mainProgram.refuse (invalidChoice "command" name commandNames))

/-- The level that the option names, or else the environment, or else that of warnings. -/
def levelOf (chosen : Setting Text.Points) (preset : Option Text.Points) : Except Outcome LogLevel :=
  let unknown (shown : String) : Outcome := ⟨2, [], [.message s!"i2pcert: unknown log level {shown}\n"]⟩
  let named (name : Text.Points) : Except Outcome LogLevel :=
    match LogLevel.ofName? name with
    | some level => .ok level
    | none => .error (unknown (Text.quotedPoints name))
  match chosen with
  | .given name => named name
  | .blank => .error (unknown "[]")
  | .absent => named (Text.upper (preset.getD LogLevel.warning.name))

/-- What the arguments ask for, given the log level that the environment sets. -/
def requestOf (preset : Option Text.Points) (arguments : List Text.Points) : Except Outcome Request := do
  let (chosen, scan) ← settingsOf mainProgram [helpOption, logLevelOption] true .absent applyLogLevel arguments
  let command ←
    match scan.command with
    | [] => pure none
    | name :: rest => some <$> commandOf name rest
  let leftover := scan.leftover ++ (command.map Prod.snd).getD []
  if !leftover.isEmpty then throw (mainProgram.refuse (unrecognized leftover))
  return ⟨← levelOf chosen preset, command.map Prod.fst⟩

end CertWire.CommandLine
