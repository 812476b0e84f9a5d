import CertWire.Text.DecimalDigit
import CertWire.Text.Quoted

/-! Options on a command line. Long names may be shortened as far as they stay unique, a
value may be attached or follow, and single letters may be joined. Arguments are sorted
into options and words before any of them is acted on.

Parsers of this kind do not all agree on two details, and the older usage is followed here. A
separator that is attached, as in `--hex=--`, is dropped, which leaves the option without a
value; newer parsers take it as the value. Letters that are joined are all looked up before
any of them counts, so that `-hx` is refused; newer parsers show the help for its `-h`. -/

namespace CertWire.CommandLine

/-- An option by all its names. -/
structure Declaration where
  names : List String
  takesValue : Bool
deriving DecidableEq, Repr

/-- The option as errors name it. -/
def Declaration.label (declaration : Declaration) : String := "/".intercalate declaration.names

inductive OptionFault
  | ambiguous (argument : Text.Points) (names : List String)
  | missingValue (declaration : Declaration)
  | unusedValue (declaration : Declaration) (value : Text.Points)
deriving DecidableEq, Repr

def OptionFault.message : OptionFault → Text.Points
  | ambiguous argument names => "ambiguous option: " ++ argument ++ " could match " ++ ", ".intercalate names
  | missingValue declaration => .ofString s!"argument {declaration.label}: expected one argument"
  | unusedValue declaration value =>
    .ofString (s!"argument {declaration.label}: ignored explicit argument " ++ Text.quotedPoints value)

/-- How an argument names an option, and what it attaches to the name. -/
structure Spelling where
  declaration : Declaration
  name : String
  attached : Option Text.Points
deriving DecidableEq, Repr

/-- An argument sorted: the separator after which there are no options, a word, or something
that is written as an option, known or not. -/
inductive Argument
  | separator
  | word (text : Text.Points)
  | option (text : Text.Points) (spelling : Option Spelling)
deriving DecidableEq, Repr

/-- The code point with which options begin. -/
def dash : Nat := '-'.toNat

def separatorText : Text.Points := [dash, dash]

def Argument.text : Argument → Text.Points
  | separator => separatorText
  | word text | option text _ => text

/-- The text before the first equals sign, and the text behind it if there is one. -/
def splitAtEquals (text : Text.Points) : Text.Points × Option Text.Points :=
  let before := text.takeWhile (· ≠ '='.toNat)
  match text.drop before.length with
  | [] => (text, none)
  | _ :: after => (before, some after)

def isDigit (point : Nat) : Bool := (Text.decimalDigit? point).isSome

/-- Digits of any script behind a minus sign, or a decimal fraction; a line feed may follow. -/
def isNegativeNumber (text : Text.Points) : Bool :=
  let rest := text.drop 1
  let body := if rest.getLast? = some '\n'.toNat then rest.dropLast else rest
  text.head? = some dash &&
    match body.dropWhile isDigit with
    | [] => !body.isEmpty
    | point :: fraction => point = '.'.toNat && !fraction.isEmpty && fraction.all isDigit

/-- The option of exactly that name. -/
def named? (declarations : List Declaration) (name : Text.Points) : Option Declaration :=
  declarations.find? fun declaration => (declaration.names.map Text.Points.ofString).contains name

/-- The options that an argument may stand for when it is no full name: a long name by what
stands before an equals sign, a single letter by the first of several letters. -/
def candidates (declarations : List Declaration) (argument : Text.Points) : List Spelling :=
  let all := declarations.flatMap fun declaration => declaration.names.map fun name => (declaration, name)
  if separatorText.isPrefixOf argument then
    let (start, attached) := splitAtEquals argument
    all.filterMap fun (declaration, name) =>
      if start.isPrefixOf (Text.Points.ofString name) then some ⟨declaration, name, attached⟩ else none
  else
    all.filterMap fun (declaration, name) =>
      if Text.Points.ofString name = argument.take 2 then some ⟨declaration, name, some (argument.drop 2)⟩
      else if argument.isPrefixOf (Text.Points.ofString name) then some ⟨declaration, name, none⟩
      else none

/-- Sorts one argument. What starts with a minus sign and names no option is still a word if
it is a negative number or has a space in it. -/
def classify (declarations : List Declaration) (argument : Text.Points) : Except OptionFault Argument :=
  if argument.head? ≠ some dash then .ok (.word argument)
  else
    match named? declarations argument with
    | some declaration => .ok (.option argument (some ⟨declaration, argument.toString, none⟩))
    | none =>
      if argument = [dash] then .ok (.word argument)
      else
        let (name, attached) := splitAtEquals argument
        match if attached.isSome then named? declarations name else none with
        | some declaration => .ok (.option argument (some ⟨declaration, name.toString, attached⟩))
        | none =>
          match candidates declarations argument with
          | [] =>
            if isNegativeNumber argument || argument.contains ' '.toNat then .ok (.word argument)
            else .ok (.option argument none)
          | [spelling] => .ok (.option argument (some spelling))
          | several => .error (.ambiguous argument (several.map Spelling.name))

/-- Sorts the arguments; after a separator all are words. -/
def classifyAll (declarations : List Declaration) : List Text.Points → Except OptionFault (List Argument)
  | [] => .ok []
  | argument :: rest =>
    if argument = separatorText then .ok (.separator :: rest.map .word)
    else do
      let first ← classify declarations argument
      let others ← classifyAll declarations rest
      return first :: others

/-- An option as it was used. An attached separator is dropped, so that an option that takes
a value may end up without one. -/
structure Occurrence where
  declaration : Declaration
  value : Option Text.Points
deriving DecidableEq, Repr

/-- The options named by one argument: those complete in themselves, and the last one if it
has nothing attached. -/
structure Cluster where
  complete : List Occurrence
  last : Option Declaration

def attachedValue (attached : Text.Points) : Option Text.Points :=
  if attached = separatorText then none else some attached

/-- Takes an attached text as the value of an option, or as further letters. -/
def attach (declarations : List Declaration) (joinable : Bool) (declaration : Declaration) :
    Text.Points → Except OptionFault Cluster
  | [] =>
    if declaration.takesValue then .ok ⟨[⟨declaration, some []⟩], none⟩ else .error (.unusedValue declaration [])
  | letter :: rest =>
    if declaration.takesValue then .ok ⟨[⟨declaration, attachedValue (letter :: rest)⟩], none⟩
    else
      match if joinable then named? declarations [dash, letter] else none with
      | none => .error (.unusedValue declaration (letter :: rest))
      | some next =>
        if rest.isEmpty then .ok ⟨[⟨declaration, none⟩], some next⟩
        else do
          let others ← attach declarations true next rest
          return { others with complete := ⟨declaration, none⟩ :: others.complete }

def Spelling.cluster (declarations : List Declaration) (spelling : Spelling) : Except OptionFault Cluster :=
  match spelling.attached with
  | none => .ok ⟨[], some spelling.declaration⟩
  | some attached =>
    attach declarations (!separatorText.isPrefixOf (Text.Points.ofString spelling.name)) spelling.declaration attached

/-- What a run over the arguments finds: options in order, arguments that belong to none,
the command and what follows it where one is expected, and what stopped the run early. -/
structure Scan where
  occurrences : List Occurrence
  leftover : List Text.Points
  command : List Text.Points
  fault : Option OptionFault
deriving DecidableEq, Repr

namespace Scan

def nothing : Scan := ⟨[], [], [], none⟩

def withFound (scan : Scan) (found : List Occurrence) : Scan :=
  { scan with occurrences := found ++ scan.occurrences }

def withLeftover (scan : Scan) (text : Text.Points) : Scan := { scan with leftover := text :: scan.leftover }

end Scan

/-- Runs over sorted arguments. `pending` is a cluster whose last option waits for its value;
its options count only once it has one. -/
def scan (declarations : List Declaration) (expectsCommand : Bool) :
    (pending : Option (List Occurrence × Declaration)) → List Argument → Scan
  | some (found, last), .word value :: rest =>
    (scan declarations expectsCommand none rest).withFound (found ++ [⟨last, some value⟩])
  | some (_, last), _ => { Scan.nothing with fault := some (.missingValue last) }
  | none, [] => .nothing
  | none, .option text none :: rest => (scan declarations expectsCommand none rest).withLeftover text
  | none, .option _ (some spelling) :: rest =>
    match spelling.cluster declarations with
    | .error fault => { Scan.nothing with fault := some fault }
    | .ok ⟨found, none⟩ => (scan declarations expectsCommand none rest).withFound found
    | .ok ⟨found, some last⟩ =>
      if last.takesValue then scan declarations expectsCommand (some (found, last)) rest
      else (scan declarations expectsCommand none rest).withFound (found ++ [⟨last, none⟩])
  | none, argument :: rest =>
    let isCommand :=
      match argument with
      | .separator => !rest.isEmpty
      | _ => true
    if expectsCommand && isCommand then
      { Scan.nothing with command := argument.text :: rest.map Argument.text }
    else (scan declarations expectsCommand none rest).withLeftover argument.text

/-- Sorts the arguments and runs over them. -/
def scanArguments (declarations : List Declaration) (expectsCommand : Bool) (arguments : List Text.Points) : Scan :=
  match classifyAll declarations arguments with
  | .error fault => { Scan.nothing with fault := some fault }
  | .ok sorted => scan declarations expectsCommand none sorted

end CertWire.CommandLine
