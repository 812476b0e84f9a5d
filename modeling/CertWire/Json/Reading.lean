import CertWire.Json.Basic
import CertWire.Text.Hex
import CertWire.Text.Numeral

/-! Reading a JSON document. Beyond the standard it takes `NaN` and the infinities, lone
surrogate escapes and repeated names, of which the last counts. Arrays and objects nest
only so deep. -/

namespace CertWire.Json

inductive ReadingFault
  /-- The document is not JSON. -/
  | malformed
  /-- An integer has more digits than are read. -/
  | integerTooLong
  /-- An array or object stands within too many others. -/
  | nestedTooDeep
deriving DecidableEq, Repr

/-- Skips the white space that JSON allows between its parts. -/
def skipSpace (text : List Char) : List Char :=
  text.dropWhile fun character => character == ' ' || character == '\n' || character == '\t' || character == '\r'

/-- The code point that four hexadecimal digits name. -/
def fourDigits? (first second third fourth : Char) : Option Nat := do
  let digits ← [first, second, third, fourth].mapM (Text.Hex.digit? ·.toNat)
  return digits.foldl (fun high digit => high * 16 + digit) 0

/-- The code point of a one-letter escape. -/
def letterEscape? : Char → Option Nat
  | '"' => some 0x22
  | '\\' => some 0x5c
  | '/' => some 0x2f
  | 'b' => some 0x08
  | 'f' => some 0x0c
  | 'n' => some 0x0a
  | 'r' => some 0x0d
  | 't' => some 0x09
  | _ => none

/-- A high surrogate and the low one that follows it stand for one code point together. -/
def joinSurrogates : Text.Points → Text.Points
  | high :: low :: rest =>
    if 0xd800 ≤ high ∧ high < 0xdc00 ∧ 0xdc00 ≤ low ∧ low < 0xe000 then
      (0x10000 + (high - 0xd800) * 0x400 + (low - 0xdc00)) :: joinSurrogates rest
    else high :: joinSurrogates (low :: rest)
  | points => points

/-- Reads text up to its closing quotation mark, behind the code points already read (last
one first). -/
def readString (before : Text.Points) : List Char → Except ReadingFault (Text.Points × List Char)
  | [] => .error .malformed
  | '"' :: rest => .ok (joinSurrogates before.reverse, rest)
  | '\\' :: 'u' :: first :: second :: third :: fourth :: rest =>
    match fourDigits? first second third fourth with
    | some point => readString (point :: before) rest
    | none => .error .malformed
  | '\\' :: letter :: rest =>
    match letterEscape? letter with
    | some point => readString (point :: before) rest
    | none => .error .malformed
  | character :: rest =>
    if character.toNat < 0x20 then .error .malformed else readString (character.toNat :: before) rest

def digitValue (digits : List Char) : Nat :=
  digits.foldl (fun high digit => high * 10 + (digit.toNat - 0x30)) 0

/-- The digits behind a point, and what follows them; none if no digit follows the point. -/
def readFraction (text : List Char) : List Char × List Char :=
  match text with
  | '.' :: rest =>
    let digits := rest.takeWhile Char.isDigit
    if digits.isEmpty then ([], text) else (digits, rest.drop digits.length)
  | _ => ([], text)

/-- An exponent, and what follows it. -/
def readExponent? (text : List Char) : Option (Int × List Char) :=
  match text with
  | mark :: rest =>
    if mark = 'e' ∨ mark = 'E' then
      let (negative, rest) :=
        match rest with
        | '-' :: rest => (true, rest)
        | '+' :: rest => (false, rest)
        | _ => (false, rest)
      let digits := rest.takeWhile Char.isDigit
      if digits.isEmpty then none
      else some (if negative then -digitValue digits else digitValue digits, rest.drop digits.length)
    else none
  | [] => none

/-- Reads a number at the front of the text: an integer if it has neither a fraction nor an
exponent. -/
def readNumber (text : List Char) : Except ReadingFault (Json × List Char) :=
  let (negative, body) :=
    match text with
    | '-' :: rest => (true, rest)
    | _ => (false, text)
  let whole :=
    match body with
    | '0' :: _ => ['0']
    | _ => body.takeWhile Char.isDigit
  if whole.isEmpty then .error .malformed
  else
    let (fraction, rest) := readFraction (body.drop whole.length)
    match fraction, readExponent? rest with
    | [], none =>
      if Text.Numeral.digitLimit < whole.length then .error .integerTooLong
      else .ok (.integer (if negative then -digitValue whole else digitValue whole), rest)
    | _, none => .ok (.number (.ofDecimal negative (digitValue (whole ++ fraction)) (-fraction.length)), rest)
    | _, some (exponent, rest) =>
      .ok (.number (.ofDecimal negative (digitValue (whole ++ fraction)) (exponent - fraction.length)), rest)

mutual

/-- Reads one value at the front of the text in at most so many steps, with room for so many
levels of nesting. -/
def readValue : (steps room : Nat) → List Char → Except ReadingFault (Json × List Char)
  | 0, _, _ => .error .malformed
  | steps + 1, room, text =>
    match text with
    | '"' :: rest => do
      let (points, rest) ← readString [] rest
      return (.string points, rest)
    | '[' :: rest =>
      match room with
      | 0 => .error .nestedTooDeep
      | room + 1 =>
        match skipSpace rest with
        | ']' :: rest => .ok (.array [], rest)
        | rest => readItems steps room [] rest
    | '{' :: rest =>
      match room with
      | 0 => .error .nestedTooDeep
      | room + 1 =>
        match skipSpace rest with
        | '}' :: rest => .ok (.object [], rest)
        | rest => readMembers steps room [] rest
    | 'n' :: 'u' :: 'l' :: 'l' :: rest => .ok (.null, rest)
    | 't' :: 'r' :: 'u' :: 'e' :: rest => .ok (.boolean true, rest)
    | 'f' :: 'a' :: 'l' :: 's' :: 'e' :: rest => .ok (.boolean false, rest)
    | 'N' :: 'a' :: 'N' :: rest => .ok (.number .notANumber, rest)
    | 'I' :: 'n' :: 'f' :: 'i' :: 'n' :: 'i' :: 't' :: 'y' :: rest => .ok (.number (.infinite false), rest)
    | '-' :: 'I' :: 'n' :: 'f' :: 'i' :: 'n' :: 'i' :: 't' :: 'y' :: rest => .ok (.number (.infinite true), rest)
    | _ => readNumber text

/-- Reads the items of an array from one item on, behind those already read. -/
def readItems : (steps room : Nat) → List Json → List Char → Except ReadingFault (Json × List Char)
  | 0, _, _, _ => .error .malformed
  | steps + 1, room, before, text => do
    let (item, rest) ← readValue steps room text
    match skipSpace rest with
    | ',' :: rest => readItems steps room (item :: before) (skipSpace rest)
    | ']' :: rest => return (.array (item :: before).reverse, rest)
    | _ => .error .malformed

/-- Reads the members of an object from one name on, behind those already read. -/
def readMembers : (steps room : Nat) → List (Text.Points × Json) → List Char →
    Except ReadingFault (Json × List Char)
  | 0, _, _, _ => .error .malformed
  | steps + 1, room, before, text =>
    match text with
    | '"' :: rest => do
      let (name, rest) ← readString [] rest
      match skipSpace rest with
      | ':' :: rest =>
        let (value, rest) ← readValue steps room (skipSpace rest)
        let members := insertMember before name value
        match skipSpace rest with
        | ',' :: rest => readMembers steps room members (skipSpace rest)
        | '}' :: rest => return (.object members, rest)
        | _ => .error .malformed
      | _ => .error .malformed
    | _ => .error .malformed

end

/-- How many arrays and objects may stand within one another. -/
def nestingLimit : Nat := 990

/-- The value of a document with nothing but white space around it. Of two steps in a row at
least one takes a character, so that twice the length of the text bounds their number. -/
def read (text : List Char) : Except ReadingFault Json := do
  let (value, rest) ← readValue (2 * text.length + 1) nestingLimit (skipSpace text)
  if (skipSpace rest).isEmpty then return value else .error .malformed

end CertWire.Json
