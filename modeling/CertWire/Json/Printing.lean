import CertWire.Json.Basic
import CertWire.Number.Shortest
import CertWire.Text.Quoted

/-! Two texts of a JSON value: the document, indented by two spaces a level and in ASCII
only, and the one-line form that messages show. -/

namespace CertWire.Json

/-- A code point within the quotation marks of a document. -/
def documentPoint (point : Nat) : List Char :=
  if point = 0x22 then ['\\', '"']
  else if point = 0x5c then ['\\', '\\']
  else if point = 0x0a then ['\\', 'n']
  else if point = 0x0d then ['\\', 'r']
  else if point = 0x09 then ['\\', 't']
  else if point = 0x0c then ['\\', 'f']
  else if point = 0x08 then ['\\', 'b']
  else if 0x20 ≤ point ∧ point < 0x7f then [Char.ofNat point]
  else if point < 0x10000 then '\\' :: 'u' :: Text.hexPadded 4 point
  else
    '\\' :: 'u' :: Text.hexPadded 4 (0xd800 + (point - 0x10000) / 0x400) ++
      '\\' :: 'u' :: Text.hexPadded 4 (0xdc00 + (point - 0x10000) % 0x400)

def documentString (points : Text.Points) : List Char := '"' :: points.flatMap documentPoint ++ ['"']

def documentNumber : Binary64 → String
  | .infinite negative => if negative then "-Infinity" else "Infinity"
  | .notANumber => "NaN"
  | value => value.text

def newline (indent : Nat) : List Char := '\n' :: List.replicate (2 * indent) ' '

mutual

/-- The document of a value that stands at a level of indentation. -/
def documentAt (indent : Nat) : Json → List Char
  | null => "null".toList
  | boolean value => (if value then "true" else "false").toList
  | integer value => (toString value).toList
  | number value => (documentNumber value).toList
  | string points => documentString points
  | array [] => ['[', ']']
  | array (item :: items) =>
    '[' :: newline (indent + 1) ++ documentAt (indent + 1) item ++ itemsAt (indent + 1) items ++
      newline indent ++ [']']
  | object [] => ['{', '}']
  | object ((name, value) :: members) =>
    '{' :: newline (indent + 1) ++ documentString name ++ ':' :: ' ' :: documentAt (indent + 1) value ++
      membersAt (indent + 1) members ++ newline indent ++ ['}']

/-- The further items of an array. -/
def itemsAt (indent : Nat) : List Json → List Char
  | [] => []
  | item :: items => ',' :: newline indent ++ documentAt indent item ++ itemsAt indent items

/-- The further members of an object. -/
def membersAt (indent : Nat) : List (Text.Points × Json) → List Char
  | [] => []
  | (name, value) :: members =>
    ',' :: newline indent ++ documentString name ++ ':' :: ' ' :: documentAt indent value ++
      membersAt indent members

end

/-- The indented document of a value. -/
def document (value : Json) : String := String.ofList (documentAt 0 value)

mutual

/-- The one-line form of a value. -/
def shown : Json → String
  | null => "None"
  | boolean value => if value then "True" else "False"
  | integer value => toString value
  | number value => value.text
  | string points => Text.quotedPoints points
  | array items => "[" ++ ", ".intercalate (shownItems items) ++ "]"
  | object members => "\x7b" ++ ", ".intercalate (shownMembers members) ++ "\x7d"

def shownItems : List Json → List String
  | [] => []
  | item :: items => shown item :: shownItems items

def shownMembers : List (Text.Points × Json) → List String
  | [] => []
  | (name, value) :: members => (Text.quotedPoints name ++ ": " ++ shown value) :: shownMembers members

end
end CertWire.Json
