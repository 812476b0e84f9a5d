import CertWire.Number.Binary64
import CertWire.Text.Points

/-! JSON values as a lenient reader takes them: integers of any size, binary64 numbers with
the infinities and the one that is no number, and text with lone surrogates. -/

namespace CertWire

inductive Json
  | null
  | boolean (value : Bool)
  | integer (value : Int)
  | number (value : Binary64)
  | string (points : Text.Points)
  | array (items : List Json)
  | object (members : List (Text.Points × Json))
deriving Inhabited, Repr

namespace Json

def text (content : String) : Json := string (.ofString content)

def natural (value : Nat) : Json := integer value

def octetCount (octets : List UInt8) : Json := integer octets.length

/-- The place of a number on the extended line; truth counts as 1 and falsehood as 0. -/
def magnitude? : Json → Option Magnitude
  | boolean value => some (.ofInt (if value then 1 else 0))
  | integer value => some (.ofInt value)
  | number value => some (.ofBinary64 value)
  | _ => none

/-- The member of that name. -/
def member? (members : List (Text.Points × Json)) (name : String) : Option Json :=
  members.lookup (.ofString name)

/-- Adds a member, in the place of an earlier one of the same name. -/
def insertMember (members : List (Text.Points × Json)) (name : Text.Points) (value : Json) :
    List (Text.Points × Json) :=
  if members.any (·.1 == name) then members.map fun member => if member.1 == name then (name, value) else member
  else members ++ [(name, value)]

mutual

/-- Numbers are the same if they take the same place, whichever way they were written;
objects, if they have the same members in any order. -/
def same : (left right : Json) → Bool
  | null, null => true
  | string left, string right => left == right
  | array left, array right => sameItems left right
  | object left, object right => left.length == right.length && sameMembers left right
  | left, right =>
    match left.magnitude?, right.magnitude? with
    | some left, some right => left == right
    | _, _ => false

def sameItems : (left right : List Json) → Bool
  | [], [] => true
  | left :: others, right :: rest => same left right && sameItems others rest
  | _, _ => false

/-- Every member on the left has one of the same name and value on the right. -/
def sameMembers : (left right : List (Text.Points × Json)) → Bool
  | [], _ => true
  | (name, value) :: others, right =>
    (match right.lookup name with
      | some other => same value other
      | none => false) && sameMembers others right

end

/-- Equality of values; what is not a number equals nothing, itself included. -/
def equal (left right : Json) : Bool :=
  left.same right && left.magnitude? != some .unordered

end Json
end CertWire
