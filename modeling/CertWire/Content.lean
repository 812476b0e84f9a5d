import CertWire.Octets
import CertWire.Text.Points

/-! What may be given in the place of octets, and the octets that it stands for. -/

namespace CertWire

inductive Content
  | octets (content : Octets)
  /-- Octets that may still change. -/
  | buffer (content : Octets)
  /-- Octets that are kept elsewhere and looked at in their place. -/
  | view (content : Octets)
  | numbers (values : List Int)
  /-- A count stands for so many zeros. -/
  | count (number : Int)
  /-- Text stands for no octets, since it is given without an encoding. -/
  | text (points : Text.Points)

/-- Why octets cannot be had. -/
inductive ContentFault
  /-- A number is no octet. -/
  | outOfRange
  | negativeCount
  /-- A number cannot count octets. -/
  | unfitCount
  /-- A count leaves no room for the octets that keep it. -/
  | excessiveCount
  /-- A count is beyond any memory. -/
  | exhaustingCount
  | text
deriving DecidableEq, Repr

namespace Content

/-- The most octets that can be counted together with the 33 that keep the count. -/
def countLimit : Int := 0x7fffffffffffffff - 33

/-- More octets than any memory holds. -/
def memoryLimit : Int := 0x10000000000

def zeros (number : Int) : Except ContentFault Octets :=
  if !Octets.isIndex number then .error .unfitCount
  else if number < 0 then .error .negativeCount
  else if countLimit < number then .error .excessiveCount
  else if memoryLimit ≤ number then .error .exhaustingCount
  else .ok (List.replicate number.toNat 0)

/-- The octets that are meant. -/
def toOctets : Content → Except ContentFault Octets
  | octets content | buffer content | view content => .ok content
  | numbers values =>
    if values.all fun value => 0 ≤ value && value < 256 then .ok (values.map fun value => UInt8.ofNat value.toNat)
    else .error .outOfRange
  | count number => zeros number
  | text _ => .error .text

/-- The number of parts; a count has none. -/
def size? : Content → Option Nat
  | octets content | buffer content | view content => some content.length
  | numbers values => some values.length
  | count _ => none
  | text points => some points.length

end Content
end CertWire
