import CertWire.Octets
import CertWire.Text.Points
import CertWire.Text.Printable

/-! Text and octets in quotes, for messages. Apostrophes enclose, unless the content has
an apostrophe and no quotation mark; what cannot be shown is written as an escape. -/

namespace CertWire.Text

/-- A number in small hexadecimal digits, padded with zeros to a width. -/
def hexPadded (width number : Nat) : List Char :=
  (List.range width).reverse.map fun place => Nat.digitChar (number / Nat.pow 16 place % 16)

/-- The code point that encloses the content. -/
def enclosure (content : List Nat) : Nat :=
  if content.contains 0x27 && !content.contains 0x22 then 0x22 else 0x27

/-- The escapes that text and octets have in common. -/
def shortEscape? (quote point : Nat) : Option (List Char) :=
  if point = quote ∨ point = 0x5c then some ['\\', Char.ofNat point]
  else if point = 0x09 then some ['\\', 't']
  else if point = 0x0a then some ['\\', 'n']
  else if point = 0x0d then some ['\\', 'r']
  else none

def quotedPoint (quote point : Nat) : List Char :=
  match shortEscape? quote point with
  | some escape => escape
  | none =>
    if isPrintable point then [Char.ofNat point]
    else if point < 0x100 then '\\' :: 'x' :: hexPadded 2 point
    else if point < 0x10000 then '\\' :: 'u' :: hexPadded 4 point
    else '\\' :: 'U' :: hexPadded 8 point

/-- Code points in quotes. -/
def quotedPoints (points : Points) : String :=
  let quote := enclosure points
  String.ofList (Char.ofNat quote :: points.flatMap (quotedPoint quote) ++ [Char.ofNat quote])

/-- Text in quotes. -/
def quoted (text : String) : String := quotedPoints (.ofString text)

def quotedOctet (quote : Nat) (octet : UInt8) : List Char :=
  match shortEscape? quote octet.toNat with
  | some escape => escape
  | none =>
    if 0x20 ≤ octet.toNat ∧ octet.toNat < 0x7f then [Char.ofNat octet.toNat]
    else '\\' :: 'x' :: hexPadded 2 octet.toNat

/-- Octets enclosed in quotes and marked as octets, with escapes as for a quote of that kind. -/
def enclosedOctets (escaped : Nat) (octets : Octets) : String :=
  let quote := Char.ofNat (enclosure (octets.map UInt8.toNat))
  String.ofList ('b' :: quote :: octets.flatMap (quotedOctet escaped) ++ [quote])

/-- Octets in quotes. -/
def quotedOctets (octets : Octets) : String := enclosedOctets (enclosure (octets.map UInt8.toNat)) octets

/-- Octets that may still change, in quotes: an apostrophe is an escape also where quotation
marks enclose. -/
def quotedBuffer (octets : Octets) : String := "bytearray(" ++ enclosedOctets 0x27 octets ++ ")"

end CertWire.Text
