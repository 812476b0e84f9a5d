import CertWire.Octets
import CertWire.Text.Points

/-! Octets as pairs of hexadecimal digits. Writing uses small letters; reading takes
either case and ASCII white space between, but not within, the pairs. -/

namespace CertWire.Text.Hex

def encodeOctet (octet : UInt8) : List Char :=
  [Nat.digitChar (octet.toNat / 16), Nat.digitChar (octet.toNat % 16)]

def encode (octets : Octets) : String := String.ofList (octets.flatMap encodeOctet)

/-- The value of an ASCII hexadecimal digit of either case. -/
def digit? (point : Nat) : Option Nat :=
  if 0x30 ≤ point ∧ point ≤ 0x39 then some (point - 0x30)
  else if 0x61 ≤ point ∧ point ≤ 0x66 then some (point - 0x61 + 10)
  else if 0x41 ≤ point ∧ point ≤ 0x46 then some (point - 0x41 + 10)
  else none

/-- ASCII white space: the tab, the line and page controls, and the space. -/
def isSpace (point : Nat) : Bool := (0x09 ≤ point && point ≤ 0x0d) || point == 0x20

/-- Reads pairs from a position on, behind the octets already read (last one first). An
error is the position of the first code point that does not fit; the end does not fit
where a second digit is due. -/
def decodePairs (position : Nat) (decoded : Octets) : Points → Except Nat Octets
  | [] => .ok decoded.reverse
  | high :: rest =>
    if isSpace high then decodePairs (position + 1) decoded rest
    else
      match digit? high, rest with
      | none, _ => .error position
      | some _, [] => .error (position + 1)
      | some top, low :: rest =>
        match digit? low with
        | none => .error (position + 1)
        | some bottom => decodePairs (position + 2) (UInt8.ofNat (16 * top + bottom) :: decoded) rest

/-- The octets that the text spells, or the position of the code point at fault. One outside
ASCII is at fault before any other. -/
def decode (text : Points) : Except Nat Octets :=
  match text.findIdx? (0x80 ≤ ·) with
  | some position => .error position
  | none => decodePairs 0 [] text

end CertWire.Text.Hex
