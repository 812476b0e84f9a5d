import CertWire.Octets

/-! Base 64 with padding. Reading is lenient: octets outside the alphabet are passed over,
and a complete padding ends the text whatever follows it. -/

namespace CertWire.Text.Base64

/-- The octet that stands for six bits. -/
def letter (sextet : Nat) : UInt8 :=
  UInt8.ofNat <|
    if sextet < 26 then 0x41 + sextet
    else if sextet < 52 then 0x61 + (sextet - 26)
    else if sextet < 62 then 0x30 + (sextet - 52)
    else if sextet = 62 then 0x2b
    else 0x2f

/-- The six bits that an octet of the alphabet stands for. -/
def sextet? (octet : UInt8) : Option Nat :=
  let point := octet.toNat
  if 0x41 ≤ point ∧ point ≤ 0x5a then some (point - 0x41)
  else if 0x61 ≤ point ∧ point ≤ 0x7a then some (point - 0x61 + 26)
  else if 0x30 ≤ point ∧ point ≤ 0x39 then some (point - 0x30 + 52)
  else if point = 0x2b then some 62
  else if point = 0x2f then some 63
  else none

def padding : UInt8 := 0x3d

/-- Groups of three octets as four letters; a last group of one or two octets is padded. -/
def encode : Octets → Octets
  | [] => []
  | [first] => [letter (first.toNat / 4), letter (first.toNat % 4 * 16), padding, padding]
  | [first, second] =>
    [letter (first.toNat / 4), letter (first.toNat % 4 * 16 + second.toNat / 16),
      letter (second.toNat % 16 * 4), padding]
  | first :: second :: third :: rest =>
    letter (first.toNat / 4) :: letter (first.toNat % 4 * 16 + second.toNat / 16) ::
      letter (second.toNat % 16 * 4 + third.toNat / 64) :: letter (third.toNat % 64) :: encode rest

inductive Fault
  /-- One letter is left over, after so many letters in all. -/
  | loneLetter (letters : Nat)
  | incompletePadding
deriving DecidableEq, Repr

def Fault.message : Fault → String
  | loneLetter letters =>
    s!"Invalid base64-encoded string: number of data characters ({letters}) " ++
      "cannot be 1 more than a multiple of 4"
  | incompletePadding => "Incorrect padding"

/-- What is known between two octets of the text: the octets decoded, last one first; how
many letters of the current group have been seen, and their bits not yet used; how many
pads have been counted since the last letter. -/
structure Progress where
  decoded : Octets
  seen : Nat
  left : Nat
  pads : Nat

namespace Progress

def start : Progress := ⟨[], 0, 0, 0⟩

/-- Takes in one more letter of the alphabet. -/
def letter (progress : Progress) (sextet : Nat) : Progress :=
  let emit (octet : Nat) := UInt8.ofNat octet :: progress.decoded
  match progress.seen with
  | 0 => ⟨progress.decoded, 1, sextet, 0⟩
  | 1 => ⟨emit (progress.left * 4 + sextet / 16), 2, sextet % 16, 0⟩
  | 2 => ⟨emit (progress.left * 16 + sextet / 4), 3, sextet % 4, 0⟩
  | _ => ⟨emit (progress.left * 64 + sextet), 0, 0, 0⟩

/-- The result where the text ends without a complete padding. -/
def finish (progress : Progress) : Except Fault Octets :=
  match progress.seen with
  | 0 => .ok progress.decoded.reverse
  | 1 => .error (.loneLetter (progress.decoded.length / 3 * 4 + 1))
  | _ => .error .incompletePadding

end Progress

def decodeFrom (progress : Progress) : Octets → Except Fault Octets
  | [] => progress.finish
  | octet :: rest =>
    if octet = padding then
      if progress.seen < 2 then decodeFrom progress rest
      else if 4 ≤ progress.seen + progress.pads + 1 then .ok progress.decoded.reverse
      else decodeFrom { progress with pads := progress.pads + 1 } rest
    else
      match sextet? octet with
      | none => decodeFrom progress rest
      | some sextet => decodeFrom (progress.letter sextet) rest

/-- The octets that the text encodes. -/
def decode (text : Octets) : Except Fault Octets := decodeFrom .start text

end CertWire.Text.Base64
