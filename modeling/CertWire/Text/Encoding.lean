import CertWire.Octets
import CertWire.Text.Quoted

/-! Text as octets in UTF-8. A lone surrogate from U+DC80 to U+DCFF stands for an octet that
is no UTF-8, and is written as that octet; any other surrogate cannot be written. -/

namespace CertWire.Text

/-- A run of surrogates that cannot be written, from a position in the text on. -/
structure EncodingFault where
  position : Nat
  surrogates : Points
deriving DecidableEq, Repr

namespace EncodingFault

/-- The run of surrogates at the position in a text. -/
def atPosition (points : Points) (position : Nat) : EncodingFault :=
  ⟨position, (points.drop position).takeWhile Points.isSurrogate⟩

/-- The message shows a single surrogate, and of several only where they stand. -/
def message (fault : EncodingFault) : String :=
  let place :=
    match fault.surrogates with
    | [point] => "character '\\u" ++ String.ofList (hexPadded 4 point) ++ s!"' in position {fault.position}"
    | several => s!"characters in position {fault.position}-{fault.position + several.length - 1}"
  "'utf-8' codec can't encode " ++ place ++ ": surrogates not allowed"

end EncodingFault

/-- The octets of one code point. -/
def encodePoint? (point : Nat) : Option Octets :=
  if 0xdc80 ≤ point ∧ point ≤ 0xdcff then some [UInt8.ofNat (point - 0xdc00)]
  else if Points.isSurrogate point then none
  else some (String.utf8EncodeChar (Char.ofNat point))

/-- The octets of a text, or its first surrogates that cannot be written. -/
def encode (points : Points) : Except EncodingFault Octets :=
  match points.mapM encodePoint? with
  | some parts => .ok parts.flatten
  | none => .error (.atPosition points (points.findIdx fun point => (encodePoint? point).isNone))

/-- The octets of a string, which has no surrogates. -/
def encodeString (text : String) : Octets := text.toUTF8.data.toList

end CertWire.Text
