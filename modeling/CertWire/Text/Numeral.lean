import CertWire.Text.Blank
import CertWire.Text.DecimalDigit
import CertWire.Text.Points

/-! Integers as people write them: white space around, a sign, and decimal digits of any
script, in groups joined by single underscores. -/

namespace CertWire.Text.Numeral

/-- More digits than this are refused unread. -/
def digitLimit : Nat := 4300

inductive Fault
  | malformed
  | tooLong (digits : Nat)
deriving DecidableEq, Repr

/-- White space around a numeral; the separator controls of ASCII do not count. -/
def isSpace (point : Nat) : Bool := isBlankPoint point && !(0x1c ≤ point && point ≤ 0x1f)

/-- The underscore. -/
def joint : Nat := '_'.toNat

def isDigitOrJoint (point : Nat) : Bool := point == joint || (decimalDigit? point).isSome

/-- Every underscore stands between two digits, and a digit comes last. -/
def isGrouped : (afterDigit : Bool) → Points → Bool
  | afterDigit, [] => afterDigit
  | afterDigit, point :: rest => if point = joint then afterDigit && isGrouped false rest else isGrouped true rest

/-- The integer that the text spells. -/
def read (text : Points) : Except Fault Int :=
  let body := text.dropWhile isSpace
  let negative := body.head? = some '-'.toNat
  let body := if negative ∨ body.head? = some '+'.toNat then body.drop 1 else body
  let numeral := body.takeWhile isDigitOrJoint
  let digits := numeral.filterMap decimalDigit?
  if !isGrouped false numeral then .error .malformed
  else if digitLimit < digits.length then .error (.tooLong digits.length)
  else if !(body.dropWhile isDigitOrJoint).all isSpace then .error .malformed
  else
    let magnitude : Nat := digits.foldl (fun high digit => high * 10 + digit) 0
    .ok (if negative then -magnitude else magnitude)

end CertWire.Text.Numeral
