/-! White space as Unicode has it, stripping it, and splitting text at it. -/

namespace CertWire.Text

/-- White space of any script, line breaks and the separator controls included. -/
def isBlankPoint (point : Nat) : Bool :=
  (0x09 ≤ point && point ≤ 0x0d) || (0x1c ≤ point && point ≤ 0x20) || point == 0x85 || point == 0xa0 ||
    point == 0x1680 || (0x2000 ≤ point && point ≤ 0x200a) || point == 0x2028 || point == 0x2029 ||
    point == 0x202f || point == 0x205f || point == 0x3000

def isBlank (character : Char) : Bool := isBlankPoint character.toNat

def stripLeft (text : List Char) : List Char := text.dropWhile isBlank

/-- The text without the white space around it. -/
def strip (text : List Char) : List Char := (stripLeft (stripLeft text).reverse).reverse

theorem length_lt_of_stripLeft {text rest : List Char} {first : Char} (shown : stripLeft text = first :: rest) :
    rest.length < text.length := by
  have shorter : (stripLeft text).length ≤ text.length := (List.dropWhile_sublist isBlank).length_le
  rw [shown] at shorter
  exact shorter

/-- The maximal runs of other characters, in order. -/
def fields (text : List Char) : List (List Char) :=
  match shown : stripLeft text with
  | [] => []
  | first :: rest =>
    have _shorter := length_lt_of_stripLeft shown
    (first :: rest.takeWhile (!isBlank ·)) :: fields (rest.dropWhile (!isBlank ·))
termination_by text.length
decreasing_by exact Nat.lt_of_le_of_lt (List.dropWhile_sublist _).length_le _shorter

end CertWire.Text
