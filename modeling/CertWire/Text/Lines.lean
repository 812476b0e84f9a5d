/-! Lines of text. Reading text turns every carriage return, with the line feed after it
if there is one, into a line feed; splitting then knows every line boundary of Unicode. -/

namespace CertWire.Text

/-- Carriage returns, alone or before a line feed, become line feeds. -/
def normalizeNewlines : List Char → List Char
  | [] => []
  | '\r' :: '\n' :: rest => '\n' :: normalizeNewlines rest
  | '\r' :: rest => '\n' :: normalizeNewlines rest
  | character :: rest => character :: normalizeNewlines rest

/-- The characters that end a line. -/
def isLineBreak (character : Char) : Bool :=
  let point := character.toNat
  (0x0a ≤ point && point ≤ 0x0d) || (0x1c ≤ point && point ≤ 0x1e) || point == 0x85 || point == 0x2028 ||
    point == 0x2029

/-- The lines of a text, without their ends. A carriage return and a line feed end one
line together, and nothing follows the last end. -/
def lines : List Char → List (List Char)
  | [] => []
  | '\r' :: '\n' :: rest => [] :: lines rest
  | character :: rest =>
    if isLineBreak character then [] :: lines rest
    else match lines rest with
      | line :: others => (character :: line) :: others
      | [] => [[character]]

end CertWire.Text
