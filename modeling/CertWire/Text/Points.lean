/-! Text as a list of code points. Unlike `String`, it can hold a surrogate that stands
alone, which escapes in a document may name and arguments may contain. -/

namespace CertWire.Text

/-- Code points in reading order. Their lexicographic order is the order of texts. -/
abbrev Points := List Nat

namespace Points

def ofString (text : String) : Points := text.toList.map Char.toNat

instance : Coe String Points := ⟨ofString⟩

/-- Surrogates are no characters; in text they stand alone. -/
def isSurrogate (point : Nat) : Bool := 0xd800 ≤ point && point < 0xe000

/-- The text of the code points; a lone surrogate has no character and becomes NUL. -/
def toString (points : Points) : String := String.ofList (points.map Char.ofNat)

/-- Whether `left` comes before or at `right`. -/
def le : (left right : Points) → Bool
  | [], _ => true
  | _ :: _, [] => false
  | first :: left, second :: right => first < second || (first == second && le left right)

end Points
end CertWire.Text
