import CertWire.Text.CaseTable
import CertWire.Text.Points

/-! Text in capital and in small letters, by the full mappings of Unicode: one letter may
become several, and a capital sigma that ends a word gets the small final form. -/

namespace CertWire.Text

/-- One code point mapped by the expansions if they name it, else by the runs. -/
def mapCase (runs : List CaseRun) (expansions : List (Nat × List Nat)) (point : Nat) : Points :=
  match expansions.lookup point with
  | some points => points
  | none =>
    match runs.find? (·.covers point) with
    | some run => [(point + run.distance).toNat]
    | none => [point]

def upper (points : Points) : Points := points.flatMap (mapCase upperRuns upperExpansions)

def isCased (point : Nat) : Bool := casedRanges.any fun range => range.1 ≤ point && point ≤ range.2

def isCaseIgnorable (point : Nat) : Bool := caseIgnorableRanges.any fun range => range.1 ≤ point && point ≤ range.2

/-- Small letters after a context that ends in a cased letter, or does not. -/
def lowerAfter : (cased : Bool) → Points → Points
  | _, [] => []
  | cased, point :: rest =>
    let small :=
      if point = 'Σ'.toNat then
        let followed := (rest.find? (!isCaseIgnorable ·)).any isCased
        [if cased && !followed then 'ς'.toNat else 'σ'.toNat]
      else mapCase lowerRuns lowerExpansions point
    small ++ lowerAfter (if isCaseIgnorable point then cased else isCased point) rest

def lower (points : Points) : Points := lowerAfter false points

end CertWire.Text
