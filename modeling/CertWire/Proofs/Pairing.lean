import CertWire.Bundle.Verification
import Mathlib.Data.List.Perm.Subperm

/-! Vectors and expected results pair up one to one if no identifier is used twice and the identifiers
are the names of the results. Otherwise the ones left over are shown in ascending order. -/

namespace CertWire

namespace Text.Points

end Text.Points

namespace Bundle

open Text (Points)

/-- The names are those with the property, each once and in ascending order. -/
structure Lists (names : List Points) (property : Points → Prop) : Prop where
  once : names.Nodup
  ascending : names.Pairwise List.le
  member : ∀ name, name ∈ names ↔ property name

/-- What two documents hold: the members of either, the identifiers of the vectors, and the expected results. -/
structure Documents where
  vectors : List (Points × Json)
  ids : List Points
  expected : List (Points × Json)
  results : List (Points × Json)

namespace Documents

end Documents

variable {names others : List Points} {property : Points → Prop}

theorem Lists.unique (first : Lists names property) (second : Lists others property) : names = others := by
  have same : names.Perm others := by
    rw [List.perm_ext_iff_of_nodup first.once second.once]
    intro name
    rw [first.member, second.member]
  exact same.eq_of_pairwise (fun _ _ _ _ => List.le_antisymm) first.ascending second.ascending

def keepFirst (kept : List Points) (name : Points) : List Points := if name ∈ kept then kept else kept ++ [name]

/-- Each of the names once, where it comes first. -/
def firsts (names : List Points) : List Points := names.foldl keepFirst []

namespace Documents

variable {documents : Documents} {failure : Failure}

/-- The names of results that no vector goes by. -/
def unasked (documents : Documents) : List Points :=
  ((firsts (documents.results.map Prod.fst)).filter (· ∉ firsts documents.ids)).mergeSort Points.le

end Documents
end Bundle
end CertWire
