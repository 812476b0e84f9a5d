import CertWire.Bundle.Verification
import CertWire.CommandLine.Options
import CertWire.CommandLine.Outcome
import CertWire.CommandLine.Request

/-! The verifier as a program: its options, the directory it looks at, and what it prints. The verifier is kept
in a bundle, and that is the one it judges as long as no other directory is named. -/

namespace CertWire.Bundle
open CommandLine

def directoryOption : Declaration := ⟨["--dir"], true⟩
def rerunOption : Declaration := ⟨["--rerun"], false⟩

def program : Program where
  name := "verify_bundle.py"
  usage := textOfLines ["usage: verify_bundle.py [-h] [--dir DIR] [--rerun]"]
  details := textOfLines
    ["options:",
      "  -h, --help  show this help message and exit",
      "  --dir DIR   bundle directory",
      "  --rerun     re-run the Python conformance suite against the bundle"]

/-- The directory named last. Running the suite again is not part of the judgement. -/
def applyOption (directory : Setting Text.Points) (occurrence : Occurrence) :
    Except String (Setting Text.Points) :=
  if occurrence.declaration = directoryOption then .ok (.ofValue occurrence.value) else .ok directory

/-- Whether a segment of a path names something: an empty one and a dot do not. -/
def isName (segment : Octets) : Bool := segment ≠ [] ∧ segment ≠ dot

/-- Resolves dots in a path by its text alone, from a place. -/
def resolve (place : List Octets) (path : Octets) : List Octets :=
  ((pathSegments path).filter isName).foldl
    (fun place segment => if segment = dotDot then place.dropLast else place ++ [segment])
    (if isAbsolute path then [] else place)

/-- The path of a name in a directory, written from the root: an absolute name is a path of its
own. Empty segments and dots are left out of the name, but two slashes at its front stay two. -/
def pathOf (place : List Octets) (name : Octets) : Octets :=
  let segments := pathSegments name
  let root :=
    match segments with
    | [] :: [] :: (_ :: _) :: _ => [slash, slash]
    | _ => [slash]
  let named := segments.filter isName
  root ++ List.intercalate [slash] (if isAbsolute name then named else place ++ named)

/-- What a name in a bundle leads to; a name with a NUL leads nowhere. -/
def entryFrom (tree : FileTree) (place : List Octets) (name : String) : Entry :=
  let octets := Text.encodeString name
  if octets.contains 0 then .missing else tree.find [] (pathOf place octets)

/-- The octets of the path of a directory, unless a name in it is at fault. The names are gone
through in order, so that the first one at fault decides. -/
def directoryPath (path : Text.Points) : Except OpenFault Octets := do
  let names := path.splitBy fun left right => left ≠ '/'.toNat ∧ right ≠ '/'.toNat
  return (← names.mapM pathOctets).flatten

/-- What is printed for a verdict. -/
def outcomeOf (verdict : Verdict) : Outcome :=
  let anchor :=
    match verdict.anchor with
    | some digest => s!"bundle_anchor_sha256 = {Text.Hex.encode digest}\n"
    | none => ""
  match verdict.failure with
  | none => ⟨0, .ofString (anchor ++ "OK\n"), []⟩
  | some failure => ⟨2, anchor, [.message s!"FAIL: {failure.message}\n"]⟩

/-- A run of the verifier in a tree. The verifier itself is kept in the directory `home`, and judges that one
unless another is named. -/
def run (tree : FileTree) (arguments : List Text.Points) (home : Text.Points := ".") : Except Obstacle Outcome :=
  match settingsOf program [helpOption, directoryOption, rerunOption] false (.given home) applyOption arguments with
  | .error outcome => .ok outcome
  | .ok (directory, scan) =>
    if !scan.leftover.isEmpty then .ok (program.refuse (unrecognized scan.leftover))
    else
      match directory with
      | .given path => do
        let octets ← (directoryPath path).mapError .file
        outcomeOf <$> verify (entryFrom tree (resolve tree.workingDirectory octets))
      | _ => .error .noDirectory

end CertWire.Bundle
