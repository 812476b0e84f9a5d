import CertWire.Bundle.Manifest
import CertWire.FileTree
import CertWire.Json.Printing
import CertWire.Json.Reading
import CertWire.Sha256
import CertWire.Text.Hex

/-! Verifying a bundle of conformance vectors. Every file in the manifest has to have the
digest it is entered with, the digest of the manifest itself is the anchor that is shown,
and vectors and expected results have to pair up one to one. -/

namespace CertWire.Bundle

/-- A bundle by what its names lead to. -/
abbrev Directory := String → Entry

/-- Why a bundle is not sound. -/
inductive Failure
  | noManifest
  | manifest (fault : ManifestFault)
  | missingFile (name : String)
  | digestMismatch (name got expected : String)
  | versionsDiffer
  | duplicateId
  | withoutResult (ids : List Json)
  | withoutVector (ids : List Json)

/-- Why a bundle cannot be judged at all. -/
inductive Obstacle
  | file (fault : OpenFault)
  /-- A file is not text in UTF-8. -/
  | notText
  | document (fault : Json.ReadingFault)
  /-- A document is not an object. -/
  | notAnObject
  | noMember (name : String)
  /-- A value is of the wrong type for its place, or cannot be told from others or ordered. -/
  | wrongType
  /-- The directory of the bundle is given as a separator. -/
  | noDirectory
deriving DecidableEq, Repr

/-- The judgement on a bundle: the anchor if it came to be shown, and what failed. -/
structure Verdict where
  anchor : Option Octets
  failure : Option Failure

def manifestName : String := "manifest.sha256"
def vectorsName : String := "conformance_vectors.json"
def expectedName : String := "conformance_expected.json"

/-- Whether something is there; a name that no file system keeps is an obstacle. -/
def isPresent : Entry → Except Obstacle Bool
  | .missing | .blocked => .ok false
  | .directory | .file _ => .ok true
  | .overlong => .error (.file .nameTooLong)

/-- The octets of an entry. -/
def contentOf : Entry → Except Obstacle Octets
  | .file content => .ok content
  | .missing => .error (.file .notFound)
  | .directory => .error (.file .isDirectory)
  | .blocked => .error (.file .notDirectory)
  | .overlong => .error (.file .nameTooLong)

/-- The characters that octets encode in UTF-8. -/
def textOf (content : Octets) : Except Obstacle (List Char) :=
  match String.fromUTF8? ⟨content.toArray⟩ with
  | some text => .ok text.toList
  | none => .error .notText

/-- The value of a JSON file. -/
def documentOf (entry : Entry) : Except Obstacle Json := do
  let text ← textOf (← contentOf entry)
  (Json.read (Text.normalizeNewlines text)).mapError .document

/-- The digest of octets in hexadecimal. -/
def digestText (content : Octets) : String := Text.Hex.encode (Sha256.digest content)

/-- The first entry whose file is missing or has another digest. -/
def checkEntries (directory : Directory) : List ManifestEntry → Except Obstacle (Option Failure)
  | [] => .ok none
  | entry :: rest => do
    let found := directory entry.name
    if !(← isPresent found) then return some (.missingFile entry.name)
    let got := digestText (← contentOf found)
    if got ≠ entry.digest then return some (.digestMismatch entry.name got entry.digest)
    checkEntries directory rest

def membersOf : Json → Except Obstacle (List (Text.Points × Json))
  | .object members => .ok members
  | _ => .error .notAnObject

def requireMember (members : List (Text.Points × Json)) (name : String) : Except Obstacle Json :=
  match Json.member? members name with
  | some value => .ok value
  | none => .error (.noMember name)

/-- What a value gives when it is gone through: the items of an array, the names of an
object, or the code points of text. -/
def elements : Json → Except Obstacle (List Json)
  | .array items => .ok items
  | .object members => .ok (members.map fun member => .string member.1)
  | .string points => .ok (points.map fun point => .string [point])
  | _ => .error .wrongType

/-- The identifier of one vector. -/
def idOf : Json → Except Obstacle Json
  | .object members => requireMember members "test_id"
  | _ => .error .wrongType

/-- Without repetitions; the first of equal values stays. Arrays and objects cannot be told
apart this way. -/
def distinct (values : List Json) : Except Obstacle (List Json) :=
  let canBeTold : Json → Bool
    | .array _ | .object _ => false
    | _ => true
  if values.all canBeTold then
    .ok (values.foldl (fun kept value => if kept.any (·.same value) then kept else kept ++ [value]) [])
  else .error .wrongType

def pointsOf? : Json → Option Text.Points
  | .string points => some points
  | _ => none

/-- In ascending order, which only texts among themselves and numbers among themselves have. -/
def sorted (values : List Json) : Except Obstacle (List Json) :=
  if values.length < 2 then .ok values
  else if values.all (pointsOf? · |>.isSome) then
    .ok (values.mergeSort fun left right => Text.Points.le ((pointsOf? left).getD []) ((pointsOf? right).getD []))
  else if values.all (·.magnitude?.isSome) then
    .ok (values.mergeSort fun left right =>
      Magnitude.le (left.magnitude?.getD .unordered) (right.magnitude?.getD .unordered))
  else .error .wrongType

/-- The values that are not among the others. -/
def without (values others : List Json) : List Json :=
  values.filter fun value => !others.any (·.same value)

def structureVersionOf (members : List (Text.Points × Json)) : Json :=
  (Json.member? members "structure_version").getD .null

/-- Whether vectors and expected results are of one version and pair up one to one. -/
def checkPairing (vectors expected : Json) : Except Obstacle (Option Failure) := do
  let vectors ← membersOf vectors
  let expected ← membersOf expected
  if !(structureVersionOf vectors).equal (structureVersionOf expected) then return some .versionsDiffer
  let ids ← (← elements (← requireMember vectors "vectors")).mapM idOf
  let distinctIds ← distinct ids
  if distinctIds.length ≠ ids.length then return some .duplicateId
  let results ← distinct (← elements (← requireMember expected "expected"))
  let withoutResult ← sorted (without distinctIds results)
  let withoutVector ← sorted (without results distinctIds)
  if !withoutResult.isEmpty then return some (.withoutResult withoutResult)
  if !withoutVector.isEmpty then return some (.withoutVector withoutVector)
  return none

/-- Judges a bundle: the manifest, its entries in order, and the pairing. -/
def verify (directory : Directory) : Except Obstacle Verdict := do
  let manifest := directory manifestName
  if !(← isPresent manifest) then return ⟨none, some .noManifest⟩
  let content ← contentOf manifest
  match parseManifest (← textOf content) with
  | .error fault => return ⟨none, some (.manifest fault)⟩
  | .ok entries =>
    match ← checkEntries directory entries with
    | some failure => return ⟨none, some failure⟩
    | none =>
      let vectors ← documentOf (directory vectorsName)
      let expected ← documentOf (directory expectedName)
      return ⟨some (Sha256.digest content), ← checkPairing vectors expected⟩

def ManifestFault.message : ManifestFault → String
  | badLine line => "bad manifest line: " ++ Text.quoted line
  | badDigest line => "bad sha256 in manifest line: " ++ Text.quoted line

def Failure.message : Failure → String
  | noManifest => "manifest.sha256 missing"
  | manifest fault => fault.message
  | missingFile name => s!"manifest references missing file: {name}"
  | digestMismatch name got expected => s!"hash mismatch for {name}: got {got} expected {expected}"
  | versionsDiffer => "structure_version differs between vectors and expected"
  | duplicateId => "duplicate test_id in conformance_vectors.json"
  | withoutResult ids => "vectors without expected results: " ++ (Json.array ids).shown
  | withoutVector ids => "expected results without vectors: " ++ (Json.array ids).shown

end CertWire.Bundle
