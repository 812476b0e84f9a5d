import CertWire.Text.Encoding

/-! A tree of files and directories without links, and how a written path leads through it
from a working directory. Names are octets; a path is written as text. -/

namespace CertWire

/-- What a path leads to. -/
inductive Entry
  | missing
  | directory
  | file (content : Octets)
  /-- A name on the way is longer than any file system keeps. -/
  | overlong
  /-- A file is used as a directory on the way. -/
  | blocked
deriving DecidableEq, Repr

/-- Why a file cannot be opened. -/
inductive OpenFault
  | notFound
  | isDirectory
  | notDirectory
  | nameTooLong
  /-- The name holds a NUL, so that it is not even looked up. -/
  | embeddedNul
  /-- The name cannot be written in octets. -/
  | unencodable (fault : Text.EncodingFault)
deriving DecidableEq, Repr

namespace OpenFault

/-- Whether the name alone is at fault, whatever the files are. -/
def isOfName : OpenFault → Bool
  | embeddedNul | unencodable _ => true
  | _ => false

/-- The message of the system, with its number for the fault and the path in quotes. -/
def message (fault : OpenFault) (path : Text.Points) : String :=
  match fault with
  | notFound => "[Errno 2] No such file or directory: " ++ Text.quotedPoints path
  | isDirectory => "[Errno 21] Is a directory: " ++ Text.quotedPoints path
  | notDirectory => "[Errno 20] Not a directory: " ++ Text.quotedPoints path
  | nameTooLong => "[Errno 36] File name too long: " ++ Text.quotedPoints path
  | embeddedNul => "embedded null byte"
  | unencodable fault => fault.message

end OpenFault

structure FileTree where
  /-- Files by the names on the way from the root. -/
  files : List (List Octets × Octets)
  /-- Directories that need not hold a file. -/
  directories : List (List Octets)
  workingDirectory : List Octets

def slash : UInt8 := 0x2f

/-- The name by which every directory knows itself. -/
def dot : Octets := [0x2e]

/-- The name by which every directory knows the one above. -/
def dotDot : Octets := [0x2e, 0x2e]

/-- The names between the slashes of a path. -/
def pathSegments : Octets → List Octets
  | [] => [[]]
  | octet :: rest =>
    if octet = slash then [] :: pathSegments rest
    else
      match pathSegments rest with
      | first :: others => (octet :: first) :: others
      | [] => [[octet]]

def isAbsolute (path : Octets) : Bool := path.head? = some slash

/-- The octets of a written path, which are free of NUL. -/
def pathOctets (path : Text.Points) : Except OpenFault Octets := do
  let octets ← (Text.encode path).mapError .unencodable
  if octets.contains 0 then throw .embeddedNul else return octets

namespace FileTree

/-- The entry at a place given by the names on the way from the root. -/
def entryAt (tree : FileTree) (place : List Octets) : Entry :=
  match tree.files.lookup place with
  | some content => .file content
  | none =>
    let holds (deeper : List Octets) := place.isPrefixOf deeper
    if holds tree.workingDirectory || tree.directories.any holds || tree.files.any fun file => holds file.1 then
      .directory
    else .missing

/-- Follows segments from a place. Every place passed has to be a directory, also where an
empty segment or a dot stays there. -/
def follow (tree : FileTree) (place : List Octets) : List Octets → Entry
  | [] => tree.entryAt place
  | segment :: rest =>
    match tree.entryAt place with
    | .directory =>
      if segment = [] ∨ segment = dot then tree.follow place rest
      else if segment = dotDot then tree.follow place.dropLast rest
      else if 255 < segment.length then .overlong
      else tree.follow (place ++ [segment]) rest
    | .file _ => .blocked
    | other => other

/-- What a path leads to from a place, or from the root if it is absolute. -/
def find (tree : FileTree) (start : List Octets) (path : Octets) : Entry :=
  if 4096 ≤ path.length then .overlong
  else tree.follow (if isAbsolute path then [] else start) (pathSegments path)

/-- The content of the file of that name. -/
def openFile (tree : FileTree) (path : Text.Points) : Except OpenFault Octets := do
  let octets ← pathOctets path
  if octets = [] then throw .notFound
  match tree.find tree.workingDirectory octets with
  | .missing => throw .notFound
  | .directory => throw .isDirectory
  | .file content => return content
  | .overlong => throw .nameTooLong
  | .blocked => throw .notDirectory

end FileTree
end CertWire
