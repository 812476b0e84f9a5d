import CertWire.Text.Blank
import CertWire.Text.CaseMapping
import CertWire.Text.Lines

/-! The manifest of a bundle: on each line the SHA-256 digest of a file and its name. Blank
lines and lines that begin with a number sign say nothing. -/

namespace CertWire.Bundle

structure ManifestEntry where
  /-- The digest in hexadecimal, in small letters. -/
  digest : String
  name : String
deriving DecidableEq, Repr

/-- Why a manifest is refused. The line is given without the white space around it. -/
inductive ManifestFault
  | badLine (line : String)
  | badDigest (line : String)
deriving DecidableEq, Repr

/-- The length of a SHA-256 digest in hexadecimal. -/
def digestLength : Nat := 64

/-- What a line enters, if anything: two fields, the first as long as a digest. -/
def entryOfLine (line : List Char) : Except ManifestFault (Option ManifestEntry) :=
  let content := Text.strip line
  if content.isEmpty || content.head? == some '#' then .ok none
  else
    match Text.fields content with
    | [digest, name] =>
      if digest.length = digestLength then .ok (some ⟨(Text.lower (digest.map Char.toNat)).toString, .ofList name⟩)
      else .error (.badDigest (.ofList content))
    | _ => .error (.badLine (.ofList content))

/-- The entries of lines, in order, up to the first line that is refused. -/
def entriesOfLines : List (List Char) → Except ManifestFault (List ManifestEntry)
  | [] => .ok []
  | line :: rest => do
    let entry ← entryOfLine line
    let others ← entriesOfLines rest
    return entry.toList ++ others

/-- The entries of a manifest. -/
def parseManifest (text : List Char) : Except ManifestFault (List ManifestEntry) :=
  entriesOfLines (Text.lines (Text.normalizeNewlines text))

end CertWire.Bundle
