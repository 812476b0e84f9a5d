import CertWire.Bundle.Program
import CertWire.Proofs.Documents
import CertWire.Proofs.ListedFiles
import CertWire.Proofs.ManifestLines
import CertWire.Proofs.Pairing
import CertWire.Proofs.WrittenOptions

/-! The verdict on a bundle. It is accepted exactly if it is sound, and otherwise the report is about
the first thing that is wrong with it: the manifest, its lines, the files it lists, the pairing. -/

namespace CertWire.Bundle

open CommandLine
open Text (Points)

/-- The manifest is a file of that content, and text of those lines. -/
structure HasManifest (directory : Directory) (content : Octets) (lines : List (List Char)) : Prop where
  file : directory manifestName = .file content
  text : ∃ text, textOf content = .ok text ∧ Text.lines (Text.normalizeNewlines text) = lines

/-- The run asks for the verdict on the directory, and for nothing besides. -/
inductive Asks (tree : FileTree) (arguments : List Points) (home : Points) : Directory → Prop
  | verdict {path : Points} {scan : Scan} {octets : Octets}
      (settled : settingsOf program [helpOption, directoryOption, rerunOption] false (.given home) applyOption arguments =
        .ok (.given path, scan))
      (complete : scan.leftover = []) (once : ∀ occurrence ∈ scan.occurrences, occurrence.declaration ≠ rerunOption)
      (named : directoryPath path = .ok octets) :
      Asks tree arguments home (entryFrom tree (resolve tree.workingDirectory octets))

variable {tree : FileTree} {arguments : List Points} {home : Points} {directory : Directory} {documents : Documents}
  {content : Octets} {lines : List (List Char)} {entries : List ManifestEntry} {report : Except Obstacle Failure}

theorem verify_of_manifest (manifest : HasManifest directory content lines) :
    verify directory =
      match entriesOfLines lines with
      | .error fault => .ok ⟨none, some (.manifest fault)⟩
      | .ok entries => do
        match ← checkEntries directory entries with
        | some failure => return ⟨none, some failure⟩
        | none =>
          let vectors ← documentOf (directory vectorsName)
          let expected ← documentOf (directory expectedName)
          return ⟨some (Sha256.digest content), ← checkPairing vectors expected⟩ := by
  obtain ⟨file, text, decoded, rfl⟩ := manifest
  rw [verify, file]
  simp only [isPresent, contentOf, decoded, parseManifest, bind, Except.bind]
  rfl

theorem run_of_asks (asks : Asks tree arguments home directory) :
    run tree arguments home = outcomeOf <$> verify directory := by
  obtain ⟨settled, complete, once, named⟩ := asks
  simp only [run, settled, complete, named]
  rfl

private theorem foldlM_applyOption (paths : List Points) (home : Points) :
    (paths.map fun path => ⟨directoryOption, some path⟩).foldlM applyOption (.given home) =
      .ok (.given (paths.getLast?.getD home)) := by
  induction paths generalizing home with
  | nil => rfl
  | cons path rest ih =>
    rw [List.getLast?_cons, Option.getD_some]
    exact ih path

/-- The directory that is named last is judged, and the verifier's own if none is. -/
theorem asks_named {paths : List Points} {octets : Octets} (undashed : ∀ path ∈ paths, path.head? ≠ some dash)
    (named : directoryPath (paths.getLast?.getD home) = .ok octets) :
    Asks tree (paths.flatMap fun path => ["--dir", path]) home
      (entryFrom tree (resolve tree.workingDirectory octets)) := by
  let occurrences : List Occurrence := paths.map fun path => ⟨directoryOption, some path⟩
  have unlike : Points.ofString "--dir" ≠ separatorText := by decide
  have name : classify [helpOption, directoryOption, rerunOption] "--dir" =
      .ok (.option "--dir" (some ⟨directoryOption, "--dir", none⟩)) := by decide
  have helpless : directoryOption ≠ helpOption := by decide
  have once : directoryOption ≠ rerunOption := by decide
  have plain : ∀ occurrence ∈ occurrences, Plain [helpOption, directoryOption, rerunOption] occurrence := by
    rw [List.forall_mem_map]
    intro path member
    refine ⟨unlike, name, rfl, ?_⟩
    rintro value ⟨rfl⟩
    exact isWord_of_undashed (undashed path member)
  have settled : settingsOf program [helpOption, directoryOption, rerunOption] false (.given home) applyOption
      (occurrences.flatMap Occurrence.written) =
        .ok (.given (paths.getLast?.getD home), { Scan.nothing with occurrences }) :=
    settingsOf_written plain (List.forall_mem_map.mpr fun _ _ => helpless) (foldlM_applyOption paths home)
  rw [List.flatMap_map] at settled
  exact .verdict settled rfl (List.forall_mem_map.mpr fun _ _ => once) named

/-- The line that shows the digest of the manifest. -/
def anchorLine (digest : Octets) : String := "bundle_anchor_sha256 = " ++ Text.Hex.encode digest ++ "\n"

theorem accepts_of_verify {digest : Octets} (asks : Asks tree arguments home directory)
    (judged : verify directory = .ok ⟨some digest, none⟩) :
    run tree arguments home = .ok ⟨0, .ofString (anchorLine digest ++ "OK\n"), []⟩ := by
  rw [run_of_asks asks, judged]
  rfl

/-- A root directory, worked in, with a manifest and two documents. -/
def bundleTree (manifest : String) (vectors expected : Json) : FileTree where
  files := [([Text.encodeString manifestName], Text.encodeString manifest),
    ([Text.encodeString vectorsName], Text.encodeString (vectors.document ++ "\n")),
    ([Text.encodeString expectedName], Text.encodeString (expected.document ++ "\n"))]
  directories := []
  workingDirectory := []

theorem asks_here (root : tree.workingDirectory = []) : Asks tree ["--dir", "."] home (entryFrom tree []) := by
  have here : resolve tree.workingDirectory dot = [] := by
    rw [root]
    decide
  have named : directoryPath "." = .ok dot := by decide
  rw [← here]
  exact asks_named (List.forall_mem_singleton.mpr (by decide)) named

theorem textOf_encodeString (text : String) : textOf (Text.encodeString text) = .ok text.toList := by
  have back : String.fromUTF8? ⟨(Text.encodeString text).toArray⟩ = some text := dif_pos text.isValidUTF8
  rw [textOf, back]

end CertWire.Bundle
