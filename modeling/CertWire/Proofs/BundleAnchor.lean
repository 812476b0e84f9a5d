import CertWire.Proofs.BundleVerdict
import Mathlib.Data.List.Nodup

/-! What the anchor of a bundle pins. Two bundles that pass with the same anchor have the same manifest,
and every file that it lists is the same in both, as long as no digests collide. A file that the manifest does
not list may be any file, even if the judgement rests on it. -/

namespace CertWire.Bundle

open CommandLine
open Text (Points)

structure Passes (tree : FileTree) (arguments : List Points) (home : Points) (directory : Directory) (anchor : Octets) :
    Prop where
  asks : Asks tree arguments home directory
  passed : run tree arguments home = .ok ⟨0, .ofString (anchorLine anchor ++ "OK\n"), []⟩

/-- No file of the first has the digest of another file that the second has under its name. -/
def NoCollision (first second : Directory) : Prop :=
  ∀ name left right, first name = .file left → second name = .file right → Sha256.digest left = Sha256.digest right →
    left = right

variable {tree other : FileTree} {arguments others : List Points} {home away : Points} {directory elsewhere : Directory}
  {anchor content : Octets} {lines : List (List Char)} {entries : List ManifestEntry}

private theorem anchorLine_inj {left right : Octets} (same : anchorLine left = anchorLine right) : left = right := by
  unfold anchorLine at same
  rw [String.append_left_inj, String.append_right_inj] at same
  exact Text.Hex.encode_inj.mp same

private theorem exists_lines {shown : Option Octets} (passed : verify directory = .ok ⟨shown, none⟩) :
    ∃ content lines, HasManifest directory content lines := by
  obtain ⟨content, file⟩ | absent | ⟨fault, unopenable⟩ := entry_cases (directory manifestName)
  · cases decoded : textOf content with
    | ok text => exact ⟨content, _, file, text, decoded, rfl⟩
    | error obstacle =>
      rw [verify, file] at passed
      simp only [isPresent, contentOf, decoded, bind, Except.bind] at passed
      cases passed
  · rw [verify, isPresent_absent absent] at passed
    cases passed
  · cases (opening_fails unopenable _ _).symm.trans passed

/-- A judgement without a failure rests on a good manifest whose files are there, and shows its digest. -/
theorem exists_manifest {shown : Option Octets} (passed : verify directory = .ok ⟨shown, none⟩) :
    ∃ content lines entries, HasManifest directory content lines ∧ Entered lines entries ∧
      (∀ entry ∈ entries, Matches directory entry) ∧ shown = some (Sha256.digest content) := by
  obtain ⟨content, lines, manifest⟩ := exists_lines passed
  rw [verify_of_manifest manifest] at passed
  obtain ⟨entries, entered⟩ | ⟨fault, refused⟩ := lines_cases lines
  case inr =>
    rw [entriesOfLines_refused refused] at passed
    cases passed
  rw [entriesOfLines_entered entered] at passed
  dsimp only at passed
  obtain all | ⟨report, unmatched⟩ := entries_cases directory entries
  case inr =>
    rw [checkEntries_unmatched unmatched] at passed
    cases report <;> cases passed
  refine ⟨content, lines, entries, manifest, entered, all, ?_⟩
  rw [checkEntries_matching all] at passed
  obtain ⟨_, ⟨rfl⟩, passed⟩ := exists_of_bind passed
  obtain ⟨vectors, _, passed⟩ := exists_of_bind passed
  obtain ⟨expected, _, passed⟩ := exists_of_bind passed
  obtain ⟨judged, _, passed⟩ := exists_of_bind passed
  cases passed
  rfl

theorem verified_of_status (asks : Asks tree arguments home directory)
    (ended : (run tree arguments home).toOption.map Outcome.status = some 0) :
    ∃ shown, verify directory = .ok ⟨shown, none⟩ := by
  rw [run_of_asks asks] at ended
  cases judged : verify directory with
  | error obstacle =>
    rw [judged] at ended
    cases ended
  | ok verdict =>
    rw [judged] at ended
    obtain ⟨shown, failure⟩ := verdict
    cases failure with
    | some failure => cases ended
    | none => exact ⟨shown, rfl⟩

/-- A run with the status 0 shows the digest of the manifest. -/
theorem passes_of_status (asks : Asks tree arguments home directory) (file : directory manifestName = .file content)
    (ended : (run tree arguments home).toOption.map Outcome.status = some 0) :
    Passes tree arguments home directory (Sha256.digest content) := by
  obtain ⟨shown, judged⟩ := verified_of_status asks ended
  obtain ⟨content', _, _, manifest, _, _, rfl⟩ := exists_manifest judged
  cases file.symm.trans manifest.file
  exact ⟨asks, accepts_of_verify asks judged⟩

theorem Passes.exists_manifest (passes : Passes tree arguments home directory anchor) :
    ∃ content lines entries, HasManifest directory content lines ∧ Entered lines entries ∧
      (∀ entry ∈ entries, Matches directory entry) ∧ anchor = Sha256.digest content := by
  obtain ⟨asks, passed⟩ := passes
  obtain ⟨shown, judged⟩ := verified_of_status asks (by rw [passed]; rfl)
  obtain ⟨content, lines, entries, manifest, entered, all, rfl⟩ := Bundle.exists_manifest judged
  have output := congrArg Outcome.output (Except.ok.inj (passed.symm.trans (accepts_of_verify asks judged)))
  rw [Points.ofString_inj, String.append_left_inj] at output
  exact ⟨content, lines, entries, manifest, entered, all, anchorLine_inj output⟩

private theorem same_lines {lines' : List (List Char)} (first : HasManifest directory content lines)
    (second : HasManifest elsewhere content lines') : lines = lines' := by
  obtain ⟨_, text, decoded, rfl⟩ := first
  obtain ⟨_, text', decoded', rfl⟩ := second
  cases decoded.symm.trans decoded'
  rfl

private theorem same_file {entry : ManifestEntry} (unlike : NoCollision directory elsewhere)
    (here : Matches directory entry) (there : Matches elsewhere entry) :
    ∃ file, directory entry.name = .file file ∧ elsewhere entry.name = .file file := by
  obtain ⟨file, found, digest⟩ := here
  obtain ⟨file', found', digest'⟩ := there
  have same : file = file' :=
    unlike entry.name file file' found found' (Text.Hex.encode_inj.mp (digest.trans digest'.symm))
  exact ⟨file, found, same ▸ found'⟩

private theorem mem_of_entryAt {place : List Octets} (file : tree.entryAt place = .file content) :
    content ∈ tree.files.map Prod.snd := by
  unfold FileTree.entryAt at file
  split at file
  next found =>
    cases file
    obtain ⟨before, after, files, _⟩ := List.lookup_eq_some_iff.mp found
    simp [files]
  next =>
    dsimp only at file
    split at file <;> cases file

private theorem mem_of_follow {place : List Octets} {segments : List Octets}
    (file : tree.follow place segments = .file content) : content ∈ tree.files.map Prod.snd := by
  induction segments generalizing place with
  | nil => exact mem_of_entryAt file
  | cons segment rest ih =>
    rw [FileTree.follow] at file
    split at file
    next =>
      split at file
      next => exact ih file
      next =>
        split at file
        next => exact ih file
        next =>
          split at file
          next => cases file
          next => exact ih file
    next => cases file
    next => exact mem_of_entryAt file

private theorem mem_of_entryFrom {place : List Octets} {name : String}
    (file : entryFrom tree place name = .file content) : content ∈ tree.files.map Prod.snd := by
  unfold entryFrom at file
  dsimp only at file
  split at file
  next => cases file
  next =>
    unfold FileTree.find at file
    split at file
    next => cases file
    next => exact mem_of_follow file

private theorem noCollision_of_files {place elsewhere : List Octets}
    (unlike : ∀ left ∈ tree.files.map Prod.snd, ∀ right ∈ other.files.map Prod.snd,
      Sha256.digest left = Sha256.digest right → left = right) :
    NoCollision (entryFrom tree place) (entryFrom other elsewhere) := by
  intro name left right here there
  exact unlike left (mem_of_entryFrom here) right (mem_of_entryFrom there)

/-- Two bundles that pass with the same anchor have the same manifest, and every file that it lists is the
same in both. So are the two documents, wherever a line of the manifest leads to them. -/
theorem anchor_pins_listed (first : Passes tree arguments home directory anchor)
    (second : Passes other others away elsewhere anchor) (unlike : NoCollision directory elsewhere) :
    ∃ content lines entries, HasManifest directory content lines ∧ HasManifest elsewhere content lines ∧
      Entered lines entries ∧
      (∀ entry ∈ entries, ∃ file, directory entry.name = .file file ∧ elsewhere entry.name = .file file) ∧
      ∀ name ∈ [vectorsName, expectedName],
        (∃ entry ∈ entries, directory entry.name = directory name ∧ elsewhere entry.name = elsewhere name) →
          ∃ file, directory name = .file file ∧ elsewhere name = .file file := by
  obtain ⟨content, lines, entries, manifest, entered, here, shown⟩ := first.exists_manifest
  obtain ⟨content', lines', entries', manifest', entered', there, shown'⟩ := second.exists_manifest
  -- The anchor is the digest of both manifests, so that both list the same entries.
  obtain rfl : content = content' :=
    unlike manifestName _ _ manifest.file manifest'.file (shown.symm.trans shown')
  obtain rfl := same_lines manifest manifest'
  obtain rfl := Except.ok.inj ((entriesOfLines_entered entered).symm.trans (entriesOfLines_entered entered'))
  have listed : ∀ entry ∈ entries, ∃ file, directory entry.name = .file file ∧ elsewhere entry.name = .file file :=
    fun entry member => same_file unlike (here entry member) (there entry member)
  refine ⟨content, lines, entries, manifest, manifest', entered, listed, ?_⟩
  rintro name - ⟨entry, member, leads, leads'⟩
  rw [← leads, ← leads']
  exact listed entry member

/-- A manifest that lists the vectors only, with other results beside them. -/
theorem anchor_pins_listed_vectors :
    let vectors : Json := .object [("vectors", .array [.object [("test_id", .text "a")]])]
    let entry : ManifestEntry := ⟨"05af42e42f92a90bde3c335221f6d7761bfaa1999b8c5ab9c92f186961c0d9ca", vectorsName⟩
    let manifest := entry.digest ++ "  " ++ entry.name ++ "\n"
    let first := bundleTree manifest vectors (.object [("expected", .object [("a", .null)])])
    let second := bundleTree manifest vectors (.object [("expected", .object [("a", .boolean true)])])
    let anchor := Sha256.digest (Text.encodeString manifest)
    Passes first ["--dir", "."] "/first" (entryFrom first []) anchor ∧
      Passes second ["--dir", "."] "/second" (entryFrom second []) anchor ∧
      NoCollision (entryFrom first []) (entryFrom second []) ∧
      ∃ file, entryFrom first [] vectorsName = .file file ∧ entryFrom second [] vectorsName = .file file := by
  intro vectors entry manifest first second anchor
  have firstPasses : Passes first ["--dir", "."] "/first" (entryFrom first []) anchor :=
    passes_of_status (asks_here rfl) (by decide +kernel) (by decide +kernel)
  have secondPasses : Passes second ["--dir", "."] "/second" (entryFrom second []) anchor :=
    passes_of_status (asks_here rfl) (by decide +kernel) (by decide +kernel)
  have unlike : NoCollision (entryFrom first []) (entryFrom second []) := noCollision_of_files (by decide +kernel)
  refine ⟨firstPasses, secondPasses, unlike, ?_⟩
  obtain ⟨content, lines, entries, listing, _, entered, _, pinned⟩ := anchor_pins_listed firstPasses secondPasses unlike
  apply pinned vectorsName (by simp)
  refine ⟨entry, ?_, rfl, rfl⟩
  have file : entryFrom first [] manifestName = .file (Text.encodeString manifest) := by decide +kernel
  cases file.symm.trans listing.file
  obtain rfl := same_lines ⟨file, _, textOf_encodeString manifest, rfl⟩ listing
  have read : entriesOfLines (Text.lines (Text.normalizeNewlines manifest.toList)) = .ok [entry] := by decide +kernel
  cases read.symm.trans (entriesOfLines_entered entered)
  exact List.mem_cons_self

/-- With no manifest entries, nothing of the documents is pinned, although all that is there has digests of its own. -/
theorem anchor_leaves_unlisted :
    let first := bundleTree "" (.object [("vectors", .array [])]) (.object [("expected", .object [])])
    let second := bundleTree "" (.object [("vectors", .array [.object [("test_id", .text "a")]])])
      (.object [("expected", .object [("a", .null)])])
    let strings := (first.files ++ second.files).map Prod.snd
    ∃ anchor, Passes first ["--dir", "."] "/first" (entryFrom first []) anchor ∧
      Passes second ["--dir", "."] "/second" (entryFrom second []) anchor ∧
      (∀ left ∈ strings, ∀ right ∈ strings, Sha256.digest left = Sha256.digest right → left = right) ∧
      entryFrom first [] vectorsName ≠ entryFrom second [] vectorsName ∧
      entryFrom first [] expectedName ≠ entryFrom second [] expectedName := by
  intro first second strings
  have firstPasses : Passes first ["--dir", "."] "/first" (entryFrom first []) (Sha256.digest []) :=
    passes_of_status (asks_here rfl) (by decide +kernel) (by decide +kernel)
  have secondPasses : Passes second ["--dir", "."] "/second" (entryFrom second []) (Sha256.digest []) :=
    passes_of_status (asks_here rfl) (by decide +kernel) (by decide +kernel)
  refine ⟨_, firstPasses, secondPasses, ?_, ?_, ?_⟩
  · decide +kernel
  · decide +kernel
  · decide +kernel

end CertWire.Bundle
