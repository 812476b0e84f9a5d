import CertWire.Proofs.ManifestLines
import CertWire.Proofs.TextLines
import Mathlib.Data.Bool.AllAny

/-! Manifests as they are written. A text that sets out entries line by line, among blank lines and remarks,
with any white space and any line breaks, is read as these entries. Texts put one below the other
are read one after the other. -/

namespace CertWire.Bundle

open Text (isBlank isLineBreak IsWord LineEnd)

def hexDigits : List Char := "0123456789abcdefABCDEF".toList

/-- An entry as it is written. The letters of its digest may be of either case. -/
structure Listing where
  digest : List Char
  name : List Char
  hexadecimal : ∀ character ∈ digest, character ∈ hexDigits
  whole : digest.length = digestLength
  isWord : IsWord name

/-- The entry meant: its digest in small letters. -/
def Listing.entry (listing : Listing) : ManifestEntry :=
  ⟨.ofList (listing.digest.map Char.toLower), .ofList listing.name⟩

/-- White space within a line. -/
def Gap (text : List Char) : Prop := ∀ character ∈ text, isBlank character = true ∧ isLineBreak character = false

instance (text : List Char) : Decidable (Gap text) :=
  decidable_of_iff (text.all fun character => isBlank character && !isLineBreak character) (by simp [Gap])

/-- A line that is blank, one that is a remark, or one that sets out an entry. -/
inductive Line : List Char → Option Listing → Prop
  | blank {gap : List Char} (white : Gap gap) : Line gap none
  | remark {gap text : List Char} (white : Gap gap) (unbroken : ∀ character ∈ text, isLineBreak character = false) :
      Line (gap ++ '#' :: text) none
  | entry {before gap after : List Char} (whiteBefore : Gap before) (listing : Listing) (white : Gap gap)
      (apart : gap ≠ []) (whiteAfter : Gap after) :
      Line (before ++ (listing.digest ++ gap ++ listing.name) ++ after) (some listing)

/-- Lines, each ended by a break, but for the last one. -/
inductive Written : List Char → List Listing → Prop
  | last {line : List Char} {listing : Option Listing} (final : Line line listing) : Written line listing.toList
  | line {line lineEnd text : List Char} {listing : Option Listing} {others : List Listing} (first : Line line listing)
      (ends : LineEnd lineEnd) (rest : Written text others) : Written (line ++ lineEnd ++ text) (listing.toList ++ others)

variable {line text before after : List Char} {listing : Option Listing} {listings : List Listing}
  {entries : List ManifestEntry}

/-- The entries of two readings, if neither is refused. -/
def joined (first second : Except ManifestFault (List ManifestEntry)) : Except ManifestFault (List ManifestEntry) := do
  let entries ← first
  let others ← second
  return entries ++ others

variable {first second third : Except ManifestFault (List ManifestEntry)}

private theorem joined_empty_left : joined (.ok []) second = second := by
  cases second <;> rfl

private theorem joined_empty_right : joined first (.ok []) = first := by
  cases first with
  | error fault => rfl
  | ok entries => exact congrArg Except.ok (List.append_nil entries)

private theorem joined_assoc : joined (joined first second) third = joined first (joined second third) := by
  cases first with
  | error fault => rfl
  | ok entries =>
    cases second with
    | error fault => rfl
    | ok others =>
      cases third with
      | error fault => rfl
      | ok more => exact congrArg Except.ok (List.append_assoc entries others more)

private theorem joined_eq_ok_iff :
    joined first second = .ok entries ↔
      ∃ left right, first = .ok left ∧ second = .ok right ∧ entries = left ++ right := by
  cases first with
  | error fault => exact iff_of_false (fun read => by cases read) (fun ⟨_, _, read, _⟩ => by cases read)
  | ok left =>
    cases second with
    | error fault => exact iff_of_false (fun read => by cases read) (fun ⟨_, _, _, read, _⟩ => by cases read)
    | ok right =>
      constructor
      · rintro ⟨⟩
        exact ⟨left, right, rfl, rfl, rfl⟩
      · rintro ⟨_, _, ⟨⟩, ⟨⟩, rfl⟩
        rfl

private theorem entriesOfLines_cons (line : List Char) (lines : List (List Char)) :
    entriesOfLines (line :: lines) = joined ((entryOfLine line).map Option.toList) (entriesOfLines lines) := by
  rw [entriesOfLines]
  cases entryOfLine line <;> rfl

private theorem entriesOfLines_append (lines others : List (List Char)) :
    entriesOfLines (lines ++ others) = joined (entriesOfLines lines) (entriesOfLines others) := by
  induction lines with
  | nil => exact joined_empty_left.symm
  | cons line rest ih => rw [List.cons_append, entriesOfLines_cons, entriesOfLines_cons, ih, joined_assoc]

private theorem entriesOfLines_empty_line (lines : List (List Char)) :
    entriesOfLines ([] :: lines) = entriesOfLines lines := by
  rw [entriesOfLines_cons, entryOfLine_silent (.inl rfl)]
  exact joined_empty_left

private theorem entries_of_break {character : Char} (breaks : isLineBreak character = true) (other : character ≠ '\r')
    (clean : '\r' ∉ before) (after : List Char) :
    entriesOfLines (Text.lines (before ++ character :: after)) =
      joined (entriesOfLines (Text.lines before)) (entriesOfLines (Text.lines after)) := by
  rcases Text.lines_append_break breaks other clean after with same | same
  · rw [same, entriesOfLines_append]
  · rw [same, entriesOfLines_append, entriesOfLines_empty_line]

/-- A manifest is read as what is before a break, and then as what is after it. -/
theorem parseManifest_append {lineEnd : List Char} (ends : LineEnd lineEnd) (before after : List Char) :
    parseManifest (before ++ lineEnd ++ after) = joined (parseManifest before) (parseManifest after) := by
  obtain ⟨left, character, right, parted⟩ := Text.exists_parted ends before after
  have feed : isLineBreak '\n' = true ∧ '\n' ≠ '\r' := by decide
  have clean : '\r' ∉ left := by
    have none := Text.return_not_mem_normalizeNewlines (before ++ lineEnd ++ after)
    rw [parted.whole, List.mem_append, not_or] at none
    exact none.1
  have first : parseManifest before = entriesOfLines (Text.lines left) := by
    rcases parted.first with same | same
    · rw [parseManifest, same]
    · rw [parseManifest, same, entries_of_break feed.1 feed.2 clean]
      exact joined_empty_right
  have second : parseManifest after = entriesOfLines (Text.lines right) := by
    rcases parted.second with same | same
    · rw [parseManifest, same]
    · rw [parseManifest, same, Text.lines_cons_break feed.1 feed.2, entriesOfLines_empty_line]
  rw [parseManifest, parted.whole, entries_of_break parted.breaks parted.other clean, first, second]

private theorem parseManifest_of_unbroken (unbroken : ∀ character ∈ line, isLineBreak character = false) :
    parseManifest line = (entryOfLine line).map Option.toList := by
  have clean : '\r' ∉ line := by
    intro member
    cases unbroken _ member
  rw [parseManifest, Text.normalizeNewlines_eq_self clean, Text.lines_of_unbroken unbroken]
  split
  next empty =>
    rw [empty, entryOfLine_silent (.inl rfl)]
    rfl
  next =>
    rw [entriesOfLines_cons]
    exact joined_empty_right

theorem Gap.blank (white : Gap text) : ∀ character ∈ text, isBlank character = true :=
  fun character member => (white character member).1

private theorem hexDigit_facts : ∀ character ∈ hexDigits, isBlank character = false ∧ character ≠ '#' ∧
    character.toNat ≠ 'Σ'.toNat ∧
      Text.mapCase Text.lowerRuns Text.lowerExpansions character.toNat = [character.toLower.toNat] := by
  -- Through the list, not through all characters.
  refine List.all_iff_forall_prop.mp ?_
  decide +kernel

theorem Listing.digest_isWord (listing : Listing) : IsWord listing.digest where
  occupied := by
    intro none
    have whole := listing.whole
    rw [none] at whole
    cases whole
  solid := fun character member => (hexDigit_facts character (listing.hexadecimal character member)).1

private theorem unbroken_of_isWord {word : List Char} (isWord : IsWord word) :
    ∀ character ∈ word, isLineBreak character = false := by
  intro character member
  apply Bool.eq_false_iff.mpr
  intro breaks
  cases (Text.isBlank_of_isLineBreak breaks).symm.trans (isWord.solid character member)

theorem Line.unbroken (written : Line line listing) : ∀ character ∈ line, isLineBreak character = false := by
  have gap {text : List Char} (white : Gap text) : ∀ character ∈ text, isLineBreak character = false :=
    fun character member => (white character member).2
  cases written with
  | blank white => exact gap white
  | remark white unbroken =>
    exact List.forall_mem_append.mpr ⟨gap white, List.forall_mem_cons.mpr ⟨by decide, unbroken⟩⟩
  | entry whiteBefore listing white apart whiteAfter =>
    have first := unbroken_of_isWord listing.digest_isWord
    have last := unbroken_of_isWord listing.isWord
    simp only [List.forall_mem_append]
    exact ⟨⟨gap whiteBefore, ⟨first, gap white⟩, last⟩, gap whiteAfter⟩

private theorem lower_hexDigits {digits : List Char} (hexadecimal : ∀ character ∈ digits, character ∈ hexDigits) :
    (Text.lower (digits.map Char.toNat)).toString = .ofList (digits.map Char.toLower) := by
  have points (cased : Bool) : Text.lowerAfter cased (digits.map Char.toNat) = digits.map (Char.toNat ∘ Char.toLower) := by
    induction digits generalizing cased with
    | nil => rfl
    | cons digit rest ih =>
      obtain ⟨known, others⟩ := List.forall_mem_cons.mp hexadecimal
      obtain ⟨_, _, noSigma, small⟩ := hexDigit_facts digit known
      rw [List.map_cons, Text.lowerAfter, if_neg noSigma, small, ih others]
      rfl
  rw [Text.lower, points, Text.Points.toString, List.map_map]
  congr 2
  funext character
  exact Char.ofNat_toNat character.toLower

private theorem fields_of_listing {gap : List Char} (listing : Listing) (white : Gap gap) (apart : gap ≠ []) :
    Text.fields (listing.digest ++ gap ++ listing.name) = [listing.digest, listing.name] := by
  have ended : ∀ character ∈ (gap ++ listing.name).head?, isBlank character = true := by
    obtain ⟨first, others, rfl⟩ := List.exists_cons_of_ne_nil apart
    rintro _ ⟨⟩
    exact white.blank first List.mem_cons_self
  have digest : Text.fields ([] ++ listing.digest ++ (gap ++ listing.name)) = _ :=
    Text.fields_word (by simp) listing.digest_isWord ended
  have name : Text.fields (gap ++ listing.name ++ []) = _ := Text.fields_word white.blank listing.isWord (by simp)
  have none : Text.fields [] = [] := Text.fields_blank (by simp)
  rw [List.nil_append] at digest
  rw [List.append_nil, none] at name
  rw [List.append_assoc, digest, name]

private theorem enters_of_listing {gap : List Char} (whiteBefore : Gap before) (listing : Listing) (white : Gap gap)
    (apart : gap ≠ []) (whiteAfter : Gap after) :
    Enters (before ++ (listing.digest ++ gap ++ listing.name) ++ after) listing.entry := by
  have stripped : Text.strip (before ++ (listing.digest ++ gap ++ listing.name) ++ after) = _ :=
    Text.strip_words whiteBefore.blank listing.digest_isWord listing.isWord whiteAfter.blank
  have speaks : ¬ Silent (before ++ (listing.digest ++ gap ++ listing.name) ++ after) := by
    obtain ⟨first, others, digest⟩ := List.exists_cons_of_ne_nil listing.digest_isWord.occupied
    have known : first ∈ hexDigits := listing.hexadecimal first (by simp [digest])
    rw [Silent, stripped, digest]
    rintro (none | remark)
    · cases none
    · exact (hexDigit_facts first known).2.1 (Option.some.inj remark)
  have two := fields_of_listing listing white apart
  rw [← stripped] at two
  have enters := Enters.fields speaks two listing.whole
  rwa [lower_hexDigits listing.hexadecimal] at enters

private theorem entryOfLine_of_line (written : Line line listing) :
    entryOfLine line = .ok (listing.map Listing.entry) := by
  cases written with
  | blank white => exact entryOfLine_silent (.inl (Text.strip_blank white.blank))
  | remark white unbroken => exact entryOfLine_silent (.inr (Text.head?_strip white.blank (by decide) _))
  | entry whiteBefore listing white apart whiteAfter =>
    exact entryOfLine_enters (enters_of_listing whiteBefore listing white apart whiteAfter)

private theorem parseManifest_of_line (written : Line line listing) :
    parseManifest line = .ok (listing.toList.map Listing.entry) := by
  rw [parseManifest_of_unbroken written.unbroken, entryOfLine_of_line written]
  cases listing <;> rfl

private theorem parseManifest_of_written (written : Written text listings) :
    parseManifest text = .ok (listings.map Listing.entry) := by
  induction written with
  | last final => exact parseManifest_of_line final
  | line first ends rest ih =>
    rw [parseManifest_append ends, parseManifest_of_line first, ih, List.map_append]
    rfl

/-- A manifest is read as the entries that are written in it, in order, whatever white space, line breaks,
blank lines and remarks stand around them. Of two texts with a line feed between, the entries are those
of the one and then those of the other, and it is refused if one of them is. -/
theorem written_entries_are_recovered :
    (∀ {text listings}, Written text listings → parseManifest text = .ok (listings.map Listing.entry)) ∧
    ∀ before after entries, parseManifest (before ++ '\n' :: after) = .ok entries ↔
      ∃ first second, parseManifest before = .ok first ∧ parseManifest after = .ok second ∧ entries = first ++ second := by
  refine ⟨parseManifest_of_written, ?_⟩
  intro before after entries
  have parts := parseManifest_append (.single (show isLineBreak '\n' = true by decide)) before after
  rw [List.append_assoc, List.singleton_append] at parts
  rw [parts, joined_eq_ok_iff]

/-- A remark that a carriage return ends, so that the empty line below it is lost in a pair, and two entries
with letters of both cases, the first of which a line separator ends. -/
theorem written_entries_are_recovered_below_remark :
    let digest : List Char := (List.replicate 32 ['A', 'b']).flatten
    let small : String := .ofList (List.replicate 32 ['a', 'b']).flatten
    let text := [' ', '#', '\r', '\n', '\t'] ++ digest ++ [' ', '\xa0', 'v', '#', '\u2028'] ++ digest ++ ['\t', 'w']
    ∃ first second : Listing, first.digest = digest ∧ second.digest = digest ∧ Written text [first, second] ∧
      parseManifest text = .ok [⟨small, "v#"⟩, ⟨small, "w"⟩] := by
  intro digest small text
  have hexadecimal : ∀ character ∈ digest, character ∈ hexDigits := List.all_iff_forall_prop.mp (by decide +kernel)
  let first : Listing := ⟨digest, ['v', '#'], hexadecimal, by decide, by decide⟩
  let second : Listing := ⟨digest, ['w'], hexadecimal, by decide, by decide⟩
  have layout : Written ([' '] ++ '#' :: [] ++ ['\r'] ++ ([] ++ ['\n'] ++
      (['\t'] ++ (digest ++ [' ', '\xa0'] ++ ['v', '#']) ++ [] ++ ['\u2028'] ++
        ([] ++ (digest ++ ['\t'] ++ ['w']) ++ [])))) [first, second] := by
    refine .line (.remark ?_ (by simp)) (.single ?_) (.line (.blank ?_) (.single ?_)
      (.line (.entry ?_ first ?_ ?_ ?_) (.single ?_) (.last (.entry ?_ second ?_ ?_ ?_)))) <;> decide
  have written : Written text [first, second] := layout
  have entries : [first, second].map Listing.entry = [⟨small, "v#"⟩, ⟨small, "w"⟩] := rfl
  refine ⟨first, second, rfl, rfl, written, ?_⟩
  rw [written_entries_are_recovered.1 written, entries]

end CertWire.Bundle
