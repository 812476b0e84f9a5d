import CertWire.CommandLine.Request
import CertWire.Proofs.DigitText

/-! Options written in full, each with its value behind it. They are found as they are written: no
name is taken for a shortened one, and no value for an option. -/

namespace CertWire

theorem exists_of_bind {ε α β : Type} {first : Except ε α} {next : α → Except ε β} {result : β}
    (done : (first >>= next) = .ok result) : ∃ value, first = .ok value ∧ next value = .ok result := by
  cases first with
  | error reason => cases done
  | ok value => exact ⟨value, rfl, done⟩

theorem error_of_bind {ε α β : Type} {first : Except ε α} {next : α → Except ε β} {error : ε}
    (fails : first >>= next = .error error) : first = .error error ∨ ∃ value, first = .ok value ∧ next value = .error error := by
  cases first with
  | error early =>
    cases fails
    exact .inl rfl
  | ok value => exact .inr ⟨value, rfl, fails⟩

namespace CommandLine

open Text (Points)

/-- The name by which an option is declared first. -/
def Declaration.fullName (declaration : Declaration) : String := declaration.names.headD ""

/-- An option written in full, with its value behind it. -/
def Occurrence.written (occurrence : Occurrence) : List Points :=
  .ofString occurrence.declaration.fullName :: occurrence.value.toList

/-- What an option written in full is sorted into. -/
def Occurrence.sorted (occurrence : Occurrence) : List Argument :=
  .option (.ofString occurrence.declaration.fullName) (some ⟨occurrence.declaration, occurrence.declaration.fullName, none⟩) ::
    occurrence.value.toList.map .word

/-- The argument is no separator and is sorted into a word. -/
def IsWord (declarations : List Declaration) (argument : Points) : Prop :=
  argument ≠ separatorText ∧ classify declarations argument = .ok (.word argument)

/-- The option goes by its name, and its value if it takes one is a word. -/
structure Plain (declarations : List Declaration) (occurrence : Occurrence) : Prop where
  unlike : Points.ofString occurrence.declaration.fullName ≠ separatorText
  name : classify declarations (.ofString occurrence.declaration.fullName) =
    .ok (.option (.ofString occurrence.declaration.fullName)
      (some ⟨occurrence.declaration, occurrence.declaration.fullName, none⟩))
  takesValue : occurrence.declaration.takesValue = occurrence.value.isSome
  value : ∀ value ∈ occurrence.value, IsWord declarations value

variable {declarations : List Declaration} {argument : Points} {occurrence : Occurrence}

theorem classifyAll_cons {first : Argument} {rest : List Points} {others : List Argument}
    (unlike : argument ≠ separatorText) (sorted : classify declarations argument = .ok first)
    (remaining : classifyAll declarations rest = .ok others) :
    classifyAll declarations (argument :: rest) = .ok (first :: others) := by
  rw [classifyAll, if_neg unlike, sorted, remaining]
  rfl

private theorem classifyAll_written {occurrences : List Occurrence}
    (plain : ∀ occurrence ∈ occurrences, Plain declarations occurrence) :
    classifyAll declarations (occurrences.flatMap Occurrence.written) = .ok (occurrences.flatMap Occurrence.sorted) := by
  induction occurrences with
  | nil => rfl
  | cons occurrence rest ih =>
    rw [List.forall_mem_cons] at plain
    obtain ⟨⟨unlike, name, _, value⟩, others⟩ := plain
    rw [List.flatMap_cons, List.flatMap_cons, Occurrence.written, Occurrence.sorted]
    cases given : occurrence.value with
    | none => exact classifyAll_cons unlike name (ih others)
    | some text =>
      obtain ⟨different, word⟩ := value text given
      exact classifyAll_cons unlike name (classifyAll_cons different word (ih others))

private theorem scan_sorted {occurrences : List Occurrence}
    (plain : ∀ occurrence ∈ occurrences, Plain declarations occurrence) :
    scan declarations false none (occurrences.flatMap Occurrence.sorted) = { Scan.nothing with occurrences } := by
  induction occurrences with
  | nil => rfl
  | cons occurrence rest ih =>
    rw [List.forall_mem_cons] at plain
    have takesValue := plain.1.takesValue
    obtain ⟨declaration, value⟩ := occurrence
    dsimp only at takesValue
    rw [List.flatMap_cons, Occurrence.sorted]
    cases value with
    | none =>
      simp only [Option.toList_none, List.map_nil, List.cons_append, List.nil_append, scan, Spelling.cluster, takesValue,
        Option.isSome_none, Bool.false_eq_true, if_false, ih plain.2]
      rfl
    | some text =>
      simp only [Option.toList_some, List.map_singleton, List.cons_append, List.nil_append, scan, Spelling.cluster,
        takesValue, Option.isSome_some, if_true, ih plain.2]
      rfl

theorem scanArguments_written {occurrences : List Occurrence}
    (plain : ∀ occurrence ∈ occurrences, Plain declarations occurrence) :
    scanArguments declarations false (occurrences.flatMap Occurrence.written) = { Scan.nothing with occurrences } := by
  rw [scanArguments, classifyAll_written plain]
  exact scan_sorted plain

variable {σ : Type} {program : Program} {apply : σ → Occurrence → Except String σ} {start settings : σ}

private theorem settle_of_foldlM {found : Scan} {occurrences : List Occurrence} (faultless : found.fault = none)
    (helpless : ∀ occurrence ∈ occurrences, occurrence.declaration ≠ helpOption)
    (applied : occurrences.foldlM apply start = .ok settings) :
    settle program apply found start occurrences = .ok settings := by
  induction occurrences generalizing start with
  | nil =>
    cases applied
    rw [settle, faultless]
  | cons occurrence rest ih =>
    rw [List.forall_mem_cons] at helpless
    rw [List.foldlM_cons] at applied
    cases taken : apply start occurrence with
    | error reason =>
      rw [taken] at applied
      cases applied
    | ok next =>
      rw [taken] at applied
      rw [settle, if_neg helpless.1, taken]
      exact ih helpless.2 applied

/-- The settings are those that the options give one after the other, and nothing is left over. -/
theorem settingsOf_written {occurrences : List Occurrence}
    (plain : ∀ occurrence ∈ occurrences, Plain declarations occurrence)
    (helpless : ∀ occurrence ∈ occurrences, occurrence.declaration ≠ helpOption)
    (applied : occurrences.foldlM apply start = .ok settings) :
    settingsOf program declarations false start apply (occurrences.flatMap Occurrence.written) =
      .ok (settings, { Scan.nothing with occurrences }) := by
  rw [settingsOf, scanArguments_written plain]
  dsimp only
  rw [settle_of_foldlM rfl helpless applied]
  rfl

theorem text_of_classify {sorted : Argument} (found : classify declarations argument = .ok sorted) :
    sorted.text = argument := by
  unfold classify at found
  split at found
  · cases found
    rfl
  · split at found
    · cases found
      rfl
    · split at found
      · cases found
        rfl
      · dsimp only at found
        split at found
        · cases found
          rfl
        · split at found
          · split at found <;> cases found <;> rfl
          · cases found
            rfl
          · cases found

/-- The argument is no separator and can be sorted, into whatever it may be. -/
def Sortable (declarations : List Declaration) (argument : Points) : Prop :=
  argument ≠ separatorText ∧ ∃ sorted, classify declarations argument = .ok sorted

theorem IsWord.sortable (word : IsWord declarations argument) : Sortable declarations argument := ⟨word.1, _, word.2⟩

theorem exists_classifyAll {arguments : List Points} (sortable : ∀ argument ∈ arguments, Sortable declarations argument) :
    ∃ sorted, classifyAll declarations arguments = .ok sorted ∧ sorted.map Argument.text = arguments := by
  induction arguments with
  | nil => exact ⟨[], rfl, rfl⟩
  | cons argument rest ih =>
    rw [List.forall_mem_cons] at sortable
    obtain ⟨⟨unlike, first, found⟩, others⟩ := sortable
    obtain ⟨sorted, remaining, texts⟩ := ih others
    exact ⟨first :: sorted, classifyAll_cons unlike found remaining, by
      rw [List.map_cons, texts, text_of_classify found]⟩

theorem isWord_of_undashed (undashed : argument.head? ≠ some dash) : IsWord declarations argument := by
  refine ⟨?_, if_pos undashed⟩
  rintro rfl
  exact undashed rfl

/-- None of the options looks like a negative number. -/
def Numberless (declarations : List Declaration) : Prop :=
  ∀ declaration ∈ declarations, ∀ name ∈ declaration.names, ∀ point ∈ (Points.ofString name)[1]?, isDigit point = false

private theorem candidates_of_digit {second : Nat} {rest : Points} (numberless : Numberless declarations)
    (digit : isDigit second = true) : candidates declarations (dash :: second :: rest) = [] := by
  have different : second ≠ dash := by
    rintro rfl
    exact absurd digit (by decide)
  have undashed : separatorText.isPrefixOf (dash :: second :: rest) = false := by
    simp [separatorText, List.isPrefixOf, Ne.symm different]
  rw [candidates, undashed]
  simp only [Bool.false_eq_true, if_false, List.filterMap_eq_nil_iff, List.mem_flatMap, List.mem_map]
  rintro _ ⟨declaration, member, name, named, rfl⟩
  have unlike := numberless declaration member name named
  have here : (Points.ofString name)[1]? ≠ some second := fun same => by simp [unlike second same] at digit
  dsimp only
  rw [if_neg, if_neg]
  · intro inside
    obtain ⟨beyond, same⟩ := List.isPrefixOf_iff_prefix.mp inside
    exact here (by rw [← same]; rfl)
  · intro same
    exact here (by rw [same]; rfl)

private theorem named?_of_digit {second : Nat} {rest : Points} (numberless : Numberless declarations)
    (digit : isDigit second = true) : named? declarations (dash :: second :: rest) = none := by
  rw [named?, List.find?_eq_none]
  intro declaration member contained
  obtain ⟨name, named, same⟩ := List.mem_map.mp (List.contains_iff_mem.mp contained)
  have unlike := numberless declaration member name named second (by rw [same]; rfl)
  rw [digit] at unlike
  cases unlike

private theorem isDigit_of_ascii {character : Char} (digit : character.isDigit = true) :
    isDigit character.toNat = true := by
  obtain ⟨least, most⟩ := Text.Numeral.toNat_of_isDigit digit
  rw [isDigit, Text.Numeral.decimalDigit?_of_ascii least most]
  rfl

private theorem isNegativeNumber_of_digits {digits : List Char} (all : ∀ digit ∈ digits, digit.isDigit = true)
    (occupied : digits ≠ []) : isNegativeNumber (dash :: digits.map Char.toNat) = true := by
  have joined : ∀ point ∈ digits.map Char.toNat, isDigit point = true :=
    List.forall_mem_map.mpr fun digit member => isDigit_of_ascii (all digit member)
  have unbroken : (digits.map Char.toNat).getLast? ≠ some '\n'.toNat := by
    intro last
    have digit := joined _ (List.mem_of_getLast? last)
    exact absurd digit (by decide)
  have filled : (digits.map Char.toNat).isEmpty = false := by simpa using occupied
  simp only [isNegativeNumber, List.drop_succ_cons, List.drop_zero, unbroken, if_false,
    List.dropWhile_eq_nil_iff.mpr joined, filled]
  rfl

theorem splitAtEquals_of_unequal {name : Points} (unequal : '='.toNat ∉ name) : splitAtEquals name = (name, none) := by
  have before : name.takeWhile (· ≠ '='.toNat) = name := by
    rw [List.takeWhile_eq_self_iff]
    intro point member
    rw [decide_eq_true_eq]
    rintro rfl
    exact unequal member
  simp only [splitAtEquals, before, List.drop_length]

private theorem splitAtEquals_of_digits {digits : List Char} (all : ∀ digit ∈ digits, digit.isDigit = true) :
    splitAtEquals (dash :: digits.map Char.toNat) = (dash :: digits.map Char.toNat, none) := by
  apply splitAtEquals_of_unequal
  intro inside
  cases inside with
  | tail _ inside =>
    obtain ⟨digit, member, same⟩ := List.mem_map.mp inside
    have most := (Text.Numeral.toNat_of_isDigit (all digit member)).2
    have equals : '='.toNat = 0x3d := rfl
    omega

/-- A negative number is a value, although it begins as options do. -/
theorem isWord_negative {digits : List Char} (numberless : Numberless declarations)
    (all : ∀ digit ∈ digits, digit.isDigit = true) (occupied : digits ≠ []) :
    IsWord declarations (dash :: digits.map Char.toNat) := by
  have negative := isNegativeNumber_of_digits all occupied
  have split := splitAtEquals_of_digits all
  obtain ⟨first, others, rfl⟩ := List.exists_cons_of_ne_nil occupied
  have digit := isDigit_of_ascii (all first List.mem_cons_self)
  have different : first.toNat ≠ dash := by
    intro same
    rw [same] at digit
    exact absurd digit (by decide)
  rw [List.map_cons] at negative split ⊢
  refine ⟨by simp [separatorText, different], ?_⟩
  -- No option is meant, in full or shortened, and then the look of a number decides.
  rw [classify, if_neg (by simp), named?_of_digit numberless digit]
  simp [split, candidates_of_digit numberless digit, negative]

theorem isWord_numeral (numberless : Numberless declarations) (number : Int) :
    IsWord declarations (.ofString (toString number)) := by
  have all := Text.Numeral.isDigit_of_mem_toDigits number.natAbs
  rw [Points.ofString, Text.Numeral.toList_toString]
  split
  · exact isWord_negative numberless all Nat.toDigits_ne_nil
  · refine isWord_of_undashed ?_
    exact Text.Numeral.head?_digits_ne all (by decide)

theorem undashed_hex (octets : Octets) : (Points.ofString (Text.Hex.encode octets)).head? ≠ some dash := by
  intro dashed
  obtain ⟨character, member, same⟩ := List.mem_map.mp (List.mem_of_head? dashed)
  obtain ⟨digit, bound, rfl⟩ := Text.Hex.exists_digit_of_mem_encode member
  have undashed : ∀ digit < 16, (Nat.digitChar digit).toNat ≠ dash := by decide
  exact undashed digit bound same

end CommandLine
end CertWire
