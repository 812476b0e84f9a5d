import CertWire.Proofs.PrintedRecords

/-! The octets that a printed document spells. Whatever is cut from a payload is printed again, as
the remainder or with the records that follow, so that only a record that is too short can
hide octets of the input. -/

namespace CertWire

open Text (Points)

namespace Json

def integerField? (object : Json) (name : String) : Option Int :=
  match object.field? name with
  | some (.integer value) => some value
  | _ => none

/-- The octets that a member spells in hexadecimal. -/
def hexField? (object : Json) (name : String) : Option Octets :=
  match object.field? name with
  | some (.string text) => (Text.Hex.decode text).toOption
  | _ => none

end Json

namespace CommandLine

/-- The type octet, the declared length in two octets and the payload of a printed record. -/
def recordOctets? (object : Json) : Option Octets := do
  let kind ← object.integerField? "type"
  let declared ← object.integerField? "declared_length"
  let payload ← object.hexField? "payload_hex"
  return Octets.ofInt8 kind ++ Octets.ofInt16 declared ++ payload

/-- The octets of the printed records in order, and of the remainder where one is printed. -/
def spelledOctets? : Json → Option Octets
  | .array objects => List.flatten <$> objects.mapM recordOctets?
  | object => do
    let front ← recordOctets? object
    let remainder ← object.hexField? "remainder_hex"
    return front ++ remainder

def printedRecords : Json → List Json
  | .array objects => objects
  | object => [object]

/-- The last record that is printed, if there is one, is not too short. -/
def EndsUsable (value : Json) : Prop :=
  ∀ object ∈ (printedRecords value).getLast?, object.field? "condition" ≠ some (.text Condition.tooShort.name)

/-- The effective length is printed where the payload is, and counts its octets. -/
def Counted (object : Json) : Prop :=
  object.integerField? "effective_length" = (object.hexField? "payload_hex").map fun payload => (payload.length : Int)

variable {certificate : Certificate} {input : Octets}

private theorem hexField?_of_field? {object : Json} {name : String} {octets : Octets}
    (found : object.field? name = some (.text (Text.Hex.encode octets))) : object.hexField? name = some octets := by
  rw [Json.hexField?, found, Json.text]
  dsimp only
  rw [Text.Hex.decode_encode]
  rfl

private theorem integerField?_of_field? {object : Json} {name : String} {number : Int}
    (found : object.field? name = some (.integer number)) : object.integerField? name = some number := by
  rw [Json.integerField?, found]

private theorem recordOctets?_describe (certificate : Certificate) (condition : Condition) (remainder : Option Octets) :
    recordOctets? (describe ⟨some certificate, condition⟩ remainder) = some certificate.wire := by
  have shows := shows_describe certificate condition remainder
  rw [recordOctets?, integerField?_of_field? shows.kind, integerField?_of_field? shows.declaredLength,
    hexField?_of_field? shows.payload, Certificate.wire, Certificate.effectivePayload_eq_take]
  rfl

private theorem counted_describe {record : Record} (inFields : ∀ certificate ∈ record.certificate, certificate.InFields)
    (remainder : Option Octets) : Counted (describe record remainder) := by
  obtain ⟨certificate, condition⟩ := record
  cases certificate with
  | none =>
    have noLength := field?_headless (show "effective_length" ≠ "condition" by decide) condition remainder
    have noPayload := field?_headless (show "payload_hex" ≠ "condition" by decide) condition remainder
    rw [Counted, Json.integerField?, Json.hexField?, noLength, noPayload]
    rfl
  | some certificate =>
    have shows := shows_describe certificate condition remainder
    have nonneg := (inFields certificate rfl).2.2.1
    rw [Counted, integerField?_of_field? shows.effectiveLength, hexField?_of_field? shows.payload, Option.map_some,
      Certificate.length_effectivePayload nonneg]

private theorem declaredLength_pos (usable : certificate.condition ≠ .tooShort) : 1 ≤ certificate.declaredLength := by
  rw [Ne, Certificate.condition_eq_tooShort_iff] at usable
  omega

private theorem spelledOctets?_single (found : Certificate.ofOctets? input = some certificate)
    (usable : certificate.condition ≠ .tooShort) :
    spelledOctets? (describe ⟨some certificate, certificate.condition⟩ (some certificate.surplus)) = some input := by
  have front := recordOctets?_describe certificate certificate.condition (some certificate.surplus)
  have remainder := hexField?_of_field? (field?_remainder certificate certificate.condition certificate.surplus)
  rw [describe_eq_object] at front remainder ⊢
  rw [spelledOctets?, front, remainder]
  · exact congrArg some (Certificate.wire_append_surplus found (declaredLength_pos usable))
  · intro objects same
    cases same

private theorem spelledOctets?_cons {object : Json} {objects : List Json} {front rest : Octets}
    (first : recordOctets? object = some front) (others : spelledOctets? (.array objects) = some rest) :
    spelledOctets? (.array (object :: objects)) = some (front ++ rest) := by
  rw [spelledOctets?, Option.map_eq_map, Option.map_eq_some_iff] at others
  obtain ⟨parts, spelled, rfl⟩ := others
  simp [spelledOctets?, List.mapM_cons, first, spelled]

/-- The records of a packed buffer spell it, unless the last of them is too short. -/
theorem spelledOctets?_packed (input : Octets)
    (usable : ∀ record ∈ (Certificate.readAll input).getLast?, record.condition ≠ .tooShort) :
    spelledOctets? (.array ((Certificate.readAll input).map fun record => describe record none)) = some input := by
  induction input using Certificate.packed_induction with
  | empty =>
    rw [Certificate.readAll_nil]
    rfl
  | @ending buffer record found =>
    rw [found.readAll] at usable ⊢
    have usable := usable record rfl
    cases found with
    | short occupied headless => exact absurd rfl usable
    | @last certificate found alone =>
      have whole := Certificate.wire_append_surplus found (declaredLength_pos usable)
      rw [Certificate.surplus_eq_nil alone] at whole
      rw [← whole]
      exact spelledOctets?_cons (recordOctets?_describe certificate certificate.condition none) rfl
  | @more certificate rest complete remains ih =>
    rw [complete.readAll_append] at usable ⊢
    have others : ∀ record ∈ (Certificate.readAll rest).getLast?, record.condition ≠ .tooShort := by
      intro record last
      apply usable
      rw [List.getLast?_cons, Option.mem_def.mp last]
      rfl
    exact spelledOctets?_cons (recordOctets?_describe certificate .none none) (ih others)

theorem printedRecords_describe (record : Record) (remainder : Option Octets) :
    printedRecords (describe record remainder) = [describe record remainder] := by
  obtain ⟨certificate, condition⟩ := record
  cases certificate <;> rfl

private theorem endsUsable_single_iff {record : Record} {remainder : Option Octets} :
    EndsUsable (describe record remainder) ↔ record.condition ≠ .tooShort := by
  rw [EndsUsable, printedRecords_describe]
  simp [field?_condition_eq_iff]

private theorem endsUsable_packed_iff {records : List Record} :
    EndsUsable (.array (records.map fun record => describe record none)) ↔
      ∀ record ∈ records.getLast?, record.condition ≠ .tooShort := by
  rw [EndsUsable, printedRecords, List.getLast?_map]
  simp [field?_condition_eq_iff]

/-- The report on the input spells the input. -/
theorem spelledOctets?_report {all : Bool} {input : Octets} (usable : EndsUsable (report all input).json) :
    spelledOctets? (report all input).json = some input := by
  cases all with
  | true =>
    rw [(report_all input).1] at usable ⊢
    exact spelledOctets?_packed input (endsUsable_packed_iff.mp usable)
  | false =>
    cases found : Certificate.ofOctets? input with
    | none =>
      rw [(report_one_of_headless found).1, endsUsable_single_iff] at usable
      exact absurd rfl usable
    | some certificate =>
      rw [(report_one_of_ofOctets? found).1] at usable ⊢
      exact spelledOctets?_single found (endsUsable_single_iff.mp usable)

private theorem counted_report (all : Bool) (input : Octets) :
    ∀ object ∈ printedRecords (report all input).json, Counted object := by
  cases all with
  | true =>
    rw [(report_all input).1, printedRecords, List.forall_mem_map]
    intro record member
    exact counted_describe (Certificate.inFields_of_readAll input record member) none
  | false =>
    rw [(report_one input).1, printedRecords_describe, List.forall_mem_singleton]
    exact counted_describe (Certificate.inFields_of_read input) _

/-- What a parse prints spells its input, unless the last record printed is too short, so that
inputs with the same output are the same. Of each payload printed the octets are counted. -/
theorem printed_octets_are_the_input (all : Bool) :
    (∀ surroundings strict input arguments, Parses surroundings all strict input arguments →
      ∃ status value, Prints surroundings arguments status value ∧
        (∀ object ∈ printedRecords value, Counted object) ∧
        (EndsUsable value → spelledOctets? value = some input)) ∧
    ∀ surroundings strict input arguments others otherStrict otherInput otherArguments,
      Parses surroundings all strict input arguments → Parses others all otherStrict otherInput otherArguments →
        ∃ outcome otherOutcome value, run surroundings arguments = .ok outcome ∧
          run others otherArguments = .ok otherOutcome ∧ Json.read outcome.output.toString.toList = .ok value ∧
          (otherOutcome.output = outcome.output → EndsUsable value → otherInput = input) := by
  refine ⟨?_, ?_⟩
  · intro surroundings strict input arguments parses
    exact ⟨_, _, parses.prints, counted_report all input, spelledOctets?_report⟩
  · intro surroundings strict input arguments others otherStrict otherInput otherArguments parses otherParses
    obtain ⟨notices, ended, back⟩ := parses.prints
    obtain ⟨otherNotices, otherEnded, otherBack⟩ := otherParses.prints
    refine ⟨_, _, (report all input).json, ended, otherEnded, ?_, ?_⟩
    · rw [Points.toString_ofString, back]
    · intro output usable
      rw [Points.ofString_inj.mp output, back] at otherBack
      have same := Except.ok.inj otherBack
      have spelled := spelledOctets?_report usable
      rw [same, spelledOctets?_report (same ▸ usable)] at spelled
      exact Option.some.inj spelled

/-- The octets of a remainder are printed with the one record before it. -/
theorem printed_octets_are_the_input_remainder :
    ∃ status value, Prints .bare (parseLine "0500010709000301" false false) status value ∧ EndsUsable value ∧
      spelledOctets? value = some [5, 0, 1, 7, 9, 0, 3, 1] := by
  have parses := parses_hex levelOf_bare false false [5, 0, 1, 7, 9, 0, 3, 1]
  have text : Text.Hex.encode [5, 0, 1, 7, 9, 0, 3, 1] = "0500010709000301" := by decide
  rw [text] at parses
  obtain ⟨status, value, prints, _, spelled⟩ := (printed_octets_are_the_input false).1 .bare false _ _ parses
  have usable : EndsUsable value := by
    have found : Certificate.ofOctets? [5, 0, 1, 7, 9, 0, 3, 1] = some ⟨5, 1, [7, 9, 0, 3, 1]⟩ := rfl
    obtain ⟨_, rfl⟩ := parses.prints.unique prints
    rw [(report_one_of_ofOctets? found).1, endsUsable_single_iff]
    decide
  exact ⟨status, value, prints, usable, spelled usable⟩

end CommandLine
end CertWire
