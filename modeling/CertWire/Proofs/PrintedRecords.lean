import CertWire.CommandLine.Commands
import CertWire.Proofs.Documents
import CertWire.Proofs.Framing
import CertWire.Proofs.WrittenCommands

/-! Runs that parse, and what they print. The output is one document, which is read as the
report on the octets: where the octets come from makes no difference to it. -/

namespace CertWire

open Text (Points)

namespace Json

def members : Json → List (Points × Json)
  | .object members => members
  | _ => []

/-- The member of that name; a value that is no object has none. -/
def field? (value : Json) (name : String) : Option Json := member? value.members name

private theorem lookup_of_mem {members : List (Points × Json)} {name : Points} {value : Json}
    (distinct : (members.map Prod.fst).Nodup) (member : (name, value) ∈ members) :
    members.lookup name = some value := by
  induction members with
  | nil => cases member
  | cons first rest ih =>
    rw [List.map_cons, List.nodup_cons] at distinct
    cases member with
    | head => rw [List.lookup_cons_self]
    | tail _ member =>
      have different : name ≠ first.1 := by
        rintro rfl
        exact distinct.1 (List.mem_map.mpr ⟨_, member, rfl⟩)
      rw [List.lookup_cons, beq_false_of_ne different]
      exact ih distinct.2 member

private theorem plain_hex (octets : Octets) : Plain (.ofString (Text.Hex.encode octets)) := by
  have plain : ∀ digit < 16, 0x20 ≤ (Nat.digitChar digit).toNat ∧ (Nat.digitChar digit).toNat < 0x7f ∧
      (Nat.digitChar digit).toNat ≠ 0x22 ∧ (Nat.digitChar digit).toNat ≠ 0x5c := by
    decide
  intro point member
  obtain ⟨character, inside, rfl⟩ := List.mem_map.mp member
  obtain ⟨digit, bound, rfl⟩ := Text.Hex.exists_digit_of_mem_encode inside
  exact plain digit bound

end Json

namespace Certificate

/-- The kind and the declared length fit their fields. -/
def InFields (certificate : Certificate) : Prop :=
  0 ≤ certificate.kind ∧ certificate.kind ≤ 255 ∧ 0 ≤ certificate.declaredLength ∧ certificate.declaredLength ≤ 65535

variable {certificate : Certificate} {buffer : Octets}

theorem Complete.inFields (complete : certificate.Complete) : certificate.InFields := by
  have positive := complete.declaredLength_pos
  exact ⟨complete.kind_nonneg, complete.kind_le, by omega, complete.declaredLength_le⟩

theorem inFields_of_read (buffer : Octets) : ∀ certificate ∈ (read buffer).certificate, certificate.InFields := by
  cases found : ofOctets? buffer with
  | none => simp [read_of_headless found]
  | some certificate =>
    rw [read_of_ofOctets? found]
    rintro certificate ⟨⟩
    exact ofOctets?_bounds found

theorem inFields_of_readAll (buffer : Octets) :
    ∀ record ∈ readAll buffer, ∀ certificate ∈ record.certificate, certificate.InFields := by
  induction buffer using packed_induction with
  | empty => simp [readAll_nil]
  | @ending buffer record found =>
    have single := inFields_of_read buffer
    rw [found.read] at single
    rw [found.readAll, List.forall_mem_singleton]
    exact single
  | @more certificate rest complete remains ih =>
    rw [complete.readAll_append, List.forall_mem_cons]
    refine ⟨?_, ih⟩
    rintro certificate ⟨⟩
    exact complete.inFields

end Certificate

namespace CommandLine

/-- The names of the members of a described record, in order. -/
def fieldNames : List String :=
  ["condition", "type", "type_name", "declared_length", "effective_length", "payload_hex", "remainder_hex"]

private theorem fieldNames_distinct : (fieldNames.map Points.ofString).Nodup := by decide +kernel

private theorem plain_names : (∀ name ∈ fieldNames, Json.Plain (.ofString name)) ∧
    (∀ condition ∈ Condition.all, Json.Plain (.ofString condition.name)) ∧
    ∀ kind ∈ Certificate.kindNames, Json.Plain (.ofString kind.2) := by
  unfold Json.Plain
  decide +kernel

variable {record : Record} {certificate : Certificate} {remainder : Option Octets}

theorem describe_eq_object (record : Record) (remainder : Option Octets) :
    describe record remainder = .object (describe record remainder).members := by
  obtain ⟨certificate, condition⟩ := record
  cases certificate <;> rfl

theorem names_of_describe (record : Record) (remainder : Option Octets) :
    (describe record remainder).members.map Prod.fst <+: fieldNames.map Points.ofString := by
  obtain ⟨certificate, condition⟩ := record
  cases certificate with
  | none => exact ⟨_, rfl⟩
  | some certificate => cases remainder <;> exact ⟨_, rfl⟩

private theorem distinct_names (record : Record) (remainder : Option Octets) :
    ((describe record remainder).members.map Prod.fst).Nodup :=
  fieldNames_distinct.sublist (names_of_describe record remainder).sublist

private theorem field?_describe {name : String} {value : Json}
    (member : (.ofString name, value) ∈ (describe record remainder).members) :
    (describe record remainder).field? name = some value :=
  Json.lookup_of_mem (distinct_names record remainder) member

theorem field?_condition (record : Record) (remainder : Option Octets) :
    (describe record remainder).field? "condition" = some (.text record.condition.name) := by
  apply field?_describe
  obtain ⟨certificate, condition⟩ := record
  cases certificate <;> exact List.mem_cons_self

theorem field?_condition_eq_iff {condition : Condition} :
    (describe record remainder).field? "condition" = some (.text condition.name) ↔ record.condition = condition := by
  rw [field?_condition]
  constructor
  · intro same
    have name := Points.ofString_inj.mp (Json.string.inj (Option.some.inj same))
    have known := congrArg Condition.ofName? name
    rw [Condition.ofName?_name, Condition.ofName?_name] at known
    exact Option.some.inj known
  · rintro rfl
    rfl

/-- The members that a certificate is printed with, its remainder apart. -/
structure Shows (object : Json) (certificate : Certificate) : Prop where
  kind : object.field? "type" = some (.integer certificate.kind)
  declaredLength : object.field? "declared_length" = some (.integer certificate.declaredLength)
  effectiveLength : object.field? "effective_length" = some (.integer certificate.effectiveLength)
  payload : object.field? "payload_hex" = some (.text (Text.Hex.encode certificate.effectivePayload))

theorem shows_describe (certificate : Certificate) (condition : Condition) (remainder : Option Octets) :
    Shows (describe ⟨some certificate, condition⟩ remainder) certificate := by
  constructor
  all_goals
    apply field?_describe
    simp [describe, Json.members]

theorem field?_remainder (certificate : Certificate) (condition : Condition) (remainder : Octets) :
    (describe ⟨some certificate, condition⟩ (some remainder)).field? "remainder_hex" =
      some (.text (Text.Hex.encode remainder)) := by
  apply field?_describe
  simp [describe, Json.members]

theorem field?_headless {name : String} (other : name ≠ "condition") (condition : Condition)
    (remainder : Option Octets) : (describe ⟨none, condition⟩ remainder).field? name = none := by
  have different : (Points.ofString name == Points.ofString "condition") = false :=
    beq_false_of_ne fun same => other (Points.ofString_inj.mp same)
  simp [describe, Json.field?, Json.members, Json.member?, List.lookup_cons, different]

private theorem legible_kindName (room : Nat) (certificate : Certificate) :
    Json.Legible room ((certificate.kindName?.map Json.text).getD .null) := by
  cases named : certificate.kindName? with
  | none => exact .null
  | some name =>
    obtain ⟨front, back, split, _⟩ := List.lookup_eq_some_iff.mp named
    exact .string (plain_names.2.2 (certificate.kind, name) (by rw [split]; simp))

theorem legible_describe (inFields : ∀ certificate ∈ record.certificate, certificate.InFields) (room : Nat) :
    Json.Legible (room + 1) (describe record remainder) := by
  rw [describe_eq_object]
  refine .object ?_ (distinct_names record remainder) ?_
  · intro member inside
    obtain ⟨name, known, same⟩ := List.mem_map.mp
      ((names_of_describe record remainder).subset (List.mem_map.mpr ⟨member, inside, rfl⟩))
    rw [← same]
    exact plain_names.1 name known
  · obtain ⟨certificate, condition⟩ := record
    have condition : Json.Legible room (.text condition.name) :=
      .string (plain_names.2.1 condition (by cases condition <;> decide))
    cases certificate with
    | none => exact List.forall_mem_singleton.mpr condition
    | some certificate =>
      obtain ⟨kindNonneg, kindSmall, nonneg, small⟩ := inFields certificate rfl
      obtain ⟨effectiveNonneg, effectiveSmall⟩ := Certificate.effectiveLength_le nonneg
      have integer {number : Int} (small : number.natAbs < 100000) : Json.Legible room (.integer number) :=
        .integer (Text.Numeral.short_of_natAbs_lt small)
      have kind := integer (show certificate.kind.natAbs < 100000 by omega)
      have declared := integer (show certificate.declaredLength.natAbs < 100000 by omega)
      have effective := integer (show certificate.effectiveLength.natAbs < 100000 by omega)
      have hex (octets : Octets) : Json.Legible room (.text (Text.Hex.encode octets)) := .string (Json.plain_hex octets)
      cases remainder <;>
        simp [describe, Json.members, condition, kind, declared, effective, hex, legible_kindName]

/-- What a parse prints, of one record or of all. -/
def report (all : Bool) (input : Octets) : Report := if all then reportAll input else reportOne input

variable {input : Octets} {all strict : Bool}

theorem report_all (input : Octets) :
    (report true input).json = .array ((Certificate.readAll input).map fun record => describe record none) ∧
      (report true input).conditions = (Certificate.readAll input).map Record.condition := by
  unfold Certificate.readAll
  rw [List.map_map, List.map_map]
  exact ⟨rfl, rfl⟩

theorem report_one (input : Octets) :
    (report false input).json =
        describe ⟨(Certificate.read input).certificate, (Certificate.read input).condition⟩
          (some (Certificate.read input).remainder) ∧
      (report false input).conditions = [(Certificate.read input).condition] :=
  ⟨rfl, rfl⟩

theorem report_one_of_headless (headless : Certificate.ofOctets? input = none) :
    (report false input).json = describe ⟨none, .tooShort⟩ (some []) ∧
      (report false input).conditions = [.tooShort] := by
  have reading := report_one input
  rw [Certificate.read_of_headless headless] at reading
  exact reading

theorem report_one_of_ofOctets? (found : Certificate.ofOctets? input = some certificate) :
    (report false input).json = describe ⟨some certificate, certificate.condition⟩ (some certificate.surplus) ∧
      (report false input).conditions = [certificate.condition] := by
  have reading := report_one input
  rw [Certificate.read_of_ofOctets? found] at reading
  exact reading

theorem legible_report (all : Bool) (input : Octets) : Json.Legible Json.nestingLimit (report all input).json := by
  cases all with
  | true =>
    rw [(report_all input).1]
    apply Json.Legible.array
    rw [List.forall_mem_map]
    intro record member
    exact legible_describe (Certificate.inFields_of_readAll input record member) _
  | false =>
    rw [(report_one input).1]
    exact legible_describe (Certificate.inFields_of_read input) _

/-- The command line asks for a parse, and these are the octets that it takes from its source. -/
def Parses (surroundings : Surroundings) (all strict : Bool) (input : Octets) (arguments : List Points) : Prop :=
  ∃ level settings source,
    requestOf surroundings.logLevel arguments = .ok ⟨level, some (.parse settings)⟩ ∧
      settings.all = all ∧ settings.strict = strict ∧ settings.source = .ok source ∧
      source.octets settings.base64 surroundings = .ok (.ok input)

/-- The run ends with this status, and its output is a document that is read as this value. -/
def Prints (surroundings : Surroundings) (arguments : List Points) (status : Nat) (value : Json) : Prop :=
  ∃ notices, run surroundings arguments = .ok ⟨status, .ofString (value.document ++ "\n"), notices⟩ ∧
    Json.read (value.document ++ "\n").toList = .ok value

variable {surroundings : Surroundings} {arguments : List Points} {status : Nat} {value : Json}

/-- Source, log level and terminal make no difference to what is printed. -/
theorem Parses.prints (parses : Parses surroundings all strict input arguments) :
    Prints surroundings arguments (statusOf strict (report all input).conditions) (report all input).json := by
  obtain ⟨level, settings, source, asked, rfl, rfl, found, octets⟩ := parses
  refine ⟨source.notices surroundings ++
    if level.showsWarnings then List.replicate (report settings.all input).warnings .formatWarning else [], ?_,
    Json.read_document (legible_report settings.all input)⟩
  simp only [run, asked, Command.run, runParse, found, octets, bind, Except.bind]
  rfl

theorem Prints.unique {otherStatus : Nat} {other : Json} (prints : Prints surroundings arguments status value)
    (again : Prints surroundings arguments otherStatus other) : otherStatus = status ∧ other = value := by
  obtain ⟨notices, ended, back⟩ := prints
  obtain ⟨others, same, again⟩ := again
  rw [ended] at same
  obtain ⟨rfl, output, _⟩ := Outcome.mk.inj (Except.ok.inj same)
  rw [← Points.ofString_inj.mp output, back] at again
  exact ⟨rfl, (Except.ok.inj again).symm⟩

theorem parses_hex {level : LogLevel} (accepted : levelOf .absent surroundings.logLevel = .ok level) (all strict : Bool)
    (input : Octets) :
    Parses surroundings all strict input (parseLine (.ofString (Text.Hex.encode input)) all strict) := by
  refine ⟨level, _, .hex _, requestOf_parseLine accepted (undashed_hex input) all strict, rfl, rfl, rfl, ?_⟩
  simp only [InputSource.octets, Text.Hex.decode_encode]
  rfl

/-- No log level is set, nobody types, and there are no files. -/
def Surroundings.bare : Surroundings := ⟨none, false, [], fun _ => .error .notFound⟩

theorem levelOf_bare : levelOf .absent Surroundings.bare.logLevel = .ok .warning := by decide +kernel

end CommandLine
end CertWire
