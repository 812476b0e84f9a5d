import CertWire.Proofs.PrintedOctets

/-! The exit status of a parse. It is 2 where the input is no good or a printed record is fatal, 1
where a strict run prints a record with a warning, and 0 otherwise. A run ends without a status
only where the file cannot be opened, or a separator stands in the place of the hexadecimal text. -/

namespace CertWire.CommandLine

open Text (Points)

structure Names (settings : ParseSettings) (path : Points) : Prop where
  noHex : settings.hex = .absent
  given : settings.input = .given path
  occupied : path ≠ []

/-- The content of the file, or of the standard input where no file is named. -/
inductive Finds (surroundings : Surroundings) (settings : ParseSettings) : Octets → Prop
  | file {path : Points} {content : Octets} (names : Names settings path)
      (opened : surroundings.openFile path = .ok content) : Finds surroundings settings content
  | standardInput (noHex : settings.hex = .absent) (nameless : ∀ path, ¬ Names settings path) :
      Finds surroundings settings surroundings.standardInput

/-- The input is no good, and the run says so. -/
inductive Unreadable (surroundings : Surroundings) (settings : ParseSettings) : Prop
  | hexDigit {text : Points} {position : Nat} (given : settings.hex = .given text)
      (bad : Text.Hex.decode text = .error position) : Unreadable surroundings settings
  | base64 {content : Octets} {fault : Text.Base64.Fault} (finds : Finds surroundings settings content)
      (asked : settings.base64 = true) (bad : Text.Base64.decode content = .error fault) :
      Unreadable surroundings settings
  | name {path : Points} {fault : OpenFault} (names : Names settings path)
      (refused : surroundings.openFile path = .error fault) (ofName : fault.isOfName = true) :
      Unreadable surroundings settings

/-- What a run ends with that has no outcome. -/
inductive Escapes (surroundings : Surroundings) (settings : ParseSettings) : Escape → Prop
  | unopened {path : Points} {fault : OpenFault} (names : Names settings path)
      (refused : surroundings.openFile path = .error fault) (ofFile : fault.isOfName = false) :
      Escapes surroundings settings (.cannotOpen fault path)
  | separator (blank : settings.hex = .blank) : Escapes surroundings settings .noHexText

/-- The output is a document, and a record that it shows is under the condition. -/
def PrintsCondition (output : Points) (condition : Condition) : Prop :=
  ∃ text value, output = .ofString text ∧ Json.read text.toList = .ok value ∧
    ∃ object ∈ printedRecords value, object.field? "condition" = some (.text condition.name)

variable {surroundings : Surroundings} {settings : ParseSettings} {arguments : List Points} {level : LogLevel}

def inputOf (surroundings : Surroundings) (settings : ParseSettings) : Except Escape (Except String Octets) :=
  settings.source >>= fun source => source.octets settings.base64 surroundings

private theorem inputOf_hex {text : Points} (given : settings.hex = .given text) :
    inputOf surroundings settings = .ok ((Text.Hex.decode text).mapError badHexDigit) := by
  simp only [inputOf, ParseSettings.source, given]
  rfl

private theorem inputOf_blank (blank : settings.hex = .blank) : inputOf surroundings settings = .error .noHexText := by
  simp only [inputOf, ParseSettings.source, blank]
  rfl

theorem source_of_names {path : Points} (names : Names settings path) : settings.source = .ok (.file path) := by
  simp only [ParseSettings.source, names.noHex, names.given, names.occupied, if_false]

private theorem inputOf_refused {path : Points} {fault : OpenFault} (names : Names settings path)
    (refused : surroundings.openFile path = .error fault) :
    inputOf surroundings settings =
      if fault.isOfName then .ok (.error (fault.message path)) else .error (.cannotOpen fault path) := by
  rw [inputOf, source_of_names names]
  change InputSource.octets (.file path) settings.base64 surroundings = _
  simp only [InputSource.octets, refused]

theorem source_of_nameless (noHex : settings.hex = .absent) (nameless : ∀ path, ¬ Names settings path) :
    settings.source = .ok .standardInput := by
  unfold ParseSettings.source
  rw [noHex]
  cases input : settings.input with
  | given path =>
    have blank : path = [] := by
      apply Classical.byContradiction
      intro occupied
      exact nameless path ⟨noHex, input, occupied⟩
    exact congrArg Except.ok (if_pos blank)
  | absent | blank => rfl

theorem inputOf_found {content : Octets} (finds : Finds surroundings settings content) :
    inputOf surroundings settings =
      .ok (if settings.base64 then (Text.Base64.decode content).mapError Text.Base64.Fault.message else .ok content) := by
  cases finds with
  | file names opened =>
    rw [inputOf, source_of_names names]
    change InputSource.octets (.file _) settings.base64 surroundings = _
    simp only [InputSource.octets, opened]
  | standardInput noHex nameless =>
    rw [inputOf, source_of_nameless noHex nameless]
    rfl

private theorem input_cases (surroundings : Surroundings) (settings : ParseSettings) :
    (∃ text, settings.hex = .given text) ∨ settings.hex = .blank ∨ (∃ content, Finds surroundings settings content) ∨
      ∃ path fault, Names settings path ∧ surroundings.openFile path = .error fault := by
  cases hex : settings.hex with
  | given text => exact .inl ⟨text, rfl⟩
  | blank => exact .inr (.inl rfl)
  | absent =>
    right; right
    by_cases named : ∃ path, Names settings path
    · obtain ⟨path, names⟩ := named
      cases opened : surroundings.openFile path with
      | ok content => exact .inl ⟨content, .file names opened⟩
      | error fault => exact .inr ⟨path, fault, names, opened⟩
    · exact .inl ⟨_, .standardInput hex (not_exists.mp named)⟩

theorem inputOf_error_iff {escape : Escape} :
    inputOf surroundings settings = .error escape ↔ Escapes surroundings settings escape := by
  constructor
  · intro escaped
    rcases input_cases surroundings settings with ⟨text, given⟩ | blank | ⟨content, finds⟩ | ⟨path, fault, names, refused⟩
    · cases (inputOf_hex given).symm.trans escaped
    · cases (inputOf_blank blank).symm.trans escaped
      exact .separator blank
    · cases (inputOf_found finds).symm.trans escaped
    · rw [inputOf_refused names refused] at escaped
      split at escaped
      · cases escaped
      next ofFile =>
        cases escaped
        exact .unopened names refused (Bool.eq_false_iff.mpr ofFile)
  · intro escapes
    cases escapes with
    | unopened names refused ofFile =>
      rw [inputOf_refused names refused, ofFile]
      rfl
    | separator blank => exact inputOf_blank blank

private theorem inputOf_refused_iff :
    (∃ reason, inputOf surroundings settings = .ok (.error reason)) ↔ Unreadable surroundings settings := by
  constructor
  · rintro ⟨reason, unusable⟩
    rcases input_cases surroundings settings with ⟨text, given⟩ | blank | ⟨content, finds⟩ | ⟨path, fault, names, refused⟩
    · rw [inputOf_hex given] at unusable
      cases decoded : Text.Hex.decode text with
      | error position => exact .hexDigit given decoded
      | ok octets =>
        rw [decoded] at unusable
        cases unusable
    · cases (inputOf_blank blank).symm.trans unusable
    · rw [inputOf_found finds] at unusable
      split at unusable
      next asked =>
        cases decoded : Text.Base64.decode content with
        | error fault => exact .base64 finds asked decoded
        | ok octets =>
          rw [decoded] at unusable
          cases unusable
      next => cases unusable
    · rw [inputOf_refused names refused] at unusable
      split at unusable
      next ofName => exact .name names refused ofName
      next => cases unusable
  · intro unreadable
    cases unreadable with
    | hexDigit given bad =>
      rw [inputOf_hex given, bad]
      exact ⟨_, rfl⟩
    | base64 finds asked bad =>
      rw [inputOf_found finds, asked, bad]
      exact ⟨_, rfl⟩
    | name names refused ofName =>
      rw [inputOf_refused names refused, ofName]
      exact ⟨_, rfl⟩

theorem statusOf_eq_two_iff {strict : Bool} {conditions : List Condition} :
    statusOf strict conditions = 2 ↔ ∃ condition ∈ conditions, condition.isFatal = true := by
  rw [← List.any_eq_true]
  unfold statusOf
  split
  · simp_all
  · split <;> simp_all

theorem statusOf_eq_one_iff {strict : Bool} {conditions : List Condition} :
    statusOf strict conditions = 1 ↔ (¬ ∃ condition ∈ conditions, condition.isFatal = true) ∧ strict = true ∧
      ∃ condition ∈ conditions, condition.isWarning = true := by
  rw [← List.any_eq_true, ← List.any_eq_true]
  unfold statusOf
  split
  · simp_all
  · split <;> simp_all

theorem statusOf_le_two (strict : Bool) (conditions : List Condition) : statusOf strict conditions ≤ 2 := by
  unfold statusOf
  split
  · exact Nat.le_refl 2
  · split <;> decide

theorem printsCondition_report {all : Bool} {input : Octets} {condition : Condition} :
    PrintsCondition (.ofString ((report all input).json.document ++ "\n")) condition ↔
      condition ∈ (report all input).conditions := by
  have back := Json.read_document (legible_report all input)
  have shown : (∃ object ∈ printedRecords (report all input).json,
      object.field? "condition" = some (.text condition.name)) ↔ condition ∈ (report all input).conditions := by
    cases all with
    | true =>
      rw [(report_all input).1, (report_all input).2]
      simp only [printedRecords, List.mem_map, exists_exists_and_eq_and, field?_condition_eq_iff]
    | false =>
      rw [(report_one input).1, (report_one input).2, printedRecords_describe]
      simp only [List.mem_singleton, exists_eq_left, field?_condition_eq_iff]
      exact eq_comm
  constructor
  · rintro ⟨text, value, output, reads, object, member, under⟩
    rw [← Points.ofString_inj.mp output, back] at reads
    cases reads
    exact shown.mp ⟨object, member, under⟩
  · intro member
    exact ⟨_, _, rfl, back, shown.mpr member⟩

theorem exists_source {result : Except String Octets} (found : inputOf surroundings settings = .ok result) :
    ∃ source, settings.source = .ok source ∧ source.octets settings.base64 surroundings = .ok result := by
  cases chosen : settings.source with
  | error escape =>
    rw [inputOf, chosen] at found
    cases found
  | ok source =>
    rw [inputOf, chosen] at found
    exact ⟨source, rfl, found⟩

/-- What the exit status and the output of a parse say. -/
structure Reported (surroundings : Surroundings) (settings : ParseSettings) (arguments : List Points)
    (outcome : Outcome) : Prop where
  failed : outcome.status = 2 ↔ Unreadable surroundings settings ∨
    ∃ condition, PrintsCondition outcome.output condition ∧ condition.isFatal = true
  warned : outcome.status = 1 ↔ outcome.status ≠ 2 ∧ settings.strict = true ∧
    ∃ condition, PrintsCondition outcome.output condition ∧ condition.isWarning = true
  bounded : outcome.status ≤ 2
  silent : Unreadable surroundings settings → outcome.output = []
  printed : ¬ Unreadable surroundings settings → ∃ value, Prints surroundings arguments outcome.status value

section Asked

variable (asked : requestOf surroundings.logLevel arguments = .ok ⟨level, some (.parse settings)⟩)
include asked

private theorem run_escaped {escape : Escape} (escaped : inputOf surroundings settings = .error escape) :
    run surroundings arguments = .error escape := by
  simp only [run, asked, Command.run, runParse]
  cases chosen : settings.source with
  | error other =>
    rw [inputOf, chosen] at escaped
    cases escaped
    rfl
  | ok source =>
    rw [inputOf, chosen] at escaped
    change source.octets settings.base64 surroundings = .error escape at escaped
    simp only [bind, Except.bind, escaped]

private theorem run_refused {reason : String} (refused : inputOf surroundings settings = .ok (.error reason)) :
    ∃ notices, run surroundings arguments = .ok ⟨2, [], notices⟩ := by
  obtain ⟨source, chosen, refused⟩ := exists_source refused
  simp only [run, asked, Command.run, runParse, chosen, bind, Except.bind, refused]
  exact ⟨_, rfl⟩

private theorem parses_readable {input : Octets} (readable : inputOf surroundings settings = .ok (.ok input)) :
    Parses surroundings settings.all settings.strict input arguments := by
  obtain ⟨source, chosen, found⟩ := exists_source readable
  exact ⟨level, settings, source, asked, rfl, rfl, chosen, found⟩

theorem run_error_iff {escape : Escape} :
    run surroundings arguments = .error escape ↔ Escapes surroundings settings escape := by
  rw [← inputOf_error_iff]
  constructor
  · intro escaped
    cases input : inputOf surroundings settings with
    | error other => exact congrArg _ (Except.error.inj ((run_escaped asked input).symm.trans escaped))
    | ok result =>
      cases result with
      | error reason =>
        obtain ⟨notices, ended⟩ := run_refused asked input
        cases ended.symm.trans escaped
      | ok octets =>
        obtain ⟨notices, ended, _⟩ := (parses_readable asked input).prints
        cases ended.symm.trans escaped
  · exact run_escaped asked

private theorem reported {outcome : Outcome} (ended : run surroundings arguments = .ok outcome) :
    Reported surroundings settings arguments outcome := by
  cases input : inputOf surroundings settings with
  | error escape => cases (run_escaped asked input).symm.trans ended
  | ok result =>
    cases result with
    | error reason =>
      have unreadable := inputOf_refused_iff.mp ⟨reason, input⟩
      obtain ⟨notices, same⟩ := run_refused asked input
      cases same.symm.trans ended
      exact ⟨iff_of_true rfl (.inl unreadable), by simp, Nat.le_refl 2, fun _ => rfl, fun readable => absurd unreadable readable⟩
    | ok octets =>
      have readable : ¬ Unreadable surroundings settings := by
        rw [← inputOf_refused_iff, input]
        rintro ⟨reason, same⟩
        cases same
      have prints := (parses_readable asked input).prints
      have ⟨notices, same, _⟩ := prints
      cases same.symm.trans ended
      refine ⟨?_, ?_, statusOf_le_two _ _, fun unreadable => absurd unreadable readable, fun _ => ⟨_, prints⟩⟩
      · simp only [statusOf_eq_two_iff, printsCondition_report, readable, false_or]
      · rw [Ne, statusOf_eq_two_iff, statusOf_eq_one_iff]
        simp only [printsCondition_report]

end Asked

/-- A run that is asked to parse ends without a status exactly where its file cannot be opened, or a
separator stands in the place of the hexadecimal text. Otherwise its status is 2 if the input
is no good or a printed record is fatal, else 1 if it is strict and a printed record is under
a warning, and else 0. Of input that is no good nothing is printed. -/
theorem exit_status_of_parse
    (asked : requestOf surroundings.logLevel arguments = .ok ⟨level, some (.parse settings)⟩) :
    (∀ escape, run surroundings arguments = .error escape ↔ Escapes surroundings settings escape) ∧
    ∀ outcome, run surroundings arguments = .ok outcome → Reported surroundings settings arguments outcome :=
  ⟨fun _ => run_error_iff asked, fun _ ended => reported asked ended⟩

/-- A strict run that prints a truncated record. -/
theorem exit_status_of_parse_truncated :
    let arguments : List Points := ["parse", "--strict", "--hex", "09000301"]
    requestOf Surroundings.bare.logLevel arguments =
        .ok ⟨.warning, some (.parse ⟨.given "09000301", .absent, false, false, true⟩)⟩ ∧
      ∃ outcome, run .bare arguments = .ok outcome ∧ outcome.status = 1 ∧
        ∃ condition, PrintsCondition outcome.output condition ∧ condition.isWarning = true := by
  intro arguments
  have asked : requestOf Surroundings.bare.logLevel arguments =
      .ok ⟨.warning, some (.parse ⟨.given "09000301", .absent, false, false, true⟩)⟩ := by decide +kernel
  have status : (run .bare arguments).toOption.map Outcome.status = some 1 := by decide +kernel
  obtain ⟨escapes, reported⟩ := exit_status_of_parse asked
  cases ended : run .bare arguments with
  | error escape =>
    rw [ended] at status
    cases status
  | ok outcome =>
    rw [ended] at status
    have warned : outcome.status = 1 := Option.some.inj status
    exact ⟨asked, outcome, rfl, warned, ((reported outcome ended).warned.mp warned).2.2⟩

/-- A file that is not there is input that cannot be read, and yet the run has no status. -/
theorem missing_file_escapes :
    let arguments : List Points := ["parse", "--input", "missing"]
    requestOf Surroundings.bare.logLevel arguments =
        .ok ⟨.warning, some (.parse ⟨.absent, .given "missing", false, false, false⟩)⟩ ∧
      Surroundings.bare.openFile "missing" = .error .notFound ∧
      run .bare arguments = .error (.cannotOpen .notFound "missing") := by
  decide +kernel

end CertWire.CommandLine
