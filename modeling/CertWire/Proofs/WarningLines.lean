import CertWire.Proofs.ExitStatus
import CertWire.Proofs.LeveledLines
import CertWire.Proofs.WarningTrace

/-! Warning lines of a run. The log level decides whether the warnings that are due are written, and
nothing else: two runs that ask for the same at levels of their own end alike but for these
lines. A parse warns of every record it prints, unless that is the last one and complete. -/

namespace CertWire

namespace Certificate

variable {buffer : Octets}

private theorem length_excessWarnings (left : Nat) (certificates : List Certificate) :
    (excessWarnings left certificates).length = certificates.length := by
  induction certificates generalizing left with
  | nil => rfl
  | cons certificate rest ih => exact congrArg Nat.succ (ih _)

/-- One warning is due with each record of a sequence, but for a complete one at its end. -/
theorem Traced.count {certificates : List Certificate} {last : Record} {final : Option Warning}
    (traced : Traced buffer certificates last final) :
    ((advances buffer).filterMap Advance.warning).length = certificates.length + final.toList.length := by
  have due : (advances buffer).filterMap Advance.warning = ((advances buffer).map Advance.warning).filterMap id := by
    rw [List.filterMap_map]
    rfl
  rw [due, traced.warnings, List.filterMap_append, List.filterMap_map, List.length_append]
  have first : ((excessWarnings buffer.length certificates).filterMap (id ∘ some)).length = certificates.length := by
    rw [Function.id_comp, List.filterMap_some, length_excessWarnings]
  rw [first]
  cases final <;> rfl

end Certificate

namespace CommandLine

open Text (Points)

/-- The outcome but for its warning lines. -/
def Outcome.unwarned (outcome : Outcome) : Outcome :=
  { outcome with notices := outcome.notices.filter (· ≠ .formatWarning) }

def Outcome.warningLines (outcome : Outcome) : Nat := outcome.notices.count .formatWarning

/-- The last printed record is a complete one. -/
def EndsComplete (records : List Json) : Prop :=
  ∃ last ∈ records.getLast?, last.field? "condition" = some (.text Condition.none.name)

/-- There is one line for each printed record, except for a complete one at the end. -/
structure WarnsOfEach (lines : Nat) (records : List Json) : Prop where
  complete : EndsComplete records → lines + 1 = records.length
  incomplete : ¬ EndsComplete records → lines = records.length

variable {surroundings : Surroundings} {preset otherPreset : Option Points} {level other : LogLevel}
  {line otherLine bare values otherValues : List Points} {settings : ParseSettings} {input : Octets}

theorem Command.run_preset (command : Command) (level : LogLevel) (surroundings : Surroundings) (preset : Option Points) :
    command.run level { surroundings with logLevel := preset } = command.run level surroundings := by
  cases command <;> rfl

/-- What a request ends with. -/
def Request.run (request : Request) (surroundings : Surroundings) : Except Escape Outcome :=
  request.command.elim (.ok (mainProgram.showHelp 1)) fun command => command.run request.level surroundings

theorem run_eq (surroundings : Surroundings) (line : List Points) :
    CommandLine.run surroundings line =
      match requestOf surroundings.logLevel line with
      | .error outcome => .ok outcome
      | .ok request => request.run surroundings := by
  unfold CommandLine.run Request.run
  cases requestOf surroundings.logLevel line with
  | error outcome => rfl
  | ok request =>
    obtain ⟨level, command⟩ := request
    cases command <;> rfl

def warningNotices (level : LogLevel) (warnings : Nat) : List Notice :=
  if level.showsWarnings then List.replicate warnings .formatWarning else []

theorem runParse_of_input {source : InputSource} (chosen : settings.source = .ok source)
    (found : source.octets settings.base64 surroundings = .ok (.ok input)) (level : LogLevel) :
    runParse level settings surroundings =
      .ok ⟨statusOf settings.strict (report settings.all input).conditions,
        .ofString ((report settings.all input).json.document ++ "\n"),
        source.notices surroundings ++ warningNotices level (report settings.all input).warnings⟩ := by
  simp only [runParse, chosen, found, bind, Except.bind]
  rfl

private theorem filter_warningNotices (level : LogLevel) (warnings : Nat) :
    (warningNotices level warnings).filter (· ≠ .formatWarning) = [] := by
  unfold warningNotices
  split
  · exact List.filter_replicate_of_neg (by decide)
  · rfl

theorem count_warningNotices (level : LogLevel) (warnings : Nat) :
    (warningNotices level warnings).count .formatWarning = if level.showsWarnings then warnings else 0 := by
  unfold warningNotices
  split
  · exact List.count_replicate_self
  · rfl

private theorem count_notices (source : InputSource) (surroundings : Surroundings) :
    (source.notices surroundings).count .formatWarning = 0 := by
  unfold InputSource.notices
  split <;> rfl

/-- Without input to read a parse ends alike at every level, and writes no warning line. -/
theorem runParse_cases (surroundings : Surroundings) (settings : ParseSettings) :
    (∃ source input, settings.source = .ok source ∧ source.octets settings.base64 surroundings = .ok (.ok input)) ∨
      ∃ result, (∀ level, runParse level settings surroundings = result) ∧
        ∀ outcome, result = .ok outcome → outcome.warningLines = 0 := by
  cases chosen : settings.source with
  | error escape =>
    refine .inr ⟨.error escape, fun level => ?_, fun outcome same => by cases same⟩
    rw [runParse, chosen]
    rfl
  | ok source =>
    cases found : source.octets settings.base64 surroundings with
    | error escape =>
      refine .inr ⟨.error escape, fun level => ?_, fun outcome same => by cases same⟩
      simp only [runParse, chosen, found, bind, Except.bind]
    | ok content =>
      cases content with
      | ok input => exact .inl ⟨source, input, rfl, found⟩
      | error reason =>
        right
        refine ⟨.ok { badInput reason with notices := source.notices surroundings ++ (badInput reason).notices }, ?_, ?_⟩
        · intro level
          simp only [runParse, chosen, found, bind, Except.bind]
          rfl
        · rintro outcome ⟨⟩
          rw [Outcome.warningLines, List.count_append, count_notices]
          rfl

private theorem unwarned_run (command : Command) (level other : LogLevel) (surroundings : Surroundings) :
    (command.run level surroundings).map Outcome.unwarned = (command.run other surroundings).map Outcome.unwarned := by
  cases command with
  | encode settings | version => rfl
  | parse settings =>
    rw [Command.run, Command.run]
    rcases runParse_cases surroundings settings with ⟨source, input, chosen, found⟩ | ⟨result, same, _⟩
    · rw [runParse_of_input chosen found, runParse_of_input chosen found]
      simp only [Except.map, Outcome.unwarned, List.filter_append, filter_warningNotices]
    · rw [same, same]

private theorem warnsOfEach_of_last (front : List Json) (record : Record) (remainder : Option Octets)
    {final : Option Warning} (silent : final = none ↔ record.condition = .none) :
    WarnsOfEach (front.length + final.toList.length) (front ++ [describe record remainder]) := by
  have ends : EndsComplete (front ++ [describe record remainder]) ↔ final = none := by
    simp only [EndsComplete, List.getLast?_concat, Option.mem_some_iff, exists_eq_left', field?_condition_eq_iff, silent]
  constructor
  · intro complete
    rw [ends.mp complete]
    simp
  · intro incomplete
    obtain ⟨warning, rfl⟩ := Option.ne_none_iff_exists'.mp fun complete => incomplete (ends.mpr complete)
    simp

/-- The warnings due with a report are those of the records that it shows. -/
theorem warnsOfEach_report (all : Bool) (input : Octets) :
    WarnsOfEach (report all input).warnings (printedRecords (report all input).json) := by
  cases all with
  | false =>
    have warned := warnsOfEach_of_last [] ⟨(Certificate.read input).certificate, (Certificate.read input).condition⟩
      (some (Certificate.read input).remainder) (Certificate.reading_warned input).silent
    rw [List.length_nil, Nat.zero_add] at warned
    rw [(report_one input).1, printedRecords_describe]
    exact warned
  | true =>
    rw [(report_all input).1]
    by_cases occupied : input = []
    · rw [occupied, Certificate.readAll_nil]
      have none : (report true []).warnings = 0 := by
        change ((Certificate.advances []).filterMap Advance.warning).length = 0
        rw [Certificate.advances_nil]
        rfl
      rw [none]
      refine ⟨?_, fun _ => rfl⟩
      rintro ⟨last, member, _⟩
      cases member
    · obtain ⟨certificates, last, final, traced⟩ := Certificate.exists_traced occupied
      have warned := warnsOfEach_of_last (certificates.map fun certificate => describe ⟨some certificate, .none⟩ none) last none
        traced.silent
      have due : (report true input).warnings = certificates.length + final.toList.length := traced.count
      rw [List.length_map, ← due] at warned
      rw [Certificate.readAll, traced.records, List.map_append, List.map_map]
      exact warned

private theorem warningLines_of_encode {encode : EncodeSettings} {outcome : Outcome}
    (ended : runEncode encode = .ok outcome) : outcome.warningLines = 0 := by
  unfold runEncode at ended
  simp only [bind, Except.bind] at ended
  repeat' split at ended
  all_goals cases ended <;> rfl

private theorem warningLines_of_refused {outcome : Outcome} (refused : requestOf preset line = .error outcome) :
    outcome.warningLines = 0 := by
  rcases requestOf_error refused with ⟨message, rfl⟩ | ⟨_, program, rfl⟩
  · exact List.count_eq_zero.mpr (by simp)
  · rfl

/-- Only a parse of readable input writes warning lines. -/
theorem readable_of_warningLines {outcome : Outcome} (ended : run surroundings line = .ok outcome)
    (warned : outcome.warningLines ≠ 0) :
    ∃ level settings input, requestOf surroundings.logLevel line = .ok ⟨level, some (.parse settings)⟩ ∧
      inputOf surroundings settings = .ok (.ok input) := by
  rw [run_eq] at ended
  cases asked : requestOf surroundings.logLevel line with
  | error refusal =>
    rw [asked] at ended
    cases ended
    exact absurd (warningLines_of_refused asked) warned
  | ok request =>
    obtain ⟨level, command⟩ := request
    rw [asked] at ended
    match command with
    | none | some .version =>
      cases ended
      exact absurd rfl warned
    | some (.encode settings) => exact absurd (warningLines_of_encode ended) warned
    | some (.parse settings) =>
      rcases runParse_cases surroundings settings with ⟨source, input, chosen, found⟩ | ⟨result, same, calm⟩
      · refine ⟨level, settings, input, rfl, ?_⟩
        rw [inputOf, chosen]
        exact found
      · exact absurd (calm outcome ((same level).symm.trans ended)) warned

theorem Request.run_preset (request : Request) (surroundings : Surroundings) (preset : Option Points) :
    request.run { surroundings with logLevel := preset } = request.run surroundings := by
  obtain ⟨level, command⟩ := request
  cases command with
  | none => rfl
  | some command => exact command.run_preset level surroundings preset

private theorem run_leveled (leveled : Leveled values line bare) (supplied : Supplied preset values level)
    (surroundings : Surroundings) :
    run { surroundings with logLevel := preset } line =
      match requestOf none bare with
      | .error outcome => .ok outcome
      | .ok request => Request.run ⟨level, request.command⟩ surroundings := by
  rw [run_eq]
  dsimp only
  rw [requestOf_leveled leveled supplied]
  cases requestOf none bare with
  | error outcome => rfl
  | ok request => exact Request.run_preset _ surroundings preset

private theorem unwarned_of_leveled (leveled : Leveled values line bare) (supplied : Supplied preset values level)
    (alsoLeveled : Leveled otherValues otherLine bare) (alsoSupplied : Supplied otherPreset otherValues other)
    (surroundings : Surroundings) :
    (run { surroundings with logLevel := preset } line).map Outcome.unwarned =
      (run { surroundings with logLevel := otherPreset } otherLine).map Outcome.unwarned := by
  rw [run_leveled leveled supplied, run_leveled alsoLeveled alsoSupplied]
  cases requestOf none bare with
  | error outcome => rfl
  | ok request =>
    obtain ⟨_, command⟩ := request
    cases command with
    | none => rfl
    | some command => exact unwarned_run command level other surroundings

private theorem levelOf_ignores_preset (value : Points) (preset otherPreset : Option Points) :
    levelOf (levelSetting value) preset = levelOf (levelSetting value) otherPreset := by
  unfold levelSetting
  cases attachedValue value <;> rfl

/-- Where an option is given the environment is not asked. -/
theorem run_ignores_preset (leveled : Leveled values line bare) (given : values ≠ []) (surroundings : Surroundings)
    (preset : Option Points) : run { surroundings with logLevel := preset } line = run surroundings line := by
  have same : requestOf preset line = requestOf surroundings.logLevel line := by
    rw [requestOf_line leveled, requestOf_line leveled, lastLevel, List.getLast?_eq_some_getLast given]
    dsimp only [Option.elim]
    rw [levelOf_ignores_preset]
  rw [run_eq, run_eq]
  dsimp only
  rw [same]
  cases requestOf surroundings.logLevel line with
  | error outcome => rfl
  | ok request => exact request.run_preset surroundings preset

private theorem run_refusal (helpless : Helpless line)
    (refused : ∀ request, requestOf surroundings.logLevel line ≠ .ok request) :
    ∃ outcome, run surroundings line = .ok outcome ∧ IsRefusal outcome := by
  rw [run_eq]
  cases asked : requestOf surroundings.logLevel line with
  | ok request => exact absurd asked (refused request)
  | error outcome => exact ⟨outcome, rfl, (requestOf_error asked).resolve_right fun calls => calls.1 helpless⟩

private theorem option_refused {name : String} {value : Points} (known : name ∈ levelNames)
    (optionless : Optionless bare) (helpless : Helpless bare) (unknown : ∀ level, ¬ NamesLevel value level)
    (surroundings : Surroundings) :
    ∃ outcome, run surroundings ((.ofString name ++ '='.toNat :: value) :: bare) = .ok outcome ∧ IsRefusal outcome := by
  apply run_refusal
  · apply ((readsWith_self bare).attached known value).helpless helpless
    simp only [List.forall_mem_singleton]
    decide
  · intro request accepted
    exact unknown request.level (names_of_accepted known optionless accepted)

private theorem environment_refused {value : Points} (optionless : Optionless bare) (helpless : Helpless bare)
    (unknown : ∀ level, ¬ NamesLevel value level) (surroundings : Surroundings) :
    ∃ outcome, run { surroundings with logLevel := some value } bare = .ok outcome ∧ IsRefusal outcome := by
  apply run_refusal helpless
  intro request accepted
  exact unknown request.level (supplied_of_accepted (.bare optionless) accepted)

/-- The outcome of a parse that prints records, with the lines that belong to them at the level. -/
def WarnsAt (level : LogLevel) (outcome : Outcome) : Prop :=
  ∃ value, outcome.output = .ofString (value.document ++ "\n") ∧ Json.read (value.document ++ "\n").toList = .ok value ∧
    (level ∈ [.debug, .info, .warning] → WarnsOfEach outcome.warningLines (printedRecords value)) ∧
    (level ∈ [.error, .critical] → outcome.warningLines = 0)

private theorem warnsAt_of_parse (asked : requestOf surroundings.logLevel line = .ok ⟨level, some (.parse settings)⟩)
    (readable : inputOf surroundings settings = .ok (.ok input)) :
    ∃ outcome, run surroundings line = .ok outcome ∧ WarnsAt level outcome := by
  obtain ⟨source, chosen, found⟩ := exists_source readable
  have ended : run surroundings line = runParse level settings surroundings := by
    rw [run_eq, asked]
    rfl
  rw [runParse_of_input chosen found level] at ended
  refine ⟨_, ended, (report settings.all input).json, ?_, Json.read_document (legible_report settings.all input), ?_⟩
  · rfl
  · rw [Outcome.warningLines, List.count_append, count_notices, count_warningNotices, Nat.zero_add]
    constructor
    · intro shown
      have shows : level.showsWarnings = true := by revert shown; cases level <;> decide
      rw [if_pos shows]
      exact warnsOfEach_report settings.all input
    · intro hidden
      have hides : ¬ level.showsWarnings = true := by revert hidden; cases level <;> decide
      exact if_neg hides

/-- Every line either has its levels before the command, where they can be told from the rest of it, or
ends in the same way whatever the environment sets. Two runs that ask for the same at accepted
levels end alike but for the warning lines. A parse of readable input writes one for each
record it prints, unless that ends the output and is complete, or it writes none; no other
run writes any. A value is accepted as an option exactly if it is accepted from the
environment, with the same effect, and the environment is not asked where an option is given. -/
theorem log_level_reaches_only_warnings :
    (∀ text (level : LogLevel), InAnyCase text level.name → NamesLevel text level) ∧
    (∀ line, (∃ values bare, Leveled values line bare) ∨
      ∃ outcome, RefusesOrHelps mainDeclarations true line outcome ∧ ∀ surroundings, run surroundings line = .ok outcome) ∧
    (∀ values line bare preset request, Leveled values line bare → requestOf preset line = .ok request →
      Supplied preset values request.level) ∧
    (∀ bare values line preset level otherValues otherLine otherPreset other (surroundings : Surroundings),
      Leveled values line bare → Supplied preset values level →
      Leveled otherValues otherLine bare → Supplied otherPreset otherValues other →
      (run { surroundings with logLevel := preset } line).map Outcome.unwarned =
        (run { surroundings with logLevel := otherPreset } otherLine).map Outcome.unwarned) ∧
    (∀ surroundings line level settings input,
      requestOf surroundings.logLevel line = .ok ⟨level, some (.parse settings)⟩ →
      inputOf surroundings settings = .ok (.ok input) →
      ∃ outcome, run surroundings line = .ok outcome ∧ WarnsAt level outcome) ∧
    (∀ surroundings line outcome, run surroundings line = .ok outcome → outcome.warningLines ≠ 0 →
      ∃ level settings input, requestOf surroundings.logLevel line = .ok ⟨level, some (.parse settings)⟩ ∧
        inputOf surroundings settings = .ok (.ok input)) ∧
    (∀ name ∈ levelNames, ∀ value bare (surroundings : Surroundings), Optionless bare →
      let optioned := (Points.ofString name ++ '='.toNat :: value) :: bare
      let preset := { surroundings with logLevel := some value }
      (∀ level, NamesLevel value level →
        requestOf surroundings.logLevel optioned = (requestOf none bare).map (fun request => ⟨level, request.command⟩) ∧
        requestOf preset.logLevel bare = (requestOf none bare).map (fun request => ⟨level, request.command⟩) ∧
        run surroundings optioned = run preset bare) ∧
      (Helpless bare → (∀ level, ¬ NamesLevel value level) →
        (∃ outcome, run surroundings optioned = .ok outcome ∧ IsRefusal outcome) ∧
        ∃ outcome, run preset bare = .ok outcome ∧ IsRefusal outcome)) ∧
    (∀ values line bare preset (surroundings : Surroundings), Leveled values line bare → values ≠ [] →
      run { surroundings with logLevel := preset } line = run surroundings line) := by
  refine ⟨?_, ?_, ?_, ?_, ?_, ?_, ?_, ?_⟩
  · intro text level cased
    exact namesLevel_of_inAnyCase cased
  · intro line
    refine (leveled_or_settled line).imp_right ?_
    rintro ⟨outcome, settled, refused⟩
    refine ⟨outcome, settled, fun surroundings => ?_⟩
    rw [run_eq, refused]
  · intro values line bare preset request leveled accepted
    exact supplied_of_accepted leveled accepted
  · intro bare values line preset level otherValues otherLine otherPreset other surroundings leveled supplied alsoLeveled
      alsoSupplied
    exact unwarned_of_leveled leveled supplied alsoLeveled alsoSupplied surroundings
  · intro surroundings line level settings input asked readable
    exact warnsAt_of_parse asked readable
  · intro surroundings line outcome ended warned
    exact readable_of_warningLines ended warned
  · intro name known value bare surroundings optionless optioned preset
    constructor
    · intro level names
      have leveled : Leveled [value] optioned bare := .option (.attached known (.inl ⟨level, names⟩)) (.bare optionless)
      have byOption : Supplied surroundings.logLevel [value] level := names
      have byEnvironment : Supplied (some value) [] level := names
      refine ⟨requestOf_leveled leveled byOption, requestOf_leveled (.bare optionless) byEnvironment, ?_⟩
      exact (run_leveled leveled byOption surroundings).trans (run_leveled (.bare optionless) byEnvironment surroundings).symm
    · intro helpless unknown
      exact ⟨option_refused known optionless helpless unknown surroundings,
        environment_refused optionless helpless unknown surroundings⟩
  · intro values line bare preset surroundings leveled given
    exact run_ignores_preset leveled given surroundings preset

/-- A complete record is followed by a truncated one. The option hides both warnings, in spite of a level
in the environment that is not known; the level that hides them is known, and another is not. -/
theorem log_level_reaches_only_warnings_sequence :
    let bare : List Points := ["parse", "--hex", "0500010709000301", "--all"]
    let quiet : List Points := "--log-level" :: "eRRor" :: bare
    let settings : ParseSettings := ⟨.given "0500010709000301", .absent, false, true, false⟩
    let informed : Surroundings := { Surroundings.bare with logLevel := some "Info" }
    let puzzled : Surroundings := { Surroundings.bare with logLevel := some "loud" }
    InAnyCase "eRRor" LogLevel.error.name ∧ Leveled ["eRRor"] quiet bare ∧ Supplied (some "loud") ["eRRor"] .error ∧
      Leveled [] bare bare ∧ Supplied (some "Info") [] .info ∧
      (run puzzled quiet).map Outcome.unwarned = (run informed bare).map Outcome.unwarned ∧
      run puzzled quiet = run .bare quiet ∧
      requestOf informed.logLevel bare = .ok ⟨.info, some (.parse settings)⟩ ∧
      inputOf informed settings = .ok (.ok [5, 0, 1, 7, 9, 0, 3, 1]) ∧
      (∃ outcome, run informed bare = .ok outcome ∧ outcome.warningLines = 2 ∧ WarnsAt .info outcome) ∧
      Helpless bare ∧ (∃ outcome, run informed ("--log-level=loud" :: bare) = .ok outcome ∧ IsRefusal outcome) ∧
      ∃ outcome, run puzzled bare = .ok outcome ∧ IsRefusal outcome := by
  intro bare quiet settings informed puzzled
  obtain ⟨cased, _, accepted, alike, warned, _, known, ignored⟩ := log_level_reaches_only_warnings
  have inCase : InAnyCase "eRRor" LogLevel.error.name := by
    unfold InAnyCase
    decide +kernel
  have names : NamesLevel "eRRor" .error := cased _ _ inCase
  have optionless : Optionless bare := by
    unfold Optionless
    decide +kernel
  have loud : Leveled [] bare bare := .bare optionless
  have hushed : Leveled ["eRRor"] quiet bare := .option (.behind (by decide) names) loud
  have asked : requestOf informed.logLevel bare = .ok ⟨.info, some (.parse settings)⟩ := by decide +kernel
  have informedLevel : Supplied (some "Info") [] .info := accepted _ _ _ _ _ loud asked
  have found : inputOf informed settings = .ok (.ok [5, 0, 1, 7, 9, 0, 3, 1]) := by decide +kernel
  have count : (run informed bare).toOption.map Outcome.warningLines = some 2 := by decide +kernel
  have helpless : Helpless bare := by
    have command : (scanArguments mainDeclarations true bare).command = bare := by decide +kernel
    constructor
    · unfold CallsForHelp
      decide +kernel
    · intro name rest same
      obtain ⟨rfl, rfl⟩ := List.cons.inj (command.symm.trans same)
      unfold CallsForHelp
      decide +kernel
  have unknown : ∀ level, ¬ NamesLevel "loud" level := ofName?_eq_none_iff.mp (by decide +kernel)
  obtain ⟨outcome, ended, warns⟩ := warned informed bare .info settings _ asked found
  rw [ended] at count
  refine ⟨inCase, hushed, names, loud, informedLevel, ?_, ?_, asked, found, ⟨outcome, ended, Option.some.inj count, warns⟩,
    helpless, ?_⟩
  · exact alike bare _ quiet _ _ _ bare _ _ .bare hushed names loud informedLevel
  · exact ignored _ quiet bare (some "loud") .bare hushed (List.cons_ne_nil _ _)
  · have attached : Points.ofString "--log-level" ++ '='.toNat :: "loud" = "--log-level=loud" := by decide +kernel
    rw [← attached]
    exact (known "--log-level" (by decide) "loud" bare informed optionless).2 helpless unknown

end CommandLine
end CertWire
