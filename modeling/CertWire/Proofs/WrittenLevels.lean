import CertWire.Proofs.WrittenCommands
import Mathlib.Data.List.Forall2

/-! Log levels on a command line. Their option stands before the command, in full or shortened, with its
value attached or behind it, and the last one counts. What a line asks for is told from the
rest of it; only where no option is given the level comes from the environment. -/

namespace CertWire.CommandLine

open Text (Points)

variable {declarations : List Declaration} {declaration : Declaration} {value argument text : Points} {level : LogLevel}

/-- The text in capital letters is the name of the level. -/
def NamesLevel (text : Points) (level : LogLevel) : Prop := Text.upper text = .ofString level.name

/-- The text is the name, with any of its letters made small. -/
def InAnyCase (text : Points) (name : String) : Prop :=
  List.Forall₂ (fun point capital => point = capital ∨ point = capital + 0x20) text (Points.ofString name)

private theorem upper_letter : ∀ level ∈ LogLevel.all, ∀ capital ∈ Points.ofString level.name,
    Text.upper [capital] = [capital] ∧ Text.upper [capital + 0x20] = [capital] := by
  decide +kernel

private theorem upper_cons (point : Nat) (rest : Points) :
    Text.upper (point :: rest) = Text.upper [point] ++ Text.upper rest := by
  simp [Text.upper]

private theorem upper_of_forall₂ {capitals : Points}
    (letters : ∀ capital ∈ capitals, Text.upper [capital] = [capital] ∧ Text.upper [capital + 0x20] = [capital])
    (cased : List.Forall₂ (fun point capital => point = capital ∨ point = capital + 0x20) text capitals) :
    Text.upper text = capitals := by
  induction cased with
  | nil => rfl
  | @cons point capital text capitals first rest ih =>
    rw [List.forall_mem_cons] at letters
    rw [upper_cons, ih letters.2]
    rcases first with rfl | rfl
    · rw [letters.1.1]
      rfl
    · rw [letters.1.2]
      rfl

theorem LogLevel.mem_all (level : LogLevel) : level ∈ LogLevel.all := by
  cases level <;> decide

theorem namesLevel_of_inAnyCase (cased : InAnyCase text level.name) : NamesLevel text level :=
  upper_of_forall₂ (upper_letter level level.mem_all) cased

theorem ofName?_eq_some_iff {name : Points} : LogLevel.ofName? name = some level ↔ name = .ofString level.name := by
  constructor
  · intro found
    have same := List.find?_some (show LogLevel.all.find? (.ofString ·.name = name) = some level from found)
    exact (of_decide_eq_true same).symm
  · rintro rfl
    cases level <;> decide +kernel

theorem ofName?_eq_none_iff : LogLevel.ofName? (Text.upper text) = none ↔ ∀ level, ¬ NamesLevel text level := by
  rw [Option.eq_none_iff_forall_ne_some]
  exact forall_congr' fun level => not_congr ofName?_eq_some_iff

private theorem undashed_of_namesLevel (names : NamesLevel text level) : text.head? ≠ some dash := by
  intro dashed
  obtain ⟨rest, rfl⟩ := List.head?_eq_some_iff.mp dashed
  have kept : Text.upper [dash] = [dash] := by decide +kernel
  rw [NamesLevel, upper_cons, kept] at names
  have unlike : ∀ level ∈ LogLevel.all, (Points.ofString level.name).head? ≠ some dash := by decide +kernel
  exact unlike level level.mem_all (by rw [← names]; rfl)

/-- No option has an equals sign in its name. -/
def Unequal (declarations : List Declaration) : Prop :=
  ∀ declaration ∈ declarations, ∀ name ∈ declaration.names, '='.toNat ∉ Points.ofString name

theorem splitAtEquals_of_attached {name : Points} (unequal : '='.toNat ∉ name) (value : Points) :
    splitAtEquals (name ++ '='.toNat :: value) = (name, some value) := by
  have before : (name ++ '='.toNat :: value).takeWhile (· ≠ '='.toNat) = name := by
    rw [List.takeWhile_append_of_pos]
    · simp
    · intro point member
      rw [decide_eq_true_eq]
      rintro rfl
      exact unequal member
  simp only [splitAtEquals, before, List.drop_left]

private theorem named?_of_attached (nameless : Unequal declarations) (name value : Points) :
    named? declarations (name ++ '='.toNat :: value) = none := by
  rw [named?, List.find?_eq_none]
  intro declaration member contained
  obtain ⟨known, named, same⟩ := List.mem_map.mp (List.contains_iff_mem.mp contained)
  exact nameless declaration member known named (by rw [same]; simp)

private theorem candidates_of_attached {name : Points} (long : separatorText.isPrefixOf name = true)
    (unequal : '='.toNat ∉ name) (value : Points) :
    candidates declarations (name ++ '='.toNat :: value) =
      (candidates declarations name).map fun spelling => { spelling with attached := some value } := by
  have alsoLong : separatorText.isPrefixOf (name ++ '='.toNat :: value) = true := by
    rw [List.isPrefixOf_iff_prefix] at long ⊢
    exact long.trans (List.prefix_append name _)
  simp only [candidates, long, alsoLong, if_true, splitAtEquals_of_attached unequal, splitAtEquals_of_unequal unequal,
    List.map_filterMap]
  congr 1
  funext pair
  split <;> rfl

/-- A long name with a value attached to it means the option that it means alone. -/
theorem classify_attached {name : Points} {known : String} (nameless : Unequal declarations)
    (long : separatorText.isPrefixOf name = true) (unequal : '='.toNat ∉ name)
    (found : classify declarations name = .ok (.option name (some ⟨declaration, known, none⟩))) (value : Points) :
    classify declarations (name ++ '='.toNat :: value) =
      .ok (.option (name ++ '='.toNat :: value) (some ⟨declaration, known, some value⟩)) := by
  obtain ⟨behind, whole⟩ := List.isPrefixOf_iff_prefix.mp long
  have dashed (after : Points) : ¬ (name ++ after).head? ≠ some dash := by
    rw [← whole]
    exact fun unlike => unlike rfl
  have several (after : Points) : name ++ after ≠ [dash] := by
    rw [← whole]
    exact fun same => by cases same
  have alone := dashed []
  have notAlone := several []
  rw [List.append_nil] at alone notAlone
  rw [classify, if_neg (dashed _), named?_of_attached nameless]
  rw [classify, if_neg alone] at found
  simp only [if_neg (several _), if_neg notAlone, splitAtEquals_of_attached unequal, splitAtEquals_of_unequal unequal,
    candidates_of_attached long unequal, Option.isSome_some, Option.isSome_none, if_true, Bool.false_eq_true,
    if_false] at found ⊢
  -- The name is the whole of an option's name, or it is the beginning of exactly one.
  cases exact : named? declarations name with
  | some declaration =>
    rw [exact] at found
    cases found
    rfl
  | none =>
    rw [exact] at found
    dsimp only at found ⊢
    split at found
    · split at found <;> cases found
    next spelling only =>
      cases found
      rw [only]
      rfl
    · cases found

theorem cluster_attached {known : String} (valued : declaration.takesValue = true) (value : Points) :
    Spelling.cluster declarations ⟨declaration, known, some value⟩ = .ok ⟨[⟨declaration, attachedValue value⟩], none⟩ := by
  cases value with
  | nil => simp [Spelling.cluster, attach, valued, attachedValue, separatorText]
  | cons letter rest => simp [Spelling.cluster, attach, valued]

/-- The names of the option for the log level: its own, and as much of that as tells it from the call for help. -/
def levelNames : List String :=
  ["--l", "--lo", "--log", "--log-", "--log-l", "--log-le", "--log-lev", "--log-leve", "--log-level"]

private theorem levelNames_known : Unequal mainDeclarations ∧ ∀ name ∈ levelNames,
    separatorText.isPrefixOf (Points.ofString name) = true ∧ '='.toNat ∉ Points.ofString name ∧
      Points.ofString name ≠ separatorText ∧
      classify mainDeclarations (.ofString name) =
        .ok (.option (.ofString name) (some ⟨logLevelOption, "--log-level", none⟩)) := by
  unfold Unequal
  decide +kernel

/-- The option takes the name of a level, and a separator for no value at all. -/
def TakenAsLevel (value : Points) : Prop := (∃ level, NamesLevel value level) ∨ value = separatorText

/-- The ways to write a value of the option. A separator stands for a value only where it is attached. -/
inductive WritesLevel (value : Points) : List Points → Prop
  | attached {name : String} (known : name ∈ levelNames) (taken : TakenAsLevel value) :
      WritesLevel value [.ofString name ++ '='.toNat :: value]
  | behind {name : String} {level : LogLevel} (known : name ∈ levelNames) (names : NamesLevel value level) :
      WritesLevel value [.ofString name, value]

/-- The main program finds no option on the line. From the command on nothing is an option of its own. -/
def Optionless (line : List Points) : Prop := (scanArguments mainDeclarations true line).occurrences = []

/-- The line is the bare one with log levels put in before the command, in this order. -/
inductive Leveled : (values line bare : List Points) → Prop
  | bare {line : List Points} (optionless : Optionless line) : Leveled [] line line
  | option {value : Points} {values option line bare : List Points} (written : WritesLevel value option)
      (rest : Leveled values line bare) : Leveled (value :: values) (option ++ line) bare
  /-- What is written as an option and is none does not keep levels from being found behind it. -/
  | unknown {argument : Points} {values line bare : List Points} (unlike : argument ≠ separatorText)
      (unknown : classify mainDeclarations argument = .ok (.option argument none)) (rest : Leveled values line bare) :
      Leveled values (argument :: line) (argument :: bare)

variable {line bare values : List Points} {found extra : List Occurrence}

/-- Both lines are read alike, but for the options found on the first, or stop for the same reason. -/
inductive ReadsWith (line bare : List Points) (found : List Occurrence) : Prop
  | stopped {fault : OptionFault} (stops : classifyAll mainDeclarations line = .error fault)
      (alsoStops : classifyAll mainDeclarations bare = .error fault) : ReadsWith line bare found
  | read {sorted others : List Argument} (sorts : classifyAll mainDeclarations line = .ok sorted)
      (alsoSorts : classifyAll mainDeclarations bare = .ok others)
      (same : scan mainDeclarations true none sorted = (scan mainDeclarations true none others).withFound found) :
      ReadsWith line bare found

theorem readsWith_self (line : List Points) : ReadsWith line line [] := by
  cases sorts : classifyAll mainDeclarations line with
  | error fault => exact .stopped sorts sorts
  | ok sorted => exact .read sorts sorts rfl

theorem classifyAll_cons_eq {first : Argument} (unlike : argument ≠ separatorText)
    (sorts : classify declarations argument = .ok first) (rest : List Points) :
    classifyAll declarations (argument :: rest) = (first :: ·) <$> classifyAll declarations rest := by
  rw [classifyAll, if_neg unlike, sorts]
  cases classifyAll declarations rest <;> rfl

theorem ReadsWith.attached (reads : ReadsWith line bare found) {name : String} (known : name ∈ levelNames)
    (value : Points) :
    ReadsWith ((Points.ofString name ++ '='.toNat :: value) :: line) bare
      (⟨logLevelOption, attachedValue value⟩ :: found) := by
  obtain ⟨long, unequal, unlike, alone⟩ := levelNames_known.2 name known
  have sorts := classify_attached levelNames_known.1 long unequal alone value
  have different : Points.ofString name ++ '='.toNat :: value ≠ separatorText := by
    intro same
    have contained : '='.toNat ∈ separatorText := by
      rw [← same]
      simp
    exact absurd contained (by decide)
  have whole := classifyAll_cons_eq different sorts line
  cases reads with
  | stopped stops alsoStops =>
    rw [stops] at whole
    exact .stopped whole alsoStops
  | read first second same =>
    rw [first] at whole
    refine .read whole second ?_
    rw [scan, cluster_attached rfl, same]
    rfl

theorem ReadsWith.behind (reads : ReadsWith line bare found) {name : String} (known : name ∈ levelNames)
    (undashed : value.head? ≠ some dash) :
    ReadsWith (.ofString name :: value :: line) bare (⟨logLevelOption, some value⟩ :: found) := by
  obtain ⟨_, _, unlike, sorts⟩ := levelNames_known.2 name known
  obtain ⟨different, word⟩ : IsWord mainDeclarations value := isWord_of_undashed undashed
  have whole := classifyAll_cons_eq unlike sorts (value :: line)
  rw [classifyAll_cons_eq different word] at whole
  cases reads with
  | stopped stops alsoStops =>
    rw [stops] at whole
    exact .stopped whole alsoStops
  | read first second same =>
    rw [first] at whole
    refine .read whole second ?_
    simp only [scan, Spelling.cluster, logLevelOption, if_true, same]
    rfl

theorem ReadsWith.unknown (reads : ReadsWith line bare found) (unlike : argument ≠ separatorText)
    (unknown : classify mainDeclarations argument = .ok (.option argument none)) :
    ReadsWith (argument :: line) (argument :: bare) found := by
  have whole := classifyAll_cons_eq unlike unknown line
  have alsoWhole := classifyAll_cons_eq unlike unknown bare
  cases reads with
  | stopped stops alsoStops =>
    rw [stops] at whole
    rw [alsoStops] at alsoWhole
    exact .stopped whole alsoWhole
  | read first second same =>
    rw [first] at whole
    rw [second] at alsoWhole
    refine .read whole alsoWhole ?_
    rw [scan, scan, same]
    rfl

/-- The options for the level that are found with these values. -/
def levelOptions (values : List Points) : List Occurrence :=
  values.map fun value => ⟨logLevelOption, attachedValue value⟩

private theorem attachedValue_of_undashed (undashed : value.head? ≠ some dash) : attachedValue value = some value := by
  have word : IsWord mainDeclarations value := isWord_of_undashed undashed
  exact if_neg word.1

theorem Leveled.reads (leveled : Leveled values line bare) : ReadsWith line bare (levelOptions values) := by
  induction leveled with
  | bare optionless => exact readsWith_self _
  | option written rest ih =>
    cases written with
    | attached known taken => exact ih.attached known _
    | behind known names =>
      have undashed := undashed_of_namesLevel names
      have reads := ih.behind known undashed
      rw [← attachedValue_of_undashed undashed] at reads
      exact reads
  | unknown unlike unknown rest ih => exact ih.unknown unlike unknown

private theorem optionless_unknown (optionless : Optionless bare) (unlike : argument ≠ separatorText)
    (unknown : classify mainDeclarations argument = .ok (.option argument none)) : Optionless (argument :: bare) := by
  have whole := classifyAll_cons_eq unlike unknown bare
  unfold Optionless scanArguments at optionless ⊢
  rw [whole]
  cases sorts : classifyAll mainDeclarations bare with
  | error fault => rfl
  | ok sorted =>
    rw [sorts] at optionless
    exact optionless

theorem Leveled.optionless (leveled : Leveled values line bare) : Optionless bare := by
  induction leveled with
  | bare optionless => exact optionless
  | option written rest ih => exact ih
  | unknown unlike unknown rest ih => exact optionless_unknown ih unlike unknown

/-- What is asked for behind the options of the main program. -/
def commandAsked (found : Scan) : Except Outcome (Option Command) := do
  let command ←
    match found.command with
    | [] => pure none
    | name :: rest => some <$> commandOf name rest
  let leftover := found.leftover ++ (command.map Prod.snd).getD []
  if !leftover.isEmpty then throw (mainProgram.refuse (unrecognized leftover))
  return command.map Prod.fst

theorem requestOf_eq (preset : Option Points) (arguments : List Points) :
    requestOf preset arguments = (do
      let (chosen, found) ← settingsOf mainProgram mainDeclarations true .absent applyLogLevel arguments
      let command ← commandAsked found
      return ⟨← levelOf chosen preset, command⟩) := by
  unfold requestOf commandAsked mainDeclarations
  simp only [bind, Except.bind, pure, Except.pure, Functor.map, Except.map, throw, throwThe, MonadExceptOf.throw]
  cases settingsOf mainProgram [helpOption, logLevelOption] true .absent applyLogLevel arguments with
  | error outcome => rfl
  | ok settings =>
    dsimp only
    cases command : settings.2.command with
    | nil =>
      dsimp only
      split <;> rfl
    | cons name rest =>
      dsimp only
      cases commandOf name rest with
      | error outcome => rfl
      | ok asked =>
        dsimp only
        split <;> rfl

theorem levelOf_standard : levelOf .absent none = .ok .warning := by decide +kernel

private theorem settingsOf_main (arguments : List Points) :
    settingsOf mainProgram mainDeclarations true .absent applyLogLevel arguments =
      (settle mainProgram applyLogLevel (scanArguments mainDeclarations true arguments) .absent
        (scanArguments mainDeclarations true arguments).occurrences).map
          fun chosen => (chosen, scanArguments mainDeclarations true arguments) := by
  rw [settingsOf]
  cases settle mainProgram applyLogLevel (scanArguments mainDeclarations true arguments) .absent
    (scanArguments mainDeclarations true arguments).occurrences <;> rfl

variable {chosen : Setting Points}

/-- Options for the level decide the level alone: what else is asked for is told from the bare line. -/
theorem requestOf_read (reads : ReadsWith line bare found) (optionless : Optionless bare)
    (settles : ∀ whole, settle mainProgram applyLogLevel whole .absent found = settle mainProgram applyLogLevel whole chosen [])
    (preset : Option Points) :
    requestOf preset line = (do
      let request ← requestOf none bare
      return ⟨← levelOf chosen preset, request.command⟩) := by
  unfold Optionless at optionless
  rw [requestOf_eq, requestOf_eq, settingsOf_main, settingsOf_main, optionless]
  cases reads with
  | stopped stops alsoStops =>
    simp only [scanArguments, stops, alsoStops]
    rfl
  | @read sorted others sorts alsoSorts same =>
    simp only [scanArguments, alsoSorts] at optionless
    simp only [scanArguments, sorts, alsoSorts, same]
    generalize scan mainDeclarations true none others = whole at optionless
    have options : (whole.withFound found).occurrences = found := by rw [Scan.withFound, optionless, List.append_nil]
    have fault : (whole.withFound found).fault = whole.fault := rfl
    have asked : commandAsked (whole.withFound found) = commandAsked whole := rfl
    rw [options, settles]
    simp only [settle, fault]
    cases whole.fault with
    | some fault => rfl
    | none =>
      simp only [Except.map, bind, Except.bind, asked, levelOf_standard]
      cases commandAsked whole <;> rfl

/-- What a value of the option sets. -/
def levelSetting (value : Points) : Setting Points := .ofValue ((attachedValue value).map Text.upper)

private theorem settle_levelOption (taken : TakenAsLevel value) (whole : Scan) (start : Setting Points)
    (rest : List Occurrence) :
    settle mainProgram applyLogLevel whole start (⟨logLevelOption, attachedValue value⟩ :: rest) =
      settle mainProgram applyLogLevel whole (levelSetting value) rest := by
  have applied : applyLogLevel start ⟨logLevelOption, attachedValue value⟩ = .ok (levelSetting value) := by
    rcases taken with ⟨level, names⟩ | rfl
    · have accepted : LogLevel.ofName? (Text.upper value) = some level := ofName?_eq_some_iff.mpr names
      simp only [levelSetting, attachedValue_of_undashed (undashed_of_namesLevel names), applyLogLevel, accepted,
        Option.isSome_some, if_true]
      rfl
    · rfl
  have helpless : logLevelOption ≠ helpOption := by decide
  rw [settle.eq_def]
  simp only [applied, helpless, if_false]

/-- What the last option sets, if there is one. -/
def lastLevel (values : List Points) : Setting Points := values.getLast?.elim .absent levelSetting

private theorem settle_levelOptions {values : List Points} (taken : ∀ value ∈ values, TakenAsLevel value)
    (whole : Scan) : settle mainProgram applyLogLevel whole .absent (levelOptions values) =
      settle mainProgram applyLogLevel whole (lastLevel values) [] := by
  suffices general : ∀ start, settle mainProgram applyLogLevel whole start (levelOptions values) =
      settle mainProgram applyLogLevel whole (values.getLast?.elim start levelSetting) [] from general .absent
  induction values with
  | nil => exact fun start => rfl
  | cons value rest ih =>
    rw [List.forall_mem_cons] at taken
    intro start
    rw [List.getLast?_cons]
    refine (settle_levelOption taken.1 whole start (levelOptions rest)).trans ?_
    rw [ih taken.2]
    cases rest.getLast? <;> rfl

theorem WritesLevel.taken {option : List Points} (written : WritesLevel value option) : TakenAsLevel value := by
  cases written with
  | attached known taken => exact taken
  | behind known names => exact .inl ⟨_, names⟩

theorem Leveled.taken (leveled : Leveled values line bare) : ∀ value ∈ values, TakenAsLevel value := by
  induction leveled with
  | bare optionless => simp
  | option written rest ih => exact List.forall_mem_cons.mpr ⟨written.taken, ih⟩
  | unknown unlike unknown rest ih => exact ih

/-- The level that counts: the last one on the line, else that of the environment, else that of warnings. -/
def Supplied (preset : Option Points) (values : List Points) (level : LogLevel) : Prop :=
  NamesLevel ((values.getLast?.or preset).getD (.ofString LogLevel.warning.name)) level

theorem levelOf_given_iff {name : Points} {preset : Option Points} :
    levelOf (.given name) preset = .ok level ↔ name = .ofString level.name := by
  rw [← ofName?_eq_some_iff]
  simp only [levelOf]
  cases LogLevel.ofName? name <;> simp

theorem levelOf_absent_iff {preset : Option Points} :
    levelOf .absent preset = .ok level ↔ NamesLevel (preset.getD (.ofString LogLevel.warning.name)) level :=
  show levelOf (.given (Text.upper (preset.getD (.ofString LogLevel.warning.name)))) none = .ok level ↔ _ from levelOf_given_iff

theorem levelOf_levelSetting_iff {preset : Option Points} :
    levelOf (levelSetting value) preset = .ok level ↔ NamesLevel value level := by
  by_cases separator : value = separatorText
  · subst separator
    exact iff_of_false (fun accepted => by cases accepted) fun names => undashed_of_namesLevel names rfl
  · rw [levelSetting, attachedValue, if_neg separator]
    exact levelOf_given_iff

theorem levelOf_lastLevel_iff {preset : Option Points} :
    levelOf (lastLevel values) preset = .ok level ↔ Supplied preset values level := by
  unfold lastLevel Supplied
  cases values.getLast? with
  | none =>
    rw [Option.none_or]
    exact levelOf_absent_iff
  | some value =>
    rw [Option.some_or]
    exact levelOf_levelSetting_iff

theorem requestOf_line (leveled : Leveled values line bare) (preset : Option Points) :
    requestOf preset line = (do
      let request ← requestOf none bare
      return ⟨← levelOf (lastLevel values) preset, request.command⟩) :=
  requestOf_read leveled.reads leveled.optionless (settle_levelOptions leveled.taken) preset

/-- The level of a line does not come into what else the line asks for. -/
theorem requestOf_leveled (leveled : Leveled values line bare) {preset : Option Points}
    (supplied : Supplied preset values level) :
    requestOf preset line = (requestOf none bare).map fun request => ⟨level, request.command⟩ := by
  rw [requestOf_line leveled, levelOf_lastLevel_iff.mpr supplied]
  cases requestOf none bare <;> rfl

theorem supplied_of_accepted (leveled : Leveled values line bare) {preset : Option Points} {request : Request}
    (accepted : requestOf preset line = .ok request) : Supplied preset values request.level := by
  rw [requestOf_line leveled] at accepted
  obtain ⟨bareRequest, _, accepted⟩ := exists_of_bind accepted
  obtain ⟨level, found, same⟩ := exists_of_bind accepted
  cases same
  exact levelOf_lastLevel_iff.mp found

end CertWire.CommandLine
