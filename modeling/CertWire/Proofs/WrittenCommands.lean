import CertWire.Proofs.WrittenOptions

/-! Command lines that parse and that write. The main program passes on what stands behind a command,
whatever it would take it for itself, so that each line asks for the settings written on it. -/

namespace CertWire.CommandLine

open Text (Points)

variable {declarations : List Declaration} {argument : Points} {occurrence : Occurrence}

def mainDeclarations : List Declaration := [helpOption, logLevelOption]

/-- A command is found with all that follows it, although the options there are not those of
the main program. -/
theorem scanArguments_command {name : Points} {rest : List Points} (word : IsWord mainDeclarations name)
    (sortable : ∀ argument ∈ rest, Sortable mainDeclarations argument) :
    scanArguments mainDeclarations true (name :: rest) = { Scan.nothing with command := name :: rest } := by
  obtain ⟨sorted, remaining, texts⟩ := exists_classifyAll sortable
  rw [scanArguments, classifyAll_cons word.1 word.2 remaining]
  simp [scan, texts, Argument.text]

private theorem requestOf_command {preset : Option Points} {level : LogLevel} {command : Command} {name : Points}
    {rest : List Points} (accepted : levelOf .absent preset = .ok level) (word : IsWord mainDeclarations name)
    (sortable : ∀ argument ∈ rest, Sortable mainDeclarations argument) (asked : commandOf name rest = .ok (command, [])) :
    requestOf preset (name :: rest) = .ok ⟨level, some command⟩ := by
  have found : settingsOf mainProgram mainDeclarations true .absent applyLogLevel (name :: rest) =
      .ok (.absent, { Scan.nothing with command := name :: rest }) := by
    rw [settingsOf, scanArguments_command word sortable]
    rfl
  unfold mainDeclarations at found
  rw [requestOf, found]
  simp only [bind, Except.bind, asked, Functor.map, Except.map, Option.map_some, Option.getD_some, Scan.nothing,
    List.append_nil, List.isEmpty_nil, Bool.not_true, Bool.false_eq_true, if_false, accepted]
  rfl

def parseDeclarations : List Declaration :=
  [helpOption, hexOption, inputOption, base64Option, allOption, strictOption]

def encodeDeclarations : List Declaration := [helpOption, kindOption, payloadOption, lengthOption]

private theorem commandOf_parse {occurrences : List Occurrence} {settings : ParseSettings}
    (plain : ∀ occurrence ∈ occurrences, Plain parseDeclarations occurrence)
    (helpless : ∀ occurrence ∈ occurrences, occurrence.declaration ≠ helpOption)
    (applied : occurrences.foldlM applyParse ⟨.absent, .absent, false, false, false⟩ = .ok settings) :
    commandOf "parse" (occurrences.flatMap Occurrence.written) = .ok (.parse settings, []) := by
  have found : settingsOf parseProgram parseDeclarations false _ applyParse _ = _ :=
    settingsOf_written plain helpless applied
  unfold parseDeclarations at found
  rw [commandOf, if_pos rfl]
  simp only [found]
  rfl

private theorem commandOf_encode {occurrences : List Occurrence} {settings : EncodeSettings}
    (plain : ∀ occurrence ∈ occurrences, Plain encodeDeclarations occurrence)
    (helpless : ∀ occurrence ∈ occurrences, occurrence.declaration ≠ helpOption)
    (applied : occurrences.foldlM applyEncode ⟨.absent, .given [], .absent⟩ = .ok settings)
    (required : settings.kind ≠ .absent) :
    commandOf "encode" (occurrences.flatMap Occurrence.written) = .ok (.encode settings, []) := by
  have found : settingsOf encodeProgram encodeDeclarations false _ applyEncode _ = _ :=
    settingsOf_written plain helpless applied
  unfold encodeDeclarations at found
  rw [commandOf, if_neg (by decide +kernel), if_pos rfl]
  simp only [found, bind, Except.bind, required, if_false]
  rfl

private theorem fullName_known :
    (∀ declaration ∈ parseDeclarations ++ encodeDeclarations,
      Points.ofString declaration.fullName ≠ separatorText ∧
      (classify mainDeclarations (.ofString declaration.fullName)).toOption.isSome) ∧
    (∀ declarations ∈ [parseDeclarations, encodeDeclarations], ∀ declaration ∈ declarations,
      classify declarations (.ofString declaration.fullName) =
        .ok (.option (.ofString declaration.fullName) (some ⟨declaration, declaration.fullName, none⟩))) := by
  decide +kernel

private theorem numberless : ∀ declarations ∈ [mainDeclarations, encodeDeclarations], Numberless declarations := by
  unfold Numberless
  decide +kernel

/-- An option of a command with a value, if it takes one, that is a word to every reader. -/
structure Full (declarations : List Declaration) (occurrence : Occurrence) : Prop where
  member : occurrence.declaration ∈ declarations
  helpless : occurrence.declaration ≠ helpOption
  takesValue : occurrence.declaration.takesValue = occurrence.value.isSome
  value : ∀ value ∈ occurrence.value, IsWord declarations value ∧ IsWord mainDeclarations value

theorem Full.among (full : Full declarations occurrence) (command : declarations ∈ [parseDeclarations, encodeDeclarations]) :
    occurrence.declaration ∈ parseDeclarations ++ encodeDeclarations := by
  have member := full.member
  simp only [List.mem_cons, List.not_mem_nil, or_false] at command
  rw [List.mem_append]
  rcases command with rfl | rfl
  · exact .inl member
  · exact .inr member

theorem Full.plain (full : Full declarations occurrence) (command : declarations ∈ [parseDeclarations, encodeDeclarations]) :
    Plain declarations occurrence :=
  ⟨(fullName_known.1 _ (full.among command)).1, fullName_known.2 _ command _ full.member, full.takesValue,
    fun value given => (full.value value given).1⟩

theorem Full.sortable (full : Full declarations occurrence)
    (command : declarations ∈ [parseDeclarations, encodeDeclarations]) :
    ∀ argument ∈ occurrence.written, Sortable mainDeclarations argument := by
  obtain ⟨unlike, known⟩ := fullName_known.1 _ (full.among command)
  rw [Occurrence.written, List.forall_mem_cons]
  refine ⟨⟨unlike, ?_⟩, ?_⟩
  · cases sorted : classify mainDeclarations (.ofString occurrence.declaration.fullName) with
    | error fault => simp [sorted, Except.toOption] at known
    | ok argument => exact ⟨argument, rfl⟩
  · intro value given
    exact (full.value value (Option.mem_toList.mp given)).2.sortable

private theorem sortable_written {occurrences : List Occurrence}
    (full : ∀ occurrence ∈ occurrences, Full declarations occurrence)
    (command : declarations ∈ [parseDeclarations, encodeDeclarations]) :
    ∀ argument ∈ occurrences.flatMap Occurrence.written, Sortable mainDeclarations argument := by
  intro argument member
  obtain ⟨occurrence, inside, here⟩ := List.mem_flatMap.mp member
  exact (full occurrence inside).sortable command argument here

variable {preset : Option Points} {level : LogLevel}

theorem requestOf_parse {occurrences : List Occurrence} {settings : ParseSettings}
    (accepted : levelOf .absent preset = .ok level) (full : ∀ occurrence ∈ occurrences, Full parseDeclarations occurrence)
    (applied : occurrences.foldlM applyParse ⟨.absent, .absent, false, false, false⟩ = .ok settings) :
    requestOf preset ("parse" :: occurrences.flatMap Occurrence.written) = .ok ⟨level, some (.parse settings)⟩ :=
  requestOf_command accepted (isWord_of_undashed (by decide +kernel)) (sortable_written full List.mem_cons_self)
    (commandOf_parse (fun occurrence member => (full occurrence member).plain List.mem_cons_self)
      (fun occurrence member => (full occurrence member).helpless) applied)

theorem requestOf_encode {occurrences : List Occurrence} {settings : EncodeSettings}
    (accepted : levelOf .absent preset = .ok level) (full : ∀ occurrence ∈ occurrences, Full encodeDeclarations occurrence)
    (applied : occurrences.foldlM applyEncode ⟨.absent, .given [], .absent⟩ = .ok settings)
    (required : settings.kind ≠ .absent) :
    requestOf preset ("encode" :: occurrences.flatMap Occurrence.written) = .ok ⟨level, some (.encode settings)⟩ := by
  have command : encodeDeclarations ∈ [parseDeclarations, encodeDeclarations] := by simp
  exact requestOf_command accepted (isWord_of_undashed (by decide +kernel)) (sortable_written full command)
    (commandOf_encode (fun occurrence member => (full occurrence member).plain command)
      (fun occurrence member => (full occurrence member).helpless) applied required)

/-- The options of `parse` that say what to print and when to fail. -/
def flags (all strict : Bool) : List Occurrence :=
  (if all then [⟨allOption, none⟩] else []) ++ if strict then [⟨strictOption, none⟩] else []

theorem full_flags (all strict : Bool) : ∀ occurrence ∈ flags all strict, Full parseDeclarations occurrence := by
  have flag : ∀ declaration ∈ [allOption, strictOption], Full parseDeclarations ⟨declaration, none⟩ := by
    intro declaration member
    have known : ∀ declaration ∈ [allOption, strictOption], declaration ∈ parseDeclarations ∧
        declaration ≠ helpOption ∧ declaration.takesValue = false := by
      decide
    obtain ⟨inside, helpless, valueless⟩ := known declaration member
    exact ⟨inside, helpless, valueless, by simp⟩
  have both := List.forall_mem_cons.mp flag
  cases all <;> cases strict <;> simp [flags, both.1, both.2]

theorem full_undashed {declaration : Declaration} {text : Points} (member : declaration ∈ declarations)
    (helpless : declaration ≠ helpOption) (valued : declaration.takesValue = true) (undashed : text.head? ≠ some dash) :
    Full declarations ⟨declaration, some text⟩ := by
  refine ⟨member, helpless, valued, ?_⟩
  rintro value ⟨⟩
  exact ⟨isWord_of_undashed undashed, isWord_of_undashed undashed⟩

/-- A `parse` line with the octets on it. -/
def parseLine (text : Points) (all strict : Bool) : List Points :=
  "parse" :: "--hex" :: text ::
    ((if all then [Points.ofString "--all"] else []) ++ if strict then [Points.ofString "--strict"] else [])

private theorem parseLine_eq_written (text : Points) (all strict : Bool) :
    parseLine text all strict =
      .ofString "parse" :: (⟨hexOption, some text⟩ :: flags all strict).flatMap Occurrence.written := by
  cases all <;> cases strict <;>
    simp [parseLine, flags, Occurrence.written, Declaration.fullName, hexOption, allOption, strictOption]

theorem requestOf_parseLine {text : Points} (accepted : levelOf .absent preset = .ok level)
    (undashed : text.head? ≠ some dash) (all strict : Bool) :
    requestOf preset (parseLine text all strict) =
      .ok ⟨level, some (.parse ⟨.given text, .absent, false, all, strict⟩)⟩ := by
  have full : ∀ occurrence ∈ ⟨hexOption, some text⟩ :: flags all strict, Full parseDeclarations occurrence :=
    List.forall_mem_cons.mpr ⟨full_undashed (by decide) (by decide) rfl undashed, full_flags all strict⟩
  rw [parseLine_eq_written]
  exact requestOf_parse accepted full (by cases all <;> cases strict <;> rfl)

private theorem full_integer {declaration : Declaration} (member : declaration ∈ [kindOption, lengthOption])
    (number : Int) : Full encodeDeclarations ⟨declaration, some (.ofString (toString number))⟩ := by
  have known : ∀ declaration ∈ [kindOption, lengthOption], declaration ∈ encodeDeclarations ∧
      declaration ≠ helpOption ∧ declaration.takesValue = true := by
    decide
  obtain ⟨inside, helpless, valued⟩ := known declaration member
  refine ⟨inside, helpless, valued, ?_⟩
  rintro value ⟨⟩
  constructor
  · exact isWord_numeral (numberless encodeDeclarations (by simp)) number
  · exact isWord_numeral (numberless mainDeclarations (by simp)) number

private theorem integerSetting_toString {declaration : Declaration} {number : Int} (short : Text.Numeral.Short number) :
    integerSetting ⟨declaration, some (.ofString (toString number))⟩ = .ok (.given number) := by
  simp only [integerSetting, Text.Numeral.read_toString short]

private theorem applyEncode_kind {number : Int} (short : Text.Numeral.Short number) (settings : EncodeSettings) :
    applyEncode settings ⟨kindOption, some (.ofString (toString number))⟩ =
      .ok { settings with kind := .given number } := by
  rw [applyEncode, if_pos rfl, integerSetting_toString short]
  rfl

private theorem applyEncode_length {number : Int} (short : Text.Numeral.Short number) (settings : EncodeSettings) :
    applyEncode settings ⟨lengthOption, some (.ofString (toString number))⟩ =
      .ok { settings with length := .given number } := by
  rw [applyEncode, if_neg (show lengthOption ≠ kindOption by decide), if_pos rfl, integerSetting_toString short]
  rfl

private theorem applyEncode_payload (text : Points) (settings : EncodeSettings) :
    applyEncode settings ⟨payloadOption, some text⟩ = .ok { settings with payloadHex := .given text } := by
  rw [applyEncode, if_neg (show payloadOption ≠ kindOption by decide),
    if_neg (show payloadOption ≠ lengthOption by decide)]
  rfl

/-- An `encode` line, with a length or without. -/
def encodeLine (kind : Int) (payload : Octets) (length : Option Int) : List Points :=
  "encode" :: "--type" :: .ofString (toString kind) :: "--payload-hex" :: .ofString (Text.Hex.encode payload) ::
    length.elim [] fun number => ["--length", .ofString (toString number)]

def encodeOptions (kind : Int) (payload : Octets) (length : Option Int) : List Occurrence :=
  ⟨kindOption, some (.ofString (toString kind))⟩ :: ⟨payloadOption, some (.ofString (Text.Hex.encode payload))⟩ ::
    length.toList.map fun number => ⟨lengthOption, some (.ofString (toString number))⟩

private theorem encodeLine_eq_written (kind : Int) (payload : Octets) (length : Option Int) :
    encodeLine kind payload length =
      .ofString "encode" :: (encodeOptions kind payload length).flatMap Occurrence.written := by
  cases length <;>
    simp [encodeLine, encodeOptions, Occurrence.written, Declaration.fullName, kindOption, payloadOption, lengthOption]

private theorem full_encodeOptions (kind : Int) (payload : Octets) (length : Option Int) :
    ∀ occurrence ∈ encodeOptions kind payload length, Full encodeDeclarations occurrence := by
  have hex : Full encodeDeclarations ⟨payloadOption, some (.ofString (Text.Hex.encode payload))⟩ :=
    full_undashed (by decide) (by decide) rfl (undashed_hex payload)
  refine List.forall_mem_cons.mpr ⟨full_integer (by simp) kind, List.forall_mem_cons.mpr ⟨hex, ?_⟩⟩
  exact List.forall_mem_map.mpr fun number _ => full_integer (by simp) number

variable {kind : Int} {length : Option Int}

private theorem foldlM_encodeOptions (shortKind : Text.Numeral.Short kind)
    (shortLength : ∀ number ∈ length, Text.Numeral.Short number) (payload : Octets) :
    (encodeOptions kind payload length).foldlM applyEncode ⟨.absent, .given [], .absent⟩ =
      .ok ⟨.given kind, .given (.ofString (Text.Hex.encode payload)), length.elim .absent .given⟩ := by
  cases length with
  | none =>
    simp only [encodeOptions, Option.toList_none, List.map_nil, List.foldlM_cons, List.foldlM_nil,
      applyEncode_kind shortKind, applyEncode_payload, bind, Except.bind]
    rfl
  | some number =>
    simp only [encodeOptions, Option.toList_some, List.map_singleton, List.foldlM_cons, List.foldlM_nil,
      applyEncode_kind shortKind, applyEncode_payload, applyEncode_length (shortLength number rfl), bind, Except.bind]
    rfl

theorem requestOf_encodeLine (accepted : levelOf .absent preset = .ok level) (shortKind : Text.Numeral.Short kind)
    (shortLength : ∀ number ∈ length, Text.Numeral.Short number) (payload : Octets) :
    requestOf preset (encodeLine kind payload length) =
      .ok ⟨level, some (.encode
        ⟨.given kind, .given (.ofString (Text.Hex.encode payload)), length.elim .absent .given⟩)⟩ := by
  rw [encodeLine_eq_written]
  exact requestOf_encode accepted (full_encodeOptions kind payload length)
    (foldlM_encodeOptions shortKind shortLength payload) (by simp)

end CertWire.CommandLine
