import CertWire.Proofs.HexSpelling
import CertWire.Proofs.WarningLines

/-! Where a parse takes its octets from. Hexadecimal text on the line shuts out the file and the standard
input, and a file that is named shuts out the standard input. Which of the three gives the octets makes
no difference to the run. -/

namespace CertWire.CommandLine

open Text (Points)

/-- The chosen source holds the octets: spelled in hexadecimal, or else as they are. -/
inductive Supplies (surroundings : Surroundings) (settings : ParseSettings) : Octets → Prop
  | hex {text : Points} {input : Octets} (given : settings.hex = .given text) (spells : Text.Hex.Spells text input) :
      Supplies surroundings settings input
  | file {path : Points} {input : Octets} (plain : settings.base64 = false) (names : Names settings path)
      (opened : surroundings.openFile path = .ok input) : Supplies surroundings settings input
  | standardInput (plain : settings.base64 = false) (noHex : settings.hex = .absent)
      (nameless : ∀ path, ¬ Names settings path) (piped : surroundings.terminal = false) :
      Supplies surroundings settings surroundings.standardInput

/-- The two lines ask for a parse at the same level, and to print and fail alike; where their octets are is
left open. If the level is refused, then it is for both. -/
structure AskAlike (surroundings others : Surroundings) (arguments otherArguments : List Points)
    (settings otherSettings : ParseSettings) : Prop where
  asked : ∃ level : Except Outcome LogLevel,
    requestOf surroundings.logLevel arguments = level.map (⟨·, some (.parse settings)⟩) ∧
      requestOf others.logLevel otherArguments = level.map (⟨·, some (.parse otherSettings)⟩)
  all : otherSettings.all = settings.all
  strict : otherSettings.strict = settings.strict

variable {surroundings others : Surroundings} {arguments otherArguments : List Points}
  {settings otherSettings : ParseSettings} {input : Octets} {path text : Points} {preset : Option Points}

/-- A run depends on its settings and surroundings through the source, what is in it and the prompt. -/
theorem runParse_congr (all : otherSettings.all = settings.all) (strict : otherSettings.strict = settings.strict)
    (source : otherSettings.source = settings.source)
    (octets : ∀ source, settings.source = .ok source →
      source.octets otherSettings.base64 others = source.octets settings.base64 surroundings ∧
        source.notices others = source.notices surroundings)
    (level : LogLevel) : runParse level otherSettings others = runParse level settings surroundings := by
  unfold runParse
  rw [source, all, strict]
  cases chosen : settings.source with
  | error escape => rfl
  | ok source =>
    obtain ⟨same, notices⟩ := octets source chosen
    simp only [bind, Except.bind, same, notices]

private theorem source_of_hex (present : settings.hex ≠ .absent) (same : otherSettings.hex = settings.hex) :
    otherSettings.source = settings.source ∧
      ∀ source, settings.source = .ok source → ∃ text, source = .hex text := by
  unfold ParseSettings.source
  rw [same]
  cases hex : settings.hex with
  | absent => exact absurd hex present
  | blank =>
    refine ⟨rfl, ?_⟩
    rintro source ⟨⟩
  | given text =>
    refine ⟨rfl, ?_⟩
    rintro source ⟨⟩
    exact ⟨text, rfl⟩

private theorem runParse_of_hex (all : otherSettings.all = settings.all)
    (strict : otherSettings.strict = settings.strict) (present : settings.hex ≠ .absent)
    (same : otherSettings.hex = settings.hex) (level : LogLevel) :
    runParse level otherSettings others = runParse level settings surroundings := by
  obtain ⟨source, ofHex⟩ := source_of_hex present same
  apply runParse_congr all strict source
  intro chosen found
  obtain ⟨text, rfl⟩ := ofHex chosen found
  exact ⟨rfl, rfl⟩

private theorem runParse_of_names (all : otherSettings.all = settings.all)
    (strict : otherSettings.strict = settings.strict) (names : Names settings path)
    (alsoNames : Names otherSettings path) (base64 : otherSettings.base64 = settings.base64)
    (content : others.openFile path = surroundings.openFile path) (level : LogLevel) :
    runParse level otherSettings others = runParse level settings surroundings := by
  have source := source_of_names names
  apply runParse_congr all strict ((source_of_names alsoNames).trans source.symm)
  intro chosen found
  cases source.symm.trans found
  rw [base64]
  refine ⟨?_, rfl⟩
  simp only [InputSource.octets, content]

theorem Supplies.source (supplies : Supplies surroundings settings input) :
    ∃ source, settings.source = .ok source ∧ source.octets settings.base64 surroundings = .ok (.ok input) ∧
      source.notices surroundings = [] := by
  cases supplies with
  | @hex text _ given spells =>
    have decoded := Text.Hex.decode_eq_ok_iff.mpr spells
    refine ⟨.hex text, by simp only [ParseSettings.source, given], ?_, rfl⟩
    simp only [InputSource.octets, decoded]
    rfl
  | @file path _ plain names opened =>
    refine ⟨.file path, source_of_names names, ?_, rfl⟩
    simp only [InputSource.octets, opened, plain]
    rfl
  | standardInput plain noHex nameless piped =>
    refine ⟨.standardInput, source_of_nameless noHex nameless, ?_, ?_⟩
    · simp only [InputSource.octets, plain]
      rfl
    · simp [InputSource.notices, piped]

private theorem runParse_of_supplies (supplies : Supplies surroundings settings input) (level : LogLevel) :
    runParse level settings surroundings =
      .ok ⟨statusOf settings.strict (report settings.all input).conditions,
        .ofString ((report settings.all input).json.document ++ "\n"),
        warningNotices level (report settings.all input).warnings⟩ := by
  obtain ⟨source, chosen, found, silent⟩ := supplies.source
  rw [runParse_of_input chosen found, silent]
  rfl

/-- A parse at a level that may have been refused. -/
def parseAt (surroundings : Surroundings) (settings : ParseSettings) : Except Outcome LogLevel → Except Escape Outcome
  | .error refusal => .ok refusal
  | .ok level => runParse level settings surroundings

/-- What a parse of these octets ends with, wherever they are from. -/
def parsed (all strict : Bool) (input : Octets) : Except Outcome LogLevel → Outcome
  | .error refusal => refusal
  | .ok level =>
    ⟨statusOf strict (report all input).conditions, .ofString ((report all input).json.document ++ "\n"),
      warningNotices level (report all input).warnings⟩

private theorem parseAt_of_supplies (supplies : Supplies surroundings settings input)
    (level : Except Outcome LogLevel) :
    parseAt surroundings settings level = .ok (parsed settings.all settings.strict input level) := by
  cases level with
  | error refusal => rfl
  | ok level => exact runParse_of_supplies supplies level

theorem run_of_request {level : Except Outcome LogLevel}
    (asked : requestOf surroundings.logLevel arguments = level.map (⟨·, some (.parse settings)⟩)) :
    run surroundings arguments = parseAt surroundings settings level := by
  rw [run_eq, asked]
  cases level <;> rfl

theorem AskAlike.run_eq_run (alike : AskAlike surroundings others arguments otherArguments settings otherSettings)
    (same : ∀ level, runParse level otherSettings others = runParse level settings surroundings) :
    run others otherArguments = run surroundings arguments := by
  obtain ⟨level, asked, alsoAsked⟩ := alike.asked
  rw [run_of_request asked, run_of_request alsoAsked]
  cases level with
  | error refusal => rfl
  | ok level => exact same level

theorem AskAlike.run_of_supplies (alike : AskAlike surroundings others arguments otherArguments settings otherSettings)
    (supplies : Supplies surroundings settings input) (alsoSupplies : Supplies others otherSettings input) :
    ∃ outcome, run surroundings arguments = .ok outcome ∧ run others otherArguments = .ok outcome := by
  obtain ⟨level, asked, alsoAsked⟩ := alike.asked
  refine ⟨parsed settings.all settings.strict input level, ?_, ?_⟩
  · exact (run_of_request asked).trans (parseAt_of_supplies supplies level)
  · rw [← alike.all, ← alike.strict]
    exact (run_of_request alsoAsked).trans (parseAt_of_supplies alsoSupplies level)

def Setting.ofOption {α : Type} : Option α → Setting α
  | none => absent
  | some value => given value

/-- A `parse` line with any of the options that say where the octets are. -/
def sourceLine (hex input : Option Points) (base64 all strict : Bool) : List Points :=
  let option (name : String) (value : Option Points) : List Points := value.elim [] fun text => [.ofString name, text]
  let flag (name : String) (shown : Bool) : List Points := if shown then [.ofString name] else []
  "parse" :: (option "--hex" hex ++ option "--input" input ++ flag "--base64" base64 ++ flag "--all" all ++
    flag "--strict" strict)

def sourceOptions (hex input : Option Points) (base64 : Bool) : List Occurrence :=
  (hex.toList.map fun text => ⟨hexOption, some text⟩) ++ (input.toList.map fun path => ⟨inputOption, some path⟩) ++
    if base64 then [⟨base64Option, none⟩] else []

private theorem sourceLine_eq_written (hex input : Option Points) (base64 all strict : Bool) :
    sourceLine hex input base64 all strict =
      .ofString "parse" :: (sourceOptions hex input base64 ++ flags all strict).flatMap Occurrence.written := by
  cases hex <;> cases input <;> cases base64 <;> cases all <;> cases strict <;> rfl

private theorem full_sourceOptions {hex input : Option Points} (plainHex : ∀ text ∈ hex, text.head? ≠ some dash)
    (plainInput : ∀ path ∈ input, path.head? ≠ some dash) (base64 : Bool) :
    ∀ occurrence ∈ sourceOptions hex input base64, Full parseDeclarations occurrence := by
  have known : Full parseDeclarations ⟨base64Option, none⟩ := ⟨by decide, by decide, rfl, by simp⟩
  intro occurrence member
  rcases List.mem_append.mp member with valued | flag
  · rcases List.mem_append.mp valued with ofHex | ofInput
    · obtain ⟨text, given, rfl⟩ := List.mem_map.mp ofHex
      exact full_undashed (by decide) (by decide) rfl (plainHex text (Option.mem_toList.mp given))
    · obtain ⟨path, given, rfl⟩ := List.mem_map.mp ofInput
      exact full_undashed (by decide) (by decide) rfl (plainInput path (Option.mem_toList.mp given))
  · cases base64 with
    | false => cases flag
    | true =>
      cases List.mem_singleton.mp flag
      exact known

theorem requestOf_sourceLine {hex input : Option Points} (plainHex : ∀ text ∈ hex, text.head? ≠ some dash)
    (plainInput : ∀ path ∈ input, path.head? ≠ some dash) (preset : Option Points) (base64 all strict : Bool) :
    requestOf preset (sourceLine hex input base64 all strict) =
      (levelOf .absent preset).map
        (⟨·, some (.parse ⟨.ofOption hex, .ofOption input, base64, all, strict⟩)⟩) := by
  have full : ∀ occurrence ∈ sourceOptions hex input base64 ++ flags all strict, Full parseDeclarations occurrence := by
    intro occurrence member
    rcases List.mem_append.mp member with source | flag
    · exact full_sourceOptions plainHex plainInput base64 occurrence source
    · exact full_flags all strict occurrence flag
  have applied : (sourceOptions hex input base64 ++ flags all strict).foldlM applyParse
      ⟨.absent, .absent, false, false, false⟩ = .ok ⟨.ofOption hex, .ofOption input, base64, all, strict⟩ := by
    cases hex <;> cases input <;> cases base64 <;> cases all <;> cases strict <;> rfl
  have asked := requestOf_parse levelOf_standard full applied
  have word : IsWord mainDeclarations "parse" := isWord_of_undashed (by decide +kernel)
  have none : lastLevel [] = .absent := rfl
  rw [sourceLine_eq_written, requestOf_line (.bare (optionless_word word.1 word.2 _)), asked, none]
  cases levelOf .absent preset <;> rfl

private theorem undashed_of_spells (spells : Text.Hex.Spells text input) : text.head? ≠ some dash := by
  intro dashed
  cases spells with
  | done => cases dashed
  | space blank rest =>
    cases dashed
    exact absurd blank (by decide)
  | @octet octet _ _ _ _ top bottom rest =>
    have bound : octet.toNat < 256 := octet.toNat_lt
    cases dashed
    cases Text.Hex.digit?_eq_some_iff.mpr ⟨show octet.toNat / 16 < 16 by omega, top⟩

/-- The run of a line, given what its source holds. -/
theorem run_sourceLine {hex file : Option Points} {base64 all strict : Bool} (plainHex : ∀ text ∈ hex, text.head? ≠ some dash)
    (plainFile : ∀ path ∈ file, path.head? ≠ some dash) (known : surroundings.logLevel = preset)
    (supplies : Supplies surroundings ⟨.ofOption hex, .ofOption file, base64, all, strict⟩ input) :
    run surroundings (sourceLine hex file base64 all strict) = .ok (parsed all strict input (levelOf .absent preset)) := by
  have asked := requestOf_sourceLine plainHex plainFile surroundings.logLevel base64 all strict
  rw [run_of_request asked, parseAt_of_supplies supplies, known]

/-- Without the option, or with nothing as its value, no file is named. -/
theorem nameless_of_member {file : Option Points} {base64 all strict : Bool} (member : file ∈ [none, some []]) :
    (∀ path ∈ file, path.head? ≠ some dash) ∧
      ∀ path, ¬ Names ⟨.absent, .ofOption file, base64, all, strict⟩ path := by
  rcases List.mem_pair.mp member with rfl | rfl
  · refine ⟨by simp, ?_⟩
    rintro path ⟨_, given, _⟩
    cases given
  · refine ⟨by simp, ?_⟩
    rintro path ⟨_, given, occupied⟩
    cases given
    exact occupied rfl

/-- Each line whose source holds the octets ends with the outcome, whatever is in the sources it leaves. -/
structure EveryLineEnds (preset : Option Points) (text path : Points) (all strict : Bool) (input : Octets)
    (outcome : Outcome) : Prop where
  hex : ∀ surroundings, surroundings.logLevel = preset → ∀ file base64, (∀ path ∈ file, path.head? ≠ some dash) →
    run surroundings (sourceLine (some text) file base64 all strict) = .ok outcome
  file : ∀ surroundings, surroundings.logLevel = preset → surroundings.openFile path = .ok input →
    run surroundings (sourceLine none (some path) false all strict) = .ok outcome
  standardInput : ∀ surroundings, surroundings.logLevel = preset → surroundings.terminal = false →
    surroundings.standardInput = input → ∀ file ∈ [none, some []],
      run surroundings (sourceLine none file false all strict) = .ok outcome

private theorem exists_everyLineEnds (spells : Text.Hex.Spells text input) (occupied : path ≠ [])
    (undashed : path.head? ≠ some dash) (preset : Option Points) (all strict : Bool) :
    ∃ outcome, EveryLineEnds preset text path all strict input outcome := by
  have noText : ∀ text ∈ (none : Option Points), text.head? ≠ some dash := by simp
  refine ⟨parsed all strict input (levelOf .absent preset), ?_, ?_, ?_⟩
  · intro surroundings known file base64 plain
    refine run_sourceLine ?_ plain known (.hex rfl spells)
    rintro _ ⟨⟩
    exact undashed_of_spells spells
  · intro surroundings known opened
    refine run_sourceLine noText ?_ known (.file rfl ⟨rfl, rfl, occupied⟩ opened)
    rintro _ ⟨⟩
    exact undashed
  · rintro surroundings known piped rfl file member
    obtain ⟨plain, nameless⟩ := nameless_of_member member
    exact run_sourceLine noText plain known (.standardInput rfl rfl nameless piped)

/-- A parse ends alike with the same octets from any source. Hexadecimal text, empty or a separator in its
place too, shuts out the standard input, `--base64` and the file, there or not; a file that is named
shuts out the standard input. Lines that are written in full ask for what they say. -/
theorem chosen_source_decides :
    (∀ {surroundings others arguments otherArguments settings otherSettings},
      AskAlike surroundings others arguments otherArguments settings otherSettings →
        (∀ input, Supplies surroundings settings input → Supplies others otherSettings input →
          ∃ outcome, run surroundings arguments = .ok outcome ∧ run others otherArguments = .ok outcome) ∧
        (settings.hex ≠ .absent → otherSettings.hex = settings.hex →
          run others otherArguments = run surroundings arguments) ∧
        ∀ path, Names settings path → Names otherSettings path → otherSettings.base64 = settings.base64 →
          others.openFile path = surroundings.openFile path →
            run others otherArguments = run surroundings arguments) ∧
    (∀ {hex file}, (∀ text ∈ hex, text.head? ≠ some dash) → (∀ path ∈ file, path.head? ≠ some dash) →
      ∀ preset base64 all strict, requestOf preset (sourceLine hex file base64 all strict) =
        (levelOf .absent preset).map (⟨·, some (.parse ⟨.ofOption hex, .ofOption file, base64, all, strict⟩)⟩)) ∧
    ∀ {text path input}, Text.Hex.Spells text input → path ≠ [] → path.head? ≠ some dash →
      ∀ preset all strict, ∃ outcome, EveryLineEnds preset text path all strict input outcome := by
  refine ⟨?_, requestOf_sourceLine, exists_everyLineEnds⟩
  intro surroundings others arguments otherArguments settings otherSettings alike
  refine ⟨fun input => alike.run_of_supplies, ?_, ?_⟩
  · intro present same
    exact alike.run_eq_run (runParse_of_hex alike.all alike.strict present same)
  · intro path names alsoNames base64 content
    exact alike.run_eq_run (runParse_of_names alike.all alike.strict names alsoNames base64 content)

/-- One certificate from every source, and empty text that shuts out a file that is not there. -/
theorem chosen_source_decides_spaced :
    let input : Octets := [5, 0, 1, 10]
    let stored : Surroundings := { Surroundings.bare with openFile := fun _ => .ok input }
    let typed : Surroundings := { stored with terminal := true, standardInput := [9] }
    let fromFile := sourceLine none (some "cert.bin") false false true
    let empty := sourceLine (some []) (some "missing") true false true
    (∃ outcome, run .bare (sourceLine (some "0500010a") none false false true) = .ok outcome ∧
      run stored fromFile = .ok outcome) ∧
    run typed empty = run .bare (sourceLine (some []) none false false true) ∧
    run typed fromFile = run stored fromFile ∧
    ∃ outcome, EveryLineEnds none "05 00\n01 0A" "cert.bin" false true input outcome ∧ outcome.status = 0 := by
  intro input stored typed fromFile empty
  obtain ⟨chosen, asked, ends⟩ := chosen_source_decides
  have small : Text.Hex.Spells "0500010a" input := Text.Hex.decode_eq_ok_iff.mp (by decide +kernel)
  have spaced : Text.Hex.Spells "05 00\n01 0A" input := Text.Hex.decode_eq_ok_iff.mp (by decide +kernel)
  have named : Points.ofString "cert.bin" ≠ [] ∧ (Points.ofString "cert.bin").head? ≠ some dash := by decide
  have noText : ∀ text ∈ (none : Option Points), text.head? ≠ some dash := by simp
  have plainText : ∀ text ∈ some (Points.ofString "0500010a"), text.head? ≠ some dash := by decide
  have plainEmpty : ∀ text ∈ some ([] : Points), text.head? ≠ some dash := by decide
  have plainFile : ∀ path ∈ some (Points.ofString "cert.bin"), path.head? ≠ some dash := by decide
  have plainMissing : ∀ path ∈ some (Points.ofString "missing"), path.head? ≠ some dash := by decide
  refine ⟨?_, ?_, ?_, ?_⟩
  · have alike : AskAlike .bare stored _ fromFile _ _ :=
      ⟨⟨_, asked plainText noText none false false true, asked noText plainFile none false false true⟩, rfl, rfl⟩
    exact (chosen alike).1 input (.hex rfl small) (.file rfl ⟨rfl, rfl, named.1⟩ rfl)
  · have alike : AskAlike .bare typed _ empty _ _ :=
      ⟨⟨_, asked plainEmpty noText none false false true, asked plainEmpty plainMissing none true false true⟩, rfl, rfl⟩
    exact (chosen alike).2.1 (by decide) rfl
  · have alike : AskAlike stored typed fromFile fromFile _ _ :=
      ⟨⟨_, asked noText plainFile none false false true, asked noText plainFile none false false true⟩, rfl, rfl⟩
    exact (chosen alike).2.2 _ ⟨rfl, rfl, named.1⟩ ⟨rfl, rfl, named.1⟩ rfl rfl
  · obtain ⟨outcome, every⟩ := ends spaced named.1 named.2 none false true
    have status : (run .bare (sourceLine (some "05 00\n01 0A") none false false true)).toOption.map Outcome.status = some 0 := by
      decide +kernel
    rw [every.hex .bare rfl none false noText] at status
    exact ⟨outcome, every, Option.some.inj status⟩

end CertWire.CommandLine
