import CertWire.Proofs.Base64Text
import CertWire.Proofs.InputSources

/-! A parse of base 64 text. However the text is wrapped, the run ends as one on the octets themselves,
but for the prompt that a terminal gets. -/

namespace CertWire.CommandLine

open Text (Points)
open Text.Base64 (Wraps)

/-- The outcome but for the prompt. -/
def Outcome.unprompted (outcome : Outcome) : Outcome :=
  { outcome with notices := outcome.notices.filter (· ≠ .prompt) }

/-- The run has a status, and ends with the outcome but for the prompt. -/
def EndsAs (surroundings : Surroundings) (arguments : List Points) (outcome : Outcome) : Prop :=
  ∃ ended, run surroundings arguments = .ok ended ∧ ended.unprompted = outcome

/-- The lines that read this content, from the file or from the standard input, end with the outcome. -/
structure EveryPlaceEnds (preset : Option Points) (path : Points) (base64 : Bool) (content : Octets)
    (all strict : Bool) (outcome : Outcome) : Prop where
  file : ∀ surroundings, surroundings.logLevel = preset → surroundings.openFile path = .ok content →
    EndsAs surroundings (sourceLine none (some path) base64 all strict) outcome
  standardInput : ∀ surroundings, surroundings.logLevel = preset → surroundings.standardInput = content →
    ∀ file ∈ [none, some []], EndsAs surroundings (sourceLine none file base64 all strict) outcome

variable {surroundings others : Surroundings} {arguments otherArguments : List Points}
  {settings otherSettings : ParseSettings} {text input : Octets} {path : Points}

private theorem filter_notices (source : InputSource) (surroundings : Surroundings) :
    (source.notices surroundings).filter (· ≠ .prompt) = [] := by
  unfold InputSource.notices
  split <;> rfl

private theorem parseAt_of_input (readable : inputOf surroundings settings = .ok (.ok input))
    (level : Except Outcome LogLevel) : ∃ ended, parseAt surroundings settings level = .ok ended ∧
      ended.unprompted = (parsed settings.all settings.strict input level).unprompted := by
  cases level with
  | error refusal => exact ⟨refusal, rfl, rfl⟩
  | ok level =>
    obtain ⟨source, chosen, found⟩ := exists_source readable
    refine ⟨_, runParse_of_input chosen found level, ?_⟩
    simp only [Outcome.unprompted, parsed, List.filter_append, filter_notices, List.nil_append]

private theorem inputOf_wrapped (wraps : Wraps text (Text.Base64.encode input)) (asked : settings.base64 = true)
    (finds : Finds surroundings settings text) : inputOf surroundings settings = .ok (.ok input) := by
  rw [inputOf_found finds, asked, wraps.decode]
  rfl

private theorem inputOf_plain (plain : settings.base64 = false) (finds : Finds surroundings settings input) :
    inputOf surroundings settings = .ok (.ok input) := by
  rw [inputOf_found finds, plain]
  rfl

theorem AskAlike.ends_of_input (alike : AskAlike surroundings others arguments otherArguments settings otherSettings)
    (readable : inputOf surroundings settings = .ok (.ok input))
    (alsoReadable : inputOf others otherSettings = .ok (.ok input)) :
    ∃ outcome, EndsAs surroundings arguments outcome ∧ EndsAs others otherArguments outcome := by
  obtain ⟨level, asked, alsoAsked⟩ := alike.asked
  obtain ⟨ended, first, outcome⟩ := parseAt_of_input readable level
  obtain ⟨other, second, same⟩ := parseAt_of_input alsoReadable level
  rw [alike.all, alike.strict, ← outcome] at same
  exact ⟨ended.unprompted, ⟨ended, (run_of_request asked).trans first, rfl⟩,
    ⟨other, (run_of_request alsoAsked).trans second, same⟩⟩

/-- A line in full ends as its level and the octets have it, wherever these are found. -/
theorem sourceLine_ends {preset : Option Points} {file : Option Points} {base64 all strict : Bool}
    (plainFile : ∀ path ∈ file, path.head? ≠ some dash) (known : surroundings.logLevel = preset)
    (readable : inputOf surroundings ⟨.absent, .ofOption file, base64, all, strict⟩ = .ok (.ok input)) :
    EndsAs surroundings (sourceLine none file base64 all strict)
      (parsed all strict input (levelOf .absent preset)).unprompted := by
  have noText : ∀ text ∈ (none : Option Points), text.head? ≠ some dash := by simp
  have asked := requestOf_sourceLine noText plainFile surroundings.logLevel base64 all strict
  obtain ⟨ended, parses, outcome⟩ := parseAt_of_input readable (levelOf .absent surroundings.logLevel)
  rw [known] at outcome
  exact ⟨ended, (run_of_request asked).trans parses, outcome⟩

private theorem everyPlaceEnds {content : Octets} {base64 : Bool} (occupied : path ≠ [])
    (undashed : path.head? ≠ some dash)
    (readable : ∀ {surroundings settings}, settings.base64 = base64 → Finds surroundings settings content →
      inputOf surroundings settings = .ok (.ok input)) (preset : Option Points) (all strict : Bool) :
    EveryPlaceEnds preset path base64 content all strict
      (parsed all strict input (levelOf .absent preset)).unprompted where
  file := by
    intro surroundings known opened
    have plain : ∀ other ∈ some path, other.head? ≠ some dash := by
      rintro _ ⟨⟩
      exact undashed
    exact sourceLine_ends plain known (readable rfl (.file ⟨rfl, rfl, occupied⟩ opened))
  standardInput := by
    rintro surroundings known rfl file member
    obtain ⟨plain, nameless⟩ := nameless_of_member member
    exact sourceLine_ends plain known (readable rfl (.standardInput rfl nameless))

/-- Where base 64 text is asked for, the standard text of some octets, with foreign octets anywhere in it,
is parsed as these octets are where it is not. That holds of any two lines that ask alike and find the one
and the other, in a file or on the standard input, and so of the lines in full. -/
theorem wrapped_text_is_its_octets :
    (∀ {surroundings others arguments otherArguments settings otherSettings text input},
      AskAlike surroundings others arguments otherArguments settings otherSettings →
        Wraps text (Text.Base64.encode input) → settings.base64 = true → Finds surroundings settings text →
          otherSettings.base64 = false → Finds others otherSettings input →
            ∃ outcome, EndsAs surroundings arguments outcome ∧ EndsAs others otherArguments outcome) ∧
    ∀ {text input path}, Wraps text (Text.Base64.encode input) → path ≠ [] → path.head? ≠ some dash →
      ∀ preset all strict, ∃ outcome, EveryPlaceEnds preset path true text all strict outcome ∧
        EveryPlaceEnds preset path false input all strict outcome := by
  constructor
  · intro surroundings others arguments otherArguments settings otherSettings text input alike wraps asked finds plain
      alsoFinds
    exact alike.ends_of_input (inputOf_wrapped wraps asked finds) (inputOf_plain plain alsoFinds)
  · intro text input path wraps occupied undashed preset all strict
    exact ⟨_, everyPlaceEnds occupied undashed (inputOf_wrapped wraps) preset all strict,
      everyPlaceEnds occupied undashed inputOf_plain preset all strict⟩

/-- Two lines of text, with an octet that is no character between the two pads. They are typed at a terminal,
and once more found where everything is. -/
theorem wrapped_text_is_its_octets_broken :
    let input : Octets := [5, 0, 1, 10]
    let text : Octets := [0x42, 0x51, 0x41, 0x42, 0x0d, 0x0a, 0x43, 0x67, 0x3d, 0x80, 0x3d]
    let typed : Surroundings := { Surroundings.bare with terminal := true, standardInput := text }
    let stored : Surroundings := { Surroundings.bare with openFile := fun _ => .ok input }
    Wraps text (Text.Base64.encode input) ∧
    (∃ outcome, EndsAs typed (sourceLine none none true true false) outcome ∧
      EndsAs stored (sourceLine none (some "cert.bin") false true false) outcome) ∧
    ∃ outcome, EveryPlaceEnds none "cert.bin" true text true true outcome ∧
      EveryPlaceEnds none "cert.bin" false input true true outcome ∧ outcome.status = 0 := by
  intro input text typed stored
  obtain ⟨alike, everyPlace⟩ := wrapped_text_is_its_octets
  have strewn : Text.Base64.Foreign 0x0d ∧ Text.Base64.Foreign 0x0a ∧ Text.Base64.Foreign 0x80 := by
    refine ⟨⟨?_, ?_, ?_, ?_, ?_⟩, ⟨?_, ?_, ?_, ?_, ?_⟩, ⟨?_, ?_, ?_, ?_, ?_⟩⟩ <;> decide
  have wraps : Wraps text (Text.Base64.encode input) :=
    .kept (.kept (.kept (.kept (.foreign strewn.1 (.foreign strewn.2.1
      (.kept (.kept (.kept (.foreign strewn.2.2 (.kept .done))))))))))
  have named : Points.ofString "cert.bin" ≠ [] ∧ (Points.ofString "cert.bin").head? ≠ some dash := by decide
  have noText : ∀ text ∈ (none : Option Points), text.head? ≠ some dash := by simp
  have plainFile : ∀ path ∈ some (Points.ofString "cert.bin"), path.head? ≠ some dash := by decide
  refine ⟨wraps, ?_, ?_⟩
  · have asked : AskAlike typed stored _ _ _ _ :=
      ⟨⟨_, requestOf_sourceLine noText noText none true true false,
        requestOf_sourceLine noText plainFile none false true false⟩, rfl, rfl⟩
    refine alike asked wraps rfl (.standardInput rfl ?_) rfl (.file ⟨rfl, rfl, named.1⟩ rfl)
    rintro path ⟨_, given, _⟩
    cases given
  · obtain ⟨outcome, wrapped, plain⟩ := everyPlace wraps named.1 named.2 none true true
    have status : (run stored (sourceLine none (some "cert.bin") false true true)).toOption.map Outcome.status =
        some 0 := by decide +kernel
    obtain ⟨ended, runs, rfl⟩ := plain.file stored rfl rfl
    rw [runs] at status
    exact ⟨_, wrapped, plain, Option.some.inj status⟩

end CertWire.CommandLine
