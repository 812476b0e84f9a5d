import CertWire.Text.Numeral
import CertWire.Text.Quoted

/-! Integer settings that the environment may give as text. -/

namespace CertWire.Trial

abbrev Environment := String → Option Text.Points

/-- A setting by its name in the environment, and its value where that says nothing. -/
structure Setting where
  name : String
  default : Int

/-- Text that is no integer. -/
structure SettingFault where
  text : Text.Points
  fault : Text.Numeral.Fault
deriving DecidableEq, Repr

/-- The message shows the text in quotes, but not more of it than 200 characters. -/
def SettingFault.message (fault : SettingFault) : String :=
  match fault.fault with
  | .malformed =>
    "invalid literal for int() with base 10: " ++ String.ofList ((Text.quotedPoints fault.text).toList.take 200)
  | .tooLong digits =>
    s!"Exceeds the limit ({Text.Numeral.digitLimit} digits) for integer string conversion: " ++
      s!"value has {digits} digits; use sys.set_int_max_str_digits() to increase the limit"

def Setting.read (setting : Setting) (environment : Environment) : Except SettingFault Int :=
  match environment setting.name with
  | none => .ok setting.default
  | some text => (Text.Numeral.read text).mapError (⟨text, ·⟩)

/-- The seed of the random draws, with a default of each run's own. -/
def seedSetting (default : Int) : Setting := ⟨"I2PCERT_SEED", default⟩

end CertWire.Trial
