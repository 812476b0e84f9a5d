import CertWire.Warning

/-! What sinks make of warnings. A sink that refuses none takes all of them in order, and one
that refuses stops at the first. -/

namespace CertWire

namespace Sink

/-- The sink takes every warning. -/
def Calm (sink : Sink) : Prop := sink.manner ≠ .refusing

instance (sink : Sink) : Decidable sink.Calm := inferInstanceAs (Decidable (sink.manner ≠ .refusing))

theorem standard_calm : standard.Calm := by decide

/-- What comes of one warning at a sink that takes it. -/
def receipts (sink : Sink) (warning : Warning) : List Receipt :=
  match sink.manner with
  | .recording => [.recorded sink.name warning]
  | .logging logger => [.logged logger warning]
  | .silent | .refusing => []

variable {sink : Sink}

private theorem receive_of_calm (calm : sink.Calm) (warning : Warning) :
    sink.receive warning = .ok (sink.receipts warning) := by
  unfold receive receipts
  cases manner : sink.manner with
  | refusing => exact absurd manner calm
  | recording | silent | logging logger => rfl

private theorem receive_of_refusing (refusing : ¬ sink.Calm) (warning : Warning) :
    sink.receive warning = .error ⟨warning.place⟩ := by
  unfold receive
  cases manner : sink.manner with
  | refusing => rfl
  | recording | silent | logging logger => exact absurd (by simp [Calm, manner]) refusing

theorem receiveAll_of_calm (calm : sink.Calm) (warnings : List Warning) :
    sink.receiveAll warnings = .ok (warnings.flatMap sink.receipts) := by
  induction warnings with
  | nil => rfl
  | cons warning rest ih =>
    rw [receiveAll, receive_of_calm calm, ih]
    rfl

/-- A sink that is not calm refuses the first warning, and what follows does not reach it. -/
theorem receiveAll_of_refusing (refusing : ¬ sink.Calm) (warning : Warning) (rest : List Warning) :
    sink.receiveAll (warning :: rest) = .error ⟨warning.place⟩ := by
  rw [receiveAll, receive_of_refusing refusing]
  rfl

end Sink
end CertWire
