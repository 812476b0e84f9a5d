import CertWire.Json.Basic

/-! Warnings about recoverable anomalies, and the sinks that receive them. A sink is a side
channel: it may keep a warning, drop it or refuse it, but never changes a result. -/

namespace CertWire

structure Warning where
  place : String
  reason : String
  fields : List (String × Json)

/-- What a sink does with a warning. -/
inductive Manner
  | recording
  | silent
  | refusing
  /-- Passes it on to the logger of that name. -/
  | logging (logger : String)
deriving DecidableEq, Repr

/-- A sink has a name of its own, so that it can be told from others of its manner. -/
structure Sink where
  name : String
  manner : Manner
deriving DecidableEq, Repr

/-- Where a warning ended up. -/
inductive Receipt
  | recorded (sink : String) (warning : Warning)
  | logged (logger : String) (warning : Warning)

/-- A refusing sink names the place of the warning it refused. -/
structure Refusal where
  place : String
deriving DecidableEq, Repr

/-- The names by which a sink takes itself, the place and the reason of a warning. -/
def Warning.partNames : List String := ["self", "at", "reason"]

/-- The first field that goes by the name of a part. A warning with such a field cannot be
handed to any sink. -/
def Warning.ambiguousField? (warning : Warning) : Option String :=
  (warning.fields.map Prod.fst).find? partNames.contains

namespace Sink

def defaultLogger : String := "i2pcert"

/-- The sink in force where none has been chosen. -/
def standard : Sink := ⟨"LoggingSink", .logging defaultLogger⟩

def receive (sink : Sink) (warning : Warning) : Except Refusal (List Receipt) :=
  match sink.manner with
  | .recording => .ok [.recorded sink.name warning]
  | .silent => .ok []
  | .refusing => .error ⟨warning.place⟩
  | .logging logger => .ok [.logged logger warning]

/-- Hands over warnings in order, up to the first that is refused. -/
def receiveAll (sink : Sink) : List Warning → Except Refusal (List Receipt)
  | [] => .ok []
  | warning :: rest => do
    let first ← sink.receive warning
    let others ← sink.receiveAll rest
    return first ++ others

end Sink
end CertWire
