/-! The outcome of reconciling a declared length with the octets actually present,
and the error a caller gets who asks for nothing but well-formed records. -/

namespace CertWire

/-- At most one condition applies to a record; `none` says that its declared length and
its payload agree. -/
inductive Condition
  | none
  | tooShort
  | truncated
  | excessData
  | outOfBounds
deriving DecidableEq, Repr

/-- A refusal on account of a condition. The condition is what callers compare; the
message is for people. -/
structure CertificateError where
  condition : Condition
  message : String
deriving DecidableEq, Repr

namespace Condition

/-- Every condition, in the order in which they are documented. -/
def all : List Condition := [none, tooShort, truncated, excessData, outOfBounds]

def name : Condition → String
  | none => "NONE"
  | tooShort => "TOO_SHORT"
  | truncated => "TRUNCATED"
  | excessData => "EXCESS_DATA"
  | outOfBounds => "OUT_OF_BOUNDS"

def ofName? (name : String) : Option Condition := all.find? (·.name == name)

/-- No usable record is left. -/
def isFatal : Condition → Bool
  | tooShort | outOfBounds => true
  | _ => false

/-- The record is usable, but its length was not what the octets say. -/
def isWarning : Condition → Bool
  | truncated | excessData => true
  | _ => false

/-- The reason given to people, empty where there is nothing to explain. -/
def reason : Condition → String
  | none => ""
  | tooShort => "certificate is too short"
  | truncated => "certificate data is shorter than specified by length"
  | excessData => "certificate contains data beyond length"
  | outOfBounds => "certificate length exceeds payload"

theorem ofName?_name (condition : Condition) : ofName? condition.name = some condition := by
  cases condition <;> decide

end Condition

namespace CertificateError

/-- The error for a condition: under the message if there is one, else under the reason of
the condition, else under its name. -/
def of (condition : Condition) (message : String) : CertificateError where
  condition
  message :=
    if message ≠ "" then message
    else if condition.reason ≠ "" then condition.reason
    else condition.name

end CertificateError

/-- Refuses every condition but `none`, under the message or, if it is empty, under the
reason. -/
def Condition.require (condition : Condition) (message : String) : Except CertificateError Unit :=
  if condition = .none then .ok () else .error (.of condition message)

theorem Condition.require_of_ne {condition : Condition} (amiss : condition ≠ .none) (message : String) :
    condition.require message = .error (.of condition message) :=
  if_neg amiss

end CertWire
