import CertWire.Certificate.Sequence
import CertWire.Content

/-! A session: a run of steps over named certificates, buffers and sequence readers, with
one default sink in force at a time. Buffers can be changed and are shared by reference;
certificates, remainders and encodings are values, which no later step changes. -/

namespace CertWire

/-- What a buffer slot holds: octets of its own, or the buffer of that number. -/
inductive Holding
  | octets (content : Octets)
  | buffer (index : Nat)
deriving DecidableEq, Repr

/-- Where a step takes its octets from. -/
inductive Source
  | content (given : Content)
  | slot (name : String)

/-- A sequence reader copies its buffer at its first step and keeps what is left of it. -/
inductive Progress
  | unstarted (source : Except ContentFault Holding)
  | reading (rest : Octets)
  | finished

/-- A sequence reader; without a sink of its own it uses the default one of each moment. -/
structure SequenceReader where
  sink : Option Sink
  progress : Progress

/-- Why a step fails. -/
inductive SessionFault
  | emptySlot (name : String)
  | refused (refusal : Refusal)
  /-- A field of a warning for the sink goes by the name of a part. -/
  | ambiguousField (sink : Sink) (name : String)
  | certificate (error : CertificateError)
  | content (fault : ContentFault)
  | assignment (field : Text.Points)
  | deletion (field : Text.Points)
  | position
  /-- A number cannot be a position at all. -/
  | unfitPosition
  | octet
  | unchangeable (appending : Bool)

/-- One step. `into` and `rest` name the slots that take its results. -/
inductive Step
  | create (kind length : Int) (payload : Source) (into : String)
  | build (kind : Int) (payload : Source) (into : String)
  | read (data : Source) (sink : Option Sink) (into rest : String)
  | readStrict (data : Source) (allowRemainder : Bool) (into rest : String)
  | length (subject : String) (sink : Option Sink)
  | data (subject : String) (sink : Option Sink) (into : String)
  | encode (subject : String) (into : String)
  | setField (subject : String) (field : Text.Points)
  | deleteField (subject : String) (field : Text.Points)
  | inspect (subject : String)
  | compare (left right : String)
  | countDistinct (subjects : List String)
  | setDefaultSink (sink : Option Sink)
  | defaultSink
  | warn (sink : Option Sink) (warning : Warning)
  | openReader (data : Source) (sink : Option Sink) (into : String)
  | next (subject into : String)
  | newBuffer (into : String) (content : Octets)
  | put (subject : String) (position octet : Int)
  | append (subject : String) (content : Octets)

/-- What a step answers. -/
inductive Answer
  | nothing
  | certificate (certificate : Certificate)
  | reading (reading : Reading)
  | strict (certificate : Certificate) (remainder : Octets)
  | length (length : Int) (condition : Condition)
  | data (payload : Octets) (condition : Condition)
  | encoding (octets : Octets)
  | same (equal : Bool)
  | count (number : Nat)
  | sink (name : String)
  | record (record : Record)
  | finished
  | buffer (content : Octets)

structure Session where
  certificates : List (String × Option Certificate)
  holdings : List (String × Holding)
  readers : List (String × SequenceReader)
  /-- The contents of the buffers made so far, by their numbers. -/
  buffers : List Octets
  defaultSink : Sink

/-- The answer or fault of a step and the receipts for the warnings it gave. -/
structure StepResult where
  outcome : Except SessionFault Answer
  receipts : List Receipt

namespace Session

def initial : Session := ⟨[], [], [], [], .standard⟩

/-- Fills a slot, whether or not it was empty. -/
def fill {α : Type} (slots : List (String × α)) (name : String) (value : α) : List (String × α) :=
  (name, value) :: slots.filter (·.1 != name)

def keep (session : Session) (into : String) (certificate : Option Certificate) : Session :=
  { session with certificates := fill session.certificates into certificate }

def hold (session : Session) (into : String) (holding : Holding) : Session :=
  { session with holdings := fill session.holdings into holding }

/-- The certificate in a slot. -/
def certificate (session : Session) (name : String) : Except SessionFault Certificate :=
  match session.certificates.lookup name with
  | some (some certificate) => .ok certificate
  | _ => .error (.emptySlot name)

def holding (session : Session) (name : String) : Except SessionFault Holding :=
  match session.holdings.lookup name with
  | some holding => .ok holding
  | none => .error (.emptySlot name)

/-- The present content of what is held. -/
def content (session : Session) : Holding → Octets
  | .octets content => content
  | .buffer index => session.buffers.getD index []

/-- The octets a source gives now. -/
def contentOf (session : Session) : Source → Except SessionFault Octets
  | .content given => given.toOctets.mapError .content
  | .slot name => session.content <$> session.holding name

/-- What a reader remembers of its source until its first step. -/
def pending (session : Session) : Source → Except SessionFault (Except ContentFault Holding)
  | .content given => .ok (given.toOctets.map .octets)
  | .slot name => .ok <$> session.holding name

def succeed (session : Session) (answer : Answer) (receipts : List Receipt) : Session × StepResult :=
  (session, ⟨.ok answer, receipts⟩)

def fail (session : Session) (fault : SessionFault) : Session × StepResult := (session, ⟨.error fault, []⟩)

/-- Goes on with a value, or fails without a change. -/
def use {α : Type} (session : Session) (value : Except SessionFault α) (next : α → Session × StepResult) :
    Session × StepResult :=
  match value with
  | .ok value => next value
  | .error fault => session.fail fault

/-- Hands the warnings of a step to its own sink or to the default one. -/
def report (session : Session) (sink : Option Sink) (warnings : List Warning) : Except SessionFault (List Receipt) :=
  ((sink.getD session.defaultSink).receiveAll warnings).mapError .refused

/-- The position counted from the front, where a negative one counts from the end. -/
def place? (content : Octets) (position : Int) : Option Nat :=
  let fromFront := if position < 0 then position + content.length else position
  if 0 ≤ fromFront ∧ fromFront < content.length then some fromFront.toNat else none

/-- Changes the content of the buffer in a slot. -/
def change (session : Session) (subject : String) (appending : Bool)
    (changed : Octets → Except SessionFault Octets) : Session × StepResult :=
  session.use (session.holding subject) fun holding =>
    match holding with
    | .octets _ => session.fail (.unchangeable appending)
    | .buffer index =>
      session.use (changed (session.content holding)) fun content =>
        { session with buffers := session.buffers.set index content }.succeed (.buffer content) []

/-- One step of a sequence reader. After a fault or its last record it is finished. -/
def advance (session : Session) (subject into : String) (reader : SequenceReader) : Session × StepResult :=
  let become (progress : Progress) : Session :=
    { session with readers := fill session.readers subject { reader with progress } }
  let started : Except SessionFault Octets :=
    match reader.progress with
    | .unstarted (.ok holding) => .ok (session.content holding)
    | .unstarted (.error fault) => .error (.content fault)
    | .reading rest => .ok rest
    | .finished => .ok []
  (become .finished).use started fun rest =>
    match Certificate.advance? rest with
    | none => (become .finished).succeed .finished []
    | some step =>
      (become .finished).use (session.report reader.sink step.warning.toList) fun receipts =>
        ((become (.reading step.rest)).keep into step.record.certificate).succeed (.record step.record) receipts

/-- The session after a step, and the result of the step. A step that fails leaves the slots
as they were. -/
def step (session : Session) : Step → Session × StepResult
  | .create kind length payload into =>
    session.use (session.contentOf payload) fun payload =>
      let certificate := ⟨kind, length, payload⟩
      (session.keep into (some certificate)).succeed (.certificate certificate) []
  | .build kind payload into =>
    session.use (session.contentOf payload) fun payload =>
      session.use ((Certificate.build kind payload).mapError .certificate) fun certificate =>
        (session.keep into (some certificate)).succeed (.certificate certificate) []
  | .read data sink into rest =>
    session.use (session.contentOf data) fun data =>
      session.use (session.report sink (Certificate.readingWarning? data).toList) fun receipts =>
        let reading := Certificate.read data
        ((session.keep into reading.certificate).hold rest (.octets reading.remainder)).succeed
          (.reading reading) receipts
  | .readStrict data allowRemainder into rest =>
    session.use (session.contentOf data) fun data =>
      session.use (session.report none (Certificate.readingWarning? data).toList) fun receipts =>
        match Certificate.readStrict allowRemainder data with
        | .ok (certificate, remainder) =>
          ((session.keep into (some certificate)).hold rest (.octets remainder)).succeed
            (.strict certificate remainder) receipts
        | .error error => (session, ⟨.error (.certificate error), receipts⟩)
  | .length subject sink =>
    session.use (session.certificate subject) fun certificate =>
      session.use (session.report sink certificate.lengthWarning?.toList) fun receipts =>
        session.succeed (.length certificate.effectiveLength certificate.condition) receipts
  | .data subject sink into =>
    session.use (session.certificate subject) fun certificate =>
      session.use (session.report sink certificate.lengthWarning?.toList) fun receipts =>
        (session.hold into (.octets certificate.effectivePayload)).succeed
          (.data certificate.effectivePayload certificate.condition) receipts
  | .encode subject into =>
    session.use (session.certificate subject) fun certificate =>
      session.use (certificate.encode.mapError .certificate) fun octets =>
        (session.hold into (.octets octets)).succeed (.encoding octets) []
  | .setField subject field =>
    session.use (session.certificate subject) fun _ => session.fail (.assignment field)
  | .deleteField subject field =>
    session.use (session.certificate subject) fun _ => session.fail (.deletion field)
  | .inspect subject =>
    session.use (session.certificate subject) fun certificate => session.succeed (.certificate certificate) []
  | .compare left right =>
    session.use (session.certificate left) fun first =>
      session.use (session.certificate right) fun second => session.succeed (.same (first == second)) []
  | .countDistinct subjects =>
    session.use (subjects.mapM session.certificate) fun certificates =>
      session.succeed (.count certificates.eraseDups.length) []
  | .setDefaultSink sink =>
    { session with defaultSink := sink.getD .standard }.succeed (.sink session.defaultSink.name) []
  | .defaultSink => session.succeed (.sink session.defaultSink.name) []
  | .warn sink warning =>
    match warning.ambiguousField? with
    | some name => session.fail (.ambiguousField (sink.getD session.defaultSink) name)
    | none => session.use (session.report sink [warning]) fun receipts => session.succeed .nothing receipts
  | .openReader data sink into =>
    session.use (session.pending data) fun source =>
      { session with readers := fill session.readers into ⟨sink, .unstarted source⟩ }.succeed .nothing []
  | .next subject into =>
    match session.readers.lookup subject with
    | none => session.fail (.emptySlot subject)
    | some reader => session.advance subject into reader
  | .newBuffer into content =>
    ({ session with buffers := session.buffers ++ [content] }.hold into (.buffer session.buffers.length)).succeed
      (.count content.length) []
  | .put subject position octet =>
    session.change subject false fun content =>
      if !Octets.isIndex position then .error .unfitPosition
      else if octet < 0 ∨ 256 ≤ octet then .error .octet
      else
        match place? content position with
        | some index => .ok (content.set index (UInt8.ofNat octet.toNat))
        | none => .error .position
  | .append subject content => session.change subject true fun before => .ok (before ++ content)

/-- The results of a run of steps, in order, and the session after it. -/
def run (session : Session) : List Step → Session × List StepResult
  | [] => (session, [])
  | first :: rest =>
    let (next, result) := session.step first
    let (last, results) := next.run rest
    (last, result :: results)

end Session
end CertWire
