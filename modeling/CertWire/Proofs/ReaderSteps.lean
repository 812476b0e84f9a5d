import CertWire.Proofs.Framing
import CertWire.Proofs.SessionFrame
import CertWire.Proofs.SinkReceipts

/-! What one advance of a sequence reader does. The reader goes by what it has left, so two
readers with the same octets left and the same sink answer alike from then on. -/

namespace CertWire

open Certificate (advance?)

namespace Progress

/-- A reader was opened on octets, or on what can still be found to hold octets. -/
def Faultless : Progress → Prop
  | .unstarted (.error _) => False
  | _ => True

/-- What a reader that has started has still to read. -/
def rest? : Progress → Option Octets
  | .unstarted _ => none
  | .reading rest => some rest
  | .finished => some []

end Progress

namespace Session

variable {session : Session} {name : String} {reader : SequenceReader}

/-- The octets that a reader would go on with now: before its first record, the present
content of its source. -/
def left (session : Session) : Progress → Octets
  | .unstarted (.ok holding) => session.content holding
  | .reading rest => rest
  | .unstarted (.error _) | .finished => []

theorem left_of_started {progress : Progress} {rest : Octets} (session : Session) (started : progress.rest? = some rest) :
    session.left progress = rest ∧ progress.Faultless := by
  cases progress with
  | unstarted source => cases started
  | reading other => exact ⟨Option.some.inj started, trivial⟩
  | finished => exact ⟨Option.some.inj started, trivial⟩

theorem left_of_buffers {before after : Session} (same : after.buffers = before.buffers) (progress : Progress) :
    after.left progress = before.left progress := by
  have content (holding : Holding) : after.content holding = before.content holding := by
    cases holding with
    | octets content => rfl
    | buffer index => rw [content, content, same]
  cases progress with
  | unstarted source =>
    cases source with
    | error fault => rfl
    | ok holding => exact content holding
  | reading rest => rfl
  | finished => rfl

theorem step_openReader {data : Source} {holding : Holding} (held : session.pending data = .ok (.ok holding))
    (own : Option Sink) (name : String) :
    session.step (.openReader data own name) =
      ({ session with readers := fill session.readers name ⟨own, .unstarted (.ok holding)⟩ }, ⟨.ok .nothing, []⟩) := by
  simp only [step, held, use, succeed]

def become (session : Session) (name : String) (reader : SequenceReader) (progress : Progress) : Session :=
  { session with readers := fill session.readers name { reader with progress } }

private theorem step_next (found : session.readers.lookup name = some reader) (faultless : reader.progress.Faultless)
    (into : String) :
    session.step (.next name into) =
      match advance? (session.left reader.progress) with
      | none => (session.become name reader .finished).succeed .finished []
      | some advance =>
        (session.become name reader .finished).use (session.report reader.sink advance.warning.toList) fun receipts =>
          ((session.become name reader (.reading advance.rest)).keep into advance.record.certificate).succeed
            (.record advance.record) receipts := by
  have goes : session.step (.next name into) = session.advance name into reader := by
    simp only [step, found]
  rw [goes]
  obtain ⟨sink, progress⟩ := reader
  cases progress with
  | unstarted source =>
    cases source with
    | error fault => cases faultless
    | ok holding => rfl
  | reading rest => rfl
  | finished => rfl

theorem step_next_of_ended (found : session.readers.lookup name = some reader) (faultless : reader.progress.Faultless)
    (ended : advance? (session.left reader.progress) = none) (into : String) :
    session.step (.next name into) = (session.become name reader .finished, ⟨.ok .finished, []⟩) := by
  rw [step_next found faultless, ended]
  rfl

variable {advance : Advance}

/-- A reader whose warning is taken goes on with what follows the record. -/
theorem step_next_of_taken {receipts : List Receipt} (found : session.readers.lookup name = some reader)
    (faultless : reader.progress.Faultless) (next : advance? (session.left reader.progress) = some advance)
    (taken : (reader.sink.getD session.defaultSink).receiveAll advance.warning.toList = .ok receipts) (into : String) :
    session.step (.next name into) =
      ((session.become name reader (.reading advance.rest)).keep into advance.record.certificate,
        ⟨.ok (.record advance.record), receipts⟩) := by
  rw [step_next found faultless, next]
  simp only [report, taken]
  rfl

/-- A sink that refuses the warning finishes the reader. -/
theorem step_next_of_refused {refusal : Refusal} (found : session.readers.lookup name = some reader)
    (faultless : reader.progress.Faultless) (next : advance? (session.left reader.progress) = some advance)
    (refused : (reader.sink.getD session.defaultSink).receiveAll advance.warning.toList = .error refusal)
    (into : String) :
    session.step (.next name into) =
      (session.become name reader .finished, ⟨.error (.refused refusal), []⟩) := by
  rw [step_next found faultless, next]
  simp only [report, refused]
  rfl

/-- The answer that gives a record, or the end where there is none. -/
def answer (record : Option Record) : Except SessionFault Answer := .ok (record.elim .finished .record)

/-- The answers of a reader that is asked that many times: the records in order, and then the
end for ever. -/
def replies (records : List Record) (count : Nat) : List (Except SessionFault Answer) :=
  (List.range count).map fun index => answer records[index]?

theorem map_getElem?_succ {α β : Type} (reply : Option α → β) (items : List α) (count : Nat) :
    (List.range (count + 1)).map (fun index => reply items[index]?) =
      reply items.head? :: (List.range count).map fun index => reply items.tail[index]? := by
  rw [List.range_succ_eq_map, List.map_cons, List.map_map, List.head?_eq_getElem?]
  congr 1
  apply List.map_congr_left
  intro index _
  simp

theorem replies_succ (records : List Record) (count : Nat) :
    replies records (count + 1) = answer records.head? :: replies records.tail count :=
  map_getElem?_succ answer records count

end Session
end CertWire
