import CertWire.Session

/-! What the steps of a session leave as it was. A step fills at most the slots that it names: one for a
certificate, one for octets or a buffer, one for a reader that it opens. Only the steps on buffers change
buffers, so what is kept in another slot lasts. -/

namespace CertWire

namespace Step

/-- The slot in which a step puts a certificate. -/
def certificateSlot? : Step → Option String
  | create _ _ _ into | build _ _ into | read _ _ into _ | readStrict _ _ into _ | next _ into => some into
  | _ => none

/-- The slot in which a step puts octets or a buffer. -/
def holdingSlot? : Step → Option String
  | read _ _ _ rest | readStrict _ _ _ rest => some rest
  | data _ _ into | encode _ into | newBuffer into _ => some into
  | _ => none

def opened? : Step → Option String
  | openReader _ _ into => some into
  | _ => none

def advanced? : Step → Option String
  | next subject _ => some subject
  | _ => none

theorem eq_next_of_advanced? {step : Step} {name : String} (asked : step.advanced? = some name) :
    ∃ into, step = .next name into := by
  cases step with
  | next subject into =>
    cases asked
    exact ⟨into, rfl⟩
  | _ => cases asked

def onBuffers : Step → Bool
  | newBuffer _ _ | put _ _ _ | append _ _ => true
  | _ => false

/-- The default sink after the step, whether or not it succeeds. -/
def defaultAfter (current : Sink) : Step → Sink
  | setDefaultSink sink => sink.getD .standard
  | _ => current

end Step

namespace Session

variable {session before after : Session} {step : Step} {name : String}

theorem lookup_fill_self {α : Type} (slots : List (String × α)) (name : String) (value : α) :
    (fill slots name value).lookup name = some value := by
  simp [fill]

private theorem lookup_fill_other {α : Type} (slots : List (String × α)) (value : α) {name other : String}
    (different : other ≠ name) : (fill slots name value).lookup other = slots.lookup other := by
  have unequal : (other == name) = false := beq_eq_false_iff_ne.mpr different
  rw [fill, List.lookup_cons, unequal]
  induction slots with
  | nil => rfl
  | cons slot rest ih =>
    obtain ⟨key, held⟩ := slot
    by_cases dropped : key = name
    · subst key
      simpa [unequal, List.lookup_cons] using ih
    · simp only [List.filter_cons, bne_iff_ne, ne_eq, dropped, not_false_eq_true, if_true, List.lookup_cons]
      split <;> simp_all

/-- What a step may change, and nothing else. -/
structure Frame (step : Step) (before after : Session) : Prop where
  certificates : ∀ name, step.certificateSlot? ≠ some name →
    after.certificates.lookup name = before.certificates.lookup name
  holdings : ∀ name, step.holdingSlot? ≠ some name → after.holdings.lookup name = before.holdings.lookup name
  readers : ∀ name, step.opened? ≠ some name → step.advanced? ≠ some name →
    after.readers.lookup name = before.readers.lookup name
  buffers : step.onBuffers = false → after.buffers = before.buffers
  defaultSink : after.defaultSink = step.defaultAfter before.defaultSink

namespace Frame

private theorem unchanged (sink : step.defaultAfter before.defaultSink = before.defaultSink) :
    Frame step before before :=
  ⟨fun _ _ => rfl, fun _ _ => rfl, fun _ _ _ => rfl, fun _ => rfl, sink.symm⟩

private theorem keep (frame : Frame step before after) {into : String} (slot : step.certificateSlot? = some into)
    (certificate : Option Certificate) : Frame step before (after.keep into certificate) where
  certificates name other := by
    have different : name ≠ into := fun same => other (by rw [slot, same])
    exact (lookup_fill_other _ _ different).trans (frame.certificates name other)
  holdings := frame.holdings
  readers := frame.readers
  buffers := frame.buffers
  defaultSink := frame.defaultSink

private theorem hold (frame : Frame step before after) {into : String} (slot : step.holdingSlot? = some into)
    (holding : Holding) : Frame step before (after.hold into holding) where
  certificates := frame.certificates
  holdings name other := by
    have different : name ≠ into := fun same => other (by rw [slot, same])
    exact (lookup_fill_other _ _ different).trans (frame.holdings name other)
  readers := frame.readers
  buffers := frame.buffers
  defaultSink := frame.defaultSink

private theorem fillReader (frame : Frame step before after) {into : String}
    (slot : step.opened? = some into ∨ step.advanced? = some into) (reader : SequenceReader) :
    Frame step before { after with readers := fill after.readers into reader } where
  certificates := frame.certificates
  holdings := frame.holdings
  readers name unopened idle := by
    have different : name ≠ into := by
      rintro rfl
      exact slot.elim unopened idle
    exact (lookup_fill_other _ _ different).trans (frame.readers name unopened idle)
  buffers := frame.buffers
  defaultSink := frame.defaultSink

private theorem setBuffers (frame : Frame step before after) (touching : step.onBuffers = true)
    (buffers : List Octets) : Frame step before { after with buffers := buffers } where
  certificates := frame.certificates
  holdings := frame.holdings
  readers := frame.readers
  buffers untouched := by rw [touching] at untouched; cases untouched
  defaultSink := frame.defaultSink

/-- A step that goes on with a value changes what it would change without the value, or what
it changes after it. -/
theorem use {α : Type} {value : Except SessionFault α} {next : α → Session × StepResult}
    (frame : Frame step before after) (goes : ∀ result, Frame step before (next result).1) :
    Frame step before (after.use value next).1 := by
  cases value with
  | error fault => exact frame
  | ok result => exact goes result

end Frame

private theorem advance_frame (session : Session) (subject into : String) (reader : SequenceReader) :
    Frame (.next subject into) session (session.advance subject into reader).1 := by
  have become (progress : Progress) :
      Frame (.next subject into) session
        { session with readers := fill session.readers subject { reader with progress } } :=
    (Frame.unchanged rfl).fillReader (.inr rfl) _
  apply (become .finished).use
  intro rest
  dsimp only
  split
  next => exact become .finished
  next => exact (become .finished).use fun _ => (become _).keep rfl _

private theorem change_frame (session : Session) {subject : String} {appending : Bool}
    {changed : Octets → Except SessionFault Octets} (touching : step.onBuffers = true)
    (sink : step.defaultAfter session.defaultSink = session.defaultSink) :
    Frame step session (session.change subject appending changed).1 := by
  have same : Frame step session session := .unchanged sink
  apply same.use
  intro holding
  cases holding with
  | octets content => exact same
  | buffer index => exact same.use fun _ => same.setBuffers touching _

/-- One case for each step: the slots it fills are the ones it names. -/
theorem step_frame (session : Session) (step : Step) : Frame step session (session.step step).1 := by
  have same (sink : step.defaultAfter session.defaultSink = session.defaultSink) : Frame step session session :=
    .unchanged sink
  cases step with
  | create kind length payload into => exact (same rfl).use fun _ => (same rfl).keep rfl _
  | build kind payload into => exact (same rfl).use fun _ => (same rfl).use fun _ => (same rfl).keep rfl _
  | read data sink into rest =>
    exact (same rfl).use fun _ => (same rfl).use fun _ => ((same rfl).keep rfl _).hold rfl _
  | readStrict data allowRemainder into rest =>
    refine (same rfl).use fun data => (same rfl).use fun _ => ?_
    cases Certificate.readStrict allowRemainder data with
    | error error => exact same rfl
    | ok taken => exact ((same rfl).keep rfl _).hold rfl _
  | length subject sink => exact (same rfl).use fun _ => (same rfl).use fun _ => same rfl
  | data subject sink into => exact (same rfl).use fun _ => (same rfl).use fun _ => (same rfl).hold rfl _
  | encode subject into => exact (same rfl).use fun _ => (same rfl).use fun _ => (same rfl).hold rfl _
  | setField subject field => exact (same rfl).use fun _ => same rfl
  | deleteField subject field => exact (same rfl).use fun _ => same rfl
  | inspect subject => exact (same rfl).use fun _ => same rfl
  | compare left right => exact (same rfl).use fun _ => (same rfl).use fun _ => same rfl
  | countDistinct subjects => exact (same rfl).use fun _ => same rfl
  | setDefaultSink sink => exact ⟨fun _ _ => rfl, fun _ _ => rfl, fun _ _ _ => rfl, fun _ => rfl, rfl⟩
  | defaultSink => exact same rfl
  | warn sink warning =>
    simp only [Session.step]
    split
    · exact same rfl
    · exact (same rfl).use fun _ => same rfl
  | openReader data sink into => exact (same rfl).use fun _ => (same rfl).fillReader (.inl rfl) _
  | next subject into =>
    simp only [Session.step]
    split
    · exact same rfl
    · exact advance_frame session subject into _
  | newBuffer into content => exact ((same rfl).setBuffers rfl _).hold rfl _
  | put subject position octet => exact change_frame session rfl rfl
  | append subject content => exact change_frame session rfl rfl

theorem run_cons (session : Session) (first : Step) (rest : List Step) :
    session.run (first :: rest) =
      (((session.step first).1.run rest).1, (session.step first).2 :: ((session.step first).1.run rest).2) := rfl

theorem run_keeps {motive : Session → Prop} {steps : List Step} (session : Session) (initially : motive session)
    (kept : ∀ step ∈ steps, ∀ session : Session, motive session → motive (session.step step).1) :
    motive (session.run steps).1 := by
  induction steps generalizing session with
  | nil => exact initially
  | cons first rest ih =>
    rw [List.forall_mem_cons] at kept
    exact ih _ (kept.1 session initially) kept.2

variable {steps : List Step}

/-- What no step of a run changes is the same after the run. -/
theorem run_same {α : Type} (view : Session → α) (session : Session)
    (same : ∀ step ∈ steps, ∀ session : Session, view (session.step step).1 = view session) :
    view (session.run steps).1 = view session :=
  run_keeps (motive := fun later => view later = view session) session rfl
    fun step member later kept => (same step member later).trans kept

theorem run_certificates (session : Session) (free : ∀ step ∈ steps, step.certificateSlot? ≠ some name) :
    (session.run steps).1.certificates.lookup name = session.certificates.lookup name :=
  run_same (·.certificates.lookup name) session fun step member later =>
    (step_frame later step).certificates name (free step member)

theorem run_holdings (session : Session) (free : ∀ step ∈ steps, step.holdingSlot? ≠ some name) :
    (session.run steps).1.holdings.lookup name = session.holdings.lookup name :=
  run_same (·.holdings.lookup name) session fun step member later =>
    (step_frame later step).holdings name (free step member)

theorem run_readers (session : Session) (unopened : ∀ step ∈ steps, step.opened? ≠ some name)
    (idle : ∀ step ∈ steps, step.advanced? ≠ some name) :
    (session.run steps).1.readers.lookup name = session.readers.lookup name :=
  run_same (·.readers.lookup name) session fun step member later =>
    (step_frame later step).readers name (unopened step member) (idle step member)

end Session
end CertWire
