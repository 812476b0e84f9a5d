import CertWire.Proofs.ReaderIsolation

/-! Which warnings a step of a session is due, and the sink that they are for: the sink that the
step or its reader was given, or else the default one at the moment of the step. Where no sink
refuses a warning, a step leaves exactly the receipts of that sink for the warnings due, and over
a run the advances of a reader are due what its source gives rise to. -/

namespace CertWire.Session

open Certificate (advance? advances readingWarning?)

/-- The warnings that a step has to hand over, in order. -/
def due (session : Session) : Step → List Warning
  | .read data _ _ _ | .readStrict data _ _ _ =>
    match session.contentOf data with
    | .ok buffer => (readingWarning? buffer).toList
    | .error _ => []
  | .length subject _ | .data subject _ _ =>
    match session.certificate subject with
    | .ok certificate => certificate.lengthWarning?.toList
    | .error _ => []
  | .next subject _ =>
    match session.readers.lookup subject with
    | some reader => ((advance? (session.left reader.progress)).bind Advance.warning).toList
    | none => []
  | .warn _ warning => if warning.ambiguousField?.isSome then [] else [warning]
  | _ => []

/-- The sink that a step was given for its warnings, or its reader when it was opened. -/
def own? (session : Session) : Step → Option Sink
  | .read _ sink _ _ | .length _ sink | .data _ sink _ | .warn sink _ => sink
  | .next subject _ => (session.readers.lookup subject).bind SequenceReader.sink
  | _ => none

def receiver (session : Session) (step : Step) : Sink := (session.own? step).getD session.defaultSink

/-- No sink that may still be given a warning refuses it. -/
structure Quiet (session : Session) : Prop where
  default : session.defaultSink.Calm
  readers : ∀ name reader, session.readers.lookup name = some reader → ∀ sink ∈ reader.sink, sink.Calm

variable {session : Session} {step : Step} {name : String}

theorem Quiet.receiver (quiet : session.Quiet) (calm : step.Calm) : (session.receiver step).Calm := by
  apply calm_of_own ?_ quiet.default
  intro sink own
  cases step with
  | read data given into rest | length subject given | data subject given into | warn given warning =>
    exact calm sink own
  | next subject into =>
    obtain ⟨reader, found, given⟩ := Option.bind_eq_some_iff.mp own
    exact quiet.readers subject reader found sink given
  | _ => cases own

section Using

variable {α : Type} {value : Except SessionFault α} {next : α → Session × StepResult}

private theorem use_silent (silent : ∀ result, (next result).2.receipts = []) :
    (session.use value next).2.receipts = [] := by
  cases value with
  | error fault => rfl
  | ok result => exact silent result

private theorem use_keeps {motive : Session → Prop} (before : motive session)
    (after : ∀ result, motive (next result).1) : motive (session.use value next).1 := by
  cases value with
  | error fault => exact before
  | ok result => exact after result

/-- A step that goes on with the receipts of its warnings leaves the receipts of the sink they are for. -/
theorem use_report {failing : Session} {own : Option Sink} {warnings : List Warning}
    {next : List Receipt → Session × StepResult} (calm : (own.getD session.defaultSink).Calm)
    (leaves : ∀ receipts, (next receipts).2.receipts = receipts) :
    (failing.use (session.report own warnings) next).2.receipts =
      warnings.flatMap (own.getD session.defaultSink).receipts := by
  rw [report, Sink.receiveAll_of_calm calm]
  exact leaves _

end Using

private theorem receipts_of_next {reader : SequenceReader} {subject : String}
    (found : session.readers.lookup subject = some reader) (calm : (reader.sink.getD session.defaultSink).Calm)
    (into : String) :
    (session.step (.next subject into)).2.receipts =
      ((advance? (session.left reader.progress)).bind Advance.warning).toList.flatMap
        (reader.sink.getD session.defaultSink).receipts := by
  by_cases faultless : reader.progress.Faultless
  · cases next : advance? (session.left reader.progress) with
    | none =>
      rw [step_next_of_ended found faultless next]
      rfl
    | some advance =>
      rw [step_next_of_taken found faultless next (Sink.receiveAll_of_calm calm _)]
      rfl
  · -- A source that never held octets has the reader fail before it has anything to warn of.
    obtain ⟨sink, progress⟩ := reader
    cases progress with
    | unstarted source =>
      cases source with
      | error fault =>
        simp only [Session.step, found]
        rfl
      | ok holding => exact absurd trivial faultless
    | reading rest | finished => exact absurd trivial faultless

/-- One case for each step: it hands over the warnings due, once each and to one sink. -/
theorem receipts_of_step (calm : (session.receiver step).Calm) :
    (session.step step).2.receipts = (session.due step).flatMap (session.receiver step).receipts := by
  cases step with
  | create kind length payload into => exact use_silent fun _ => rfl
  | build kind payload into => exact use_silent fun _ => use_silent fun _ => rfl
  | read data sink into rest =>
    simp only [Session.step, due]
    cases session.contentOf data with
    | error fault => rfl
    | ok buffer => exact use_report calm fun _ => rfl
  | readStrict data allowRemainder into rest =>
    simp only [Session.step, due]
    cases session.contentOf data with
    | error fault => rfl
    | ok buffer =>
      apply use_report calm
      intro receipts
      cases Certificate.readStrict allowRemainder buffer with
      | ok taken => rfl
      | error error => rfl
  | length subject sink | data subject sink into =>
    simp only [Session.step, due]
    cases session.certificate subject with
    | error fault => rfl
    | ok certificate => exact use_report calm fun _ => rfl
  | encode subject into => exact use_silent fun _ => use_silent fun _ => rfl
  | setField subject field | deleteField subject field => exact use_silent fun _ => rfl
  | inspect subject => exact use_silent fun _ => rfl
  | compare left right => exact use_silent fun _ => use_silent fun _ => rfl
  | countDistinct subjects => exact use_silent fun _ => rfl
  | setDefaultSink sink | defaultSink => rfl
  | warn sink warning =>
    simp only [Session.step, due]
    cases warning.ambiguousField? with
    | some field => rfl
    | none => exact use_report calm fun _ => rfl
  | openReader data sink into => exact use_silent fun _ => rfl
  | next subject into =>
    simp only [receiver, own?] at calm ⊢
    simp only [Session.step, due]
    cases found : session.readers.lookup subject with
    | none => rfl
    | some reader =>
      rw [found] at calm
      have receipts := receipts_of_next found calm into
      simp only [Session.step, found] at receipts
      exact receipts
  | newBuffer into content => rfl
  | put subject position octet | append subject content =>
    apply use_silent
    intro holding
    cases holding with
    | octets content => rfl
    | buffer index => exact use_silent fun _ => rfl

variable {steps : List Step} {reader : SequenceReader} {own : Option Sink}

private theorem exists_reader_after_next (found : session.readers.lookup name = some reader) (into : String) :
    ∃ progress, (session.step (.next name into)).1.readers.lookup name = some ⟨reader.sink, progress⟩ := by
  let motive (later : Session) : Prop := ∃ progress, later.readers.lookup name = some ⟨reader.sink, progress⟩
  have become (progress : Progress) : motive (session.become name reader progress) := ⟨progress, lookup_fill_self _ _ _⟩
  simp only [Session.step, found]
  apply use_keeps (motive := motive) (become .finished)
  intro rest
  cases advance? rest with
  | none => exact become .finished
  | some advance => exact use_keeps (motive := motive) (become .finished) fun _ => become (.reading advance.rest)

theorem exists_reader_after_run {progress : Progress} (found : session.readers.lookup name = some ⟨own, progress⟩)
    (unopened : ∀ step ∈ steps, step.opened? ≠ some name) :
    ∃ progress, (session.run steps).1.readers.lookup name = some ⟨own, progress⟩ := by
  apply run_keeps (motive := fun later => ∃ progress, later.readers.lookup name = some ⟨own, progress⟩) session
    ⟨progress, found⟩
  intro step member later kept
  obtain ⟨progress, found⟩ := kept
  by_cases asked : step.advanced? = some name
  · obtain ⟨into, rfl⟩ := Step.eq_next_of_advanced? asked
    exact exists_reader_after_next found into
  · exact ⟨progress, ((step_frame later step).readers name (unopened step member) asked).trans found⟩

theorem Quiet.afterStep (quiet : session.Quiet) (calm : step.Calm) : (session.step step).1.Quiet where
  default := step_calm calm quiet.default
  readers := by
    intro name reader found
    by_cases opened : step.opened? = some name
    · cases step with
      | openReader data own into =>
        cases opened
        revert found
        apply use_keeps (motive := fun later => later.readers.lookup name = some reader → ∀ sink ∈ reader.sink, sink.Calm)
        · exact quiet.readers name reader
        · intro source found
          cases (lookup_fill_self _ _ _).symm.trans found
          exact calm
      | _ => cases opened
    by_cases asked : step.advanced? = some name
    · obtain ⟨into, rfl⟩ := Step.eq_next_of_advanced? asked
      cases earlier : session.readers.lookup name with
      | none =>
        simp only [Session.step, earlier] at found
        cases earlier.symm.trans found
      | some before =>
        obtain ⟨progress, after⟩ := exists_reader_after_next earlier into
        cases after.symm.trans found
        exact quiet.readers name before earlier
    · rw [(step_frame session step).readers name opened asked] at found
      exact quiet.readers name reader found

theorem Quiet.afterRun (quiet : session.Quiet) (calm : ∀ step ∈ steps, step.Calm) : (session.run steps).1.Quiet :=
  run_keeps session quiet fun step member _ before => before.afterStep (calm step member)

theorem run_getElem? (session : Session) (before : List Step) (step : Step) (after : List Step) :
    (session.run (before ++ step :: after)).2[before.length]? = some ((session.run before).1.step step).2 := by
  induction before generalizing session with
  | nil => rfl
  | cons first rest ih => exact ih (session.step first).1

/-- The warnings due at the advances of one reader during a run, in order. -/
def dueAt (session : Session) (name : String) : List Step → List Warning
  | [] => []
  | first :: rest =>
    (if first.advanced? = some name then session.due first else []) ++ (session.step first).1.dueAt name rest

theorem dueAt_append_of_idle {idle : List Step} (session : Session) (unasked : ∀ step ∈ idle, step.advanced? ≠ some name)
    (later : List Step) : session.dueAt name (idle ++ later) = (session.run idle).1.dueAt name later := by
  induction idle generalizing session with
  | nil => rfl
  | cons first rest ih =>
    rw [List.forall_mem_cons] at unasked
    rw [List.cons_append, dueAt, if_neg unasked.1, ih _ unasked.2]
    rfl

private theorem advances_after_next (found : session.readers.lookup name = some reader)
    (faultless : reader.progress.Faultless) (calm : (reader.sink.getD session.defaultSink).Calm) (into : String) :
    ∃ progress rest, (session.step (.next name into)).1.readers.lookup name = some ⟨reader.sink, progress⟩ ∧
      progress.rest? = some rest ∧ advances rest = (advances (session.left reader.progress)).tail ∧
      session.due (.next name into) = ((advances (session.left reader.progress)).head?.bind Advance.warning).toList := by
  cases next : advance? (session.left reader.progress) with
  | none =>
    rw [step_next_of_ended found faultless next, Certificate.advances_of_none next]
    exact ⟨.finished, [], lookup_fill_self _ _ _, rfl, Certificate.advances_nil, by simp only [due, found, next]; rfl⟩
  | some advance =>
    rw [step_next_of_taken found faultless next (Sink.receiveAll_of_calm calm _), Certificate.advances_of_some next]
    exact ⟨.reading advance.rest, advance.rest, lookup_fill_self _ _ _, rfl, rfl, by simp only [due, found, next]; rfl⟩

private theorem filterMap_take_succ {α β : Type} (view : α → Option β) (items : List α) (count : Nat) :
    (items.take (count + 1)).filterMap view = (items.head?.bind view).toList ++ (items.tail.take count).filterMap view := by
  cases items with
  | nil => simp
  | cons first rest => cases shown : view first <;> simp [shown]

theorem dueAt_next {into : String} {count : Nat} (found : session.readers.lookup name = some reader)
    (faultless : reader.progress.Faultless) (calm : (reader.sink.getD session.defaultSink).Calm)
    (later : ∀ progress rest,
      (session.step (.next name into)).1.readers.lookup name = some ⟨reader.sink, progress⟩ →
      progress.rest? = some rest →
      (session.step (.next name into)).1.dueAt name steps = ((advances rest).take count).filterMap Advance.warning) :
    session.dueAt name (.next name into :: steps) =
      ((advances (session.left reader.progress)).take (count + 1)).filterMap Advance.warning := by
  obtain ⟨progress, rest, goes, started, remaining, first⟩ := advances_after_next found faultless calm into
  have asked : (Step.next name into).advanced? = some name := rfl
  rw [dueAt, if_pos asked, first, later progress rest goes started, remaining, filterMap_take_succ]

theorem dueAt_of_started {progress : Progress} {rest : Octets} (session : Session) (quiet : session.Quiet)
    (found : session.readers.lookup name = some ⟨own, progress⟩) (started : progress.rest? = some rest)
    (calm : ∀ step ∈ steps, step.Calm) (unopened : ∀ step ∈ steps, step.opened? ≠ some name) :
    session.dueAt name steps =
      ((advances rest).take (steps.countP (·.advanced? = some name))).filterMap Advance.warning := by
  induction steps generalizing session progress rest with
  | nil => rfl
  | cons first others ih =>
    rw [List.forall_mem_cons] at calm unopened
    have after := quiet.afterStep calm.1
    rw [List.countP_cons]
    by_cases asked : first.advanced? = some name
    · obtain ⟨into, rfl⟩ := Step.eq_next_of_advanced? asked
      obtain ⟨same, faultless⟩ := left_of_started session started
      rw [if_pos (decide_eq_true asked), ← same]
      exact dueAt_next found faultless (calm_of_own (quiet.readers name _ found) quiet.default)
        fun progress rest goes later => ih _ after goes later calm.2 unopened.2
    · have kept := (step_frame session first).readers name unopened.1 asked
      rw [dueAt, if_neg asked, if_neg (by simpa using asked)]
      exact ih _ after (kept.trans found) started calm.2 unopened.2

end CertWire.Session
