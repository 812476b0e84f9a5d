import CertWire.Proofs.ReaderSteps
import CertWire.Proofs.WarningTrace

/-! Sinks as a side channel. What a step answers does not depend on the sink that takes its
warning; a sink that refuses one has the step fail before it answers. -/

namespace CertWire.Session

open Certificate (advance? advances read readAll readingWarning?)

variable {session : Session} {data : Source} {buffer : Octets} {name : String}

/-- What an advance comes to where its warning is taken: the record and the receipts, or the end. -/
def reply (sink : Sink) : Option Advance → StepResult
  | some advance => ⟨.ok (.record advance.record), advance.warning.toList.flatMap sink.receipts⟩
  | none => ⟨.ok .finished, []⟩

private theorem step_read (given : session.contentOf data = .ok buffer) (sink : Option Sink) (into rest : String) :
    (session.step (.read data sink into rest)).2 =
      match (sink.getD session.defaultSink).receiveAll (readingWarning? buffer).toList with
      | .ok receipts => ⟨.ok (.reading (read buffer)), receipts⟩
      | .error refusal => ⟨.error (.refused refusal), []⟩ := by
  simp only [step, given, use, report]
  cases (sink.getD session.defaultSink).receiveAll (readingWarning? buffer).toList with
  | ok receipts => rfl
  | error refusal => rfl

private theorem step_read_of_calm {sink : Option Sink} (given : session.contentOf data = .ok buffer)
    (calm : (sink.getD session.defaultSink).Calm) (into rest : String) :
    (session.step (.read data sink into rest)).2 =
      ⟨.ok (.reading (read buffer)), (readingWarning? buffer).toList.flatMap (sink.getD session.defaultSink).receipts⟩ := by
  rw [step_read given, Sink.receiveAll_of_calm calm]

private theorem step_read_of_silent (given : session.contentOf data = .ok buffer)
    (silent : readingWarning? buffer = none) (sink : Option Sink) (into rest : String) :
    (session.step (.read data sink into rest)).2 = ⟨.ok (.reading (read buffer)), []⟩ := by
  rw [step_read given, silent]
  rfl

private theorem step_read_of_refusing {sink : Option Sink} {warning : Warning}
    (given : session.contentOf data = .ok buffer) (due : readingWarning? buffer = some warning)
    (refusing : ¬ (sink.getD session.defaultSink).Calm) (into rest : String) :
    (session.step (.read data sink into rest)).2 = ⟨.error (.refused ⟨warning.place⟩), []⟩ := by
  rw [step_read given, due, Option.toList_some, Sink.receiveAll_of_refusing refusing]

private theorem pending_of_contentOf (given : session.contentOf data = .ok buffer) :
    ∃ holding, session.pending data = .ok (.ok holding) ∧ session.content holding = buffer := by
  cases data with
  | content content =>
    simp only [contentOf] at given
    simp only [pending]
    cases meant : content.toOctets with
    | error fault =>
      rw [meant] at given
      cases given
    | ok octets =>
      rw [meant] at given
      cases given
      exact ⟨.octets buffer, rfl, rfl⟩
  | slot slot =>
    simp only [contentOf] at given
    simp only [pending]
    cases held : session.holding slot with
    | error fault =>
      rw [held] at given
      cases given
    | ok holding =>
      rw [held] at given
      cases given
      exact ⟨holding, rfl, rfl⟩

/-- No warning that is due while a buffer is read to its end is refused. -/
def Takes (sink : Sink) (buffer : Octets) : Prop :=
  ∀ advance ∈ advances buffer, sink.receiveAll advance.warning.toList =
    .ok (advance.warning.toList.flatMap sink.receipts)

private theorem takes_of_calm {sink : Sink} (calm : sink.Calm) (buffer : Octets) : Takes sink buffer :=
  fun _ _ => Sink.receiveAll_of_calm calm _

private theorem takes_nil (sink : Sink) : Takes sink [] := by
  unfold Takes
  rw [Certificate.advances_of_none rfl]
  simp

private theorem takes_of_accepted (accepted : (read buffer).condition = .none) (sink : Sink) : Takes sink buffer := by
  obtain ⟨certificate, same⟩ := Certificate.advances_of_accepted accepted
  unfold Takes
  rw [same, List.forall_mem_singleton]
  rfl

variable {own : Option Sink} {progress : Progress}

private theorem run_nexts (session : Session) (found : session.readers.lookup name = some ⟨own, progress⟩)
    (faultless : progress.Faultless) (takes : Takes (own.getD session.defaultSink) (session.left progress))
    (into : String) (count : Nat) :
    (session.run (List.replicate count (.next name into))).2 =
      (List.range count).map fun index =>
        reply (own.getD session.defaultSink) (advances (session.left progress))[index]? := by
  induction count generalizing session progress with
  | zero => rfl
  | succ count ih =>
    rw [List.replicate_succ, run_cons, map_getElem?_succ]
    cases next : advance? (session.left progress) with
    | none =>
      -- A finished reader is one with nothing left, so the hypothesis gives the end for ever.
      have others := ih (session.become name ⟨own, progress⟩ .finished) (lookup_fill_self _ _ _) trivial (takes_nil _)
      rw [left, Certificate.advances_of_none rfl] at others
      rw [step_next_of_ended found faultless next, Certificate.advances_of_none next]
      exact congrArg₂ List.cons rfl others
    | some advance =>
      have goes := Certificate.advances_of_some next
      unfold Takes at takes
      rw [goes, List.forall_mem_cons] at takes
      have others := ih ((session.become name ⟨own, progress⟩ (.reading advance.rest)).keep into
        advance.record.certificate) (lookup_fill_self _ _ _) trivial takes.2
      rw [step_next_of_taken found faultless next takes.1, goes]
      exact congrArg₂ List.cons rfl others

/-- A refusal ends a reader for good: nothing is given with it or after it. -/
theorem run_nexts_of_refusal {advance : Advance} {warning : Warning} (session : Session)
    (found : session.readers.lookup name = some ⟨own, progress⟩) (faultless : progress.Faultless)
    (next : advance? (session.left progress) = some advance) (due : advance.warning = some warning)
    (refusing : ¬ (own.getD session.defaultSink).Calm) (into : String) (count : Nat) :
    (session.run (List.replicate (count + 1) (.next name into))).2 =
      ⟨.error (.refused ⟨warning.place⟩), []⟩ :: List.replicate count ⟨.ok .finished, []⟩ := by
  have ended : advances ((session.become name ⟨own, progress⟩ .finished).left .finished) = [] :=
    Certificate.advances_of_none rfl
  have others := run_nexts (session.become name ⟨own, progress⟩ .finished) (lookup_fill_self _ _ _) trivial
    (takes_nil _) into count
  rw [ended] at others
  have refused : session.step (.next name into) =
      (session.become name ⟨own, progress⟩ .finished, ⟨.error (.refused ⟨warning.place⟩), []⟩) := by
    apply step_next_of_refused found faultless next
    rw [due, Option.toList_some, Sink.receiveAll_of_refusing refusing]
  rw [List.replicate_succ, run_cons, refused, others]
  simp [reply, List.map_const']

private theorem map_outcome_reply (sink : Sink) (buffer : Octets) (count : Nat) :
    ((List.range count).map fun index => reply sink (advances buffer)[index]?).map StepResult.outcome =
      replies (readAll buffer) count := by
  rw [List.map_map]
  apply List.map_congr_left
  intro index _
  cases item : (advances buffer)[index]? <;> simp [reply, answer, Certificate.readAll, item]

/-- A reader that is opened and asked at once starts on the octets that its source gives. -/
theorem run_opened (given : session.contentOf data = .ok buffer) (own : Option Sink) (name : String) :
    ∃ (opened : Session) (progress : Progress),
      (∀ steps, (session.run (.openReader data own name :: steps)).2 = ⟨.ok .nothing, []⟩ :: (opened.run steps).2) ∧
      opened.readers.lookup name = some ⟨own, progress⟩ ∧ progress.Faultless ∧ opened.left progress = buffer ∧
      opened.defaultSink = session.defaultSink := by
  obtain ⟨holding, held, octets⟩ := pending_of_contentOf given
  refine ⟨{ session with readers := fill session.readers name ⟨own, .unstarted (.ok holding)⟩ },
    .unstarted (.ok holding), ?_, lookup_fill_self _ _ _, trivial, ?_, rfl⟩
  · intro steps
    rw [run_cons, step_openReader held]
  · exact (left_of_buffers rfl _).trans octets

theorem run_reader (given : session.contentOf data = .ok buffer) (takes : Takes (own.getD session.defaultSink) buffer)
    (name into : String) (count : Nat) :
    (session.run (.openReader data own name :: List.replicate count (.next name into))).2 =
      ⟨.ok .nothing, []⟩ ::
        (List.range count).map fun index => reply (own.getD session.defaultSink) (advances buffer)[index]? := by
  obtain ⟨opened, progress, results, found, faultless, rfl, same⟩ := run_opened given own name
  rw [← same] at takes ⊢
  rw [results, run_nexts opened found faultless takes]

private theorem run_reader_outcomes (given : session.contentOf data = .ok buffer)
    (takes : Takes (own.getD session.defaultSink) buffer) (name into : String) (count : Nat) :
    (session.run (.openReader data own name :: List.replicate count (.next name into))).2.map StepResult.outcome =
      .ok .nothing :: replies (readAll buffer) count := by
  rw [run_reader given takes, List.map_cons, map_outcome_reply]

theorem run_reader_of_refusing {warning : Warning} (given : session.contentOf data = .ok buffer)
    (occupied : buffer ≠ []) (due : readingWarning? buffer = some warning)
    (refusing : ¬ (own.getD session.defaultSink).Calm) (name into : String) (count : Nat) :
    (session.run (.openReader data own name :: List.replicate (count + 1) (.next name into))).2 =
      ⟨.ok .nothing, []⟩ :: ⟨.error (.refused ⟨warning.place⟩), []⟩ :: List.replicate count ⟨.ok .finished, []⟩ := by
  obtain ⟨opened, progress, results, found, faultless, rfl, same⟩ := run_opened given own name
  obtain ⟨advance, next⟩ := Option.ne_none_iff_exists'.mp (mt Certificate.advance?_eq_none_iff.mp occupied)
  have first := (Certificate.advance?_warning next).trans due
  rw [← same] at refusing
  rw [results, run_nexts_of_refusal opened found faultless next first refusing]

/-- With any sink that takes what it is given, a reading and a reader's run to its end answer
the same, and hand over the warnings due with their records. A sink that refuses stops a
reading of anything but one complete record, and a reader before its first record unless
that is the only one. -/
theorem sinks_are_a_side_channel (session : Session) (data : Source) (buffer : Octets) (name into rest : String)
    (given : session.contentOf data = .ok buffer) :
    let inForce (sink : Option Sink) := sink.getD session.defaultSink
    let reading (sink : Option Sink) := (session.step (.read data sink into rest)).2
    let draining (sink : Option Sink) (count : Nat) :=
      (session.run (.openReader data sink name :: List.replicate count (.next name into))).2
    let alone := ∃ certificate : Certificate, certificate.Complete ∧ certificate.encode = .ok buffer
    (∀ sink count, (inForce sink).Calm →
      (reading sink).outcome = .ok (.reading (read buffer)) ∧
      (reading sink).receipts = (readingWarning? buffer).toList.flatMap (inForce sink).receipts ∧
      (draining sink count).map StepResult.outcome = .ok .nothing :: replies (readAll buffer) count ∧
      draining sink count =
        ⟨.ok .nothing, []⟩ :: (List.range count).map fun index => reply (inForce sink) (advances buffer)[index]?) ∧
    Certificate.ReadingWarned buffer ∧
    (buffer ≠ [] → ∃ certificates last final, Certificate.Traced buffer certificates last final) ∧
    (∀ sink count, ¬ (inForce sink).Calm →
      ((read buffer).condition = .none → reading sink = ⟨.ok (.reading (read buffer)), []⟩) ∧
      ((read buffer).condition ≠ .none → ∃ warning, readingWarning? buffer = some warning ∧
        reading sink = ⟨.error (.refused ⟨warning.place⟩), []⟩) ∧
      (buffer = [] ∨ alone →
        (draining sink count).map StepResult.outcome = .ok .nothing :: replies (readAll buffer) count) ∧
      (¬ (buffer = [] ∨ alone) → ∃ warning, readingWarning? buffer = some warning ∧
        draining sink (count + 1) = ⟨.ok .nothing, []⟩ :: ⟨.error (.refused ⟨warning.place⟩), []⟩ ::
          List.replicate count ⟨.ok .finished, []⟩)) := by
  intro inForce reading draining alone
  have warned := Certificate.reading_warned buffer
  have alone_iff : (read buffer).condition = .none ↔ alone := Certificate.accepted_alone_iff
  refine ⟨?_, warned, Certificate.exists_traced, ?_⟩
  · intro sink count calm
    have result := step_read_of_calm given calm into rest
    have takes := takes_of_calm calm buffer
    exact ⟨congrArg StepResult.outcome result, congrArg StepResult.receipts result,
      run_reader_outcomes given takes name into count, run_reader given takes name into count⟩
  · intro sink count refusing
    refine ⟨?_, ?_, ?_, ?_⟩
    · intro accepted
      exact step_read_of_silent given (warned.silent.mpr accepted) sink into rest
    · intro unsettled
      obtain ⟨warning, due⟩ := Option.ne_none_iff_exists'.mp (mt warned.silent.mp unsettled)
      exact ⟨warning, due, step_read_of_refusing given due refusing into rest⟩
    · rintro (rfl | only)
      · exact run_reader_outcomes given (takes_nil _) name into count
      · exact run_reader_outcomes given (takes_of_accepted (alone_iff.mpr only) _) name into count
    · intro more
      rw [not_or, ← alone_iff, ← warned.silent] at more
      obtain ⟨warning, due⟩ := Option.ne_none_iff_exists'.mp more.2
      exact ⟨warning, due, run_reader_of_refusing given more.1 due refusing name into count⟩

/-- A complete record stands before one that ends early. A sink that refuses nothing lets both
pass, and one that refuses lets none. -/
theorem sinks_are_a_side_channel_pair :
    let data := Source.content (.octets [5, 0, 1, 7, 9, 0, 3, 1])
    let asking (sink : Sink) := (initial.run
      (.openReader data (some sink) "reader" :: List.replicate 3 (.next "reader" "next"))).2
    initial.contentOf data = .ok [5, 0, 1, 7, 9, 0, 3, 1] ∧
      (asking ⟨"first", .recording⟩).map StepResult.outcome =
        [.ok .nothing, .ok (.record ⟨some ⟨5, 1, [7]⟩, .none⟩), .ok (.record ⟨some ⟨9, 3, [1]⟩, .truncated⟩),
          .ok .finished] ∧
      asking ⟨"second", .refusing⟩ =
        [⟨.ok .nothing, []⟩, ⟨.error (.refused ⟨"Certificate.length"⟩), []⟩, ⟨.ok .finished, []⟩,
          ⟨.ok .finished, []⟩] := by
  intro data asking
  have given : initial.contentOf data = .ok [5, 0, 1, 7, 9, 0, 3, 1] := rfl
  have channel := sinks_are_a_side_channel initial data [5, 0, 1, 7, 9, 0, 3, 1] "reader" "next" "rest" given
  have passed := (channel.1 (some ⟨"first", .recording⟩) 3 (by decide)).2.2.1
  have records : readAll [5, 0, 1, 7, 9, 0, 3, 1] = [⟨some ⟨5, 1, [7]⟩, .none⟩, ⟨some ⟨9, 3, [1]⟩, .truncated⟩] := by
    decide +kernel
  have excess : (read [5, 0, 1, 7, 9, 0, 3, 1]).condition ≠ .none := by decide +kernel
  have several : ¬ (([5, 0, 1, 7, 9, 0, 3, 1] : Octets) = [] ∨
      ∃ certificate : Certificate, certificate.Complete ∧ certificate.encode = .ok [5, 0, 1, 7, 9, 0, 3, 1]) := by
    rw [← Certificate.accepted_alone_iff]
    simp [excess]
  obtain ⟨warning, due, refused⟩ := (channel.2.2.2 (some ⟨"second", .refusing⟩) 2 (by decide)).2.2.2 several
  have place := channel.2.1.whole (by decide) warning due
  rw [place] at refused
  rw [records] at passed
  exact ⟨given, passed, refused⟩

end CertWire.Session
