import CertWire.Proofs.ReaderSteps

/-! Sequence readers that take turns. A reader copies its buffer when it is first asked and
from then on depends on nothing but the copy, so other steps may come between its records
in any order, and change the buffer, without being noticed. -/

namespace CertWire

open Certificate (advance? readAll)

namespace Step

/-- The sink that a step names for its warnings, or puts in force. -/
def sink? : Step → Option Sink
  | read _ sink _ _ | length _ sink | data _ sink _ | setDefaultSink sink | warn sink _ | openReader _ sink _ => sink
  | _ => none

/-- The step names no sink that refuses warnings. -/
def Calm (step : Step) : Prop := ∀ sink ∈ step.sink?, sink.Calm

instance (step : Step) : Decidable step.Calm := inferInstanceAs (Decidable (∀ sink ∈ step.sink?, sink.Calm))

theorem Calm.defaultAfter {step : Step} (calm : step.Calm) {current : Sink} (before : current.Calm) :
    (step.defaultAfter current).Calm := by
  cases step with
  | setDefaultSink sink =>
    cases sink with
    | none => exact Sink.standard_calm
    | some sink => exact calm sink rfl
  | _ => exact before

end Step

namespace Session

variable {session : Session} {name : String} {reader : SequenceReader}

/-- What the advances of one reader come to during a run, in order. -/
def answers (session : Session) (name : String) (steps : List Step) : List (Except SessionFault Answer) :=
  ((steps.zip (session.run steps).2).filter (·.1.advanced? = some name)).map (·.2.outcome)

private theorem answers_cons (session : Session) (name : String) (first : Step) (rest : List Step) :
    session.answers name (first :: rest) =
      if first.advanced? = some name then
        (session.step first).2.outcome :: (session.step first).1.answers name rest
      else (session.step first).1.answers name rest := by
  unfold answers
  rw [run_cons, List.zip_cons_cons, List.filter_cons]
  split <;> simp_all

private theorem answers_append_of_idle {idle : List Step} (session : Session)
    (unasked : ∀ step ∈ idle, step.advanced? ≠ some name) (later : List Step) :
    session.answers name (idle ++ later) = (session.run idle).1.answers name later := by
  induction idle generalizing session with
  | nil => rfl
  | cons first rest ih =>
    rw [List.forall_mem_cons] at unasked
    rw [List.cons_append, answers_cons, if_neg unasked.1, ih _ unasked.2]
    rfl

private theorem next_replies (found : session.readers.lookup name = some reader) (faultless : reader.progress.Faultless)
    (calm : (reader.sink.getD session.defaultSink).Calm) (into : String) :
    ∃ progress rest, (session.step (.next name into)).1.readers.lookup name = some ⟨reader.sink, progress⟩ ∧
      progress.rest? = some rest ∧ readAll rest = (readAll (session.left reader.progress)).tail ∧
      (session.step (.next name into)).2.outcome = answer (readAll (session.left reader.progress)).head? := by
  cases next : advance? (session.left reader.progress) with
  | none =>
    rw [step_next_of_ended found faultless next, Certificate.advance?_eq_none_iff.mp next, Certificate.readAll_nil]
    exact ⟨.finished, [], lookup_fill_self _ _ _, rfl, Certificate.readAll_nil, rfl⟩
  | some advance =>
    rw [step_next_of_taken found faultless next (Sink.receiveAll_of_calm calm _), Certificate.readAll_of_advance next]
    exact ⟨.reading advance.rest, advance.rest, lookup_fill_self _ _ _, rfl, rfl, rfl⟩

theorem calm_of_own {own : Option Sink} (quiet : ∀ sink ∈ own, sink.Calm) (default : session.defaultSink.Calm) :
    (own.getD session.defaultSink).Calm := by
  cases own with
  | none => exact default
  | some sink => exact quiet sink rfl

theorem step_calm {step : Step} (calm : step.Calm) (default : session.defaultSink.Calm) :
    (session.step step).1.defaultSink.Calm := by
  rw [(step_frame session step).defaultSink]
  exact calm.defaultAfter default

variable {steps : List Step} {own : Option Sink}

/-- An advance answers first; what the reader answers later depends on what it has left then. -/
theorem answers_next {into : String} {count : Nat} (found : session.readers.lookup name = some reader)
    (faultless : reader.progress.Faultless) (calm : (reader.sink.getD session.defaultSink).Calm)
    (later : ∀ progress rest,
      (session.step (.next name into)).1.readers.lookup name = some ⟨reader.sink, progress⟩ →
      progress.rest? = some rest →
      (session.step (.next name into)).1.answers name steps = replies (readAll rest) count) :
    session.answers name (.next name into :: steps) = replies (readAll (session.left reader.progress)) (count + 1) := by
  obtain ⟨progress, rest, goes, started, remaining, answered⟩ := next_replies found faultless calm into
  have asked : (Step.next name into).advanced? = some name := rfl
  rw [answers_cons, if_pos asked, answered, later progress rest goes started, remaining, replies_succ]

/-- A reader that has started goes through what it has left, whatever comes between. -/
theorem answers_of_started {progress : Progress} {rest : Octets} (session : Session)
    (found : session.readers.lookup name = some ⟨own, progress⟩) (started : progress.rest? = some rest)
    (default : session.defaultSink.Calm) (quiet : ∀ sink ∈ own, sink.Calm) (calm : ∀ step ∈ steps, step.Calm)
    (unopened : ∀ step ∈ steps, step.opened? ≠ some name) :
    session.answers name steps = replies (readAll rest) (steps.countP (·.advanced? = some name)) := by
  induction steps generalizing session progress rest with
  | nil => rfl
  | cons first others ih =>
    rw [List.forall_mem_cons] at calm unopened
    have after := step_calm calm.1 default
    rw [List.countP_cons]
    by_cases asked : first.advanced? = some name
    · obtain ⟨into, rfl⟩ := Step.eq_next_of_advanced? asked
      obtain ⟨same, faultless⟩ := left_of_started session started
      rw [if_pos (decide_eq_true asked), ← same]
      exact answers_next found faultless (calm_of_own quiet default) fun progress rest goes later =>
        ih _ goes later after calm.2 unopened.2
    · -- Another step may change the buffer that was copied, but not the reader.
      have kept := (step_frame session first).readers name unopened.1 asked
      rw [answers_cons, if_neg asked, if_neg (by simpa using asked)]
      exact ih _ (kept.trans found) started after calm.2 unopened.2

theorem run_calm {steps : List Step} (session : Session) (default : session.defaultSink.Calm)
    (calm : ∀ step ∈ steps, step.Calm) : (session.run steps).1.defaultSink.Calm :=
  run_keeps (motive := fun later => later.defaultSink.Calm) session default
    fun step member _ before => step_calm (calm step member) before

/-- The first advance decides what a reader gives: it goes through what its source holds then. -/
theorem answers_of_opened {data : Source} {holding : Holding} {into : String} {idle later : List Step}
    (session : Session) (held : session.pending data = .ok (.ok holding)) (default : session.defaultSink.Calm)
    (quiet : ∀ sink ∈ own, sink.Calm) (calm : ∀ step ∈ idle ++ .next name into :: later, step.Calm)
    (unopened : ∀ step ∈ idle ++ .next name into :: later, step.opened? ≠ some name)
    (unasked : ∀ step ∈ idle, step.advanced? ≠ some name) :
    let opened := (session.step (.openReader data own name)).1
    opened.answers name (idle ++ .next name into :: later) =
      replies (readAll ((opened.run idle).1.content holding)) (later.countP (·.advanced? = some name) + 1) := by
  intro opened
  have opening : opened = { session with readers := fill session.readers name ⟨own, .unstarted (.ok holding)⟩ } := by
    simp only [opened, step_openReader held]
  have found : opened.readers.lookup name = some ⟨own, .unstarted (.ok holding)⟩ := by
    rw [opening]
    exact lookup_fill_self _ _ _
  have openedCalm : opened.defaultSink.Calm := by
    rw [opening]
    exact default
  rw [List.forall_mem_append, List.forall_mem_cons] at calm unopened
  have waiting := (run_readers opened unopened.1 unasked).trans found
  have idleCalm := run_calm opened openedCalm calm.1
  rw [answers_append_of_idle opened unasked]
  exact answers_next waiting trivial (calm_of_own quiet idleCalm) fun progress rest goes started =>
    answers_of_started _ goes started (step_calm calm.2.1 idleCalm) quiet calm.2.2 unopened.2.2

/-- A reader gives the records of what its source held when it was first asked, and then the
end for ever, whatever comes between. Advances of other readers leave it what it has left,
and no step changes a certificate or octets that were obtained before. -/
theorem readers_isolated (session : Session) :
    (∀ (data : Source) (own : Option Sink) (name into : String) (holding : Holding) (idle later : List Step),
      session.pending data = .ok (.ok holding) → session.defaultSink.Calm → (∀ sink ∈ own, sink.Calm) →
      (∀ step ∈ idle ++ .next name into :: later, step.Calm) →
      (∀ step ∈ idle ++ .next name into :: later, step.opened? ≠ some name) →
      (∀ step ∈ idle, step.advanced? ≠ some name) →
      let opened := (session.step (.openReader data own name)).1
      opened.answers name (idle ++ .next name into :: later) =
        replies (readAll ((opened.run idle).1.content holding)) (later.countP (·.advanced? = some name) + 1)) ∧
    (∀ subject into other, other ≠ subject →
      let after := (session.step (.next subject into)).1
      after.readers.lookup other = session.readers.lookup other ∧
      ∀ progress, after.left progress = session.left progress) ∧
    (∀ (steps : List Step) (name : String) (certificate : Certificate),
      (∀ step ∈ steps, step.certificateSlot? ≠ some name) → session.certificate name = .ok certificate →
      (session.run steps).1.certificate name = .ok certificate) ∧
    (∀ (steps : List Step) (name : String) (octets : Octets),
      (∀ step ∈ steps, step.holdingSlot? ≠ some name) → session.holding name = .ok (.octets octets) →
      (session.run steps).1.contentOf (.slot name) = .ok octets) := by
  refine ⟨?_, ?_, ?_, ?_⟩
  · intro data own name into holding idle later held default quiet calm unopened unasked
    exact answers_of_opened session held default quiet calm unopened unasked
  · intro subject into other different
    have frame := step_frame session (.next subject into)
    have idle : (Step.next subject into).advanced? ≠ some other := fun same => different (Option.some.inj same).symm
    exact ⟨frame.readers other (by simp [Step.opened?]) idle, left_of_buffers (frame.buffers rfl)⟩
  · intro steps name certificate free obtained
    rw [Session.certificate, run_certificates session free]
    exact obtained
  · intro steps name octets free obtained
    have kept : (session.run steps).1.holding name = .ok (.octets octets) := by
      rw [holding, run_holdings session free]
      exact obtained
    rw [contentOf, kept]
    rfl

/-- Octets are added after the reader was opened and overwritten after it was first asked; a
remainder that was read before cannot be changed in its place. -/
theorem readers_isolated_overwritten :
    let session := (initial.run [.newBuffer "buffer" [5, 0, 1, 7, 9], .read (.slot "buffer") none "first" "rest"]).1
    let opened := (session.step (.openReader (.slot "buffer") none "reader")).1
    session.pending (.slot "buffer") = .ok (.ok (.buffer 0)) ∧
      opened.answers "reader" [.append "buffer" [0, 1], .next "reader" "next", .put "buffer" 5 0,
        .next "reader" "next", .next "reader" "next"] =
        [.ok (.record ⟨some ⟨5, 1, [7]⟩, .none⟩), .ok (.record ⟨some ⟨9, 1, []⟩, .truncated⟩), .ok .finished] ∧
      session.holding "rest" = .ok (.octets [9]) ∧
      (session.run [.append "rest" [1], .append "buffer" [1]]).1.contentOf (.slot "rest") = .ok [9] := by
  intro session opened
  have held : session.pending (.slot "buffer") = .ok (.ok (.buffer 0)) := rfl
  have stored : session.holdings.lookup "rest" = some (.octets [9]) := by decide +kernel
  have obtained : session.holding "rest" = .ok (.octets [9]) := by rw [holding, stored]
  have copied : (opened.run [.append "buffer" [0, 1]]).1.content (.buffer 0) = [5, 0, 1, 7, 9, 0, 1] := by
    decide +kernel
  have records : readAll [5, 0, 1, 7, 9, 0, 1] =
      [⟨some ⟨5, 1, [7]⟩, .none⟩, ⟨some ⟨9, 1, []⟩, .truncated⟩] := by decide +kernel
  have answered : opened.answers "reader" [.append "buffer" [0, 1], .next "reader" "next", .put "buffer" 5 0,
      .next "reader" "next", .next "reader" "next"] =
      replies (readAll ((opened.run [.append "buffer" [0, 1]]).1.content (.buffer 0))) 3 :=
    (readers_isolated session).1 (.slot "buffer") none "reader" "next" (.buffer 0) [.append "buffer" [0, 1]]
      [.put "buffer" 5 0, .next "reader" "next", .next "reader" "next"]
      held (by decide) (by decide) (by decide) (by decide) (by decide)
  have kept := (readers_isolated session).2.2.2 [.append "rest" [1], .append "buffer" [1]] "rest" [9] (by decide) obtained
  rw [copied, records] at answered
  exact ⟨held, answered, obtained, kept⟩

end Session
end CertWire
