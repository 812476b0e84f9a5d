import CertWire.Proofs.DueWarnings

/-! The default sink during a run. A warning without a sink of its own goes to the sink in force
when its step begins, also where a reader was opened under another one. The warnings themselves
do not depend on which sinks are in force, and sinks that are put back leave the first one. -/

namespace CertWire

namespace Step

def setsDefault : Step → Bool
  | setDefaultSink _ => true
  | _ => false

end Step

namespace Session

open Certificate (advance? advances)

variable {session : Session} {step : Step} {steps : List Step} {sink : Sink}

theorem run_defaultSink (session : Session) (steps : List Step) :
    (session.run steps).1.defaultSink = steps.foldl Step.defaultAfter session.defaultSink := by
  induction steps generalizing session with
  | nil => rfl
  | cons first rest ih =>
    rw [run_cons, ih, (step_frame session first).defaultSink]
    rfl

def withDefault (session : Session) (sink : Sink) : Session := { session with defaultSink := sink }

theorem Quiet.withDefault (quiet : session.Quiet) (calm : sink.Calm) : (session.withDefault sink).Quiet :=
  ⟨calm, quiet.readers⟩

section Using

variable {α : Type} {before : Session} {value : Except SessionFault α} {next other : α → Session × StepResult}

private theorem use_withDefault (same : ∀ result, (other result).1 = (next result).1.withDefault sink) :
    ((before.withDefault sink).use value other).1 = (before.use value next).1.withDefault sink := by
  cases value with
  | error fault => rfl
  | ok result => exact same result

/-- Which sink takes the warnings of a step makes no difference to what it does after that. -/
theorem use_report_withDefault {own : Option Sink} {warnings : List Warning}
    {next other : List Receipt → Session × StepResult} (calm : (own.getD session.defaultSink).Calm)
    (otherCalm : (own.getD sink).Calm)
    (same : ∀ receipts others, (other others).1 = (next receipts).1.withDefault sink) :
    ((before.withDefault sink).use ((session.withDefault sink).report own warnings) other).1 =
      (before.use (session.report own warnings) next).1.withDefault sink := by
  have taken : (session.withDefault sink).report own warnings = .ok (warnings.flatMap (own.getD sink).receipts) := by
    rw [report, withDefault, Sink.receiveAll_of_calm otherCalm]
    rfl
  rw [taken, report, Sink.receiveAll_of_calm calm]
  exact same _ _

end Using

private theorem content_withDefault (session : Session) (sink : Sink) (holding : Holding) :
    (session.withDefault sink).content holding = session.content holding := by
  cases holding <;> rfl

private theorem contentOf_withDefault (session : Session) (sink : Sink) (data : Source) :
    (session.withDefault sink).contentOf data = session.contentOf data := by
  cases data <;> rfl

private theorem left_withDefault (session : Session) (sink : Sink) (progress : Progress) :
    (session.withDefault sink).left progress = session.left progress :=
  left_of_buffers rfl progress

private theorem due_withDefault (session : Session) (sink : Sink) (step : Step) :
    (session.withDefault sink).due step = session.due step := by
  cases step with
  | read data given into rest => simp only [due, contentOf_withDefault]
  | readStrict data allowRemainder into rest => simp only [due, contentOf_withDefault]
  | next subject into =>
    have same : (session.withDefault sink).readers = session.readers := rfl
    simp only [due, same, left_withDefault]
  | _ => rfl

private theorem change_withDefault (session : Session) (sink : Sink) (subject : String) (appending : Bool)
    (changed : Octets → Except SessionFault Octets) :
    ((session.withDefault sink).change subject appending changed).1 =
      (session.change subject appending changed).1.withDefault sink := by
  apply use_withDefault
  intro holding
  cases holding with
  | octets content => rfl
  | buffer index =>
    simp only [content_withDefault]
    exact use_withDefault fun _ => rfl

private theorem advance_withDefault {reader : SequenceReader} (calm : (reader.sink.getD session.defaultSink).Calm)
    (otherCalm : (reader.sink.getD sink).Calm) (subject into : String) :
    ((session.withDefault sink).advance subject into reader).1 =
      (session.advance subject into reader).1.withDefault sink := by
  have started : (session.withDefault sink).content = session.content := funext (content_withDefault session sink)
  unfold advance
  rw [started]
  change (((session.become subject reader .finished).withDefault sink).use _ _).1 =
    ((session.become subject reader .finished).use _ _).1.withDefault sink
  apply use_withDefault
  intro rest
  cases advance? rest with
  | none => rfl
  | some advance =>
    change (((session.become subject reader .finished).withDefault sink).use _ _).1 =
      ((session.become subject reader .finished).use _ _).1.withDefault sink
    exact use_report_withDefault calm otherCalm fun _ _ => rfl

/-- A step that does not set the default sink does the same under any. -/
theorem step_withDefault (quiet : session.Quiet) (calm : sink.Calm) (stepCalm : step.Calm)
    (leaves : step.setsDefault = false) :
    ((session.withDefault sink).step step).1 = (session.step step).1.withDefault sink := by
  have taken := quiet.receiver stepCalm
  have otherTaken := (quiet.withDefault calm).receiver stepCalm
  cases step with
  | create kind length payload into =>
    simp only [Session.step, contentOf_withDefault]
    exact use_withDefault fun _ => rfl
  | build kind payload into =>
    simp only [Session.step, contentOf_withDefault]
    exact use_withDefault fun _ => use_withDefault fun _ => rfl
  | read data own into rest =>
    simp only [Session.step, contentOf_withDefault]
    exact use_withDefault fun _ => use_report_withDefault taken otherTaken fun _ _ => rfl
  | readStrict data allowRemainder into rest =>
    simp only [Session.step, contentOf_withDefault]
    refine use_withDefault fun buffer => use_report_withDefault taken otherTaken fun _ _ => ?_
    cases Certificate.readStrict allowRemainder buffer with
    | ok read => rfl
    | error error => rfl
  | length subject own => exact use_withDefault fun _ => use_report_withDefault taken otherTaken fun _ _ => rfl
  | data subject own into => exact use_withDefault fun _ => use_report_withDefault taken otherTaken fun _ _ => rfl
  | encode subject into => exact use_withDefault fun _ => use_withDefault fun _ => rfl
  | setField subject field | deleteField subject field => exact use_withDefault fun _ => rfl
  | inspect subject => exact use_withDefault fun _ => rfl
  | compare left right => exact use_withDefault fun _ => use_withDefault fun _ => rfl
  | countDistinct subjects => exact use_withDefault fun _ => rfl
  | setDefaultSink own => cases leaves
  | defaultSink => rfl
  | warn own warning =>
    simp only [Session.step]
    split
    · rfl
    · exact use_report_withDefault taken otherTaken fun _ _ => rfl
  | openReader data own into =>
    have same : (session.withDefault sink).pending data = session.pending data := by cases data <;> rfl
    simp only [Session.step, same]
    exact use_withDefault fun _ => rfl
  | next subject into =>
    have same : (session.withDefault sink).readers = session.readers := rfl
    simp only [receiver, own?, same] at taken otherTaken
    simp only [Session.step, same]
    cases found : session.readers.lookup subject with
    | none => rfl
    | some reader =>
      rw [found] at taken otherTaken
      exact advance_withDefault taken otherTaken subject into
  | newBuffer into content => rfl
  | put subject position octet => exact change_withDefault session sink subject false _
  | append subject content => exact change_withDefault session sink subject true _

/-- The warnings due over a run, in the order of its steps. -/
def warnings (session : Session) : List Step → List Warning
  | [] => []
  | first :: rest => session.due first ++ (session.step first).1.warnings rest

/-- A run is due what it would be due if one sink were in force all along. -/
theorem warnings_of_settings_left_out (session : Session) (quiet : session.Quiet) (calm : sink.Calm)
    (stepsCalm : ∀ step ∈ steps, step.Calm) :
    (session.withDefault sink).warnings (steps.filter (!·.setsDefault)) = session.warnings steps := by
  induction steps generalizing session with
  | nil => rfl
  | cons first rest ih =>
    rw [List.forall_mem_cons] at stepsCalm
    have others := ih (session.step first).1 (quiet.afterStep stepsCalm.1) stepsCalm.2
    cases sets : first.setsDefault with
    | true =>
      rw [List.filter_cons_of_neg (by simp [sets])]
      cases first with
      | setDefaultSink own => exact others
      | _ => cases sets
    | false =>
      rw [List.filter_cons_of_pos (by simp [sets]), warnings, warnings, due_withDefault,
        step_withDefault quiet calm stepsCalm.1 sets, others]

/-- Each default sink that a run sets is put back in the end, by the name that was answered for
the one before it; what was set in between has been put back by then. -/
inductive PutsBack (named : String → Sink) : Session → List Step → Prop
  | nil {session : Session} : PutsBack named session []
  | other {session : Session} {step : Step} {rest : List Step} (leaves : step.setsDefault = false)
      (later : PutsBack named (session.step step).1 rest) : PutsBack named session (step :: rest)
  | back {session : Session} {sink : Option Sink} {name : String} {inner rest : List Step}
      (answered : (session.step (.setDefaultSink sink)).2.outcome = .ok (.sink name))
      (within : PutsBack named (session.step (.setDefaultSink sink)).1 inner)
      (later : PutsBack named
        (session.run (.setDefaultSink sink :: inner ++ [.setDefaultSink (some (named name))])).1 rest) :
      PutsBack named session (.setDefaultSink sink :: inner ++ .setDefaultSink (some (named name)) :: rest)

theorem run_append (session : Session) (before after : List Step) :
    (session.run (before ++ after)).1 = ((session.run before).1.run after).1 := by
  induction before generalizing session with
  | nil => rfl
  | cons first rest ih => exact ih (session.step first).1

theorem PutsBack.defaultSink {named : String → Sink} (back : PutsBack named session steps)
    (known : named session.defaultSink.name = session.defaultSink) :
    (session.run steps).1.defaultSink = session.defaultSink := by
  induction back with
  | nil => rfl
  | @other session step rest leaves later ih =>
    have same : (session.step step).1.defaultSink = session.defaultSink := by
      rw [(step_frame session step).defaultSink]
      cases step with
      | setDefaultSink sink => cases leaves
      | _ => rfl
    rw [run_cons, ih (by rw [same]; exact known), same]
  | @back session sink name inner rest answered within later _ ih =>
    -- The name that was answered is that of the sink that was in force, so that one is put back,
    -- whatever was in force just before.
    have name : named name = session.defaultSink := by
      cases answered
      exact known
    rw [name] at ih ⊢
    have last : (session.run (.setDefaultSink sink :: inner ++ [.setDefaultSink (some session.defaultSink)])).1.defaultSink =
        session.defaultSink := by
      rw [run_append]
      rfl
    have split : Step.setDefaultSink sink :: inner ++ .setDefaultSink (some session.defaultSink) :: rest =
        (.setDefaultSink sink :: inner ++ [.setDefaultSink (some session.defaultSink)]) ++ rest := by simp
    rw [split, run_append, ih (by rw [last]; exact known), last]

private theorem result_in_run {before after : List Step} (quiet : session.Quiet)
    (calm : ∀ other ∈ before ++ step :: after, other.Calm) :
    ∃ result, (session.run (before ++ step :: after)).2[before.length]? = some result ∧
      result.receipts = ((session.run before).1.due step).flatMap
        (((session.run before).1.own? step).getD (before.foldl Step.defaultAfter session.defaultSink)).receipts ∧
      (step.setsDefault = true ∨ step = .defaultSink →
        result.outcome = .ok (.sink (before.foldl Step.defaultAfter session.defaultSink).name)) := by
  rw [List.forall_mem_append, List.forall_mem_cons] at calm
  refine ⟨_, run_getElem? session before step after, ?_, ?_⟩
  · rw [receipts_of_step ((quiet.afterRun calm.1).receiver calm.2.1), receiver, run_defaultSink]
  · rw [← run_defaultSink]
    rintro (sets | rfl)
    · cases step with
      | setDefaultSink sink => rfl
      | _ => cases sets
    · rfl

variable {name : String} {own : Option Sink}

private theorem reader_in_run {data : Source} {into : String} {holding : Holding} {idle later : List Step}
    (quiet : session.Quiet) (held : session.pending data = .ok (.ok holding)) (ownCalm : ∀ sink ∈ own, sink.Calm)
    (calm : ∀ step ∈ idle ++ .next name into :: later, step.Calm)
    (unopened : ∀ step ∈ idle ++ .next name into :: later, step.opened? ≠ some name)
    (unasked : ∀ step ∈ idle, step.advanced? ≠ some name) :
    let opened := (session.step (.openReader data own name)).1
    (∀ before into' after, idle ++ .next name into :: later = before ++ .next name into' :: after →
      (opened.run before).1.own? (.next name into') = own) ∧
    opened.dueAt name (idle ++ .next name into :: later) =
      ((advances ((opened.run idle).1.content holding)).take
        (later.countP (·.advanced? = some name) + 1)).filterMap Advance.warning := by
  intro opened
  have openedQuiet : opened.Quiet := quiet.afterStep ownCalm
  have found : opened.readers.lookup name = some ⟨own, .unstarted (.ok holding)⟩ := by
    simp only [opened, step_openReader held]
    exact lookup_fill_self _ _ _
  constructor
  · intro before into' after same
    rw [same, List.forall_mem_append] at unopened
    obtain ⟨progress, kept⟩ := exists_reader_after_run found unopened.1
    simp only [own?, kept, Option.bind_some]
  · rw [List.forall_mem_append, List.forall_mem_cons] at calm unopened
    have waiting := (run_readers opened unopened.1 unasked).trans found
    have idleQuiet := openedQuiet.afterRun calm.1
    rw [dueAt_append_of_idle opened unasked]
    exact dueAt_next waiting trivial (calm_of_own ownCalm idleQuiet.default) fun progress rest goes started =>
      dueAt_of_started _ (idleQuiet.afterStep calm.2.1) goes started calm.2.2 unopened.2.2

/-- Where no sink refuses a warning, each step leaves the receipts for the warnings it is due, once
each: at its own sink, or else at the sink that is in force when it begins, which is the one
set last. A reader keeps to the sink it was opened with, or to none, and is due what its
source gives rise to. Setting the default sink changes no warning, and sinks that are put
back in turn leave the first one in force. -/
theorem warnings_reach_the_sink_in_force (session : Session) (quiet : session.Quiet) :
    (∀ before step after, (∀ other ∈ before ++ step :: after, other.Calm) →
      let current := (session.run before).1
      let inForce := before.foldl Step.defaultAfter session.defaultSink
      ∃ result, (session.run (before ++ step :: after)).2[before.length]? = some result ∧
        result.receipts = (current.due step).flatMap ((current.own? step).getD inForce).receipts ∧
        (step.setsDefault = true ∨ step = .defaultSink → result.outcome = .ok (.sink inForce.name))) ∧
    (∀ (data : Source) (own : Option Sink) (name into : String) (holding : Holding) (idle later : List Step),
      session.pending data = .ok (.ok holding) → (∀ sink ∈ own, sink.Calm) →
      (∀ step ∈ idle ++ .next name into :: later, step.Calm) →
      (∀ step ∈ idle ++ .next name into :: later, step.opened? ≠ some name) →
      (∀ step ∈ idle, step.advanced? ≠ some name) →
      let opened := (session.step (.openReader data own name)).1
      (∀ before into' after, idle ++ .next name into :: later = before ++ .next name into' :: after →
        (opened.run before).1.own? (.next name into') = own) ∧
      opened.dueAt name (idle ++ .next name into :: later) =
        ((advances ((opened.run idle).1.content holding)).take
          (later.countP (·.advanced? = some name) + 1)).filterMap Advance.warning) ∧
    (∀ sink steps others, sink.Calm → (∀ step ∈ steps, step.Calm) → (∀ step ∈ others, step.Calm) →
      others.filter (!·.setsDefault) = steps.filter (!·.setsDefault) →
      (session.withDefault sink).warnings others = session.warnings steps) ∧
    ∀ named steps, named session.defaultSink.name = session.defaultSink → PutsBack named session steps →
      (session.run steps).1.defaultSink = session.defaultSink := by
  refine ⟨?_, ?_, ?_, ?_⟩
  · intro before step after calm
    exact result_in_run quiet calm
  · intro data own name into holding idle later held ownCalm calm unopened unasked
    exact reader_in_run quiet held ownCalm calm unopened unasked
  · intro sink steps others sinkCalm calm othersCalm same
    have left := warnings_of_settings_left_out (session.withDefault sink) (quiet.withDefault sinkCalm)
      Sink.standard_calm othersCalm
    have right := warnings_of_settings_left_out session quiet Sink.standard_calm calm
    rw [← left, ← right, same]
    rfl
  · intro named steps known back
    exact back.defaultSink known

private theorem initial_quiet : initial.Quiet where
  default := Sink.standard_calm
  readers name reader found := by cases found

/-- The default sink is replaced before each of two records, and put back twice. The second record is
reported to the second sink, although the reader was opened under neither. -/
theorem warnings_reach_the_sink_in_force_replaced :
    let first : Sink := ⟨"first", .recording⟩
    let second : Sink := ⟨"second", .recording⟩
    let before : List Step := [.openReader (.content (.octets [5, 0, 1, 7, 9, 0, 3, 1])) none "reader",
      .setDefaultSink (some first), .next "reader" "next", .setDefaultSink (some second)]
    let after : List Step := [.setDefaultSink (some first), .setDefaultSink (some .standard)]
    let steps := before ++ .next "reader" "next" :: after
    initial.Quiet ∧
      (∃ result, (initial.run steps).2[4]? = some result ∧ result.receipts =
        [.recorded "second" ⟨"Certificate.length", Condition.truncated.reason,
          [("certificate_bytes_length", .integer 3), ("certificate_actual_length", .natural 1)]⟩]) ∧
      (initial.withDefault first).warnings (steps.filter (!·.setsDefault)) = initial.warnings steps ∧
      (initial.run steps).1.defaultSink = .standard := by
  intro first second before after steps
  obtain ⟨delivered, _, independent, restored⟩ := warnings_reach_the_sink_in_force initial initial_quiet
  have calm : ∀ step ∈ steps, step.Calm := by decide
  have filtered : ∀ step ∈ steps.filter (!·.setsDefault), step.Calm := by decide
  obtain ⟨result, place, receipts, _⟩ := delivered before (.next "reader" "next") after calm
  have due : (initial.run before).1.due (.next "reader" "next") =
      [⟨"Certificate.length", Condition.truncated.reason,
        [("certificate_bytes_length", .integer 3), ("certificate_actual_length", .natural 1)]⟩] := by
    set_option maxRecDepth 1000 in
    rfl
  rw [due] at receipts
  let named (name : String) : Sink := if name = "first" then first else .standard
  have within : PutsBack named (initial.run (before.take 3)).1
      (.setDefaultSink (some second) :: [.next "reader" "next"] ++ .setDefaultSink (some (named "first")) :: []) := by
    refine .back ?_ (.other rfl .nil) .nil
    exact congrArg (fun sink : Sink => (.ok (.sink sink.name) : Except SessionFault Answer))
      (run_defaultSink initial (before.take 3))
  have back : PutsBack named (initial.run (before.take 1)).1
      (.setDefaultSink (some first) :: (.next "reader" "next" ::
        (.setDefaultSink (some second) :: [.next "reader" "next"] ++ .setDefaultSink (some (named "first")) :: [])) ++
        .setDefaultSink (some (named "LoggingSink")) :: []) :=
    .back rfl (.other rfl within) .nil
  exact ⟨initial_quiet, ⟨result, place, receipts⟩, independent first steps _ (by decide) calm filtered (by simp [steps]),
    restored named steps rfl (.other rfl back)⟩

end Session
end CertWire
