import CertWire.Proofs.WrittenLevels

/-! Command lines that are refused. A line on which nobody calls for help either asks for something or is
refused with a message, and a level that is not known is refused like any other fault,
whether it stands on the line or in the environment. -/

namespace CertWire.CommandLine

open Text (Points)

/-- Nothing is printed but a message, and the status tells so. -/
def IsRefusal (outcome : Outcome) : Prop := ∃ message, outcome = ⟨2, [], [.message message]⟩

/-- A call for help is found among the options. -/
def CallsForHelp (declarations : List Declaration) (expectsCommand : Bool) (arguments : List Points) : Prop :=
  ∃ occurrence ∈ (scanArguments declarations expectsCommand arguments).occurrences, occurrence.declaration = helpOption

/-- The options that a command knows. -/
def declarationsOf (name : Points) : List Declaration :=
  if name = "parse" then parseDeclarations else if name = "encode" then encodeDeclarations else [helpOption]

/-- An outcome that stands in the place of what the arguments ask for. -/
def RefusesOrHelps (declarations : List Declaration) (expectsCommand : Bool) (arguments : List Points)
    (outcome : Outcome) : Prop :=
  IsRefusal outcome ∨ CallsForHelp declarations expectsCommand arguments ∧ ∃ program : Program, outcome = program.showHelp 0

/-- Neither the program nor its command is called for help. -/
structure Helpless (line : List Points) : Prop where
  program : ¬ CallsForHelp mainDeclarations true line
  command : ∀ name rest, (scanArguments mainDeclarations true line).command = name :: rest →
    ¬ CallsForHelp (declarationsOf name) false rest

section Settling

variable {σ : Type} {program : Program} {apply : σ → Occurrence → Except String σ} {start : σ} {outcome : Outcome}

private theorem isRefusal_refuse (program : Program) (reason : Points) : IsRefusal (program.refuse reason) := ⟨_, rfl⟩

private theorem settle_error {whole : Scan} {occurrences : List Occurrence}
    (fails : settle program apply whole start occurrences = .error outcome) :
    IsRefusal outcome ∨ (∃ occurrence ∈ occurrences, occurrence.declaration = helpOption) ∧ outcome = program.showHelp 0 := by
  induction occurrences generalizing start with
  | nil =>
    rw [settle] at fails
    split at fails <;> cases fails
    exact .inl (isRefusal_refuse program _)
  | cons occurrence rest ih =>
    rw [settle] at fails
    split at fails
    next help =>
      cases fails
      exact .inr ⟨⟨occurrence, List.mem_cons_self, help⟩, rfl⟩
    next =>
      split at fails
      · cases fails
        exact .inl (isRefusal_refuse program _)
      · rcases ih fails with refusal | ⟨⟨later, member, help⟩, shown⟩
        · exact .inl refusal
        · exact .inr ⟨⟨later, List.mem_cons_of_mem _ member, help⟩, shown⟩

theorem settingsOf_error {declarations : List Declaration} {expectsCommand : Bool} {arguments : List Points}
    (fails : settingsOf program declarations expectsCommand start apply arguments = .error outcome) :
    RefusesOrHelps declarations expectsCommand arguments outcome := by
  rw [settingsOf] at fails
  rcases error_of_bind fails with early | ⟨settings, _, late⟩
  · refine (settle_error early).imp_right ?_
    rintro ⟨help, shown⟩
    exact ⟨help, program, shown⟩
  · cases late

theorem settled_of_settingsOf {declarations : List Declaration} {expectsCommand : Bool} {arguments : List Points}
    {settings : σ} {whole : Scan}
    (settled : settingsOf program declarations expectsCommand start apply arguments = .ok (settings, whole)) :
    whole = scanArguments declarations expectsCommand arguments ∧
      settle program apply (scanArguments declarations expectsCommand arguments) start
        (scanArguments declarations expectsCommand arguments).occurrences = .ok settings := by
  rw [settingsOf] at settled
  obtain ⟨chosen, applied, same⟩ := exists_of_bind settled
  cases same
  exact ⟨rfl, applied⟩

end Settling

variable {outcome : Outcome} {name : Points} {arguments line bare : List Points} {found : List Occurrence}

private theorem commandOf_error (fails : commandOf name arguments = .error outcome) :
    RefusesOrHelps (declarationsOf name) false arguments outcome := by
  unfold commandOf at fails
  split at fails
  next parse =>
    rw [show declarationsOf name = _ from if_pos parse]
    rcases error_of_bind fails with early | ⟨settings, _, late⟩
    · exact settingsOf_error early
    · cases late
  next notParse =>
    split at fails
    next encode =>
      rw [show declarationsOf name = _ from (if_neg notParse).trans (if_pos encode)]
      rcases error_of_bind fails with early | ⟨settings, _, late⟩
      · exact settingsOf_error early
      · dsimp only at late
        split at late <;> cases late
        exact .inl (isRefusal_refuse encodeProgram _)
    next notEncode =>
      rw [show declarationsOf name = _ from (if_neg notParse).trans (if_neg notEncode)]
      split at fails
      next version =>
        rcases error_of_bind fails with early | ⟨settings, _, late⟩
        · exact settingsOf_error early
        · cases late
      next =>
        cases fails
        exact .inl (isRefusal_refuse mainProgram _)

private theorem levelOf_error {chosen : Setting Points} {preset : Option Points}
    (fails : levelOf chosen preset = .error outcome) : IsRefusal outcome := by
  match chosen with
  | .blank =>
    cases fails
    exact ⟨_, rfl⟩
  | .given name | .absent =>
    simp only [levelOf] at fails
    split at fails <;> cases fails
    exact ⟨_, rfl⟩

private theorem commandAsked_error {whole : Scan} (fails : commandAsked whole = .error outcome) :
    IsRefusal outcome ∨ ∃ name rest, whole.command = name :: rest ∧ CallsForHelp (declarationsOf name) false rest ∧
      ∃ program : Program, outcome = program.showHelp 0 := by
  unfold commandAsked at fails
  split at fails
  · rcases error_of_bind fails with early | ⟨command, _, late⟩
    · cases early
    · dsimp only at late
      split at late <;> cases late
      exact .inl (isRefusal_refuse mainProgram _)
  next name rest asked =>
    rcases error_of_bind fails with early | ⟨command, _, late⟩
    · cases refused : commandOf name rest with
      | error other =>
        rw [refused] at early
        cases early
        exact (commandOf_error refused).imp_right fun helped => ⟨name, rest, asked, helped⟩
      | ok asked =>
        rw [refused] at early
        cases early
    · dsimp only at late
      split at late <;> cases late
      exact .inl (isRefusal_refuse mainProgram _)

/-- A line that asks for nothing is refused, unless somebody calls for help on it. -/
theorem requestOf_error {preset : Option Points} (fails : requestOf preset line = .error outcome) :
    IsRefusal outcome ∨ ¬ Helpless line ∧ ∃ program : Program, outcome = program.showHelp 0 := by
  rw [requestOf_eq] at fails
  rcases error_of_bind fails with early | ⟨⟨chosen, whole⟩, settled, late⟩
  · refine (settingsOf_error early).imp_right ?_
    rintro ⟨help, shown⟩
    exact ⟨fun helpless => helpless.program help, shown⟩
  · rcases error_of_bind late with early | ⟨command, _, late⟩
    · rw [(settled_of_settingsOf settled).1] at early
      refine (commandAsked_error early).imp_right ?_
      rintro ⟨name, rest, asked, help, shown⟩
      exact ⟨fun helpless => helpless.command name rest asked help, shown⟩
    · rcases error_of_bind late with early | ⟨level, _, late⟩
      · exact .inl (levelOf_error early)
      · cases late

theorem ReadsWith.scanArguments (reads : ReadsWith line bare found) :
    scanArguments mainDeclarations true line = scanArguments mainDeclarations true bare ∨
      scanArguments mainDeclarations true line = (scanArguments mainDeclarations true bare).withFound found := by
  unfold CommandLine.scanArguments
  cases reads with
  | stopped stops alsoStops =>
    rw [stops, alsoStops]
    exact .inl rfl
  | read sorts alsoSorts same =>
    rw [sorts, alsoSorts]
    exact .inr same

/-- Other options than the call for help, put in before the command, do not call for help. -/
theorem ReadsWith.helpless (reads : ReadsWith line bare found) (helpless : Helpless bare)
    (other : ∀ occurrence ∈ found, occurrence.declaration ≠ helpOption) : Helpless line := by
  obtain ⟨program, command⟩ := helpless
  rcases reads.scanArguments with same | same
  · constructor
    · rw [CallsForHelp, same]
      exact program
    · rw [same]
      exact command
  · constructor
    · rw [CallsForHelp, same]
      rintro ⟨occurrence, member, help⟩
      rcases List.mem_append.mp member with new | old
      · exact other occurrence new help
      · exact program ⟨occurrence, old, help⟩
    · rw [same]
      exact command

end CertWire.CommandLine
