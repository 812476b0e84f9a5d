import CertWire.Proofs.Refusals
import Mathlib.Data.List.Infix

/-! Lines whose levels are taken. An argument can stand for the level only by its name or the beginning of
it, alone or before an equals sign, so that every line the main program has nothing against is a
bare line with levels put in. -/

namespace CertWire.CommandLine

open Text (Points)

variable {declarations : List Declaration} {argument : Points} {spelling : Spelling} {first : Argument} {line : List Points}

/-- The argument is a name of the option, with this attached to it. -/
inductive SpellsLevel : Points → Option Points → Prop
  | alone {name : String} (known : name ∈ levelNames) : SpellsLevel (.ofString name) none
  | attached {name : String} (known : name ∈ levelNames) (value : Points) :
      SpellsLevel (.ofString name ++ '='.toNat :: value) (some value)

/-- The main program has two options. -/
inductive Spells (argument : Points) (spelling : Spelling) : Prop
  | help (help : spelling.declaration = helpOption) : Spells argument spelling
  | level (level : spelling.declaration = logLevelOption) (spells : SpellsLevel argument spelling.attached) :
      Spells argument spelling

/-- What the beginnings of the name of the option can be told from. -/
theorem level_beginnings : ∀ beginning ∈ (Points.ofString "--log-level").inits,
    (separatorText.isPrefixOf beginning = true → beginning.isPrefixOf (Points.ofString "--help") = false →
      ∃ name ∈ levelNames, beginning = Points.ofString name) ∧
    (beginning.head? = some dash → beginning ≠ [dash] → separatorText.isPrefixOf beginning = true) := by
  decide +kernel

private theorem splitAtEquals_cases (text : Points) :
    splitAtEquals text = (text, none) ∨
      ∃ name value, text = name ++ '='.toNat :: value ∧ splitAtEquals text = (name, some value) := by
  by_cases inside : '='.toNat ∈ text
  · obtain ⟨name, value, rfl, unequal⟩ := List.eq_append_cons_of_mem inside
    exact .inr ⟨name, value, rfl, splitAtEquals_of_attached unequal value⟩
  · exact .inl (splitAtEquals_of_unequal inside)

private theorem named?_main {declaration : Declaration} {name : Points}
    (named : named? mainDeclarations name = some declaration) :
    declaration = helpOption ∨ declaration = logLevelOption ∧ name = .ofString "--log-level" := by
  have member := List.mem_of_find?_eq_some named
  have contained := List.find?_some named
  rw [mainDeclarations, List.mem_pair] at member
  refine member.imp_right ?_
  rintro rfl
  exact ⟨rfl, List.mem_singleton.mp (List.contains_iff_mem.mp contained)⟩

private theorem mem_candidates_long (long : separatorText.isPrefixOf argument = true) :
    spelling ∈ candidates declarations argument ↔ ∃ declaration ∈ declarations, ∃ name ∈ declaration.names,
      (splitAtEquals argument).1.isPrefixOf (Points.ofString name) = true ∧
        spelling = ⟨declaration, name, (splitAtEquals argument).2⟩ := by
  rw [candidates, if_pos long]
  constructor
  · intro candidate
    obtain ⟨pair, inside, found⟩ := List.mem_filterMap.mp candidate
    obtain ⟨declaration, member, inside⟩ := List.mem_flatMap.mp inside
    obtain ⟨name, known, rfl⟩ := List.mem_map.mp inside
    obtain ⟨begins, same⟩ := Option.ite_none_right_eq_some.mp found
    exact ⟨declaration, member, name, known, begins, (Option.some.inj same).symm⟩
  · rintro ⟨declaration, member, name, known, begins, rfl⟩
    apply List.mem_filterMap.mpr
    refine ⟨(declaration, name), ?_, if_pos begins⟩
    exact List.mem_flatMap.mpr ⟨declaration, member, List.mem_map.mpr ⟨name, known, rfl⟩⟩

/-- What begins with one dash alone can be short for the call for help only. -/
theorem declaration_of_short (short : ¬ separatorText.isPrefixOf argument = true) (dashed : argument.head? = some dash)
    (several : argument ≠ [dash]) (candidate : spelling ∈ candidates mainDeclarations argument) :
    spelling.declaration = helpOption := by
  rw [candidates, if_neg short] at candidate
  obtain ⟨⟨declaration, name⟩, inside, found⟩ := List.mem_filterMap.mp candidate
  have known : (declaration, name) ∈ [(helpOption, "-h"), (helpOption, "--help"), (logLevelOption, "--log-level")] := inside
  have declared : declaration = helpOption ∨ declaration = logLevelOption ∧ name = "--log-level" := by
    simp only [List.mem_cons, Prod.mk.injEq, List.not_mem_nil, or_false] at known
    grind
  dsimp only at found
  rcases declared with rfl | ⟨rfl, rfl⟩
  · split at found
    · cases found
      rfl
    · split at found <;> cases found
      rfl
  · split at found
    next same =>
      have size := congrArg List.length same
      rw [List.length_take, show (Points.ofString "--log-level").length = 11 from rfl] at size
      omega
    · split at found
      next begins =>
        have beginning := (List.mem_inits _ _).mpr (List.isPrefixOf_iff_prefix.mp begins)
        exact absurd ((level_beginnings argument beginning).2 dashed several) short
      · cases found

private theorem long_of_split (long : separatorText.isPrefixOf argument = true) :
    separatorText.isPrefixOf (splitAtEquals argument).1 = true := by
  rcases splitAtEquals_cases argument with split | ⟨name, value, rfl, split⟩
  · rw [split]
    exact long
  · rw [split]
    match name with
    | [] => simp [separatorText, dash, List.isPrefixOf] at long
    | [first] => simp [separatorText, dash, List.isPrefixOf] at long
    | first :: second :: rest => exact long

/-- One candidate is the option for the level only if no name of the other option begins like it. -/
theorem spells_of_candidate (dashed : argument.head? = some dash) (several : argument ≠ [dash])
    (only : candidates mainDeclarations argument = [spelling]) : Spells argument spelling := by
  have candidate : spelling ∈ candidates mainDeclarations argument := by
    rw [only]
    exact List.mem_singleton_self spelling
  by_cases long : separatorText.isPrefixOf argument = true
  · obtain ⟨declaration, member, name, known, begins, rfl⟩ := (mem_candidates_long long).mp candidate
    rw [mainDeclarations, List.mem_pair] at member
    rcases member with rfl | rfl
    · exact .help rfl
    · have same : name = "--log-level" := List.mem_singleton.mp known
      subst same
      have unlike : (splitAtEquals argument).1.isPrefixOf (Points.ofString "--help") = false := by
        apply Bool.eq_false_iff.mpr
        intro also
        have other : ⟨helpOption, "--help", (splitAtEquals argument).2⟩ ∈ candidates mainDeclarations argument :=
          (mem_candidates_long long).mpr ⟨helpOption, List.mem_cons_self, "--help", by decide, also, rfl⟩
        rw [only] at other
        have same : helpOption = logLevelOption := congrArg Spelling.declaration (List.mem_singleton.mp other)
        exact absurd same (by decide)
      have beginning := (List.mem_inits _ _).mpr (List.isPrefixOf_iff_prefix.mp begins)
      obtain ⟨name, known, same⟩ := (level_beginnings _ beginning).1 (long_of_split long) unlike
      apply Spells.level rfl
      rcases splitAtEquals_cases argument with split | ⟨start, value, whole, split⟩
      · rw [split] at same ⊢
        subst same
        exact .alone known
      · rw [split] at same ⊢
        subst same whole
        exact .attached known value
  · exact .help (declaration_of_short long dashed several candidate)

/-- What an argument is sorted into by the main program. -/
theorem classify_main_cases (sorts : classify mainDeclarations argument = .ok first) :
    first = .word argument ∨ first = .option argument none ∨
      ∃ spelling, first = .option argument (some spelling) ∧ Spells argument spelling := by
  unfold classify at sorts
  split at sorts
  · cases sorts
    exact .inl rfl
  next dashed =>
    have dashed := not_not.mp dashed
    split at sorts
    next declaration named =>
      cases sorts
      refine .inr (.inr ⟨_, rfl, ?_⟩)
      rcases named?_main named with help | ⟨level, same⟩
      · exact .help help
      · refine .level level ?_
        rw [same]
        exact .alone (by decide)
    next unnamed =>
      split at sorts
      · cases sorts
        exact .inl rfl
      next several =>
        dsimp only at sorts
        split at sorts
        next declaration named =>
          cases sorts
          refine .inr (.inr ⟨_, rfl, ?_⟩)
          rcases splitAtEquals_cases argument with split | ⟨name, value, whole, split⟩
          · rw [split] at named
            cases named
          · rw [split] at named
            rcases named?_main named with help | ⟨level, same⟩
            · exact .help help
            · refine .level level ?_
              dsimp only at same
              rw [split, whole, same]
              exact .attached (by decide) value
        next =>
          split at sorts
          · split at sorts <;> cases sorts
            · exact .inl rfl
            · exact .inr (.inl rfl)
          next spelling only =>
            cases sorts
            exact .inr (.inr ⟨spelling, rfl, spells_of_candidate dashed several only⟩)
          · cases sorts

/-- The main program stops at nothing, is not called for help, and knows the levels that it is given. -/
structure Taken (whole : Scan) : Prop where
  faultless : whole.fault = none
  helpless : ∀ occurrence ∈ whole.occurrences, occurrence.declaration ≠ helpOption
  named : ∀ occurrence ∈ whole.occurrences, ∀ text ∈ occurrence.value, ∃ level, NamesLevel text level

variable {whole : Scan} {found : List Occurrence} {start chosen : Setting Points} {others : List Argument}

private theorem exists_namesLevel_of_applied {occurrence : Occurrence}
    (applied : applyLogLevel start occurrence = .ok chosen) :
    ∀ text ∈ occurrence.value, ∃ level, NamesLevel text level := by
  intro text given
  rw [applyLogLevel, Option.mem_def.mp given] at applied
  dsimp only at applied
  split at applied
  next accepted =>
    obtain ⟨level, same⟩ := Option.isSome_iff_exists.mp accepted
    exact ⟨level, ofName?_eq_some_iff.mp same⟩
  · cases applied

private theorem taken_of_settle (settled : settle mainProgram applyLogLevel whole start found = .ok chosen) :
    Taken { whole with occurrences := found } := by
  induction found generalizing start with
  | nil =>
    rw [settle] at settled
    split at settled
    · cases settled
    next faultless => exact ⟨faultless, by simp, by simp⟩
  | cons occurrence rest ih =>
    rw [settle] at settled
    split at settled
    · cases settled
    next helpless =>
      split at settled
      · cases settled
      next next applied =>
        obtain ⟨faultless, others, named⟩ := ih settled
        exact ⟨faultless, List.forall_mem_cons.mpr ⟨helpless, others⟩,
          List.forall_mem_cons.mpr ⟨exists_namesLevel_of_applied applied, named⟩⟩

theorem Taken.of_withFound (taken : Taken (whole.withFound found)) : Taken whole :=
  ⟨taken.faultless, fun occurrence member => taken.helpless occurrence (List.mem_append_right found member),
    fun occurrence member => taken.named occurrence (List.mem_append_right found member)⟩

theorem Taken.attached {value : Points} (taken : Taken (whole.withFound [⟨logLevelOption, attachedValue value⟩])) :
    TakenAsLevel value := by
  by_cases separator : value = separatorText
  · exact .inr separator
  · exact .inl (taken.named ⟨logLevelOption, attachedValue value⟩ List.mem_cons_self value (if_neg separator))

private theorem not_taken_of_help {occurrence : Occurrence} (member : occurrence ∈ found)
    (help : occurrence.declaration = helpOption) : ¬ Taken (whole.withFound found) :=
  fun taken => taken.helpless occurrence (List.mem_append_left _ member) help

private theorem not_taken_of_fault {fault : OptionFault} : ¬ Taken { Scan.nothing with fault := some fault } :=
  fun taken => by cases taken.faultless

/-- A call for help stands first among the options of one argument, or alone. -/
theorem cluster_of_help (help : spelling.declaration = helpOption) :
    (∃ fault, spelling.cluster mainDeclarations = .error fault) ∨ spelling.cluster mainDeclarations = .ok ⟨[], some helpOption⟩ ∨
      ∃ found last, spelling.cluster mainDeclarations = .ok ⟨⟨helpOption, none⟩ :: found, last⟩ := by
  obtain ⟨declaration, name, attached⟩ := spelling
  subst help
  match attached with
  | none => exact .inr (.inl rfl)
  | some [] => exact .inl ⟨_, rfl⟩
  | some (letter :: rest) =>
    simp only [Spelling.cluster, attach, show helpOption.takesValue = false from rfl, Bool.false_eq_true, if_false]
    split
    · exact .inl ⟨_, rfl⟩
    next next joined =>
      split
      · exact .inr (.inr ⟨_, _, rfl⟩)
      · cases attach mainDeclarations true next rest with
        | error fault => exact .inl ⟨fault, rfl⟩
        | ok others => exact .inr (.inr ⟨_, _, rfl⟩)

private theorem word_of_pending {last : Declaration}
    (taken : Taken (scan mainDeclarations true (some (found, last)) others)) :
    ∃ value remaining, others = .word value :: remaining := by
  cases others with
  | nil => exact absurd taken not_taken_of_fault
  | cons first remaining =>
    cases first with
    | word value => exact ⟨value, remaining, rfl⟩
    | separator | option text spelling => exact absurd taken not_taken_of_fault

private theorem not_taken_of_spelled_help {text : Points} (help : spelling.declaration = helpOption) :
    ¬ Taken (scan mainDeclarations true none (.option text (some spelling) :: others)) := by
  rw [scan]
  rcases cluster_of_help help with ⟨fault, stops⟩ | alone | ⟨found, last, first⟩
  · rw [stops]
    exact not_taken_of_fault
  · rw [alone]
    exact not_taken_of_help List.mem_cons_self rfl
  · rw [first]
    cases last with
    | none => exact not_taken_of_help List.mem_cons_self rfl
    | some last =>
      dsimp only
      split
      · -- The call for help counts only once the last option has its value.
        intro taken
        obtain ⟨value, remaining, rfl⟩ := word_of_pending taken
        rw [scan] at taken
        exact not_taken_of_help List.mem_cons_self rfl taken
      · exact not_taken_of_help List.mem_cons_self rfl

private theorem classifyAll_cons_cases (unlike : argument ≠ separatorText) {rest : List Points}
    (sorts : classifyAll declarations (argument :: rest) = .ok others) :
    ∃ first remaining, classify declarations argument = .ok first ∧ classifyAll declarations rest = .ok remaining ∧
      others = first :: remaining := by
  rw [classifyAll, if_neg unlike] at sorts
  obtain ⟨first, sorted, sorts⟩ := exists_of_bind sorts
  obtain ⟨remaining, sortsRest, same⟩ := exists_of_bind sorts
  cases same
  exact ⟨first, remaining, sorted, sortsRest, rfl⟩

private theorem exists_of_sorted_word {value : Points} {remaining : List Argument}
    (sorts : classifyAll declarations line = .ok (.word value :: remaining)) :
    ∃ rest, line = value :: rest ∧ classifyAll declarations rest = .ok remaining := by
  match line with
  | [] => cases sorts
  | argument :: rest =>
    by_cases separator : argument = separatorText
    · rw [classifyAll, if_pos separator] at sorts
      cases sorts
    · obtain ⟨first, others, sorted, sortsRest, same⟩ := classifyAll_cons_cases separator sorts
      cases same
      have same : value = argument := text_of_classify sorted
      rw [same]
      exact ⟨rest, rfl, sortsRest⟩

private theorem optionless_separator (rest : List Points) : Optionless (separatorText :: rest) := by
  rw [Optionless, scanArguments, classifyAll, if_pos rfl]
  cases rest <;> rfl

theorem optionless_word (unlike : argument ≠ separatorText) (word : classify mainDeclarations argument = .ok (.word argument))
    (rest : List Points) : Optionless (argument :: rest) := by
  rw [Optionless, scanArguments, classifyAll_cons_eq unlike word]
  cases classifyAll mainDeclarations rest <;> rfl

private theorem exists_leveled_of_sorted (sorts : classifyAll mainDeclarations line = .ok others)
    (taken : Taken (scan mainDeclarations true none others)) : ∃ values bare, Leveled values line bare := by
  -- A value behind its option is passed over with it, so that the rest of the line is shorter by two.
  induction counted : line.length using Nat.strong_induction_on generalizing line others with
  | _ size ih =>
  match line with
  | [] => exact ⟨[], [], .bare rfl⟩
  | argument :: rest =>
    by_cases separator : argument = separatorText
    · rw [separator]
      exact ⟨[], _, .bare (optionless_separator rest)⟩
    · obtain ⟨first, remaining, sorted, sortsRest, rfl⟩ := classifyAll_cons_cases separator sorts
      have shorter : rest.length < size := by rw [← counted, List.length_cons]; omega
      rcases classify_main_cases sorted with rfl | rfl | ⟨⟨declaration, name, attached⟩, rfl, spells⟩
      · exact ⟨[], _, .bare (optionless_word separator sorted rest)⟩
      · rw [scan] at taken
        obtain ⟨values, bare, leveled⟩ := ih rest.length shorter sortsRest ⟨taken.1, taken.2, taken.3⟩ rfl
        exact ⟨values, argument :: bare, .unknown separator sorted leveled⟩
      · cases spells with
        | help help => exact absurd taken (not_taken_of_spelled_help help)
        | level level spells =>
          dsimp only at level spells
          subst level
          cases spells with
          | alone known =>
            simp only [scan, Spelling.cluster, show logLevelOption.takesValue = true from rfl, if_true] at taken
            obtain ⟨value, others, rfl⟩ := word_of_pending taken
            obtain ⟨tail, rfl, sortsTail⟩ := exists_of_sorted_word sortsRest
            rw [scan, List.nil_append] at taken
            obtain ⟨level, names⟩ := taken.named ⟨logLevelOption, some value⟩ List.mem_cons_self value rfl
            have muchShorter : tail.length < size := by rw [List.length_cons] at shorter; omega
            obtain ⟨values, bare, leveled⟩ := ih tail.length muchShorter sortsTail taken.of_withFound rfl
            exact ⟨value :: values, bare, .option (.behind known names) leveled⟩
          | attached known value =>
            rw [scan, cluster_attached rfl] at taken
            obtain ⟨values, bare, leveled⟩ := ih rest.length shorter sortsRest taken.of_withFound rfl
            exact ⟨value :: values, bare, .option (.attached known taken.attached) leveled⟩

private theorem exists_leveled (taken : Taken (scanArguments mainDeclarations true line)) :
    ∃ values bare, Leveled values line bare := by
  unfold scanArguments at taken
  cases sorts : classifyAll mainDeclarations line with
  | error fault =>
    rw [sorts] at taken
    exact absurd taken not_taken_of_fault
  | ok others =>
    rw [sorts] at taken
    exact exists_leveled_of_sorted sorts taken

/-- Unless the main program refuses its options, or is called for help, a line is one with levels put in. -/
theorem leveled_or_settled (line : List Points) :
    (∃ values bare, Leveled values line bare) ∨
      ∃ outcome, RefusesOrHelps mainDeclarations true line outcome ∧ ∀ preset, requestOf preset line = .error outcome := by
  cases settled : settingsOf mainProgram mainDeclarations true .absent applyLogLevel line with
  | error outcome =>
    right
    refine ⟨outcome, settingsOf_error settled, ?_⟩
    intro preset
    rw [requestOf_eq, settled]
    rfl
  | ok settings => exact .inl (exists_leveled (taken_of_settle (settled_of_settingsOf settled).2))

/-- A value attached to the option is accepted only if it names the level that is asked for. -/
theorem names_of_accepted {name : String} {value : Points} {bare : List Points} {preset : Option Points} {request : Request}
    (known : name ∈ levelNames) (optionless : Optionless bare)
    (accepted : requestOf preset ((.ofString name ++ '='.toNat :: value) :: bare) = .ok request) :
    NamesLevel value request.level := by
  have asked := accepted
  rw [requestOf_eq] at asked
  obtain ⟨settings, settled, _⟩ := exists_of_bind asked
  have taken := taken_of_settle (settled_of_settingsOf settled).2
  cases (readsWith_self bare).attached known value with
  | stopped stops alsoStops =>
    rw [scanArguments, stops] at taken
    exact absurd taken not_taken_of_fault
  | read sorts alsoSorts same =>
    rw [scanArguments, sorts] at taken
    change Taken (scan mainDeclarations true none _) at taken
    rw [same] at taken
    have leveled : Leveled [value] ((.ofString name ++ '='.toNat :: value) :: bare) bare :=
      .option (.attached known taken.attached) (.bare optionless)
    exact supplied_of_accepted leveled accepted

end CertWire.CommandLine
