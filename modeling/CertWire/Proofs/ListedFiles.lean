import CertWire.Bundle.Verification

/-! The files that a manifest lists. They are gone through in order, and the first one that is not there,
cannot be read or has another digest is reported. -/

namespace CertWire.Bundle

def Absent (entry : Entry) : Prop := entry = .missing ∨ entry = .blocked

/-- Something is there, or may be, that no file can be read from. -/
inductive Unopenable : Entry → OpenFault → Prop
  | directory : Unopenable .directory .isDirectory
  | overlong : Unopenable .overlong .nameTooLong

def Matches (directory : Directory) (entry : ManifestEntry) : Prop :=
  ∃ content, directory entry.name = .file content ∧ digestText content = entry.digest

/-- What is said of an entry that does not match: a failure of the bundle, or why it cannot be judged. -/
inductive Mismatch (directory : Directory) (entry : ManifestEntry) : Except Obstacle Failure → Prop
  | missing (absent : Absent (directory entry.name)) : Mismatch directory entry (.ok (.missingFile entry.name))
  | unopened {fault : OpenFault} (unopenable : Unopenable (directory entry.name) fault) :
      Mismatch directory entry (.error (.file fault))
  | digest {content : Octets} (file : directory entry.name = .file content) (other : digestText content ≠ entry.digest) :
      Mismatch directory entry (.ok (.digestMismatch entry.name (digestText content) entry.digest))

/-- The entries match up to one of which that is said. -/
inductive Unmatched (directory : Directory) : List ManifestEntry → Except Obstacle Failure → Prop
  | at {before after : List ManifestEntry} {entry : ManifestEntry} {report : Except Obstacle Failure}
      (good : ∀ entry ∈ before, Matches directory entry) (mismatch : Mismatch directory entry report) :
      Unmatched directory (before ++ entry :: after) report

variable {directory : Directory} {entry : ManifestEntry} {entries : List ManifestEntry}
  {report : Except Obstacle Failure}

theorem entry_cases (entry : Entry) :
    (∃ content, entry = .file content) ∨ Absent entry ∨ ∃ fault, Unopenable entry fault := by
  cases entry with
  | file content => exact .inl ⟨content, rfl⟩
  | missing => exact .inr (.inl (.inl rfl))
  | blocked => exact .inr (.inl (.inr rfl))
  | directory => exact .inr (.inr ⟨_, .directory⟩)
  | overlong => exact .inr (.inr ⟨_, .overlong⟩)

theorem isPresent_absent {entry : Entry} (absent : Absent entry) : isPresent entry = .ok false := by
  obtain rfl | rfl := absent <;> rfl

/-- It is looked up first and opened then, and one of the two fails. -/
theorem opening_fails {α : Type} {entry : Entry} {fault : OpenFault} (unopenable : Unopenable entry fault)
    (absent : Except Obstacle α) (rest : Octets → Except Obstacle α) :
    (isPresent entry >>= fun here => if !here then absent else contentOf entry >>= rest) = .error (.file fault) := by
  cases unopenable <;> rfl

private theorem matches_or_mismatch (directory : Directory) (entry : ManifestEntry) :
    Matches directory entry ∨ ∃ report, Mismatch directory entry report := by
  obtain ⟨content, file⟩ | absent | ⟨fault, unopenable⟩ := entry_cases (directory entry.name)
  · by_cases same : digestText content = entry.digest
    · exact .inl ⟨content, file, same⟩
    · exact .inr ⟨_, .digest file same⟩
  · exact .inr ⟨_, .missing absent⟩
  · exact .inr ⟨_, .unopened unopenable⟩

private theorem checkEntries_cons_matches (same : Matches directory entry) :
    checkEntries directory (entry :: entries) = checkEntries directory entries := by
  obtain ⟨content, file, same⟩ := same
  rw [checkEntries, file]
  exact if_neg (not_not_intro same)

private theorem checkEntries_cons_mismatch (mismatch : Mismatch directory entry report) :
    checkEntries directory (entry :: entries) = some <$> report := by
  rw [checkEntries]
  cases mismatch with
  | missing absent =>
    rw [isPresent_absent absent]
    rfl
  | unopened unopenable => exact opening_fails unopenable _ _
  | digest file other =>
    rw [file]
    exact if_pos other

theorem checkEntries_matching (all : ∀ entry ∈ entries, Matches directory entry) :
    checkEntries directory entries = .ok none := by
  induction entries with
  | nil => rfl
  | cons entry rest ih =>
    rw [List.forall_mem_cons] at all
    rw [checkEntries_cons_matches all.1]
    exact ih all.2

theorem checkEntries_unmatched (unmatched : Unmatched directory entries report) :
    checkEntries directory entries = some <$> report := by
  obtain ⟨good, mismatch⟩ := unmatched
  rename_i before after entry
  induction before with
  | nil => exact checkEntries_cons_mismatch mismatch
  | cons first rest ih =>
    rw [List.forall_mem_cons] at good
    rw [List.cons_append, checkEntries_cons_matches good.1]
    exact ih good.2

theorem entries_cases (directory : Directory) (entries : List ManifestEntry) :
    (∀ entry ∈ entries, Matches directory entry) ∨ ∃ report, Unmatched directory entries report := by
  induction entries with
  | nil => exact .inl (List.forall_mem_nil _)
  | cons entry rest ih =>
    obtain same | ⟨report, mismatch⟩ := matches_or_mismatch directory entry
    · obtain all | ⟨report, ⟨good, mismatch⟩⟩ := ih
      · exact .inl (List.forall_mem_cons.mpr ⟨same, all⟩)
      · exact .inr ⟨report, Unmatched.at (List.forall_mem_cons.mpr ⟨same, good⟩) mismatch⟩
    · exact .inr ⟨report, Unmatched.at (List.forall_mem_nil _) mismatch⟩

end CertWire.Bundle
