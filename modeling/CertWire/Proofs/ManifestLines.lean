import CertWire.Bundle.Manifest
import Mathlib.Data.List.Basic

/-! The lines of a manifest. Each of them says nothing, enters a file, or is refused, and the first one
that is refused decides about the whole manifest. -/

namespace CertWire.Bundle

/-- The line is blank, or begins with a number sign. -/
def Silent (line : List Char) : Prop := Text.strip line = [] ∨ (Text.strip line).head? = some '#'

/-- The line has two fields, the first as long as a digest. -/
inductive Enters (line : List Char) : ManifestEntry → Prop
  | fields {digest name : List Char} (speaks : ¬ Silent line) (two : Text.fields (Text.strip line) = [digest, name])
      (long : digest.length = digestLength) :
      Enters line ⟨(Text.lower (digest.map Char.toNat)).toString, .ofList name⟩

inductive Faulty (line : List Char) : ManifestFault → Prop
  | count (speaks : ¬ Silent line) (other : (Text.fields (Text.strip line)).length ≠ 2) :
      Faulty line (.badLine (.ofList (Text.strip line)))
  | digest {digest name : List Char} (speaks : ¬ Silent line) (two : Text.fields (Text.strip line) = [digest, name])
      (other : digest.length ≠ digestLength) : Faulty line (.badDigest (.ofList (Text.strip line)))

/-- Every line says nothing or enters the next one of the entries. -/
inductive Entered : List (List Char) → List ManifestEntry → Prop
  | nil : Entered [] []
  | silent {line : List Char} {rest : List (List Char)} {entries : List ManifestEntry} (silent : Silent line)
      (others : Entered rest entries) : Entered (line :: rest) entries
  | entry {line : List Char} {rest : List (List Char)} {entry : ManifestEntry} {entries : List ManifestEntry}
      (enters : Enters line entry) (others : Entered rest entries) : Entered (line :: rest) (entry :: entries)

/-- The lines are good up to one that is refused. -/
inductive Refused : List (List Char) → ManifestFault → Prop
  | at {before after : List (List Char)} {line : List Char} {entries : List ManifestEntry} {fault : ManifestFault}
      (good : Entered before entries) (faulty : Faulty line fault) : Refused (before ++ line :: after) fault

variable {line : List Char} {lines : List (List Char)} {entry : ManifestEntry} {entries : List ManifestEntry}
  {fault : ManifestFault}

private theorem line_cases (line : List Char) :
    Silent line ∨ (∃ entry, Enters line entry) ∨ ∃ fault, Faulty line fault := by
  by_cases silent : Silent line
  · exact .inl silent
  right
  by_cases count : (Text.fields (Text.strip line)).length = 2
  · obtain ⟨digest, name, two⟩ := List.length_eq_two.mp count
    by_cases long : digest.length = digestLength
    · exact .inl ⟨_, .fields silent two long⟩
    · exact .inr ⟨_, .digest silent two long⟩
  · exact .inr ⟨_, .count silent count⟩

theorem entryOfLine_silent (silent : Silent line) : entryOfLine line = .ok none := by
  apply if_pos
  simpa [Silent] using silent

private theorem entryOfLine_speaking (speaks : ¬ Silent line) :
    entryOfLine line =
      match Text.fields (Text.strip line) with
      | [digest, name] =>
        if digest.length = digestLength then .ok (some ⟨(Text.lower (digest.map Char.toNat)).toString, .ofList name⟩)
        else .error (.badDigest (.ofList (Text.strip line)))
      | _ => .error (.badLine (.ofList (Text.strip line))) := by
  apply if_neg
  simpa [Silent] using speaks

theorem entryOfLine_enters (enters : Enters line entry) : entryOfLine line = .ok (some entry) := by
  cases enters with
  | fields speaks two long =>
    rw [entryOfLine_speaking speaks, two]
    exact if_pos long

private theorem entryOfLine_faulty (faulty : Faulty line fault) : entryOfLine line = .error fault := by
  cases faulty with
  | count speaks other =>
    rw [entryOfLine_speaking speaks]
    split
    next two => exact absurd (congrArg List.length two) other
    next => rfl
  | digest speaks two other =>
    rw [entryOfLine_speaking speaks, two]
    exact if_neg other

theorem entriesOfLines_entered (entered : Entered lines entries) : entriesOfLines lines = .ok entries := by
  induction entered with
  | nil => rfl
  | silent silent _ ih =>
    rw [entriesOfLines, entryOfLine_silent silent, ih]
    rfl
  | entry enters _ ih =>
    rw [entriesOfLines, entryOfLine_enters enters, ih]
    rfl

theorem entriesOfLines_refused (refused : Refused lines fault) : entriesOfLines lines = .error fault := by
  obtain ⟨good, faulty⟩ := refused
  induction good with
  | nil =>
    rw [List.nil_append, entriesOfLines, entryOfLine_faulty faulty]
    rfl
  | silent silent _ ih =>
    rw [List.cons_append, entriesOfLines, entryOfLine_silent silent, ih]
    rfl
  | entry enters _ ih =>
    rw [List.cons_append, entriesOfLines, entryOfLine_enters enters, ih]
    rfl

theorem Refused.cons (goes : Silent line ∨ ∃ entry, Enters line entry) (refused : Refused lines fault) :
    Refused (line :: lines) fault := by
  obtain ⟨good, faulty⟩ := refused
  rw [← List.cons_append]
  obtain silent | ⟨entry, enters⟩ := goes
  · exact .at (.silent silent good) faulty
  · exact .at (.entry enters good) faulty

theorem lines_cases (lines : List (List Char)) :
    (∃ entries, Entered lines entries) ∨ ∃ fault, Refused lines fault := by
  induction lines with
  | nil => exact .inl ⟨[], .nil⟩
  | cons line rest ih =>
    obtain silent | ⟨entry, enters⟩ | ⟨fault, faulty⟩ := line_cases line
    · obtain ⟨entries, entered⟩ | ⟨fault, refused⟩ := ih
      · exact .inl ⟨entries, .silent silent entered⟩
      · exact .inr ⟨fault, refused.cons (.inl silent)⟩
    · obtain ⟨entries, entered⟩ | ⟨fault, refused⟩ := ih
      · exact .inl ⟨entry :: entries, .entry enters entered⟩
      · exact .inr ⟨fault, refused.cons (.inr ⟨entry, enters⟩)⟩
    · exact .inr ⟨fault, Refused.at .nil faulty⟩

end CertWire.Bundle
