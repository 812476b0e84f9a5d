import CertWire.Proofs.Framing

/-! Which warnings are due. A reading warns once of anything but a complete record that ends
its buffer, so a sequence warns of each record that others follow, although it gives that
record as complete, and of a last record that is not complete. -/

namespace CertWire.Certificate

variable {certificate : Certificate} {buffer suffix : Octets} {record : Record}

theorem readingWarning?_of_headless (headless : ofOctets? buffer = none) :
    readingWarning? buffer =
      some ⟨"read_certificate", Condition.tooShort.reason,
        [("certificate_bytes_length", .octetCount buffer), ("certificate_min_size", .natural headerSize)]⟩ := by
  unfold readingWarning?
  rw [headless]

theorem readingWarning?_of_ofOctets? (found : ofOctets? buffer = some certificate) :
    readingWarning? buffer = certificate.lengthWarning? := by
  unfold readingWarning?
  rw [found]

/-- The warning that is due when a buffer is read: none for a complete record that ends it, else
one that gives the reason and the place where it was found. -/
structure ReadingWarned (buffer : Octets) : Prop where
  silent : readingWarning? buffer = none ↔ (read buffer).condition = .none
  reason : ∀ warning, readingWarning? buffer = some warning → warning.reason = (read buffer).condition.reason
  short : buffer.length < 3 → readingWarning? buffer =
    some ⟨"read_certificate", Condition.tooShort.reason,
      [("certificate_bytes_length", .natural buffer.length), ("certificate_min_size", .natural 3)]⟩
  whole : 3 ≤ buffer.length → ∀ warning, readingWarning? buffer = some warning → warning.place = "Certificate.length"

theorem lengthWarning?_eq_none_iff : certificate.lengthWarning? = none ↔ certificate.condition = .none := by
  unfold lengthWarning?
  cases condition : certificate.condition <;> simp

private theorem reason_of_lengthWarning? {warning : Warning} (due : certificate.lengthWarning? = some warning) :
    warning.reason = certificate.condition.reason ∧ warning.place = "Certificate.length" := by
  unfold lengthWarning? at due
  cases condition : certificate.condition with
  | none => simp [condition] at due
  | tooShort | truncated | excessData | outOfBounds =>
    simp only [condition, Option.some.injEq] at due
    subst due
    exact ⟨rfl, rfl⟩

theorem reading_warned (buffer : Octets) : ReadingWarned buffer := by
  cases found : ofOctets? buffer with
  | none =>
    have short : buffer.length < 3 := ofOctets?_eq_none_iff.mp found
    have due := readingWarning?_of_headless found
    have reading := read_of_headless found
    refine ⟨?_, ?_, fun _ => due, fun whole => absurd whole (Nat.not_le_of_lt short)⟩
    · rw [due, reading]
      simp
    · rw [due, reading]
      rintro warning ⟨⟩
      rfl
  | some certificate =>
    have whole : ¬ buffer.length < 3 := by simp [← ofOctets?_eq_none_iff, found]
    have due := readingWarning?_of_ofOctets? found
    have reading := read_of_ofOctets? found
    refine ⟨?_, ?_, fun short => absurd short whole, ?_⟩
    · rw [due, reading]
      exact lengthWarning?_eq_none_iff
    · rw [due, reading]
      exact fun warning same => (reason_of_lengthWarning? same).1
    · rw [due]
      exact fun _ warning same => (reason_of_lengthWarning? same).2

/-- The warning for a record that other octets follow: what it declares, and how many octets
come after its header. -/
def excessWarning (declared : Int) (available : Nat) : Warning :=
  ⟨"Certificate.length", Condition.excessData.reason,
    [("certificate_bytes_length", .integer declared), ("certificate_actual_length", .natural available)]⟩

private theorem lengthWarning?_of_excess (excess : certificate.condition = .excessData) :
    certificate.lengthWarning? = some (excessWarning certificate.declaredLength certificate.payload.length) := by
  unfold lengthWarning?
  rw [excess]
  rfl

/-- The warnings for records that others follow, where that many octets are left from the
first header on. -/
def excessWarnings : (left : Nat) → List Certificate → List Warning
  | _, [] => []
  | left, certificate :: others =>
    excessWarning certificate.declaredLength (left - headerSize) ::
      excessWarnings (left - headerSize - certificate.declaredLength.toNat) others

theorem Complete.advances_append (complete : certificate.Complete) {rest : Octets} (occupied : rest ≠ []) :
    advances (certificate.wire ++ rest) =
      ⟨⟨some certificate, .none⟩,
        some (excessWarning certificate.declaredLength (certificate.payload.length + rest.length)), rest⟩ ::
      advances rest := by
  have fits := complete.encodable
  have usable := complete.declaredLength_pos
  have found := ofOctets?_wire_append fits rest
  have excess := condition_reread fits rest
  rw [if_neg (by omega), if_neg occupied] at excess
  have whole : certificate.payload.take certificate.declaredLength.toNat = certificate.payload :=
    List.take_of_length_le (by have filled := complete.declaredLength_eq; omega)
  rw [advances_of_some (advance?_of_excess found excess), clipped_reread fits, complete.reread_nil,
    surplus_reread fits, if_neg (by omega), readingWarning?_of_ofOctets? found, lengthWarning?_of_excess excess]
  simp only [reread, whole, List.length_append]

/-- The records of a sequence and the warnings due with them, in order: one for each record that
others follow, and for the last one unless it is complete. -/
structure Traced (buffer : Octets) (certificates : List Certificate) (last : Record) (final : Option Warning) :
    Prop where
  records : (advances buffer).map Advance.record =
    certificates.map (fun certificate => ⟨some certificate, .none⟩) ++ [last]
  warnings : (advances buffer).map Advance.warning = (excessWarnings buffer.length certificates).map some ++ [final]
  silent : final = none ↔ last.condition = .none
  warned : ∀ warning, final = some warning → warning.reason = last.condition.reason

theorem exists_traced (occupied : buffer ≠ []) :
    ∃ certificates last final, Traced buffer certificates last final := by
  induction buffer using packed_induction with
  | empty => exact absurd rfl occupied
  | @ending buffer last found =>
    have reading := found.read
    have warned := reading_warned buffer
    refine ⟨[], last, readingWarning? buffer, ?_, ?_, ?_, ?_⟩
    · rw [found.advances]
      rfl
    · rw [found.advances]
      rfl
    · rw [warned.silent, reading]
    · simpa only [reading] using warned.reason
  | @more certificate rest complete remains ih =>
    obtain ⟨certificates, last, final, traced⟩ := ih remains
    refine ⟨certificate :: certificates, last, final, ?_, ?_, traced.silent, traced.warned⟩
    · rw [complete.advances_append remains, List.map_cons, traced.records]
      rfl
    · have filled := complete.declaredLength_eq
      have available : (certificate.wire ++ rest).length - headerSize = certificate.payload.length + rest.length := by
        rw [List.length_append, complete.length_wire]
        omega
      have left : certificate.payload.length + rest.length - certificate.declaredLength.toNat = rest.length := by omega
      rw [complete.advances_append remains, List.map_cons, traced.warnings, excessWarnings, available, left]
      rfl

private theorem exists_of_accepted (accepted : (read buffer).condition = .none) :
    ∃ certificate, ofOctets? buffer = some certificate ∧ certificate.condition = .none := by
  cases found : ofOctets? buffer with
  | none =>
    rw [read_of_headless found] at accepted
    cases accepted
  | some certificate =>
    rw [read_of_ofOctets? found] at accepted
    exact ⟨certificate, rfl, accepted⟩

/-- The octets of which a reading does not warn are those of one complete record. -/
theorem accepted_alone_iff : (read buffer).condition = .none ↔
    ∃ certificate : Certificate, certificate.Complete ∧ certificate.encode = .ok buffer := by
  constructor
  · intro accepted
    obtain ⟨certificate, found, settled⟩ := exists_of_accepted accepted
    obtain ⟨complete, same⟩ := complete_of_accepted found settled
    exact ⟨certificate, complete, encode_eq_ok_iff.mpr ⟨complete.encodable, same⟩⟩
  · rintro ⟨certificate, complete, written⟩
    obtain ⟨fits, rfl⟩ := encode_eq_ok_iff.mp written
    have usable := complete.declaredLength_pos
    have found := ofOctets?_wire_append fits []
    rw [List.append_nil] at found
    rw [read_of_ofOctets? found, condition_reread fits, if_neg (by omega), if_pos rfl]

/-- A buffer that is read without a warning is read to its end by one step. -/
theorem advances_of_accepted (accepted : (read buffer).condition = .none) :
    ∃ certificate : Certificate, advances buffer = [⟨⟨some certificate, .none⟩, none, []⟩] := by
  have silent := (reading_warned buffer).silent.mpr accepted
  obtain ⟨certificate, found, settled⟩ := exists_of_accepted accepted
  have ending := Ending.last found (by simp [settled])
  exact ⟨certificate, by rw [ending.advances, silent, settled]⟩

end CertWire.Certificate
