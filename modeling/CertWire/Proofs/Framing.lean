import CertWire.Proofs.WireForm

/-! Where the records of a packed buffer begin and end. A buffer is taken apart into the
octets of complete records and a rest that decides the last record, and the octets of
records put together are read as those records, whatever follows them. -/

namespace CertWire.Certificate

variable {buffer : Octets} {certificate : Certificate} {record : Record}

theorem advances_of_none (ended : advance? buffer = none) : advances buffer = [] := by
  rw [advances]
  split
  next => rfl
  next step next => rw [ended] at next; cases next

theorem advances_of_some {step : Advance} (next : advance? buffer = some step) :
    advances buffer = step :: advances step.rest := by
  rw [advances]
  split
  next ended => rw [next] at ended; cases ended
  next other found =>
    rw [next] at found
    cases found
    rfl

theorem advance?_eq_none_iff : advance? buffer = none ↔ buffer = [] := by
  cases buffer with
  | nil => exact iff_of_true rfl rfl
  | cons octet rest =>
    refine iff_of_false ?_ (List.cons_ne_nil octet rest)
    unfold advance?
    rw [if_neg (by simp)]
    dsimp only
    split
    · simp
    · split <;> simp

/-- The first step through a buffer warns as a reading of the buffer does. -/
theorem advance?_warning {step : Advance} (next : advance? buffer = some step) :
    step.warning = readingWarning? buffer := by
  unfold advance? at next
  split at next
  · cases next
  · dsimp only at next
    split at next
    · cases next
      rfl
    · split at next <;> cases next <;> rfl

theorem readAll_of_advance {step : Advance} (next : advance? buffer = some step) :
    readAll buffer = step.record :: readAll step.rest := by
  rw [readAll, advances_of_some next, List.map_cons, readAll]

/-- What no other record follows: octets too few for a header, or one record up to the end. -/
inductive Ending : Octets → Record → Prop
  | short {buffer : Octets} (occupied : buffer ≠ []) (headless : ofOctets? buffer = none) :
      Ending buffer ⟨none, .tooShort⟩
  | last {buffer : Octets} {certificate : Certificate} (found : ofOctets? buffer = some certificate)
      (alone : certificate.condition ≠ .excessData) : Ending buffer ⟨some certificate, certificate.condition⟩

theorem occupied_of_ofOctets? (found : ofOctets? buffer = some certificate) : buffer ≠ [] := by
  rintro rfl
  cases found

theorem Ending.occupied (ending : Ending buffer record) : buffer ≠ [] := by
  cases ending with
  | short occupied headless => exact occupied
  | last found alone => exact occupied_of_ofOctets? found

theorem Ending.ofOctets? {condition : Condition} (ending : Ending buffer ⟨some certificate, condition⟩) :
    ofOctets? buffer = some certificate ∧ certificate.condition = condition := by
  cases ending with
  | last found alone => exact ⟨found, rfl⟩

theorem Ending.advance? (ending : Ending buffer record) :
    advance? buffer = some ⟨record, readingWarning? buffer, []⟩ := by
  have nonempty : buffer.isEmpty = false := by simpa using ending.occupied
  unfold Certificate.advance?
  cases ending with
  | short occupied headless => simp only [nonempty, headless, Bool.false_eq_true, if_false]
  | last found alone => simp only [nonempty, found, alone, Bool.false_eq_true, if_false]

theorem advance?_of_excess (found : ofOctets? buffer = some certificate)
    (excess : certificate.condition = .excessData) :
    advance? buffer = some ⟨⟨some certificate.clipped, .none⟩, readingWarning? buffer, certificate.surplus⟩ := by
  have occupied : buffer.isEmpty = false := by simpa using occupied_of_ofOctets? found
  unfold advance?
  simp only [occupied, found, excess, Bool.false_eq_true, if_false, if_true]

theorem Ending.advances (ending : Ending buffer record) :
    advances buffer = [⟨record, readingWarning? buffer, []⟩] := by
  rw [advances_of_some ending.advance?, advances_of_none rfl]

theorem advances_nil : advances [] = [] := advances_of_none rfl

theorem readAll_nil : readAll [] = [] := by
  rw [readAll, advances_nil, List.map_nil]

theorem Ending.readAll (ending : Ending buffer record) : readAll buffer = [record] := by
  rw [readAll_of_advance ending.advance?, readAll_nil]

theorem Ending.read (ending : Ending buffer record) : read buffer = ⟨record.certificate, [], record.condition⟩ := by
  cases ending with
  | short occupied headless => exact read_of_headless headless
  | last found alone => rw [read_of_ofOctets? found, surplus_eq_nil alone]

theorem readAll_of_excess (found : ofOctets? buffer = some certificate)
    (excess : certificate.condition = .excessData) :
    readAll buffer = ⟨some certificate.clipped, .none⟩ :: readAll certificate.surplus :=
  readAll_of_advance (advance?_of_excess found excess)

theorem clipped_complete (found : ofOctets? buffer = some certificate)
    (excess : certificate.condition = .excessData) : certificate.clipped.Complete := by
  obtain ⟨nonneg, small, _, fits⟩ := ofOctets?_bounds found
  obtain ⟨usable, longer⟩ := condition_eq_excessData_iff.mp excess
  refine ⟨nonneg, small, usable, fits, ?_⟩
  rw [clipped, effectivePayload_eq_take, List.length_take]
  dsimp only
  omega

theorem wire_clipped_append_surplus (found : ofOctets? buffer = some certificate)
    (excess : certificate.condition = .excessData) :
    certificate.clipped.wire ++ certificate.surplus = buffer := by
  rw [wire_clipped, wire_append_surplus found (condition_eq_excessData_iff.mp excess).1]

private theorem surplus_ne_nil (excess : certificate.condition = .excessData) : certificate.surplus ≠ [] :=
  fun empty => surplus_eq_nil_iff.mp empty excess

/-- A buffer is empty, is the last record of itself, or is a complete record and a rest that
is not empty. Readers of packed buffers go by these three cases. -/
@[elab_as_elim]
theorem packed_induction {motive : Octets → Prop} (empty : motive [])
    (ending : ∀ {buffer record}, Ending buffer record → motive buffer)
    (more : ∀ {certificate : Certificate} {rest}, certificate.Complete → rest ≠ [] → motive rest →
      motive (certificate.wire ++ rest)) (buffer : Octets) : motive buffer := by
  by_cases occupied : buffer = []
  · rw [occupied]; exact empty
  match found : ofOctets? buffer with
  | none => exact ending (.short occupied found)
  | some certificate =>
    by_cases excess : certificate.condition = .excessData
    · rw [← wire_clipped_append_surplus found excess]
      exact more (clipped_complete found excess) (surplus_ne_nil excess)
        (packed_induction empty ending more certificate.surplus)
    · exact ending (.last found excess)
termination_by buffer.length
decreasing_by exact length_surplus_lt found

theorem complete_of_accepted (found : ofOctets? buffer = some certificate) (accepted : certificate.condition = .none) :
    certificate.Complete ∧ buffer = certificate.wire := by
  obtain ⟨nonneg, small, _, fits⟩ := ofOctets?_bounds found
  obtain ⟨usable, filled⟩ := condition_eq_none_iff.mp accepted
  refine ⟨⟨nonneg, small, usable, fits, filled⟩, ?_⟩
  rw [wire, List.take_of_length_le (by omega)]
  exact eq_header_append_of_ofOctets? found

theorem Ending.complete_of_accepted (ending : Ending buffer record) (accepted : record.condition = .none) :
    ∃ certificate : Certificate, certificate.Complete ∧ buffer = certificate.wire := by
  cases ending with
  | short occupied headless => cases accepted
  | @last certificate found alone => exact ⟨certificate, Certificate.complete_of_accepted found accepted⟩

theorem Complete.reread_nil (complete : certificate.Complete) : certificate.reread [] = certificate :=
  (reread_nil_eq_self_iff complete.encodable).mpr
    ⟨complete.kind_nonneg, complete.kind_le, complete.declaredLength_eq⟩

theorem Complete.condition_eq_none (complete : certificate.Complete) : certificate.condition = .none :=
  condition_eq_none_iff.mpr ⟨complete.declaredLength_pos, complete.declaredLength_eq⟩

theorem Complete.read_wire (complete : certificate.Complete) : read certificate.wire = ⟨some certificate, [], .none⟩ := by
  have found := ofOctets?_wire_append complete.encodable []
  rw [complete.reread_nil, List.append_nil] at found
  have accepted := complete.condition_eq_none
  rw [read_of_ofOctets? found, surplus_eq_nil (by simp [accepted]), accepted]

/-- A record of which something is declared gives the same record whether the buffer ends
with it, so that it is read to the end, or goes on, so that it is cut. -/
theorem readAll_wire_append (fits : certificate.Encodable) (usable : 1 ≤ certificate.declaredLength)
    (tail : Octets) :
    readAll (certificate.wire ++ tail) = ⟨some (certificate.reread []), .none⟩ :: readAll tail := by
  have found := ofOctets?_wire_append fits tail
  have condition := condition_reread fits tail
  rw [if_neg (by omega)] at condition
  by_cases ended : tail = []
  · subst tail
    rw [if_pos rfl] at condition
    have ending := Ending.last found (by rw [condition]; decide)
    rw [ending.readAll, condition, readAll_nil]
  · rw [if_neg ended] at condition
    rw [readAll_of_excess found condition, clipped_reread fits, surplus_reread fits, if_neg (by omega)]

theorem Complete.readAll_append (complete : certificate.Complete) (tail : Octets) :
    readAll (certificate.wire ++ tail) = ⟨some certificate, .none⟩ :: readAll tail := by
  rw [readAll_wire_append complete.encodable complete.declaredLength_pos, complete.reread_nil]

theorem mapM_encode_eq_ok_iff {certificates : List Certificate} {encodings : List Octets} :
    certificates.mapM encode = .ok encodings ↔
      (∀ certificate ∈ certificates, certificate.Encodable) ∧ encodings = certificates.map wire := by
  induction certificates generalizing encodings with
  | nil => simp [pure, Except.pure, eq_comm]
  | cons first rest ih =>
    rw [List.mapM_cons, List.forall_mem_cons]
    by_cases fits : first.Encodable
    · rw [encode_of_encodable fits]
      cases others : rest.mapM encode with
      | error fault =>
        have unfit : ¬ ∀ certificate ∈ rest, certificate.Encodable := by
          intro all
          rw [ih.mpr ⟨all, rfl⟩] at others
          cases others
        simp [bind, Except.bind, unfit]
      | ok written =>
        obtain ⟨all, rfl⟩ := ih.mp others
        simp only [bind, Except.bind, pure, Except.pure, Except.ok.injEq, fits, List.map_cons, true_and, eq_comm]
        exact (and_iff_right all).symm
    · obtain ⟨error, refused, _⟩ := encode_of_not_encodable fits
      simp only [refused, bind, Except.bind, fits, false_and, reduceCtorEq]

theorem readAll_wires_append (certificates : List Certificate) (tail : Octets)
    (fits : ∀ certificate ∈ certificates, certificate.Encodable)
    (usable : ∀ certificate ∈ certificates, 1 ≤ certificate.declaredLength) :
    readAll ((certificates.map wire).flatten ++ tail) =
      certificates.map (fun certificate => ⟨some (certificate.reread []), .none⟩) ++ readAll tail := by
  induction certificates with
  | nil => rfl
  | cons first rest ih =>
    rw [List.forall_mem_cons] at fits usable
    rw [List.map_cons, List.flatten_cons, List.append_assoc, readAll_wire_append fits.1 usable.1,
      ih fits.2 usable.2, List.map_cons, List.cons_append]

/-- Records written one after the other are read as those records, each as far as its
octets carry it, and what follows them is read as if it stood alone. -/
theorem readAll_of_packed (certificates : List Certificate) (encodings : List Octets) (tail : Octets)
    (encoded : certificates.mapM encode = .ok encodings)
    (usable : ∀ certificate ∈ certificates, 1 ≤ certificate.declaredLength) :
    readAll (encodings.flatten ++ tail) =
      certificates.map (fun certificate =>
        { certificate := some
            { kind := certificate.kind % 256
              declaredLength := certificate.declaredLength
              payload := certificate.payload.take certificate.declaredLength.toNat }
          condition := .none }) ++ readAll tail := by
  obtain ⟨fits, rfl⟩ := mapM_encode_eq_ok_iff.mp encoded
  simpa only [reread_nil] using readAll_wires_append certificates tail fits usable

/-- The first record has more payload than it declares, and too few octets for a header follow. -/
theorem readAll_of_packed_pair :
    [⟨-1, 2, [7, 8, 9]⟩, ⟨5, 1, [1]⟩].mapM encode = .ok [[255, 0, 2, 7, 8], [5, 0, 1, 1]] ∧
      readAll [255, 0, 2, 7, 8, 5, 0, 1, 1, 0, 0] =
        [⟨some ⟨255, 2, [7, 8]⟩, .none⟩, ⟨some ⟨5, 1, [1]⟩, .none⟩] ++ readAll [0, 0] := by
  have encoded : [⟨-1, 2, [7, 8, 9]⟩, ⟨5, 1, [1]⟩].mapM encode = .ok [[255, 0, 2, 7, 8], [5, 0, 1, 1]] := rfl
  exact ⟨encoded, readAll_of_packed _ _ [0, 0] encoded (by decide)⟩

/-- The octets of a suffix decide alone what its last record is. -/
structure DecidedBy (last : Record) (suffix : Octets) : Prop where
  headless : last = ⟨none, .tooShort⟩ ↔ suffix.length < 3
  header : ∀ (kind high low : UInt8) (payload : Octets) (declared : Nat),
    suffix = kind :: high :: low :: payload → declared = high.toNat * 256 + low.toNat →
      last.certificate = some ⟨kind.toNat, declared, payload⟩ ∧
      (last.condition = .tooShort ↔ declared = 0) ∧
      (last.condition = .truncated ↔ payload.length < declared) ∧
      (last.condition = .none ↔ 1 ≤ declared ∧ declared = payload.length)

theorem Ending.decided (ending : Ending buffer record) : DecidedBy record buffer := by
  cases ending with
  | short occupied headless =>
    refine ⟨iff_of_true rfl (ofOctets?_eq_none_iff.mp headless), ?_⟩
    rintro kind high low payload declared rfl
    cases headless
  | @last certificate found alone =>
    have whole : ¬ buffer.length < 3 := by
      rw [← ofOctets?_eq_none_iff, found]
      simp
    refine ⟨iff_of_false (by simp) whole, ?_⟩
    rintro kind high low payload declared rfl sum
    have length : Octets.value [high, low] = declared := by
      simpa [sum] using Octets.value_append [high] [low]
    cases found
    rw [condition_eq_tooShort_iff, condition_eq_truncated_iff, condition_eq_none_iff, length]
    refine ⟨rfl, ?_, ?_, ?_⟩ <;> dsimp only <;> omega

/-- The records of a buffer and the octets they account for: complete records, whose
encodings stand at the front, and a last record decided by the octets after them. -/
structure Partition (buffer : Octets) (certificates : List Certificate) (suffix : Octets) (last : Record) : Prop where
  records : readAll buffer = certificates.map (fun certificate => ⟨some certificate, .none⟩) ++ [last]
  complete : ∀ certificate ∈ certificates, certificate.Complete
  octets : ∃ encodings, certificates.mapM encode = .ok encodings ∧ buffer = encodings.flatten ++ suffix
  occupied : suffix ≠ []
  decided : DecidedBy last suffix

theorem Ending.partition (ending : Ending buffer record) : Partition buffer [] buffer record where
  records := ending.readAll
  complete := by simp
  octets := ⟨[], rfl, rfl⟩
  occupied := ending.occupied
  decided := ending.decided

theorem Partition.cons {certificates : List Certificate} {suffix : Octets}
    (partition : Partition buffer certificates suffix record) (complete : certificate.Complete) :
    Partition (certificate.wire ++ buffer) (certificate :: certificates) suffix record := by
  obtain ⟨encodings, encoded, octets⟩ := partition.octets
  obtain ⟨fits, rfl⟩ := mapM_encode_eq_ok_iff.mp encoded
  refine ⟨?_, ?_, ⟨(certificate :: certificates).map wire, ?_, ?_⟩, partition.occupied, partition.decided⟩
  · rw [complete.readAll_append, partition.records]
    rfl
  · exact List.forall_mem_cons.mpr ⟨complete, partition.complete⟩
  · exact mapM_encode_eq_ok_iff.mpr ⟨List.forall_mem_cons.mpr ⟨complete.encodable, fits⟩, rfl⟩
  · rw [octets, List.map_cons, List.flatten_cons, List.append_assoc]

theorem Ending.settled (ending : Ending buffer record) :
    record.condition ≠ .excessData ∧ record.condition ≠ .outOfBounds := by
  cases ending with
  | short occupied headless => decide
  | @last certificate found alone => exact ⟨alone, condition_ne_outOfBounds certificate⟩

theorem exists_partition (occupied : buffer ≠ []) :
    ∃ certificates suffix last, Partition buffer certificates suffix last := by
  induction buffer using packed_induction with
  | empty => exact (occupied rfl).elim
  | ending found => exact ⟨[], _, _, found.partition⟩
  | more complete remains ih =>
    obtain ⟨certificates, suffix, last, partition⟩ := ih remains
    exact ⟨_ :: certificates, suffix, last, partition.cons complete⟩

theorem readAll_settled (buffer : Octets) :
    ∀ record ∈ readAll buffer, record.condition ≠ .excessData ∧ record.condition ≠ .outOfBounds := by
  induction buffer using packed_induction with
  | empty => simp [readAll_nil]
  | ending found =>
    rw [found.readAll, List.forall_mem_singleton]
    exact found.settled
  | more complete remains ih =>
    rw [complete.readAll_append, List.forall_mem_cons]
    exact ⟨by simp, ih⟩

/-- Reading a packed buffer loses, invents and reorders no octet, and no record of it is
left with octets beyond its declared length. -/
theorem readAll_partitions (buffer : Octets) :
    (buffer = [] → readAll buffer = []) ∧
    (buffer ≠ [] → ∃ certificates suffix last, Partition buffer certificates suffix last) ∧
    ∀ record ∈ readAll buffer, record.condition ≠ .excessData ∧ record.condition ≠ .outOfBounds := by
  refine ⟨?_, exists_partition, readAll_settled buffer⟩
  rintro rfl
  exact readAll_nil

/-- A complete record before one whose payload ends early. -/
theorem readAll_partitions_truncated :
    ([5, 0, 1, 7, 9, 0, 2, 1] : Octets) ≠ [] ∧
      ∃ certificates suffix last, Partition [5, 0, 1, 7, 9, 0, 2, 1] certificates suffix last := by
  have occupied : ([5, 0, 1, 7, 9, 0, 2, 1] : Octets) ≠ [] := by decide
  exact ⟨occupied, (readAll_partitions _).2.1 occupied⟩

end CertWire.Certificate
