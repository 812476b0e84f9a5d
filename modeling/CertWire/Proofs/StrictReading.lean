import CertWire.Proofs.Framing

/-! A caller may read a packed buffer strictly, record by record, instead of asking for all
records at once. Both ways take the same records and fail on the same one, so a buffer
is accepted exactly if it is made of encodings. -/

namespace CertWire.Certificate

variable {buffer : Octets} {certificate : Certificate} {record : Record}

/-- The finished runs of a loop that reads strictly while octets are left, keeps each record
cut to its declared length, and stops at the first refusal. -/
inductive StrictRun : Octets → List Certificate → Option CertificateError → Prop
  | ended : StrictRun [] [] none
  | refused {buffer : Octets} {refusal : CertificateError} (occupied : buffer ≠ [])
      (fails : readStrict true buffer = .error refusal) : StrictRun buffer [] (some refusal)
  | taken {buffer remainder : Octets} {certificate : Certificate} {others : List Certificate}
      {refusal : Option CertificateError} (occupied : buffer ≠ [])
      (reads : readStrict true buffer = .ok (certificate, remainder)) (rest : StrictRun remainder others refusal) :
      StrictRun buffer (certificate.clipped :: others) refusal

theorem readEach_nil : readEach [] = ([], none) := by
  rw [readEach]
  rfl

theorem readEach_of_error {refusal : CertificateError} (occupied : buffer ≠ [])
    (fails : readStrict true buffer = .error refusal) : readEach buffer = ([], some refusal) := by
  rw [readEach, if_neg (by simpa using occupied)]
  split
  next found => rw [fails] at found; cases found; rfl
  next found => rw [fails] at found; cases found

theorem readEach_of_ok {remainder : Octets} (occupied : buffer ≠ [])
    (reads : readStrict true buffer = .ok (certificate, remainder)) :
    readEach buffer = (certificate.clipped :: (readEach remainder).1, (readEach remainder).2) := by
  rw [readEach, if_neg (by simpa using occupied)]
  split
  next found => rw [reads] at found; cases found
  next found => rw [reads] at found; cases found; rfl

/-- The loop ends on every buffer: what is left gets shorter with each record. -/
theorem strictRun_readEach (buffer : Octets) : StrictRun buffer (readEach buffer).1 (readEach buffer).2 := by
  by_cases occupied : buffer = []
  · subst buffer
    rw [readEach_nil]
    exact .ended
  cases result : readStrict true buffer with
  | error refusal =>
    rw [readEach_of_error occupied result]
    exact .refused occupied result
  | ok found =>
    obtain ⟨certificate, remainder⟩ := found
    rw [readEach_of_ok occupied result]
    exact .taken occupied result (strictRun_readEach remainder)
termination_by buffer.length
decreasing_by exact length_remainder_lt result

theorem StrictRun.eq_readEach {taken : List Certificate} {refusal : Option CertificateError}
    (run : StrictRun buffer taken refusal) : readEach buffer = (taken, refusal) := by
  induction run with
  | ended => exact readEach_nil
  | refused occupied fails => exact readEach_of_error occupied fails
  | taken occupied reads rest ih => rw [readEach_of_ok occupied reads, ih]

theorem Complete.readEach_append (complete : certificate.Complete) (tail : Octets) :
    readEach (certificate.wire ++ tail) = (certificate :: (readEach tail).1, (readEach tail).2) := by
  have found := ofOctets?_wire_append complete.encodable tail
  have usable := complete.declaredLength_pos
  have condition := condition_reread complete.encodable tail
  rw [if_neg (by omega)] at condition
  have allowed : (certificate.reread tail).condition = .none ∨
      ((certificate.reread tail).condition = .excessData ∧ true = true) := by
    rw [condition]
    split <;> simp
  have result := readStrict_of_ofOctets? found true
  rw [if_pos allowed] at result
  rw [readEach_of_ok (occupied_of_ofOctets? found) result, clipped_reread complete.encodable, complete.reread_nil,
    surplus_reread complete.encodable, if_neg (by omega)]

/-- What reading strictly took, and why it stopped, against the records of the buffer. -/
structure Agrees (records : List Record) (taken : List Certificate) (refusal : Option CertificateError) : Prop where
  taken : taken.map some = (records.filter (·.condition = .none)).map Record.certificate
  accepted : refusal = none ↔ ∀ record ∈ records, record.condition = .none
  refused : ∀ error, refusal = some error → records.getLast?.map Record.condition = some error.condition

theorem Ending.agrees (ending : Ending buffer record) : Agrees [record] (readEach buffer).1 (readEach buffer).2 := by
  cases ending with
  | short occupied headless =>
    rw [readEach_of_error occupied (readStrict_of_headless headless true)]
    exact ⟨rfl, by simp, by rintro error ⟨⟩; rfl⟩
  | @last certificate found alone =>
    have occupied := occupied_of_ofOctets? found
    have result := readStrict_of_ofOctets? found true
    by_cases settled : certificate.condition = .none
    · rw [if_pos (Or.inl settled)] at result
      rw [readEach_of_ok occupied result, surplus_eq_nil alone, readEach_nil,
        clipped_eq_self (Int.le_of_eq (condition_eq_none_iff.mp settled).2.symm)]
      exact ⟨by simp [settled], by simp [settled], by rintro error ⟨⟩⟩
    · rw [if_neg (by simp [settled, alone])] at result
      rw [readEach_of_error occupied result]
      exact ⟨by simp [settled], by simp [settled], by rintro error ⟨⟩; rfl⟩

theorem Agrees.cons {records : List Record} {taken : List Certificate} {refusal : Option CertificateError}
    (agrees : Agrees records taken refusal) (certificate : Certificate) :
    Agrees (⟨some certificate, .none⟩ :: records) (certificate :: taken) refusal where
  taken := by simp [agrees.taken]
  accepted := by simp [agrees.accepted]
  refused := by
    intro error stopped
    have last := agrees.refused error stopped
    obtain ⟨record, final, same⟩ := Option.map_eq_some_iff.mp last
    rw [List.getLast?_cons, final]
    exact congrArg some same

/-- Strict reading and the sequence run in lock step. -/
theorem readEach_agrees (buffer : Octets) : Agrees (readAll buffer) (readEach buffer).1 (readEach buffer).2 := by
  induction buffer using packed_induction with
  | empty =>
    rw [readAll_nil, readEach_nil]
    exact ⟨rfl, by simp, by rintro error ⟨⟩⟩
  | ending found =>
    rw [found.readAll]
    exact found.agrees
  | more complete occupied ih =>
    rw [complete.readAll_append, complete.readEach_append]
    exact ih.cons _

/-- The buffers of which every record is accepted are those made of encodings. -/
theorem accepted_iff_wires (buffer : Octets) :
    (∀ record ∈ readAll buffer, record.condition = .none) ↔
      ∃ certificates : List Certificate, (∀ certificate ∈ certificates, certificate.Encodable) ∧
        (∀ certificate ∈ certificates, 1 ≤ certificate.declaredLength) ∧
        buffer = (certificates.map wire).flatten := by
  constructor
  · intro accepted
    induction buffer using packed_induction with
    | empty => exact ⟨[], by simp, by simp, rfl⟩
    | ending found =>
      rw [found.readAll, List.forall_mem_singleton] at accepted
      obtain ⟨certificate, complete, rfl⟩ := found.complete_of_accepted accepted
      exact ⟨[certificate], List.forall_mem_singleton.mpr complete.encodable,
        List.forall_mem_singleton.mpr complete.declaredLength_pos, by simp⟩
    | more complete occupied ih =>
      rw [complete.readAll_append, List.forall_mem_cons] at accepted
      obtain ⟨certificates, fits, usable, rfl⟩ := ih accepted.2
      exact ⟨_ :: certificates, List.forall_mem_cons.mpr ⟨complete.encodable, fits⟩,
        List.forall_mem_cons.mpr ⟨complete.declaredLength_pos, usable⟩, rfl⟩
  · rintro ⟨certificates, fits, usable, rfl⟩
    have records := readAll_wires_append certificates [] fits usable
    rw [List.append_nil, readAll_nil, List.append_nil] at records
    rw [records, List.forall_mem_map]
    exact fun _ _ => rfl

/-- The loop has one finished run on every buffer. It takes the records that the sequence
accepts, stops at none exactly if the buffer is made of encodings, and otherwise stops for
the reason that the last record of the sequence gives. -/
theorem strict_run_agrees (buffer : Octets) :
    (∀ taken refusal, StrictRun buffer taken refusal ↔ readEach buffer = (taken, refusal)) ∧
    (readEach buffer).1.map some = ((readAll buffer).filter (·.condition = .none)).map Record.certificate ∧
    ((readEach buffer).2 = none ↔ ∀ record ∈ readAll buffer, record.condition = .none) ∧
    ((∀ record ∈ readAll buffer, record.condition = .none) ↔
      ∃ (certificates : List Certificate) (encodings : List Octets), certificates.mapM encode = .ok encodings ∧
        (∀ certificate ∈ certificates, 1 ≤ certificate.declaredLength) ∧ buffer = encodings.flatten) ∧
    ∀ error, (readEach buffer).2 = some error →
      (readAll buffer).getLast?.map Record.condition = some error.condition := by
  have agrees := readEach_agrees buffer
  refine ⟨?_, agrees.taken, agrees.accepted, ?_, agrees.refused⟩
  · intro taken refusal
    constructor
    · exact StrictRun.eq_readEach
    · intro result
      have run := strictRun_readEach buffer
      rwa [result] at run
  · rw [accepted_iff_wires]
    constructor
    · rintro ⟨certificates, fits, usable, octets⟩
      exact ⟨certificates, certificates.map wire, mapM_encode_eq_ok_iff.mpr ⟨fits, rfl⟩, usable, octets⟩
    · rintro ⟨certificates, encodings, encoded, usable, octets⟩
      obtain ⟨fits, rfl⟩ := mapM_encode_eq_ok_iff.mp encoded
      exact ⟨certificates, fits, usable, octets⟩

/-- A record is taken before one is refused whose payload ends early. -/
theorem strict_run_agrees_truncated :
    (readEach [5, 0, 1, 7, 9, 0, 2, 1]).2 = some (.of .truncated "") ∧
      (readAll [5, 0, 1, 7, 9, 0, 2, 1]).getLast?.map Record.condition = some .truncated := by
  have first : readStrict true [5, 0, 1, 7, 9, 0, 2, 1] = .ok (⟨5, 1, [7, 9, 0, 2, 1]⟩, [9, 0, 2, 1]) := by
    rw [readStrict_of_ofOctets? rfl]
    simp [Octets.value, condition, surplus]
  have last : readStrict true [9, 0, 2, 1] = .error (.of .truncated "") := by
    rw [readStrict_of_ofOctets? rfl]
    simp [Octets.value, condition]
  have run := StrictRun.taken (List.cons_ne_nil _ _) first (.refused (List.cons_ne_nil _ _) last)
  have stopped : (readEach [5, 0, 1, 7, 9, 0, 2, 1]).2 = some (.of .truncated "") := by rw [run.eq_readEach]
  exact ⟨stopped, (strict_run_agrees [5, 0, 1, 7, 9, 0, 2, 1]).2.2.2.2 _ stopped⟩

end CertWire.Certificate
