import CertWire.Proofs.StrictReading

/-! Where the octets of a record end. The length field alone says it, so one record can be told from
what follows it whatever that is, and the strict reader takes exactly the octets that begin
with a complete record. -/

namespace CertWire.Certificate

variable {certificate other first second : Certificate} {buffer tail rest remainder : Octets} {allowRemainder : Bool}

private theorem ofInt8_congr {left right : Int} (same : left % 256 = right % 256) :
    Octets.ofInt8 left = Octets.ofInt8 right := by
  simp only [Octets.ofInt8, Octets.ofInt, same]

/-- Octets are read in one way as a record and a tail, as far as the record is written at all. A tail
goes with its record even where nothing is declared, although no reading returns it there. -/
theorem wire_append_eq_iff (fits : first.Encodable) (alsoFits : second.Encodable) :
    first.wire ++ tail = second.wire ++ rest ↔
      first.kind % 256 = second.kind % 256 ∧ first.declaredLength = second.declaredLength ∧
        first.payload.take first.declaredLength.toNat = second.payload.take first.declaredLength.toNat ∧ tail = rest := by
  constructor
  · intro same
    have found := ofOctets?_wire_append fits tail
    rw [same, ofOctets?_wire_append alsoFits rest] at found
    obtain ⟨kind, declared, payload⟩ := Certificate.mk.inj (Option.some.inj found)
    have length := fits.length_take
    have otherLength := alsoFits.length_take
    obtain ⟨taken, tails⟩ := List.append_inj payload (by omega)
    rw [declared] at taken
    exact ⟨kind.symm, declared.symm, taken.symm, tails.symm⟩
  · rintro ⟨kind, declared, payload, rfl⟩
    rw [wire, wire, payload, declared, ofInt8_congr kind]

theorem Complete.take_payload (complete : certificate.Complete) :
    certificate.payload.take certificate.declaredLength.toNat = certificate.payload := by
  have filled := complete.declaredLength_eq
  exact List.take_of_length_le (by omega)

theorem Complete.eq_of_wire_append (complete : first.Complete) (alsoComplete : second.Complete)
    (same : first.wire ++ tail = second.wire ++ rest) : first = second ∧ tail = rest := by
  obtain ⟨kind, declared, payload, tails⟩ := (wire_append_eq_iff complete.encodable alsoComplete.encodable).mp same
  rw [complete.take_payload, declared, alsoComplete.take_payload] at payload
  have kinds : first.kind = second.kind := by
    have nonneg := complete.kind_nonneg
    have small := complete.kind_le
    have otherNonneg := alsoComplete.kind_nonneg
    have otherSmall := alsoComplete.kind_le
    omega
  refine ⟨?_, tails⟩
  cases first
  cases second
  simp_all

/-- Two encodings with any tails are the same octets exactly if the tails are the same and the records
agree in all that is written: the low octet of the kind, the declared length, and the payload
up to it. So no encoding begins another one. That holds even where nothing is declared, and a
reading does not give the tail back. -/
theorem encodings_delimit_themselves (first second : Certificate) (octets others : Octets)
    (written : first.encode = .ok octets) (alsoWritten : second.encode = .ok others) :
    (∀ tail rest, octets ++ tail = others ++ rest ↔
      first.kind % 256 = second.kind % 256 ∧ first.declaredLength = second.declaredLength ∧
        first.payload.take first.declaredLength.toNat = second.payload.take first.declaredLength.toNat ∧ tail = rest) ∧
    (octets <+: others → octets = others) ∧
    (first.declaredLength = 0 → ∀ tail, (read (octets ++ tail)).remainder = []) := by
  obtain ⟨fits, rfl⟩ := encode_eq_ok_iff.mp written
  obtain ⟨alsoFits, rfl⟩ := encode_eq_ok_iff.mp alsoWritten
  refine ⟨fun tail rest => wire_append_eq_iff fits alsoFits, ?_, ?_⟩
  · rintro ⟨tail, begins⟩
    have whole : first.wire ++ tail = second.wire ++ [] := by rw [begins, List.append_nil]
    have ended : tail = [] := ((wire_append_eq_iff fits alsoFits).mp whole).2.2.2
    rw [← begins, ended, List.append_nil]
  · intro nothing tail
    rw [read_of_ofOctets? (ofOctets?_wire_append fits tail), surplus_reread fits, if_pos nothing]

/-- Records of which nothing is declared, one with a payload that is not written, before tails of which
one begins the other. -/
theorem encodings_delimit_themselves_empty :
    encode ⟨-1, 0, [7]⟩ = .ok [255, 0, 0] ∧ encode ⟨255, 0, []⟩ = .ok [255, 0, 0] ∧
      ([255, 0, 0] ++ [1, 2] : Octets) ≠ [255, 0, 0] ++ [1] ∧ (read ([255, 0, 0] ++ [1, 2])).remainder = [] := by
  have written : encode ⟨-1, 0, [7]⟩ = .ok [255, 0, 0] := rfl
  have alsoWritten : encode ⟨255, 0, []⟩ = .ok [255, 0, 0] := rfl
  obtain ⟨apart, _, kept⟩ := encodings_delimit_themselves _ _ _ _ written alsoWritten
  refine ⟨written, alsoWritten, ?_, kept rfl [1, 2]⟩
  intro same
  have agree := (apart [1, 2] [1]).mp same
  exact absurd agree.2.2.2 (by decide)

/-- The buffer is the encoding of a complete record, and then the tail. -/
structure Begins (buffer : Octets) (certificate : Certificate) (tail : Octets) : Prop where
  complete : certificate.Complete
  written : ∃ octets, certificate.encode = .ok octets ∧ buffer = octets ++ tail

theorem begins_iff : Begins buffer certificate tail ↔ certificate.Complete ∧ buffer = certificate.wire ++ tail := by
  constructor
  · rintro ⟨complete, octets, written, same⟩
    obtain ⟨_, rfl⟩ := encode_eq_ok_iff.mp written
    exact ⟨complete, same⟩
  · rintro ⟨complete, same⟩
    exact ⟨complete, certificate.wire, encode_of_encodable complete.encodable, same⟩

theorem Begins.unique (begins : Begins buffer certificate tail) (again : Begins buffer other rest) :
    other = certificate ∧ rest = tail := by
  obtain ⟨complete, same⟩ := begins_iff.mp begins
  obtain ⟨alsoComplete, alsoSame⟩ := begins_iff.mp again
  exact alsoComplete.eq_of_wire_append complete (alsoSame.symm.trans same)

theorem Complete.reread_eq (complete : certificate.Complete) (tail : Octets) :
    certificate.reread tail = ⟨certificate.kind, certificate.declaredLength, certificate.payload ++ tail⟩ := by
  have nonneg := complete.kind_nonneg
  have small := complete.kind_le
  rw [reread, complete.take_payload, Int.emod_eq_of_lt nonneg (by omega)]

/-- What is taken is the record with the tail in its payload. -/
theorem Begins.readStrict (begins : Begins buffer certificate tail) (allowed : tail = [] ∨ allowRemainder = true) :
    readStrict allowRemainder buffer =
      .ok (⟨certificate.kind, certificate.declaredLength, certificate.payload ++ tail⟩, tail) := by
  obtain ⟨complete, rfl⟩ := begins_iff.mp begins
  have usable := complete.declaredLength_pos
  have found := ofOctets?_wire_append complete.encodable tail
  have condition := condition_reread complete.encodable tail
  have surplus := surplus_reread complete.encodable tail
  rw [if_neg (by omega)] at condition surplus
  have accepted : (certificate.reread tail).condition = .none ∨
      ((certificate.reread tail).condition = .excessData ∧ allowRemainder = true) := by
    rw [condition]
    by_cases ended : tail = []
    · simp [ended]
    · simp [ended, allowed.resolve_left ended]
  rw [readStrict_of_ofOctets? found, if_pos accepted, surplus, complete.reread_eq]

theorem begins_of_readStrict (taken : readStrict allowRemainder buffer = .ok (certificate, remainder)) :
    (remainder = [] ∨ allowRemainder = true) ∧ ∃ certificate, Begins buffer certificate remainder := by
  cases found : ofOctets? buffer with
  | none =>
    rw [readStrict_of_headless found] at taken
    cases taken
  | some whole =>
    rw [readStrict_of_ofOctets? found] at taken
    split at taken
    next accepted =>
      cases taken
      rcases accepted with settled | ⟨excess, allowed⟩
      · obtain ⟨complete, same⟩ := complete_of_accepted found settled
        have ended : certificate.surplus = [] := surplus_eq_nil (by simp [settled])
        exact ⟨.inl ended, certificate, begins_iff.mpr ⟨complete, by rw [ended, List.append_nil, same]⟩⟩
      · exact ⟨.inr allowed, certificate.clipped,
          begins_iff.mpr ⟨clipped_complete found excess, (wire_clipped_append_surplus found excess).symm⟩⟩
    next => cases taken

/-- The length field of a buffer that has one. -/
def lengthField (buffer : Octets) : Nat := Octets.value ((buffer.drop 1).take 2)

private theorem lengthField_of_ofOctets? (found : ofOctets? buffer = some certificate) :
    certificate.declaredLength = lengthField buffer ∧ buffer.length = certificate.payload.length + 3 := by
  obtain ⟨kind, high, low, payload, rfl, rfl⟩ := ofOctets?_eq_some_iff.mp found
  exact ⟨rfl, rfl⟩

/-- The condition of a refusal, told from the header and the number of octets. -/
theorem condition_of_refused {error : CertificateError} (refused : readStrict allowRemainder buffer = .error error) :
    error.condition =
        (if buffer.length < 3 ∨ lengthField buffer = 0 then .tooShort
        else if buffer.length - 3 < lengthField buffer then .truncated
        else .excessData) ∧
      (error.condition = .excessData →
        allowRemainder = false ∧ 0 < lengthField buffer ∧ lengthField buffer < buffer.length - 3) := by
  cases found : ofOctets? buffer with
  | none =>
    rw [readStrict_of_headless found] at refused
    cases refused
    rw [if_pos (.inl (ofOctets?_eq_none_iff.mp found))]
    exact ⟨rfl, by rintro ⟨⟩⟩
  | some certificate =>
    obtain ⟨declared, size⟩ := lengthField_of_ofOctets? found
    rw [readStrict_of_ofOctets? found] at refused
    split at refused
    · cases refused
    next unaccepted =>
      cases refused
      rw [not_or, not_and, condition_eq_none_iff] at unaccepted
      obtain ⟨incomplete, strict⟩ := unaccepted
      change certificate.condition = _ ∧ (certificate.condition = _ → _)
      constructor
      · split
        next => exact condition_eq_tooShort_iff.mpr (by omega)
        next =>
          split
          · exact condition_eq_truncated_iff.mpr (by omega)
          · exact condition_eq_excessData_iff.mpr (by omega)
      · intro excess
        have bounds := condition_eq_excessData_iff.mp excess
        exact ⟨Bool.eq_false_iff.mpr (strict excess), by omega, by omega⟩

/-- Reading strictly succeeds exactly on a complete record, or one with a tail where a remainder is
allowed. There is one such record and one such tail, and they are what is returned: the tail
stands also behind the payload, where the reconciled payload does not reach it. The first of
the conditions that apply to a buffer is the one under which it is refused. -/
theorem strict_reading_accepts_complete_records (buffer : Octets) :
    ((∃ taken, readStrict false buffer = .ok taken) ↔ ∃ certificate, Begins buffer certificate []) ∧
    (∀ certificate, Begins buffer certificate [] → readStrict false buffer = .ok (certificate, [])) ∧
    ((∃ taken, readStrict true buffer = .ok taken) ↔ ∃ certificate tail, Begins buffer certificate tail) ∧
    (∀ certificate tail, Begins buffer certificate tail →
      ∃ taken : Certificate, readStrict true buffer = .ok (taken, tail) ∧ taken.kind = certificate.kind ∧
        taken.declaredLength = certificate.declaredLength ∧ taken.payload = certificate.payload ++ tail ∧
        taken.data.1 = certificate.data.1) ∧
    (∀ certificate tail other rest, Begins buffer certificate tail → Begins buffer other rest →
      other = certificate ∧ rest = tail) ∧
    (∀ taken, readStrict false buffer = .ok taken → readStrict true buffer = .ok taken) ∧
    ∀ allowRemainder error, readStrict allowRemainder buffer = .error error →
      error.condition =
          (if buffer.length < 3 ∨ lengthField buffer = 0 then .tooShort
          else if buffer.length - 3 < lengthField buffer then .truncated
          else .excessData) ∧
        (error.condition = .excessData →
          allowRemainder = false ∧ 0 < lengthField buffer ∧ lengthField buffer < buffer.length - 3) := by
  have alone (certificate : Certificate) (begins : Begins buffer certificate []) (allowRemainder : Bool) :
      readStrict allowRemainder buffer = .ok (certificate, []) := by
    rw [begins.readStrict (.inl rfl), List.append_nil]
  have exactly (taken : Certificate × Octets) (reads : readStrict false buffer = .ok taken) :
      ∃ certificate, Begins buffer certificate [] := by
    obtain ⟨ended | allowed, certificate, begins⟩ := begins_of_readStrict reads
    · exact ⟨certificate, ended ▸ begins⟩
    · cases allowed
  refine ⟨⟨?_, ?_⟩, fun certificate begins => alone certificate begins false, ⟨?_, ?_⟩, ?_, ?_, ?_, ?_⟩
  · rintro ⟨taken, reads⟩
    exact exactly taken reads
  · rintro ⟨certificate, begins⟩
    exact ⟨_, alone certificate begins false⟩
  · rintro ⟨taken, reads⟩
    obtain ⟨_, certificate, begins⟩ := begins_of_readStrict reads
    exact ⟨certificate, _, begins⟩
  · rintro ⟨certificate, tail, begins⟩
    exact ⟨_, begins.readStrict (.inr rfl)⟩
  · intro certificate tail begins
    refine ⟨_, begins.readStrict (.inr rfl), rfl, rfl, rfl, ?_⟩
    have filled := begins.complete.declaredLength_eq
    simp only [data, effectivePayload_eq_take, begins.complete.take_payload]
    exact List.take_left' (by omega)
  · exact fun certificate tail other rest begins again => begins.unique again
  · intro taken reads
    obtain ⟨certificate, begins⟩ := exactly taken reads
    rw [alone certificate begins false] at reads
    rw [alone certificate begins true, reads]
  · exact fun allowRemainder error refused => condition_of_refused refused

/-- A complete record is followed by another octet, which is refused unless a remainder is allowed. -/
theorem strict_reading_accepts_complete_records_remainder :
    Begins [5, 0, 2, 7, 8, 1] ⟨5, 2, [7, 8]⟩ [1] ∧
      (∃ taken : Certificate, readStrict true [5, 0, 2, 7, 8, 1] = .ok (taken, [1]) ∧ taken.payload = [7, 8] ++ [1]) ∧
      ∃ error, readStrict false [5, 0, 2, 7, 8, 1] = .error error ∧ error.condition = .excessData := by
  have begins : Begins [5, 0, 2, 7, 8, 1] ⟨5, 2, [7, 8]⟩ [1] :=
    ⟨by constructor <;> decide, [5, 0, 2, 7, 8], rfl, rfl⟩
  have refused : readStrict false [5, 0, 2, 7, 8, 1] = .error (.of .excessData "") := by
    rw [readStrict_of_ofOctets? rfl]
    simp [Octets.value, condition]
  obtain ⟨_, _, _, remains, _, _, refusals⟩ := strict_reading_accepts_complete_records [5, 0, 2, 7, 8, 1]
  obtain ⟨taken, reads, _, _, payload, _⟩ := remains _ _ begins
  refine ⟨begins, ⟨taken, reads, payload⟩, _, refused, ?_⟩
  rw [(refusals false _ refused).1]
  decide

end CertWire.Certificate
