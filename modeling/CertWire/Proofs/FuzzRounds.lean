import CertWire.Proofs.Reencoding
import CertWire.Proofs.Framing
import CertWire.Proofs.Rounds
import CertWire.Trial.Fuzz

/-! Fuzzing the reader. The judgement accepts every answer of the reader, and sequences of drawn encodings
are read record by record as their parts are read alone, so that no run finds anything. -/

namespace CertWire.Trial.Fuzz

open CommandLine Randomness

variable {σ : Type} {buffer part : Octets}

/-- Header and payload account for the buffer, and where the payload is cut the remainder makes up
for what was cut. -/
theorem flaw?_read (buffer : Octets) : flaw? (.ok (Certificate.read buffer)) buffer = none := by
  cases found : Certificate.ofOctets? buffer with
  | none =>
    have short : buffer.length < Certificate.headerSize := Certificate.ofOctets?_eq_none_iff.mp found
    rw [Certificate.read_of_headless found]
    exact if_neg (by simp [Nat.not_le_of_lt short])
  | some certificate =>
    have split := Certificate.header_append_payload found
    rw [Certificate.read_of_ofOctets? found]
    simp only [flaw?, split, ne_eq, not_true_eq_false, if_false]
    split
    next excess =>
      have usable := (Certificate.condition_eq_excessData_iff.mp excess).1
      apply if_neg
      rw [List.append_assoc, Certificate.effectivePayload_append_surplus usable]
      exact not_not_intro split
    next within => exact if_neg (not_not_intro (Certificate.surplus_eq_nil within))

theorem checkRead_eq_none (label : String) (round : Nat) (buffer : Octets) : checkRead label round buffer = none := by
  rw [checkRead, flaw?_read]
  rfl

/-- The encoding of a certificate that can be drawn: of an assigned kind, with up to 40 octets of
payload and at least one. -/
def IsEncoding (part : Octets) : Prop :=
  ∃ (kind : Int) (payload : Octets), 0 ≤ kind ∧ kind ≤ 5 ∧ payload ≠ [] ∧ payload.length ≤ 40 ∧
    (Certificate.build kind payload >>= Certificate.encode) = .ok part

private theorem encode_build (kind : Int) {payload : Octets} (short : payload.length ≤ 40) :
    (Certificate.build kind payload >>= Certificate.encode) = .ok (Certificate.wire ⟨kind, payload.length, payload⟩) := by
  rw [Certificate.build_of_fits kind (Nat.le_trans short (by decide))]
  apply Certificate.encode_of_encodable
  unfold Certificate.Encodable
  dsimp only
  omega

private theorem exists_complete_of_isEncoding (encoding : IsEncoding part) :
    ∃ certificate : Certificate, certificate.Complete ∧ part = certificate.wire := by
  obtain ⟨kind, payload, nonneg, small, occupied, short, written⟩ := encoding
  have positive := List.length_pos_iff.mpr occupied
  rw [encode_build kind short] at written
  refine ⟨⟨kind, payload.length, payload⟩, ?_, (Except.ok.inj written).symm⟩
  constructor <;> dsimp only <;> omega

/-- Records of a sequence are cut and records alone are not, but an encoding has nothing to cut. -/
theorem readAll_flatten {parts : List Octets} (encodings : ∀ part ∈ parts, IsEncoding part) :
    Certificate.readAll parts.flatten = parts.map fun part => ⟨(Certificate.read part).certificate, .none⟩ := by
  induction parts with
  | nil => exact Certificate.readAll_nil
  | cons part rest ih =>
    rw [List.forall_mem_cons] at encodings
    obtain ⟨certificate, complete, rfl⟩ := exists_complete_of_isEncoding encodings.1
    rw [List.flatten_cons, complete.readAll_append, ih encodings.2, List.map_cons, complete.read_wire]

theorem checkSequence_eq_none {parts : List Octets} (encodings : ∀ part ∈ parts, IsEncoding part) (label : String)
    (round : Nat) : checkSequence label round parts = none := by
  apply if_pos
  have records := readAll_flatten encodings
  simp [isSequenceRead, records, Function.comp_def]

variable [WordSource σ]

theorem always_encoding : Always (encoding : Run σ Octets) IsEncoding := by
  apply (always_drawing (always_octets (show (0 : Int) ≤ 40 by decide))).bind
  intro drawn short
  apply (always_drawing (always_between (show (0 : Int) ≤ 5 by decide))).bind
  rintro kind ⟨nonneg, small⟩
  have payload : ∃ payload, (if drawn.isEmpty then [0] else drawn) = payload ∧ payload ≠ [] ∧ payload.length ≤ 40 := by
    cases drawn with
    | nil => exact ⟨[0], rfl, by decide, by decide⟩
    | cons first rest => exact ⟨first :: rest, rfl, by simp, by omega⟩
  obtain ⟨payload, same, occupied, fits⟩ := payload
  rw [same]
  have written := encode_build kind fits
  intro source
  exact ⟨_, source, gives_certificate written source, kind, payload, nonneg, small, occupied, fits, written⟩

private theorem always_mutatedEncoding : Always (mutatedEncoding : Run σ Octets) fun _ => True := by
  apply always_encoding.bind
  intro intact _
  apply (always_drawing (always_bits 16)).bind
  intro length _
  apply (always_drawing always_fraction).bind
  intro choice _
  split
  · apply (always_drawing (always_octets (show (0 : Int) ≤ 8 by decide))).bind
    intro appended _
    exact .pure trivial
  · exact .pure trivial

private theorem always_encodings :
    Always (encodings : Run σ (List Octets)) fun parts => ∀ part ∈ parts, IsEncoding part := by
  apply (always_drawing (always_between (show (1 : Int) ≤ 5 by decide))).bind
  intro count _
  exact (always_replicate always_encoding count.toNat).weaken fun parts drawn => drawn.2

theorem always_round (index : Nat) : Always (round index : Run σ (Option Finding)) (· = none) := by
  apply (always_drawing always_fraction).bind
  intro choice _
  split
  · apply (always_drawing (always_octets (show (0 : Int) ≤ 12 by decide))).bind
    intro buffer _
    exact .pure (checkRead_eq_none _ index buffer)
  · split
    · apply always_mutatedEncoding.bind
      intro buffer _
      exact .pure (checkRead_eq_none _ index buffer)
    · apply always_encodings.bind
      intro parts encodings
      exact .pure (checkSequence_eq_none encodings _ index)

/-- The check of the reader finds nothing in any buffer, and the check of a sequence nothing in any
encodings of the kind that is drawn: the records of the sequence are those that the parts give
alone, all of them well formed. Hence a run ends with its success, however many rounds it has
and whatever is drawn, the 0 of a draw that is given up included. -/
theorem reader_passes_every_round :
    (∀ label round buffer, checkRead label round buffer = none) ∧
    (∀ (σ : Type) [WordSource σ] (source : σ), ∃ part after, Gives encoding source part after ∧ IsEncoding part) ∧
    (∀ parts, (∀ part ∈ parts, IsEncoding part) →
      (Certificate.readAll parts.flatten = parts.map fun part => ⟨(Certificate.read part).certificate, .none⟩) ∧
      ∀ label round, checkSequence label round parts = none) ∧
    ∀ (σ : Type) [WordSource σ] (settings : Settings) (source : σ), ∃ after,
      Gives (run settings) source
        ⟨0, .ofString (s!"OK: fuzz rounds={settings.rounds} seed={settings.seed} (no mismatches)" ++ "\n"), []⟩ after := by
  refine ⟨checkRead_eq_none, fun σ _ => always_encoding, ?_, ?_⟩
  · intro parts encodings
    exact ⟨readAll_flatten encodings, checkSequence_eq_none encodings⟩
  · intro σ _ settings source
    obtain ⟨_, after, gives, rfl⟩ := always_firstFinding always_round 0 settings.rounds.toNat source
    exact ⟨after, outcomeOfRounds_passed gives⟩

/-- Two encodings in a row, the first of which would be cut. -/
theorem reader_passes_every_round_pair :
    (∀ part ∈ [[5, 0, 2, 7, 8], [0, 0, 1, 0]], IsEncoding part) ∧
      Certificate.readAll [5, 0, 2, 7, 8, 0, 0, 1, 0] =
        [⟨some ⟨5, 2, [7, 8]⟩, .none⟩, ⟨some ⟨0, 1, [0]⟩, .none⟩] ∧
      checkSequence "C sequence" 3 [[5, 0, 2, 7, 8], [0, 0, 1, 0]] = none := by
  have encodings : ∀ part ∈ [[5, 0, 2, 7, 8], [0, 0, 1, 0]], IsEncoding part := by
    rw [List.forall_mem_cons, List.forall_mem_singleton]
    exact ⟨⟨5, [7, 8], by decide, by decide, by decide, by decide, rfl⟩,
      ⟨0, [0], by decide, by decide, by decide, by decide, rfl⟩⟩
  obtain ⟨records, checked⟩ := reader_passes_every_round.2.2.1 _ encodings
  refine ⟨encodings, records, checked "C sequence" 3⟩

end CertWire.Trial.Fuzz
