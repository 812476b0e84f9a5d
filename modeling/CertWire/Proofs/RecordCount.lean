import CertWire.Proofs.Framing

/-! How many records a buffer can hold. The loop over a packed buffer goes on only behind a complete
record, which takes up its header and at least one octet more, and only where octets are left.
So it ends, and it gives no more than one record for every four octets begun. -/

namespace CertWire.Certificate

/-- An iteration that another one follows: octets are left beyond the declared length, and the record
is given without them. -/
inductive Continues : Octets → Certificate → Octets → Prop
  | cut {buffer rest : Octets} {certificate : Certificate} (occupied : buffer ≠ [])
      (reads : read buffer = ⟨some certificate, rest, .excessData⟩) :
      Continues buffer
        { certificate with payload := certificate.payload.take certificate.declaredLength.toNat } rest

/-- An iteration that ends the loop: the record is given as it was read. -/
inductive Concludes : Octets → Record → Prop
  | whole {buffer : Octets} {reading : Reading} (occupied : buffer ≠ []) (reads : read buffer = reading)
      (final : ¬ (reading.condition = .excessData ∧ reading.certificate ≠ none)) :
      Concludes buffer ⟨reading.certificate, reading.condition⟩

/-- The finished runs of the loop, and the records that they give, one in each iteration. -/
inductive LoopRun : Octets → List Record → Prop
  | ended : LoopRun [] []
  | concluded {buffer : Octets} {record : Record} (last : Concludes buffer record) : LoopRun buffer [record]
  | continued {buffer rest : Octets} {certificate : Certificate} {records : List Record}
      (next : Continues buffer certificate rest) (others : LoopRun rest records) :
      LoopRun buffer (⟨some certificate, .none⟩ :: records)

variable {buffer rest : Octets} {certificate : Certificate} {record : Record} {records : List Record}

private theorem clipped_eq_take (certificate : Certificate) :
    certificate.clipped =
      { certificate with payload := certificate.payload.take certificate.declaredLength.toNat } := by
  rw [clipped, effectivePayload_eq_take]

/-- The loop goes on exactly behind a complete record that octets follow. -/
theorem continues_iff :
    Continues buffer certificate rest ↔ certificate.Complete ∧ rest ≠ [] ∧ buffer = certificate.wire ++ rest := by
  constructor
  · rintro ⟨occupied, reads⟩
    cases found : ofOctets? buffer with
    | none =>
      rw [read_of_headless found] at reads
      cases reads
    | some whole =>
      rw [read_of_ofOctets? found] at reads
      obtain ⟨⟨⟩, rfl, excess⟩ := Reading.mk.inj reads
      rw [← clipped_eq_take]
      refine ⟨clipped_complete found excess, ?_, (wire_clipped_append_surplus found excess).symm⟩
      intro none
      exact surplus_eq_nil_iff.mp none excess
  · rintro ⟨complete, remains, rfl⟩
    have usable := complete.declaredLength_pos
    have found := ofOctets?_wire_append complete.encodable rest
    have excess := condition_reread complete.encodable rest
    have surplus := surplus_reread complete.encodable rest
    rw [if_neg (by omega), if_neg remains] at excess
    rw [if_neg (by omega)] at surplus
    have reads : read (certificate.wire ++ rest) = ⟨some (certificate.reread rest), rest, .excessData⟩ := by
      rw [read_of_ofOctets? found, excess, surplus]
    have next := Continues.cut (occupied_of_ofOctets? found) reads
    rwa [← clipped_eq_take, clipped_reread complete.encodable, complete.reread_nil] at next

private theorem concludes_iff : Concludes buffer record ↔ Ending buffer record := by
  constructor
  · rintro ⟨occupied, rfl, final⟩
    cases found : ofOctets? buffer with
    | none =>
      rw [read_of_headless found]
      exact .short occupied found
    | some whole =>
      rw [read_of_ofOctets? found] at final ⊢
      refine .last found fun excess => final ⟨excess, ?_⟩
      simp
  · intro ending
    have whole : Concludes buffer ⟨(read buffer).certificate, (read buffer).condition⟩ := by
      refine .whole ending.occupied rfl ?_
      rw [ending.read]
      exact fun excess => ending.settled.1 excess.1
    rwa [ending.read] at whole

/-- An iteration that goes on takes off a header and the declared octets. -/
theorem Continues.shortens (next : Continues buffer certificate rest) :
    (buffer.length : Int) = 3 + certificate.declaredLength + rest.length ∧ 4 ≤ 3 + certificate.declaredLength ∧
      rest ≠ [] := by
  obtain ⟨complete, remains, rfl⟩ := continues_iff.mp next
  have usable := complete.declaredLength_pos
  have length := complete.length_wire
  rw [headerSize, kindSize, lengthSize] at length
  refine ⟨?_, by omega, remains⟩
  rw [List.length_append, length]
  omega

theorem continues_wellFounded : WellFounded fun rest buffer => ∃ certificate, Continues buffer certificate rest := by
  apply Subrelation.wf _ (measure List.length).wf
  rintro rest buffer ⟨certificate, next⟩
  obtain ⟨length, advanced, _⟩ := next.shortens
  change rest.length < buffer.length
  omega

theorem loopRun_readAll (buffer : Octets) : LoopRun buffer (readAll buffer) := by
  induction buffer using packed_induction with
  | empty =>
    rw [readAll_nil]
    exact .ended
  | ending found =>
    rw [found.readAll]
    exact .concluded (concludes_iff.mpr found)
  | more complete remains ih =>
    rw [complete.readAll_append]
    exact .continued (continues_iff.mpr ⟨complete, remains, rfl⟩) ih

theorem LoopRun.eq_readAll (run : LoopRun buffer records) : readAll buffer = records := by
  induction run with
  | ended => exact readAll_nil
  | concluded last => exact (concludes_iff.mp last).readAll
  | continued next others ih =>
    obtain ⟨complete, _, rfl⟩ := continues_iff.mp next
    rw [complete.readAll_append, ih]

theorem length_readAll_le (buffer : Octets) : (readAll buffer).length ≤ (buffer.length + 3) / 4 := by
  induction buffer using packed_induction with
  | empty =>
    rw [readAll_nil]
    exact Nat.zero_le _
  | @ending buffer record found =>
    have positive : 0 < buffer.length := List.length_pos_iff.mpr found.occupied
    rw [found.readAll, List.length_singleton]
    omega
  | @more certificate rest complete remains ih =>
    have usable := complete.declaredLength_pos
    have length := complete.length_wire
    rw [headerSize, kindSize, lengthSize] at length
    rw [complete.readAll_append, List.length_cons, List.length_append, length]
    omega

/-- The shortest record that others can follow. -/
def smallest : Certificate := ⟨0, 1, [0]⟩

/-- The shortest records, and zeros that fill up the length. -/
def crowded (length : Nat) : Octets :=
  ((List.replicate (length / 4) smallest).map wire).flatten ++ List.replicate (length % 4) 0

private theorem length_crowded (length : Nat) : (crowded length).length = length := by
  have four : smallest.wire.length = 4 := by decide
  rw [crowded, List.map_replicate, List.length_append, List.length_flatten, List.map_replicate, four,
    List.sum_replicate_nat, List.length_replicate]
  omega

/-- A header too short, or a header that declares nothing, is one more record. -/
theorem length_readAll_zeros (count : Nat) (few : count < 4) :
    (readAll (List.replicate count 0)).length = (count + 3) / 4 := by
  match count, few with
  | 0, _ => rw [List.replicate_zero, readAll_nil, List.length_nil]
  | 1, _ =>
    have ending : Ending [0] ⟨none, .tooShort⟩ := .short (by decide) rfl
    exact congrArg List.length ending.readAll
  | 2, _ =>
    have ending : Ending [0, 0] ⟨none, .tooShort⟩ := .short (by decide) rfl
    exact congrArg List.length ending.readAll
  | 3, _ =>
    have ending : Ending [0, 0, 0] ⟨some ⟨0, 0, []⟩, .tooShort⟩ := .last rfl (by decide)
    exact congrArg List.length ending.readAll

theorem length_readAll_crowded (length : Nat) : (readAll (crowded length)).length = (length + 3) / 4 := by
  have fits : ∀ certificate ∈ List.replicate (length / 4) smallest, certificate.Encodable := by
    intro certificate member
    rw [List.eq_of_mem_replicate member, Encodable]
    decide
  have usable : ∀ certificate ∈ List.replicate (length / 4) smallest, 1 ≤ certificate.declaredLength := by
    intro certificate member
    rw [List.eq_of_mem_replicate member]
    decide
  rw [crowded, readAll_wires_append _ _ fits usable, List.length_append, List.length_map, List.length_replicate,
    length_readAll_zeros _ (Nat.mod_lt _ (by decide))]
  omega

/-- The loop ends on every buffer, with the records of the sequence. Each iteration that goes on takes
off the header and the declared octets of the record that it gives, four at least, and leaves
some. So there is at most one record for every four octets begun, and at every length there is
a buffer with as many. -/
theorem sequence_loop_is_bounded :
    (∀ buffer records, LoopRun buffer records ↔ readAll buffer = records) ∧
    (WellFounded fun rest buffer => ∃ certificate, Continues buffer certificate rest) ∧
    (∀ buffer certificate rest, Continues buffer certificate rest →
      (buffer.length : Int) = 3 + certificate.declaredLength + rest.length ∧ 4 ≤ 3 + certificate.declaredLength ∧
        rest ≠ []) ∧
    (∀ buffer, (readAll buffer).length ≤ (buffer.length + 3) / 4) ∧
    ∀ length, ∃ buffer : Octets, buffer.length = length ∧ (readAll buffer).length = (length + 3) / 4 := by
  refine ⟨?_, continues_wellFounded, fun _ _ _ => Continues.shortens, length_readAll_le, ?_⟩
  · intro buffer records
    constructor
    · exact LoopRun.eq_readAll
    · rintro rfl
      exact loopRun_readAll buffer
  · intro length
    exact ⟨crowded length, length_crowded length, length_readAll_crowded length⟩

/-- One octet more than a complete record makes room for another. -/
theorem sequence_loop_is_bounded_five :
    Continues [7, 0, 1, 9, 5] ⟨7, 1, [9]⟩ [5] ∧ (([7, 0, 1, 9, 5] : Octets).length : Int) = 3 + 1 + 1 ∧
      (readAll [7, 0, 1, 9, 5]).length ≤ 2 := by
  have complete : Complete ⟨7, 1, [9]⟩ := ⟨by decide, by decide, by decide, by decide, rfl⟩
  have next : Continues [7, 0, 1, 9, 5] ⟨7, 1, [9]⟩ [5] := continues_iff.mpr ⟨complete, by decide, by decide⟩
  obtain ⟨-, -, shortens, bounded, -⟩ := sequence_loop_is_bounded
  exact ⟨next, (shortens _ _ _ next).1, bounded _⟩

end CertWire.Certificate
