import CertWire.Proofs.Framing

/-! Buffers that grow at their end. What was read as complete stays as it was, and reading
goes on from the octets that the complete records left. -/

namespace CertWire.Certificate

variable {certificate : Certificate} {buffer suffix : Octets} {record : Record}

/-- What the complete records of a buffer leave of it, and what is read there: nothing, or one
record that is not complete. -/
inductive Leftover : Octets → List Record → Prop
  | nothing : Leftover [] []
  | ending {suffix : Octets} {record : Record} (found : Ending suffix record) (unsettled : record.condition ≠ .none) :
      Leftover suffix [record]

theorem Leftover.readAll {records : List Record} (leftover : Leftover suffix records) :
    readAll suffix = records := by
  cases leftover with
  | nothing => exact readAll_nil
  | ending found unsettled => exact found.readAll

theorem Leftover.filter_none {records : List Record} (leftover : Leftover suffix records) :
    records.filter (·.condition = .none) = [] := by
  cases leftover with
  | nothing => rfl
  | ending found unsettled => simp [unsettled]

/-- The records that are read where complete records were written. -/
def accepted (certificates : List Certificate) : List Record :=
  certificates.map fun certificate => ⟨some certificate, .none⟩

private theorem filter_accepted (certificates : List Certificate) :
    (accepted certificates).filter (·.condition = .none) = accepted certificates := by
  simp [accepted, List.filter_eq_self]

private theorem exists_leftover (buffer : Octets) :
    ∃ (certificates : List Certificate) (suffix : Octets) (records : List Record),
      (∀ certificate ∈ certificates, certificate.Complete) ∧
      buffer = (certificates.map wire).flatten ++ suffix ∧ Leftover suffix records := by
  induction buffer using packed_induction with
  | empty => exact ⟨[], [], [], by simp, rfl, .nothing⟩
  | @ending buffer record found =>
    by_cases settled : record.condition = .none
    · obtain ⟨certificate, complete, rfl⟩ := found.complete_of_accepted settled
      exact ⟨[certificate], [], [], List.forall_mem_singleton.mpr complete, by simp, .nothing⟩
    · exact ⟨[], buffer, [record], by simp, rfl, .ending found settled⟩
  | more complete remains ih =>
    obtain ⟨certificates, suffix, records, all, rfl, leftover⟩ := ih
    exact ⟨_ :: certificates, suffix, records, List.forall_mem_cons.mpr ⟨complete, all⟩, by simp, leftover⟩

theorem Leftover.of_getLast? {certificates : List Certificate} {records : List Record} {condition : Condition}
    (leftover : Leftover suffix records) (unsettled : condition ≠ .none)
    (final : (accepted certificates ++ records).getLast? = some ⟨some certificate, condition⟩) :
    ofOctets? suffix = some certificate ∧ certificate.condition = condition ∧
      records = [⟨some certificate, condition⟩] := by
  cases leftover with
  | nothing =>
    have member := List.mem_of_getLast? final
    simp [accepted, unsettled.symm] at member
  | ending found _ =>
    rw [List.getLast?_append, List.getLast?_singleton] at final
    cases final
    obtain ⟨header, condition⟩ := found.ofOctets?
    exact ⟨header, condition, rfl⟩

theorem readAll_completes_append {certificates : List Certificate}
    (complete : ∀ certificate ∈ certificates, certificate.Complete) (tail : Octets) :
    readAll ((certificates.map wire).flatten ++ tail) = accepted certificates ++ readAll tail := by
  have reread : certificates.map (fun certificate => (⟨some (certificate.reread []), .none⟩ : Record)) =
      accepted certificates :=
    List.map_congr_left fun certificate member => by rw [(complete certificate member).reread_nil]
  rw [readAll_wires_append certificates tail (fun certificate member => (complete certificate member).encodable)
    (fun certificate member => (complete certificate member).declaredLength_pos), reread]

def extended (certificate : Certificate) (more : Octets) : Certificate :=
  { certificate with payload := certificate.payload ++ more }

private theorem ofOctets?_append (found : ofOctets? buffer = some certificate) (more : Octets) :
    ofOctets? (buffer ++ more) = some (certificate.extended more) := by
  obtain ⟨kind, high, low, payload, rfl, rfl⟩ := ofOctets?_eq_some_iff.mp found
  rfl

def missing (certificate : Certificate) : Nat := (certificate.declaredLength - certificate.payload.length).toNat

/-- A payload that ended early takes what it lacks from the octets that follow, as far as
they go, and only the others are read as records. -/
theorem readAll_append_of_truncated (found : ofOctets? suffix = some certificate)
    (truncated : certificate.condition = .truncated) (tail : Octets) :
    readAll (suffix ++ tail) =
      ⟨some (certificate.extended (tail.take certificate.missing)),
        if tail.length < certificate.missing then .truncated else .none⟩ ::
      readAll (tail.drop certificate.missing) := by
  obtain ⟨usable, lacking⟩ := condition_eq_truncated_iff.mp truncated
  have declared (more : Octets) : (certificate.extended more).declaredLength = certificate.declaredLength := rfl
  have payload (more : Octets) : (certificate.extended more).payload.length = certificate.payload.length + more.length :=
    List.length_append
  have lack : (certificate.missing : Int) = certificate.declaredLength - certificate.payload.length := by
    unfold missing
    omega
  by_cases few : tail.length < certificate.missing
  · -- All that is added goes into the payload, and it still ends early.
    have condition : (certificate.extended tail).condition = .truncated :=
      condition_eq_truncated_iff.mpr ⟨usable, by rw [payload, declared]; omega⟩
    have ending := Ending.last (ofOctets?_append found tail) (by simp [condition])
    rw [if_pos few, List.take_of_length_le (by omega), List.drop_of_length_le (by omega), ending.readAll, condition,
      readAll_nil]
  · -- What the payload lacked makes the record complete, and a complete record reads alike before any rest.
    have cut : (tail.take certificate.missing).length = certificate.missing := List.length_take_of_le (by omega)
    have condition : (certificate.extended (tail.take certificate.missing)).condition = .none :=
      condition_eq_none_iff.mpr ⟨usable, by rw [payload, declared]; omega⟩
    obtain ⟨complete, octets⟩ := complete_of_accepted (ofOctets?_append found _) condition
    have whole : suffix ++ tail = suffix ++ tail.take certificate.missing ++ tail.drop certificate.missing := by
      rw [List.append_assoc, List.take_append_drop]
    rw [if_neg few, whole, octets, complete.readAll_append]

theorem readAll_append_of_tooShort (found : ofOctets? suffix = some certificate)
    (short : certificate.condition = .tooShort) (tail : Octets) :
    readAll (suffix ++ tail) = [⟨some (certificate.extended tail), .tooShort⟩] := by
  have declared : certificate.declaredLength < 1 := condition_eq_tooShort_iff.mp short
  have condition : (certificate.extended tail).condition = .tooShort := condition_eq_tooShort_iff.mpr declared
  have ending := Ending.last (ofOctets?_append found tail) (by simp [condition])
  rw [ending.readAll, condition]

/-- What a buffer gave as complete it gives again when octets are added, and the rest is read as
if the complete records had never been there. A payload that ended early is continued, and
a record that declares nothing takes all that is added. -/
theorem readAll_of_grown (buffer tail : Octets) :
    (∃ (certificates : List Certificate) (encodings : List Octets) (suffix : Octets),
      (readAll buffer).filter (·.condition = .none) =
        certificates.map (fun certificate => { certificate := some certificate, condition := .none }) ∧
      certificates.mapM encode = .ok encodings ∧ buffer = encodings.flatten ++ suffix ∧
      readAll (buffer ++ tail) = (readAll buffer).filter (·.condition = .none) ++ readAll (suffix ++ tail)) ∧
    (∀ certificate, (readAll buffer).getLast? = some ⟨some certificate, .truncated⟩ →
      let missing := (certificate.declaredLength - certificate.payload.length).toNat
      (readAll (buffer ++ tail))[(readAll buffer).length - 1]? = some
        { certificate := some { certificate with payload := certificate.payload ++ tail.take missing }
          condition := if tail.length < missing then .truncated else .none } ∧
      (readAll (buffer ++ tail)).drop (readAll buffer).length = readAll (tail.drop missing)) ∧
    (∀ certificate, (readAll buffer).getLast? = some ⟨some certificate, .tooShort⟩ →
      (readAll (buffer ++ tail)).length = (readAll buffer).length ∧
      (readAll (buffer ++ tail)).getLast? = some
        { certificate := some { certificate with payload := certificate.payload ++ tail }
          condition := .tooShort }) := by
  obtain ⟨certificates, suffix, records, complete, octets, leftover⟩ := exists_leftover buffer
  have before : readAll buffer = accepted certificates ++ records := by
    rw [octets, readAll_completes_append complete, leftover.readAll]
  have after : readAll (buffer ++ tail) = accepted certificates ++ readAll (suffix ++ tail) := by
    rw [octets, List.append_assoc, readAll_completes_append complete]
  have settled : (readAll buffer).filter (·.condition = .none) = accepted certificates := by
    rw [before, List.filter_append, filter_accepted, leftover.filter_none, List.append_nil]
  refine ⟨⟨certificates, certificates.map wire, suffix, settled, ?_, octets, ?_⟩, ?_, ?_⟩
  · exact mapM_encode_eq_ok_iff.mpr ⟨fun certificate member => (complete certificate member).encodable, rfl⟩
  · rw [settled, after]
  · intro certificate final
    rw [before] at final
    obtain ⟨found, truncated, same⟩ := leftover.of_getLast? (by decide) final
    rw [after, readAll_append_of_truncated found truncated, before, same]
    simp [extended, missing]
  · intro certificate final
    rw [before] at final
    obtain ⟨found, short, same⟩ := leftover.of_getLast? (by decide) final
    rw [after, readAll_append_of_tooShort found short, before, same]
    simp [extended]

/-- A complete record stands before one that lacks two octets. They come, and another follows
them; without a declared length nothing would be lacking. -/
theorem readAll_of_grown_pair :
    (readAll [5, 0, 1, 7, 9, 0, 3, 1]).getLast? = some ⟨some ⟨9, 3, [1]⟩, .truncated⟩ ∧
      (readAll [5, 0, 1, 7, 9, 0, 3, 1, 2, 3, 4])[1]? = some ⟨some ⟨9, 3, [1, 2, 3]⟩, .none⟩ ∧
      (readAll [5, 0, 1, 7, 9, 0, 3, 1, 2, 3, 4]).drop 2 = readAll [4] ∧
      (readAll [5, 0, 1, 7, 9, 0, 0, 1]).getLast? = some ⟨some ⟨9, 0, [1]⟩, .tooShort⟩ ∧
      (readAll [5, 0, 1, 7, 9, 0, 0, 1, 2, 3, 4]).getLast? = some ⟨some ⟨9, 0, [1, 2, 3, 4]⟩, .tooShort⟩ := by
  have lacking : readAll [5, 0, 1, 7, 9, 0, 3, 1] = [⟨some ⟨5, 1, [7]⟩, .none⟩, ⟨some ⟨9, 3, [1]⟩, .truncated⟩] := by
    decide +kernel
  have declaring : readAll [5, 0, 1, 7, 9, 0, 0, 1] = [⟨some ⟨5, 1, [7]⟩, .none⟩, ⟨some ⟨9, 0, [1]⟩, .tooShort⟩] := by
    decide +kernel
  have continued := (readAll_of_grown [5, 0, 1, 7, 9, 0, 3, 1] [2, 3, 4]).2.1 ⟨9, 3, [1]⟩ (by rw [lacking]; rfl)
  have taken := (readAll_of_grown [5, 0, 1, 7, 9, 0, 0, 1] [2, 3, 4]).2.2 ⟨9, 0, [1]⟩ (by rw [declaring]; rfl)
  rw [lacking] at continued
  exact ⟨by rw [lacking]; rfl, continued.1, continued.2, by rw [declaring]; rfl, taken.2⟩

end CertWire.Certificate
