import CertWire.Proofs.WarningTrace

/-! What decides where records begin and end. The reader of a packed buffer goes from header to
header, and the two octets of a length field alone tell it where the next one is. -/

namespace CertWire.Certificate

variable {certificate twin : Certificate} {buffer other rest remaining : Octets} {record : Record} {start : Nat}

/-- The places of a buffer where its records begin: what is left of it before each step, as seen
from the front. -/
def starts (buffer : Octets) : List Nat :=
  (buffer :: (advances buffer).map Advance.rest).dropLast.map fun left => buffer.length - left.length

/-- Another buffer has the same length field in each header that the reader of this one comes to.
All other octets may differ, those of a last header that is cut off included. -/
structure AgreesOnLengths (buffer other : Octets) : Prop where
  size : other.length = buffer.length
  fields : ∀ start ∈ starts buffer, start + 3 ≤ buffer.length →
    other[start + 1]? = buffer[start + 1]? ∧ other[start + 2]? = buffer[start + 2]?

/-- The octets from which a certificate was taken, where its header is at a place of a buffer. -/
structure ShownAt (buffer : Octets) (start : Nat) (certificate : Certificate) : Prop where
  kind : buffer[start]?.map (fun octet => (octet.toNat : Int)) = some certificate.kind
  payload : (buffer.drop (start + 3)).take certificate.payload.length = certificate.payload

/-- What framing makes of a record: all but its kind and the octets of its payload. -/
def frame (record : Record) : Condition × Option (Int × Nat) :=
  (record.condition, record.certificate.map fun certificate => (certificate.declaredLength, certificate.payload.length))

private theorem starts_nil : starts [] = [] := by
  rw [starts, advances_nil]
  rfl

theorem Ending.starts (ending : Ending buffer record) : starts buffer = [0] := by
  rw [Certificate.starts, ending.advances]
  simp

private theorem rest_suffix (buffer : Octets) : ∀ step ∈ advances buffer, step.rest <:+ buffer := by
  induction buffer using packed_induction with
  | empty => simp [advances_nil]
  | ending found => simp [found.advances]
  | @more certificate rest complete remains ih =>
    rw [complete.advances_append remains, List.forall_mem_cons]
    refine ⟨List.suffix_append _ _, ?_⟩
    intro step member
    exact (ih step member).trans (List.suffix_append _ _)

theorem Complete.starts_append (complete : certificate.Complete) (remains : rest ≠ []) :
    starts (certificate.wire ++ rest) = 0 :: (starts rest).map (certificate.wire.length + ·) := by
  have within : ∀ left ∈ rest :: (advances rest).map Advance.rest, left.length ≤ rest.length := by
    rw [List.forall_mem_cons, List.forall_mem_map]
    exact ⟨Nat.le_refl _, fun step member => (rest_suffix rest step member).length_le⟩
  rw [starts, complete.advances_append remains, List.map_cons, List.dropLast_cons_of_ne_nil (by simp), List.map_cons,
    Nat.sub_self, starts, List.map_map]
  congr 1
  apply List.map_congr_left
  intro left member
  have shorter := within left (((List.dropLast_sublist _).subset member))
  simp only [List.length_append, Function.comp_apply]
  omega

private theorem length_starts (buffer : Octets) : (starts buffer).length = (readAll buffer).length := by
  rw [starts, readAll]
  simp

private theorem condition_congr (declared : twin.declaredLength = certificate.declaredLength)
    (available : twin.payload.length = certificate.payload.length) : twin.condition = certificate.condition := by
  unfold condition
  rw [declared, available]

private theorem lengthWarning?_congr (declared : twin.declaredLength = certificate.declaredLength)
    (available : twin.payload.length = certificate.payload.length) :
    twin.lengthWarning? = certificate.lengthWarning? := by
  unfold lengthWarning?
  rw [condition_congr declared available, declared, Json.octetCount, Json.octetCount, available]

/-- A header with the same length field before as many octets. -/
theorem ofOctets?_of_lengths (found : ofOctets? buffer = some certificate) (size : other.length = buffer.length)
    (high : other[1]? = buffer[1]?) (low : other[2]? = buffer[2]?) :
    ∃ twin, ofOctets? other = some twin ∧ twin.declaredLength = certificate.declaredLength ∧
      twin.payload.length = certificate.payload.length := by
  obtain ⟨kind, first, second, payload, rfl, rfl⟩ := ofOctets?_eq_some_iff.mp found
  match other, size with
  | another :: high' :: low' :: others, size =>
    have sameHigh : high' = first := by simpa using high
    have sameLow : low' = second := by simpa using low
    have sameSize : others.length = payload.length := by simpa using size
    exact ⟨_, rfl, by rw [sameHigh, sameLow], sameSize⟩

private theorem shownAt_of_ofOctets? (found : ofOctets? buffer = some certificate) (kind : twin.kind = certificate.kind)
    (cut : twin.payload <+: certificate.payload) : ShownAt buffer 0 twin := by
  obtain ⟨first, high, low, payload, rfl, rfl⟩ := ofOctets?_eq_some_iff.mp found
  refine ⟨?_, (List.prefix_iff_eq_take.mp cut).symm⟩
  rw [kind]
  rfl

theorem Complete.shownAt_append (complete : certificate.Complete) (rest : Octets) :
    ShownAt (certificate.wire ++ rest) 0 certificate := by
  have found := ofOctets?_wire_append complete.encodable rest
  have nonneg := complete.kind_nonneg
  have small := complete.kind_le
  have filled := complete.declaredLength_eq
  refine shownAt_of_ofOctets? found ?_ ?_
  · exact (Int.emod_eq_of_lt nonneg (by omega)).symm
  · rw [reread, List.take_of_length_le (by omega)]
    exact List.prefix_append _ _

private theorem shownAt_append (front : Octets) (shown : ShownAt rest start certificate) :
    ShownAt (front ++ rest) (front.length + start) certificate := by
  obtain ⟨kind, payload⟩ := shown
  refine ⟨?_, ?_⟩
  · rw [List.getElem?_append_right (Nat.le_add_right _ _), Nat.add_sub_cancel_left, kind]
  · rw [Nat.add_assoc, List.drop_length_add_append, payload]

/-- Every certificate of a sequence is made of the octets at the place where its record begins. -/
theorem shownAt_of_starts (buffer : Octets) : ∀ (index start : Nat) (condition : Condition) (certificate : Certificate),
    (starts buffer)[index]? = some start → (readAll buffer)[index]? = some ⟨some certificate, condition⟩ →
    ShownAt buffer start certificate := by
  induction buffer using packed_induction with
  | empty => simp [starts_nil]
  | ending found =>
    intro index start condition certificate place reading
    rw [found.starts, List.getElem?_singleton] at place
    rw [found.readAll, List.getElem?_singleton] at reading
    split at place
    · cases place
      rw [if_pos ‹_›] at reading
      cases reading
      exact shownAt_of_ofOctets? found.ofOctets?.1 rfl (List.prefix_refl _)
    · cases place
  | @more head rest complete remains ih =>
    intro index start condition certificate place reading
    rw [complete.starts_append remains] at place
    rw [complete.readAll_append] at reading
    cases index with
    | zero =>
      cases place
      cases reading
      exact complete.shownAt_append rest
    | succ index =>
      simp only [List.getElem?_cons_succ, List.getElem?_map, Option.map_eq_some_iff] at place reading
      obtain ⟨inner, place, rfl⟩ := place
      exact shownAt_append _ (ih index inner condition certificate place reading)

/-- Two buffers that the reader goes through side by side, a record of the one with a record of
the other that declares as much. -/
inductive SideBySide : Octets → Octets → Prop
  | empty : SideBySide [] []
  | ending {buffer other : Octets} {record twin : Record} (ending : Ending buffer record) (ended : Ending other twin)
      (framed : frame twin = frame record) (warned : readingWarning? other = readingWarning? buffer) :
      SideBySide buffer other
  | more {certificate twin : Certificate} {rest remaining : Octets} (complete : certificate.Complete)
      (matched : twin.Complete) (declared : twin.declaredLength = certificate.declaredLength)
      (remains : rest ≠ []) (follows : remaining ≠ []) (size : remaining.length = rest.length)
      (others : SideBySide rest remaining) :
      SideBySide (certificate.wire ++ rest) (twin.wire ++ remaining)

theorem AgreesOnLengths.header (agrees : AgreesOnLengths buffer other) (found : ofOctets? buffer = some certificate)
    (first : 0 ∈ starts buffer) :
    ∃ twin, ofOctets? other = some twin ∧ twin.declaredLength = certificate.declaredLength ∧
      twin.payload.length = certificate.payload.length := by
  have whole : ¬ buffer.length < 3 := by simp [← ofOctets?_eq_none_iff, found]
  obtain ⟨high, low⟩ := agrees.fields 0 first (by omega)
  exact ofOctets?_of_lengths found agrees.size high low

theorem AgreesOnLengths.others (agrees : AgreesOnLengths (certificate.wire ++ rest) (twin.wire ++ remaining))
    (complete : certificate.Complete) (remains : rest ≠ []) (same : twin.wire.length = certificate.wire.length) :
    AgreesOnLengths rest remaining := by
  have size := agrees.size
  rw [List.length_append, List.length_append, same] at size
  refine ⟨by omega, ?_⟩
  intro start member whole
  have place : certificate.wire.length + start ∈ starts (certificate.wire ++ rest) := by
    rw [complete.starts_append remains]
    exact List.mem_cons_of_mem _ (List.mem_map_of_mem member)
  have field := agrees.fields _ place (by rw [List.length_append]; omega)
  rw [Nat.add_assoc, Nat.add_assoc, ← same, List.getElem?_append_right (Nat.le_add_right _ _),
    List.getElem?_append_right (Nat.le_add_right _ _), same, List.getElem?_append_right (Nat.le_add_right _ _),
    List.getElem?_append_right (Nat.le_add_right _ _)] at field
  simpa only [Nat.add_sub_cancel_left] using field

theorem AgreesOnLengths.sideBySide (agrees : AgreesOnLengths buffer other) : SideBySide buffer other := by
  induction buffer using packed_induction generalizing other with
  | empty =>
    have nothing : other = [] := List.length_eq_zero_iff.mp agrees.size
    rw [nothing]
    exact .empty
  | @ending buffer record ending =>
    have size := agrees.size
    cases ending with
    | short occupied headless =>
      have short : ofOctets? other = none := by
        rw [ofOctets?_eq_none_iff] at headless ⊢
        omega
      have something : other ≠ [] := by
        rintro rfl
        exact occupied (List.length_eq_zero_iff.mp size.symm)
      refine .ending (.short occupied headless) (.short something short) rfl ?_
      rw [readingWarning?_of_headless headless, readingWarning?_of_headless short, Json.octetCount, Json.octetCount, size]
    | @last certificate found alone =>
      have ending := Ending.last found alone
      obtain ⟨twin, matched, declared, available⟩ := agrees.header found (by simp [ending.starts])
      have condition := condition_congr declared available
      refine .ending ending (.last matched (by rwa [condition])) ?_ ?_
      · simp [frame, condition, declared, available]
      · rw [readingWarning?_of_ofOctets? found, readingWarning?_of_ofOctets? matched,
          lengthWarning?_congr declared available]
  | @more certificate rest complete remains ih =>
    have found := ofOctets?_wire_append complete.encodable rest
    have excess := condition_reread complete.encodable rest
    rw [if_neg (by have := complete.declaredLength_pos; omega), if_neg remains] at excess
    obtain ⟨twin, matched, declared, available⟩ :=
      agrees.header found (by simp [complete.starts_append remains])
    have exceeding : twin.condition = .excessData := (condition_congr declared available).trans excess
    have whole := wire_clipped_append_surplus matched exceeding
    have clipped := clipped_complete matched exceeding
    have length : twin.clipped.wire.length = certificate.wire.length := by
      rw [clipped.length_wire, complete.length_wire]
      exact congrArg (headerSize + ·.toNat) declared
    rw [← whole] at agrees ⊢
    have others := agrees.others complete remains length
    have follows : twin.surplus ≠ [] := fun empty => surplus_eq_nil_iff.mp empty exceeding
    exact .more complete clipped declared remains follows others.size (ih others)

theorem Complete.length_payload_congr (complete : certificate.Complete) (matched : twin.Complete)
    (declared : twin.declaredLength = certificate.declaredLength) :
    twin.payload.length = certificate.payload.length := by
  have filled := complete.declaredLength_eq
  have filledToo := matched.declaredLength_eq
  omega

theorem SideBySide.starts (aligned : SideBySide buffer other) : starts other = starts buffer := by
  induction aligned with
  | empty => rfl
  | ending ending ended framed warned => rw [ending.starts, ended.starts]
  | @more certificate twin rest remaining complete matched declared remains follows size others ih =>
    rw [complete.starts_append remains, matched.starts_append follows, ih, complete.length_wire, matched.length_wire,
      declared]

theorem SideBySide.frames (aligned : SideBySide buffer other) :
    (readAll other).map frame = (readAll buffer).map frame := by
  induction aligned with
  | empty => rfl
  | ending ending ended framed warned =>
    rw [ending.readAll, ended.readAll, List.map_singleton, List.map_singleton, framed]
  | @more certificate twin rest remaining complete matched declared remains follows size others ih =>
    have available := complete.length_payload_congr matched declared
    rw [complete.readAll_append, matched.readAll_append, List.map_cons, List.map_cons, ih]
    simp [frame, declared, available]

theorem SideBySide.warnings (aligned : SideBySide buffer other) :
    (advances other).map Advance.warning = (advances buffer).map Advance.warning := by
  induction aligned with
  | empty => rfl
  | ending ending ended framed warned =>
    rw [ending.advances, ended.advances, List.map_singleton, List.map_singleton, warned]
  | @more certificate twin rest remaining complete matched declared remains follows size others ih =>
    have available := complete.length_payload_congr matched declared
    rw [complete.advances_append remains, matched.advances_append follows, List.map_cons, List.map_cons, ih, declared,
      available, size]

/-- Only the length fields decide how a buffer is framed. A buffer that agrees on them has as many
records, with the same conditions, declared lengths and payload lengths, and warns alike; each
record has the kind and the payload that its own buffer holds at the common place. -/
theorem framing_depends_on_lengths (buffer other : Octets) (agrees : AgreesOnLengths buffer other) :
    (readAll other).length = (readAll buffer).length ∧
    (readAll other).map frame = (readAll buffer).map frame ∧
    readAllWarnings other = readAllWarnings buffer ∧
    (starts buffer).length = (readAll buffer).length ∧
    ∀ (index start : Nat) (condition : Condition) (certificate counterpart : Certificate),
      (starts buffer)[index]? = some start →
      (readAll buffer)[index]? = some ⟨some certificate, condition⟩ →
      (readAll other)[index]? = some ⟨some counterpart, condition⟩ →
      ShownAt buffer start certificate ∧ ShownAt other start counterpart := by
  have aligned := agrees.sideBySide
  have frames := aligned.frames
  refine ⟨?_, frames, ?_, length_starts buffer, ?_⟩
  · have count := congrArg List.length frames
    rwa [List.length_map, List.length_map] at count
  · have warnings := congrArg (List.filterMap id) aligned.warnings
    rwa [List.filterMap_map, List.filterMap_map] at warnings
  · intro index start condition certificate counterpart place reading matched
    have common := place
    rw [← aligned.starts] at common
    exact ⟨shownAt_of_starts buffer index start condition certificate place reading,
      shownAt_of_starts other index start condition counterpart common matched⟩

/-- The kinds and the payloads differ, and the header cut off at the end has another length octet. -/
theorem framing_depends_on_lengths_pair :
    AgreesOnLengths [5, 0, 1, 7, 9, 0, 2, 1, 2, 4, 0] [6, 0, 1, 0, 1, 0, 2, 3, 4, 5, 1] ∧
      readAllWarnings [6, 0, 1, 0, 1, 0, 2, 3, 4, 5, 1] = readAllWarnings [5, 0, 1, 7, 9, 0, 2, 1, 2, 4, 0] ∧
      ShownAt [6, 0, 1, 0, 1, 0, 2, 3, 4, 5, 1] 4 ⟨1, 2, [3, 4]⟩ := by
  have places : starts [5, 0, 1, 7, 9, 0, 2, 1, 2, 4, 0] = [0, 4, 9] := by decide +kernel
  have agrees : AgreesOnLengths [5, 0, 1, 7, 9, 0, 2, 1, 2, 4, 0] [6, 0, 1, 0, 1, 0, 2, 3, 4, 5, 1] := by
    refine ⟨rfl, ?_⟩
    rw [places]
    decide
  have framed := framing_depends_on_lengths _ _ agrees
  refine ⟨agrees, framed.2.2.1, ?_⟩
  exact (framed.2.2.2.2 1 4 .none ⟨9, 2, [1, 2]⟩ ⟨1, 2, [3, 4]⟩ (by rw [places]; rfl) (by decide +kernel)
    (by decide +kernel)).2

end CertWire.Certificate
