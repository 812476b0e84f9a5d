import CertWire.Proofs.PrintedRecords

/-! Writing on the command line and parsing what was written. A record that can be written is
printed as it was asked for, and a record that was parsed whole is written in its own octets. -/

namespace CertWire.CommandLine

open Text (Points)

variable {kind : Int} {payload : Octets} {length : Option Int} {surroundings : Surroundings} {level : LogLevel}

/-- The certificate that an `encode` line asks for. -/
def asked (kind : Int) (payload : Octets) (length : Option Int) : Certificate :=
  ⟨kind, length.getD payload.length, payload⟩

private theorem encodeOctets_given (kind : Int) (payload : Octets) (length : Option Int) (text : Setting Points) :
    encodeOctets ⟨.given kind, text, length.elim .absent .given⟩ payload =
      .ok ((length.elim (Certificate.build kind payload) fun number => .ok ⟨kind, number, payload⟩) >>=
        Certificate.encode) := by
  cases length with
  | none =>
    simp only [encodeOctets, Option.elim_none, bind, Except.bind]
    cases Certificate.build kind payload with
    | error error => rfl
    | ok certificate => cases written : certificate.encode <;> simp [written, pure, Except.pure]
  | some number =>
    simp only [encodeOctets, Option.elim_some, bind, Except.bind]
    cases written : Certificate.encode ⟨kind, number, payload⟩ <;> simp [pure, Except.pure]

private theorem encodeOctets_of_encodable (fits : (asked kind payload length).Encodable) (text : Setting Points) :
    encodeOctets ⟨.given kind, text, length.elim .absent .given⟩ payload = .ok (.ok (asked kind payload length).wire) := by
  have written := Certificate.encode_of_encodable fits
  rw [encodeOctets_given]
  cases length with
  | none =>
    have short : ¬ Certificate.maxPayloadLength < payload.length := by
      have bound : (payload.length : Int) ≤ min 65535 (payload.length : Int) := fits.2
      unfold Certificate.maxPayloadLength
      omega
    have built : Certificate.build kind payload = .ok (asked kind payload none) := if_neg short
    rw [Option.elim_none, built]
    exact congrArg Except.ok written
  | some number => exact congrArg Except.ok written

private theorem encodeOctets_of_not_encodable (unfit : ¬ (asked kind payload length).Encodable)
    (text : Setting Points) :
    ∃ error, encodeOctets ⟨.given kind, text, length.elim .absent .given⟩ payload = .ok (.error error) ∧
      error.condition = .outOfBounds := by
  obtain ⟨error, refused, outOfBounds⟩ := Certificate.encode_of_not_encodable unfit
  rw [encodeOctets_given]
  cases length with
  | none =>
    by_cases long : Certificate.maxPayloadLength < payload.length
    · have built : Certificate.build kind payload = .error _ := if_pos long
      rw [Option.elim_none, built]
      exact ⟨_, rfl, rfl⟩
    · have built : Certificate.build kind payload = .ok (asked kind payload none) := if_neg long
      rw [Option.elim_none, built]
      exact ⟨error, congrArg Except.ok refused, outOfBounds⟩
  | some number => exact ⟨error, congrArg Except.ok refused, outOfBounds⟩

private theorem badCertificate_outOfBounds {error : CertificateError} (outOfBounds : error.condition = .outOfBounds) :
    badCertificate error =
      ⟨2, [], [.message (.ofString ("i2pcert: error [OUT_OF_BOUNDS]: " ++ error.message ++ "\n"))]⟩ := by
  have mark : "i2pcert: error [" ++ Condition.outOfBounds.name ++ "]: " = "i2pcert: error [OUT_OF_BOUNDS]: " := by
    decide
  rw [badCertificate, outOfBounds, ← mark]
  rfl

theorem run_encodeLine (accepted : levelOf .absent surroundings.logLevel = .ok level)
    (shortKind : Text.Numeral.Short kind) (shortLength : ∀ number ∈ length, Text.Numeral.Short number)
    (payload : Octets) :
    ((asked kind payload length).Encodable →
      run surroundings (encodeLine kind payload length) =
        .ok ⟨0, .ofString (Text.Hex.encode (asked kind payload length).wire ++ "\n"), []⟩) ∧
    (¬ (asked kind payload length).Encodable →
      ∃ reason, run surroundings (encodeLine kind payload length) =
        .ok ⟨2, [], [.message (.ofString ("i2pcert: error [OUT_OF_BOUNDS]: " ++ reason ++ "\n"))]⟩) := by
  have request := requestOf_encodeLine accepted shortKind shortLength payload
  have ran : run surroundings (encodeLine kind payload length) =
      runEncode ⟨.given kind, .given (.ofString (Text.Hex.encode payload)), length.elim .absent .given⟩ := by
    rw [run, request]
    rfl
  rw [ran]
  refine ⟨?_, ?_⟩
  · intro fits
    simp only [runEncode, bind, Except.bind, pure, Except.pure, Text.Hex.decode_encode, encodeOctets_of_encodable fits]
  · intro unfit
    obtain ⟨error, refused, outOfBounds⟩ :=
      encodeOctets_of_not_encodable unfit (.given (.ofString (Text.Hex.encode payload)))
    refine ⟨error.message, ?_⟩
    simp only [runEncode, bind, Except.bind, pure, Except.pure, Text.Hex.decode_encode, refused,
      badCertificate_outOfBounds outOfBounds]

variable {certificate : Certificate}

private theorem report_one_of_wire (fits : certificate.Encodable) :
    (report false certificate.wire).json =
        describe ⟨some (certificate.reread []), if certificate.declaredLength = 0 then .tooShort else .none⟩ (some []) ∧
      statusOf false (report false certificate.wire).conditions = if certificate.declaredLength = 0 then 2 else 0 := by
  have found := Certificate.ofOctets?_wire_append fits []
  have condition := Certificate.condition_reread fits []
  have surplus := Certificate.surplus_reread fits []
  rw [if_pos rfl] at condition
  rw [ite_self] at surplus
  rw [List.append_nil] at found
  obtain ⟨json, conditions⟩ := report_one_of_ofOctets? found
  rw [json, conditions, condition, surplus]
  refine ⟨rfl, ?_⟩
  split <;> rfl

/-- What is read where a record was written declares as many octets as it has. -/
theorem effective_reread (fits : certificate.Encodable) :
    (certificate.reread []).effectiveLength = certificate.declaredLength ∧
      (certificate.reread []).effectivePayload = certificate.payload.take certificate.declaredLength.toNat := by
  have payload : (certificate.reread []).effectivePayload =
      certificate.payload.take certificate.declaredLength.toNat := by
    rw [Certificate.effectivePayload_eq_take, Certificate.reread_nil, List.take_take, Nat.min_self]
  have counted : ((certificate.reread []).effectivePayload.length : Int) = _ :=
    Certificate.length_effectivePayload fits.1
  rw [payload, fits.length_take] at counted
  exact ⟨counted.symm, payload⟩

/-- What is printed of octets that were written. -/
theorem field?_wire (fits : certificate.Encodable) :
    let value := (report false certificate.wire).json
    value.field? "condition" =
        some (.text (if certificate.declaredLength = 0 then Condition.tooShort else .none).name) ∧
      value.field? "type" = some (.integer (certificate.kind % 256)) ∧
      value.field? "declared_length" = some (.integer certificate.declaredLength) ∧
      value.field? "effective_length" = some (.integer certificate.declaredLength) ∧
      value.field? "payload_hex" =
        some (.text (Text.Hex.encode (certificate.payload.take certificate.declaredLength.toNat))) ∧
      value.field? "remainder_hex" = some (.text "") := by
  have shows := shows_describe (certificate.reread [])
    (if certificate.declaredLength = 0 then .tooShort else .none) (some [])
  obtain ⟨effective, cut⟩ := effective_reread fits
  rw [(report_one_of_wire fits).1]
  refine ⟨field?_condition _ _, shows.kind, shows.declaredLength, ?_, ?_, field?_remainder _ _ _⟩
  · rw [shows.effectiveLength, effective]
  · rw [shows.payload, cut]

private theorem clipped_complete_of_whole {input : Octets} (found : Certificate.ofOctets? input = some certificate)
    (whole : certificate.condition = .none ∨ certificate.condition = .excessData) : certificate.clipped.Complete := by
  rcases whole with accepted | excess
  · have filled := (Certificate.condition_eq_none_iff.mp accepted).2
    rw [Certificate.clipped_eq_self (by omega)]
    exact (Certificate.complete_of_accepted found accepted).1
  · exact Certificate.clipped_complete found excess

/-- What was read whole can be written again, from the kind and the payload that are printed. -/
theorem wire_asked_effective {input : Octets} (found : Certificate.ofOctets? input = some certificate)
    (whole : certificate.condition = .none ∨ certificate.condition = .excessData) :
    (asked certificate.kind certificate.effectivePayload none).Encodable ∧
      (asked certificate.kind certificate.effectivePayload none).wire ++ certificate.surplus = input := by
  have complete := clipped_complete_of_whole found whole
  have same : asked certificate.kind certificate.effectivePayload none = certificate.clipped := by
    have filled : certificate.declaredLength = certificate.effectivePayload.length := complete.declaredLength_eq
    rw [asked, Option.getD_none, ← filled]
    rfl
  rw [same, Certificate.wire_clipped, Certificate.wire_append_surplus found complete.declaredLength_pos]
  exact ⟨complete.encodable, rfl⟩

theorem run_encodeLine_parsed {input : Octets} (accepted : levelOf .absent surroundings.logLevel = .ok level)
    (found : Certificate.ofOctets? input = some certificate)
    (whole : certificate.condition = .none ∨ certificate.condition = .excessData) :
    ∃ hex, run surroundings (encodeLine certificate.kind certificate.effectivePayload none) =
        .ok ⟨0, .ofString (hex ++ "\n"), []⟩ ∧
      hex ++ Text.Hex.encode certificate.surplus = Text.Hex.encode input := by
  obtain ⟨fits, octets⟩ := wire_asked_effective found whole
  have bounds := Certificate.ofOctets?_bounds found
  have short : Text.Numeral.Short certificate.kind := Text.Numeral.short_of_natAbs_lt (by omega)
  refine ⟨_, (run_encodeLine accepted short (by simp) certificate.effectivePayload).1 fits, ?_⟩
  rw [← Text.Hex.encode_append, octets]

/-- On the command line, writing and parsing undo each other. Exactly the declared lengths that
fit are written, and printed with the low octet of the kind and the payload up to them; any
other is refused. A parse that found its record whole prints what is needed to write it. -/
theorem encode_and_parse_are_inverse (accepted : levelOf .absent surroundings.logLevel = .ok level) :
    (∀ kind payload length, Text.Numeral.Short kind → (∀ number ∈ length, Text.Numeral.Short number) →
      let declared : Int := length.getD payload.length
      (0 ≤ declared ∧ declared ≤ min 65535 (payload.length : Int) →
        ∃ hex value,
          run surroundings (encodeLine kind payload length) = .ok ⟨0, .ofString (hex ++ "\n"), []⟩ ∧
          Prints surroundings (parseLine (.ofString hex) false false) (if declared = 0 then 2 else 0) value ∧
          value.field? "condition" = some (.text (if declared = 0 then Condition.tooShort else .none).name) ∧
          value.field? "type" = some (.integer (kind % 256)) ∧
          value.field? "declared_length" = some (.integer declared) ∧
          value.field? "effective_length" = some (.integer declared) ∧
          value.field? "payload_hex" = some (.text (Text.Hex.encode (payload.take declared.toNat))) ∧
          value.field? "remainder_hex" = some (.text "")) ∧
      (¬ (0 ≤ declared ∧ declared ≤ min 65535 (payload.length : Int)) →
        ∃ reason, run surroundings (encodeLine kind payload length) =
          .ok ⟨2, [], [.message (.ofString ("i2pcert: error [OUT_OF_BOUNDS]: " ++ reason ++ "\n"))]⟩)) ∧
    ∀ others strict input arguments, Parses others false strict input arguments →
      ∃ status value, Prints others arguments status value ∧
        (value.field? "condition" = some (.text Condition.none.name) ∨
            value.field? "condition" = some (.text Condition.excessData.name) →
          ∃ kind payload remainder hex,
            value.field? "type" = some (.integer kind) ∧
            value.field? "payload_hex" = some (.text (Text.Hex.encode payload)) ∧
            value.field? "remainder_hex" = some (.text remainder) ∧
            run surroundings (encodeLine kind payload none) = .ok ⟨0, .ofString (hex ++ "\n"), []⟩ ∧
            hex ++ remainder = Text.Hex.encode input) := by
  refine ⟨?_, ?_⟩
  · intro kind payload length shortKind shortLength declared
    obtain ⟨written, refused⟩ := run_encodeLine accepted shortKind shortLength payload
    refine ⟨?_, refused⟩
    intro (fits : (asked kind payload length).Encodable)
    have prints := (parses_hex accepted false false (asked kind payload length).wire).prints
    rw [(report_one_of_wire fits).2] at prints
    exact ⟨_, _, written fits, prints, field?_wire fits⟩
  · intro others strict input arguments parses
    refine ⟨_, _, parses.prints, ?_⟩
    cases found : Certificate.ofOctets? input with
    | none =>
      rw [(report_one_of_headless found).1, field?_condition_eq_iff, field?_condition_eq_iff]
      simp
    | some certificate =>
      rw [(report_one_of_ofOctets? found).1, field?_condition_eq_iff, field?_condition_eq_iff]
      intro whole
      obtain ⟨hex, ran, octets⟩ := run_encodeLine_parsed accepted found whole
      have shows := shows_describe certificate certificate.condition (some certificate.surplus)
      exact ⟨_, _, _, hex, shows.kind, shows.payload, field?_remainder _ _ _, ran, octets⟩

/-- A negative kind is written as its complement, and a negative length is refused. -/
theorem encode_and_parse_are_inverse_negative :
    levelOf .absent Surroundings.bare.logLevel = .ok .warning ∧
      (∃ hex value, run .bare (encodeLine (-1) [7, 8, 9] (some 2)) = .ok ⟨0, .ofString (hex ++ "\n"), []⟩ ∧
        Prints .bare (parseLine (.ofString hex) false false) 0 value ∧
        value.field? "type" = some (.integer 255) ∧ value.field? "payload_hex" = some (.text "0708")) ∧
      ∃ reason, run .bare (encodeLine 5 [7] (some (-1))) =
        .ok ⟨2, [], [.message (.ofString ("i2pcert: error [OUT_OF_BOUNDS]: " ++ reason ++ "\n"))]⟩ := by
  have short : ∀ number ∈ [-1, 2, 5], Text.Numeral.Short number := by
    intro number member
    apply Text.Numeral.short_of_natAbs_lt
    revert number
    decide
  have inverse := (encode_and_parse_are_inverse levelOf_bare).1
  obtain ⟨hex, value, written, prints, _, kind, _, _, payload, _⟩ :=
    (inverse (-1) [7, 8, 9] (some 2) (short _ (by simp)) (by simpa using short 2 (by simp))).1 (by decide)
  have refused := (inverse 5 [7] (some (-1)) (short _ (by simp)) (by simpa using short (-1) (by simp))).2 (by decide)
  exact ⟨levelOf_bare, ⟨hex, value, written, prints, kind, payload⟩, refused⟩

end CertWire.CommandLine
