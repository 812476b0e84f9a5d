import CertWire.Proofs.PrintedRecords

/-! Single parses one after the other, each of what the one before left over. Parsing all records
at once prints what they print and ends as the last of them does. -/

namespace CertWire.CommandLine

open Text (Points)

/-- A printed record as it is shown among others: without its remainder, and settled if a
remainder was all there was to report. -/
def settled (object : Json) : Json :=
  .object <| (object.members.filter fun (name, _) => name ≠ .ofString "remainder_hex").map fun (name, value) =>
    if name = .ofString "condition" ∧ value.same (.text Condition.excessData.name) then (name, .text Condition.none.name)
    else (name, value)

/-- Single parses of the octets, then of the remainder that is printed, and so on while there is
one. Each is run by the command line that is chosen for its octets. -/
inductive Chain (line : Octets → Surroundings × List Points) : Octets → List Json → Nat → Prop
  | last {input : Octets} {object : Json} {status : Nat} (prints : Prints (line input).1 (line input).2 status object)
      (ended : object.field? "condition" ≠ some (.text Condition.excessData.name)) : Chain line input [object] status
  | more {input rest : Octets} {object : Json} {text : Points} {status final : Nat} {objects : List Json}
      (prints : Prints (line input).1 (line input).2 status object)
      (excess : object.field? "condition" = some (.text Condition.excessData.name))
      (remainder : object.field? "remainder_hex" = some (.string text)) (decoded : Text.Hex.decode text = .ok rest)
      (others : Chain line rest objects final) : Chain line input (object :: objects) final

theorem same_text (left right : String) : (Json.text left).same (.text right) = true ↔ left = right := by
  rw [Json.text, Json.text, Json.same, beq_iff_eq, Points.ofString_inj]

private theorem settled_describe (certificate : Option Certificate) (condition : Condition)
    (remainder : Option Octets) : settled (describe ⟨certificate, condition⟩ remainder) =
      describe ⟨certificate, if condition = .excessData then .none else condition⟩ none := by
  cases certificate with
  | none => cases condition <;> simp [settled, describe, Json.members, Points.ofString_inj, same_text, Condition.name]
  | some certificate =>
    cases remainder <;> cases condition <;>
      simp [settled, describe, Json.members, Points.ofString_inj, same_text, Condition.name]

variable {certificate : Certificate} {record : Record} {rest input : Octets}

/-- A record is printed alike whether or not its payload was cut. -/
theorem describe_clipped (usable : 1 ≤ certificate.declaredLength) (condition : Condition) :
    describe ⟨some certificate.clipped, condition⟩ none = describe ⟨some certificate, condition⟩ none := by
  have nonneg : 0 ≤ certificate.declaredLength := by omega
  have payload := Certificate.effectivePayload_clipped certificate
  have counted : (certificate.clipped.effectivePayload.length : Int) = certificate.clipped.effectiveLength :=
    Certificate.length_effectivePayload nonneg
  have length : certificate.clipped.effectiveLength = certificate.effectiveLength := by
    rw [← counted, payload, Certificate.length_effectivePayload nonneg]
  simp only [describe, payload, length]
  rfl

private theorem report_one_of_ending (ending : Certificate.Ending input record) :
    (report false input).json = describe record (some []) ∧ (report false input).conditions = [record.condition] := by
  have reading := report_one input
  rw [ending.read] at reading
  exact reading

private theorem report_all_of_ending (ending : Certificate.Ending input record) :
    (report true input).json = .array [describe record none] ∧ (report true input).conditions = [record.condition] := by
  obtain ⟨json, conditions⟩ := report_all input
  rw [json, conditions, ending.readAll]
  exact ⟨rfl, rfl⟩

private theorem report_one_of_complete (complete : certificate.Complete) (remains : rest ≠ []) :
    (report false (certificate.wire ++ rest)).json =
      describe ⟨some (certificate.reread rest), .excessData⟩ (some rest) := by
  have positive := complete.declaredLength_pos
  have condition := Certificate.condition_reread complete.encodable rest
  have surplus := Certificate.surplus_reread complete.encodable rest
  rw [if_neg (by omega)] at condition surplus
  rw [if_neg remains] at condition
  rw [(report_one_of_ofOctets? (Certificate.ofOctets?_wire_append complete.encodable rest)).1, condition, surplus]

/-- The record that is printed alone, with all that follows as its payload, and the one that is
printed among others. -/
theorem settled_reread (complete : certificate.Complete) :
    settled (describe ⟨some (certificate.reread rest), .excessData⟩ (some rest)) =
      describe ⟨some certificate, .none⟩ none := by
  have clipped : (certificate.reread rest).clipped = certificate := by
    rw [Certificate.clipped_reread complete.encodable, complete.reread_nil]
  have usable : 1 ≤ (certificate.reread rest).declaredLength := complete.declaredLength_pos
  rw [settled_describe, if_pos rfl, ← describe_clipped usable, clipped]

private theorem report_all_of_complete (complete : certificate.Complete) (rest : Octets) :
    (report true (certificate.wire ++ rest)).json =
        .array (describe ⟨some certificate, .none⟩ none ::
          (Certificate.readAll rest).map fun record => describe record none) ∧
      (report true (certificate.wire ++ rest)).conditions = .none :: (report true rest).conditions := by
  obtain ⟨json, conditions⟩ := report_all (certificate.wire ++ rest)
  rw [json, conditions, complete.readAll_append, (report_all rest).2]
  exact ⟨rfl, rfl⟩

private theorem statusOf_none_cons (strict : Bool) (conditions : List Condition) :
    statusOf strict (.none :: conditions) = statusOf strict conditions := rfl

theorem statusOf_strict (conditions : List Condition) :
    statusOf true conditions = statusOf false conditions ∨
      statusOf false conditions = 0 ∧ statusOf true conditions = 1 := by
  unfold statusOf
  split
  · exact .inl rfl
  · cases conditions.any Condition.isWarning <;> decide

variable {line : Octets → Surroundings × List Points} {strict : Bool}

/-- The chain from an input is there and is the only one, and what parsing all records prints is
made of what it prints. -/
structure Chained (line : Octets → Surroundings × List Points) (strict : Bool) (input : Octets) (objects : List Json)
    (status : Nat) : Prop where
  chain : Chain line input objects status
  alone : ∀ others final, Chain line input others final → others = objects ∧ final = status
  json : (report true input).json = .array (objects.map settled)
  status : statusOf strict (report true input).conditions = status

private theorem chained_of_ending (single : ∀ input, Parses (line input).1 false strict input (line input).2)
    (ending : Certificate.Ending input record) :
    Chained line strict input [describe record (some [])] (statusOf strict [record.condition]) := by
  have unsettled : record.condition ≠ .excessData := by
    cases ending with
    | short occupied headless => decide
    | last found alone => exact alone
  have prints := (single input).prints
  rw [(report_one_of_ending ending).1, (report_one_of_ending ending).2] at prints
  have ended : (describe record (some [])).field? "condition" ≠ some (.text Condition.excessData.name) :=
    fun same => unsettled (field?_condition_eq_iff.mp same)
  obtain ⟨json, conditions⟩ := report_all_of_ending ending
  constructor
  · exact .last prints ended
  · intro others final chain
    cases chain with
    | last again _ =>
      obtain ⟨rfl, rfl⟩ := prints.unique again
      exact ⟨rfl, rfl⟩
    | more again excess _ _ _ =>
      obtain ⟨_, rfl⟩ := prints.unique again
      exact absurd excess ended
  · obtain ⟨certificate, condition⟩ := record
    rw [json, List.map_singleton, settled_describe, if_neg unsettled]
  · rw [conditions]

theorem Chained.cons {objects : List Json} {status : Nat}
    (single : ∀ input, Parses (line input).1 false strict input (line input).2) (complete : certificate.Complete)
    (remains : rest ≠ []) (chained : Chained line strict rest objects status) :
    Chained line strict (certificate.wire ++ rest)
      (describe ⟨some (certificate.reread rest), .excessData⟩ (some rest) :: objects) status := by
  have prints := (single (certificate.wire ++ rest)).prints
  rw [report_one_of_complete complete remains] at prints
  have excess := field?_condition ⟨some (certificate.reread rest), .excessData⟩ (some rest)
  have remainder := field?_remainder (certificate.reread rest) .excessData rest
  obtain ⟨json, conditions⟩ := report_all_of_complete complete rest
  constructor
  · exact .more prints excess remainder (Text.Hex.decode_encode rest) chained.chain
  · intro others final chain
    cases chain with
    | last again ended =>
      obtain ⟨_, rfl⟩ := prints.unique again
      exact absurd excess ended
    | more again _ found decoded following =>
      -- The run is the same, so its output names the same remainder, and the chain goes on from there.
      obtain ⟨_, rfl⟩ := prints.unique again
      rw [remainder] at found
      cases found
      rw [Text.Hex.decode_encode] at decoded
      cases decoded
      obtain ⟨rfl, rfl⟩ := chained.alone _ _ following
      exact ⟨rfl, rfl⟩
  · have others := chained.json
    rw [(report_all rest).1] at others
    rw [json, List.map_cons, settled_reread complete, Json.array.inj others]
  · rw [conditions, statusOf_none_cons, chained.status]

theorem exists_chained (single : ∀ input, Parses (line input).1 false strict input (line input).2)
    (occupied : input ≠ []) : ∃ objects status, Chained line strict input objects status := by
  -- Each complete record before others is one link, and what no other record follows ends the chain.
  induction input using Certificate.packed_induction with
  | empty => exact absurd rfl occupied
  | ending found => exact ⟨_, _, chained_of_ending single found⟩
  | more complete remains ih =>
    obtain ⟨objects, status, chained⟩ := ih remains
    exact ⟨_, _, chained.cons single complete remains⟩

/-- However single parses are run, they come to an end on every input that is not empty, and
parsing all records prints the records that they print, with the exit status of the last of
them. To be strict changes nothing of what is printed, and no status but that of success. -/
theorem parse_all_is_repeated_parse :
    (∀ surroundings level, levelOf .absent surroundings.logLevel = .ok level → ∀ all strict input,
      Parses surroundings all strict input (parseLine (.ofString (Text.Hex.encode input)) all strict)) ∧
    (∀ strict line, (∀ input, Parses (line input).1 false strict input (line input).2) → ∀ input, input ≠ [] →
      (∃ objects status, Chain line input objects status) ∧
      ∀ objects status, Chain line input objects status →
        ∀ surroundings arguments, Parses surroundings true strict input arguments →
          Prints surroundings arguments status (.array (objects.map settled))) ∧
    (∀ all input surroundings arguments others strictArguments,
      Parses surroundings all false input arguments → Parses others all true input strictArguments →
        ∃ value status strictStatus, Prints surroundings arguments status value ∧
          Prints others strictArguments strictStatus value ∧
          (strictStatus = status ∨ status = 0 ∧ strictStatus = 1)) ∧
    ∀ strict surroundings arguments, Parses surroundings true strict [] arguments →
      ∃ notices, run surroundings arguments = .ok ⟨0, "[]\n", notices⟩ := by
  refine ⟨fun _ _ accepted all strict input => parses_hex accepted all strict input, ?_, ?_, ?_⟩
  · intro strict line single input occupied
    obtain ⟨objects, status, chained⟩ := exists_chained single occupied
    refine ⟨⟨objects, status, chained.chain⟩, ?_⟩
    intro others final chain surroundings arguments parses
    obtain ⟨rfl, rfl⟩ := chained.alone others final chain
    have prints := parses.prints
    rw [chained.json, chained.status] at prints
    exact prints
  · intro all input surroundings arguments others strictArguments parses strictly
    exact ⟨_, _, _, parses.prints, strictly.prints, statusOf_strict _⟩
  · intro strict surroundings arguments parses
    obtain ⟨json, conditions⟩ := report_all []
    rw [Certificate.readAll_nil, List.map_nil] at json conditions
    obtain ⟨notices, ended, _⟩ := parses.prints
    have status : statusOf strict [] = 0 := by cases strict <;> rfl
    have text : (Json.array []).document ++ "\n" = "[]\n" := by decide
    rw [json, conditions, status, text] at ended
    exact ⟨notices, ended⟩

/-- A complete record stands before one that ends early, for which a strict parse fails. -/
theorem parse_all_is_repeated_parse_truncated :
    ∃ objects, Chain (fun input => (.bare, parseLine (.ofString (Text.Hex.encode input)) false true))
        [5, 0, 1, 7, 9, 0, 3, 1] objects 1 ∧
      Prints .bare (parseLine "0500010709000301" true true) 1 (.array (objects.map settled)) := by
  have lines := parse_all_is_repeated_parse.1 .bare .warning levelOf_bare
  have text : Text.Hex.encode [5, 0, 1, 7, 9, 0, 3, 1] = "0500010709000301" := by decide
  have parses := lines true true [5, 0, 1, 7, 9, 0, 3, 1]
  obtain ⟨⟨objects, status, chain⟩, agree⟩ :=
    parse_all_is_repeated_parse.2.1 true (fun input => (.bare, _)) (lines false true) [5, 0, 1, 7, 9, 0, 3, 1] (by decide)
  have prints := agree objects status chain .bare _ parses
  have failed : statusOf true (report true [5, 0, 1, 7, 9, 0, 3, 1]).conditions = 1 := by decide +kernel
  obtain ⟨same, _⟩ := prints.unique parses.prints
  rw [failed] at same
  subst same
  rw [text] at prints
  exact ⟨objects, chain, prints⟩

end CertWire.CommandLine
