import CertWire.Json.Printing
import CertWire.Json.Reading
import CertWire.Proofs.DigitText

/-! Documents read back. A value of integers, plain text, arrays and objects is what its own
document is read as, so that two such values with the same document are the same. -/

namespace CertWire.Json

open Text (Points)

/-- Code points that stand for themselves between quotation marks. -/
def Plain (points : Points) : Prop := ∀ point ∈ points, 0x20 ≤ point ∧ point < 0x7f ∧ point ≠ 0x22 ∧ point ≠ 0x5c

/-- A value whose document says all about it, with no more than so many levels of nesting. -/
inductive Legible : (room : Nat) → Json → Prop
  | null {room : Nat} : Legible room .null
  | integer {room : Nat} {number : Int} (short : Text.Numeral.Short number) : Legible room (.integer number)
  | string {room : Nat} {points : Points} (plain : Plain points) : Legible room (.string points)
  | array {room : Nat} {items : List Json} (inner : ∀ item ∈ items, Legible room item) :
      Legible (room + 1) (.array items)
  | object {room : Nat} {members : List (Points × Json)} (names : ∀ member ∈ members, Plain member.1)
      (distinct : (members.map Prod.fst).Nodup) (inner : ∀ member ∈ members, Legible room member.2) :
      Legible (room + 1) (.object members)

variable {room : Nat} {value : Json} {points : Points}

theorem Legible.single (name : Plain points) (inner : Legible room value) : Legible (room + 1) (.object [(points, value)]) :=
  .object (List.forall_mem_singleton.mpr name) (List.pairwise_singleton _ _) (List.forall_mem_singleton.mpr inner)

private theorem documentPoint_of_plain {point : Nat} (least : 0x20 ≤ point) (most : point < 0x7f)
    (noQuote : point ≠ 0x22) (noEscape : point ≠ 0x5c) : documentPoint point = [Char.ofNat point] := by
  unfold documentPoint
  rw [if_neg noQuote, if_neg noEscape, if_neg (by omega), if_neg (by omega), if_neg (by omega), if_neg (by omega),
    if_neg (by omega), if_pos ⟨least, most⟩]

private theorem documentString_of_plain (plain : Plain points) :
    documentString points = '"' :: points.map Char.ofNat ++ ['"'] := by
  rw [documentString]
  congr 2
  induction points with
  | nil => rfl
  | cons point rest ih =>
    obtain ⟨⟨least, most, noQuote, noEscape⟩, plain⟩ := List.forall_mem_cons.mp plain
    rw [List.flatMap_cons, documentPoint_of_plain least most noQuote noEscape, ih plain]
    rfl

private theorem toNat_ofNat_of_plain {point : Nat} (most : point < 0x7f) : (Char.ofNat point).toNat = point := by
  have valid : point.isValidChar := .inl (by omega)
  rw [Char.ofNat, dif_pos valid]
  rfl

private theorem joinSurrogates_of_plain (plain : Plain points) : joinSurrogates points = points := by
  induction points with
  | nil => rfl
  | cons first rest ih =>
    obtain ⟨⟨_, most, _, _⟩, plain⟩ := List.forall_mem_cons.mp plain
    cases rest with
    | nil => rfl
    | cons second rest => rw [joinSurrogates, if_neg (by omega), ih plain]

private theorem readString_of_plain (plain : Plain points) (before : Points) (rest : List Char) :
    readString before (points.map Char.ofNat ++ '"' :: rest) = .ok (joinSurrogates (before.reverse ++ points), rest) := by
  induction points generalizing before with
  | nil => simp [readString]
  | cons point others ih =>
    obtain ⟨⟨least, most, noQuote, noEscape⟩, plain⟩ := List.forall_mem_cons.mp plain
    have code := toNat_ofNat_of_plain most
    have quote : Char.ofNat point ≠ '"' := fun same => noQuote (by rw [← code, same]; rfl)
    have escape : Char.ofNat point ≠ '\\' := fun same => noEscape (by rw [← code, same]; rfl)
    rw [List.map_cons, List.cons_append, readString.eq_def]
    split
    next same => simp at same
    next same => exact absurd (List.cons.inj same).1 quote
    next same => exact absurd (List.cons.inj same).1 escape
    next same => exact absurd (List.cons.inj same).1 escape
    next same =>
      obtain ⟨rfl, rfl⟩ := List.cons.inj same
      rw [if_neg (by omega), ih plain, code, List.reverse_cons, List.append_assoc]
      rfl

/-- A name or a text in a document, behind its opening quotation mark. -/
theorem readString_documentString (plain : Plain points) (rest : List Char) :
    readString [] (points.map Char.ofNat ++ '"' :: rest) = .ok (points, rest) := by
  rw [readString_of_plain plain, List.reverse_nil, List.nil_append, joinSurrogates_of_plain plain]

private theorem skipSpace_cons {character : Char}
    (mark : character ≠ ' ' ∧ character ≠ '\n' ∧ character ≠ '\t' ∧ character ≠ '\r') (rest : List Char) :
    skipSpace (character :: rest) = character :: rest := by
  rw [skipSpace, List.dropWhile_cons_of_neg (by simp [mark])]

private theorem skipSpace_newline (indent : Nat) (text : List Char) :
    skipSpace (newline indent ++ text) = skipSpace text := by
  have blank : ∀ character ∈ newline indent, (character == ' ' || character == '\n' || character == '\t' ||
      character == '\r') = true := by
    simp [newline]
  rw [skipSpace, List.dropWhile_append_of_pos blank, skipSpace]

/-- What can follow a value in a document: nothing that would go on with a number. -/
def Follows (rest : List Char) : Prop := ∃ mark others, rest = mark :: others ∧ (mark = ',' ∨ mark = '\n')

private theorem eq_zero_of_toDigits {number : Nat} {others : List Char}
    (leading : Nat.toDigits 10 number = '0' :: others) : number = 0 := by
  induction number using Nat.strongRecOn generalizing others with
  | ind number ih =>
    rw [Nat.toDigits_eq_if (by decide)] at leading
    split at leading
    next small =>
      have zero : ∀ digit < 10, Nat.digitChar digit = '0' → digit = 0 := by decide
      exact zero number small (List.cons.inj leading).1
    next large =>
      obtain ⟨first, rest, front⟩ := List.exists_cons_of_ne_nil (Nat.toDigits_ne_nil (b := 10) (n := number / 10))
      rw [front, List.cons_append] at leading
      rw [(List.cons.inj leading).1] at front
      have none := ih (number / 10) (by omega) front
      omega

private theorem readNumber_digits {digits rest : List Char} (all : ∀ digit ∈ digits, digit.isDigit = true)
    (occupied : digits ≠ []) (few : digits.length ≤ Text.Numeral.digitLimit)
    (canonical : ∀ others, digits = '0' :: others → others = []) (follows : Follows rest) (negative : Prop)
    [Decidable negative] : readNumber ((if negative then ['-'] else []) ++ digits ++ rest) =
      .ok (.integer (if negative then -(digitValue digits : Int) else digitValue digits), rest) := by
  obtain ⟨mark, beyond, rfl, stops⟩ := follows
  have filled : ¬ Text.Numeral.digitLimit < digits.length := by omega
  have fraction : readFraction (mark :: beyond) = ([], mark :: beyond) := by
    rcases stops with rfl | rfl <;> rfl
  have exponent : readExponent? (mark :: beyond) = none := by
    rcases stops with rfl | rfl <;> rfl
  have notDigit : mark.isDigit = false := by
    rcases stops with rfl | rfl <;> rfl
  obtain ⟨first, others, rfl⟩ := List.exists_cons_of_ne_nil occupied
  have taken : (first :: others ++ mark :: beyond).takeWhile Char.isDigit = first :: others := by
    rw [List.takeWhile_append_of_pos all, List.takeWhile_cons_of_neg (by simp [notDigit]), List.append_nil]
  have unsigned : first ≠ '-' := by
    rintro rfl
    exact absurd (all '-' List.mem_cons_self) (by decide)
  by_cases zero : first = '0'
  · subst first
    cases canonical others rfl
    by_cases below : negative <;> simp [below, readNumber, fraction, exponent, digitValue, Text.Numeral.digitLimit]
  · have behind : (first :: others ++ mark :: beyond).drop (first :: others).length = mark :: beyond := List.drop_left
    rw [List.cons_append] at taken behind
    by_cases below : negative <;>
      simp [below, readNumber, zero, unsigned, taken, filled, behind, fraction, exponent, -List.length_cons]

private theorem readNumber_integer {number : Int} {rest : List Char} (short : Text.Numeral.Short number)
    (follows : Follows rest) : readNumber ((toString number).toList ++ rest) = .ok (.integer number, rest) := by
  have canonical : ∀ others, Nat.toDigits 10 number.natAbs = '0' :: others → others = [] := by
    intro others leading
    rw [eq_zero_of_toDigits leading, Nat.toDigits_zero] at leading
    exact (List.cons.inj leading).2.symm
  rw [Text.Numeral.toList_toString, readNumber_digits (Text.Numeral.isDigit_of_mem_toDigits number.natAbs)
    Nat.toDigits_ne_nil short canonical follows, digitValue, ← Text.Numeral.ofDigitChars_eq_foldl,
    Nat.ofDigitChars_ten_toDigits, Text.Numeral.signed_natAbs]

private theorem readValue_digit {first : Char} (digit : first.isDigit = true) (steps room : Nat) (rest : List Char) :
    readValue (steps + 1) room (first :: rest) = readNumber (first :: rest) ∧
      readValue (steps + 1) room ('-' :: first :: rest) = readNumber ('-' :: first :: rest) := by
  have other : ∀ mark : Char, mark.isDigit = false → first ≠ mark := by
    rintro mark plain rfl
    simp [digit] at plain
  refine ⟨?_, ?_⟩
  · simp [readValue, other '"' rfl, other '[' rfl, other '{' rfl, other 'n' rfl, other 't' rfl, other 'f' rfl, other 'N' rfl,
      other 'I' rfl, other '-' rfl]
  · simp [readValue, other 'I' rfl]

/-- The document of a value is read as that value, whatever can follow it. -/
def Reads (room : Nat) (value : Json) : Prop :=
  ∀ (steps indent : Nat) (rest : List Char), 2 * (documentAt indent value).length ≤ steps → Follows rest →
    readValue steps room (documentAt indent value ++ rest) = .ok (value, rest)

/-- A mark that stands neither for white space nor for the end of an array or object. -/
def Opens (mark : Char) : Prop :=
  mark ≠ ' ' ∧ mark ≠ '\n' ∧ mark ≠ '\t' ∧ mark ≠ '\r' ∧ mark ≠ ']' ∧ mark ≠ '}'

private theorem opens_of_isDigit {mark : Char} (digit : mark.isDigit = true) : Opens mark := by
  unfold Opens
  refine ⟨?_, ?_, ?_, ?_, ?_, ?_⟩
  all_goals
    rintro rfl
    exact absurd digit (by decide)

private theorem exists_opens (legible : Legible room value) (indent : Nat) :
    ∃ first others, documentAt indent value = first :: others ∧ Opens first := by
  cases legible with
  | null => exact ⟨'n', _, rfl, by unfold Opens; decide⟩
  | @integer room number short =>
    obtain ⟨first, others, digits⟩ := List.exists_cons_of_ne_nil (Nat.toDigits_ne_nil (b := 10) (n := number.natAbs))
    have digit := Text.Numeral.isDigit_of_mem_toDigits number.natAbs first (by rw [digits]; exact List.mem_cons_self)
    rw [documentAt, Text.Numeral.toList_toString, digits]
    split
    · exact ⟨'-', _, rfl, by unfold Opens; decide⟩
    · exact ⟨first, others, rfl, opens_of_isDigit digit⟩
  | @string room points plain => exact ⟨'"', _, rfl, by unfold Opens; decide⟩
  | @array room items inner =>
    cases items with
    | nil => exact ⟨'[', _, rfl, by unfold Opens; decide⟩
    | cons item items => exact ⟨'[', _, rfl, by unfold Opens; decide⟩
  | @object room members names distinct inner =>
    cases members with
    | nil => exact ⟨'{', _, rfl, by unfold Opens; decide⟩
    | cons member members => exact ⟨'{', _, rfl, by unfold Opens; decide⟩

private theorem skipSpace_documentAt (legible : Legible room value) (indent : Nat) (rest : List Char) :
    skipSpace (documentAt indent value ++ rest) = documentAt indent value ++ rest := by
  obtain ⟨first, others, document, opens⟩ := exists_opens legible indent
  rw [document, List.cons_append, skipSpace_cons ⟨opens.1, opens.2.1, opens.2.2.1, opens.2.2.2.1⟩]

private theorem follows_newline (indent : Nat) (rest : List Char) : Follows (newline indent ++ rest) :=
  ⟨'\n', _, rfl, .inr rfl⟩

private theorem readItems_item {item : Json} {steps indent : Nat} {rest : List Char} (reads : Reads room item)
    (enough : 2 * (documentAt indent item).length ≤ steps) (follows : Follows rest) (before : List Json) :
    readItems (steps + 1) room before (documentAt indent item ++ rest) =
      match skipSpace rest with
      | ',' :: rest => readItems steps room (item :: before) (skipSpace rest)
      | ']' :: rest => .ok (.array (item :: before).reverse, rest)
      | _ => .error .malformed := by
  rw [readItems, reads steps indent rest enough follows]
  rfl

private theorem itemsAt_append (indent : Nat) (item : Json) (items : List Json) (rest : List Char) :
    itemsAt indent (item :: items) ++ rest =
      ',' :: (newline indent ++ (documentAt indent item ++ (itemsAt indent items ++ rest))) := by
  simp only [itemsAt, List.cons_append, List.append_assoc]

/-- The items of an array are read one after the other, up to the bracket that closes it. -/
theorem readItems_itemsAt {item : Json} {items before : List Json} {steps indent outer : Nat} {rest : List Char}
    (legible : ∀ other ∈ item :: items, Legible room other) (reads : ∀ other ∈ item :: items, Reads room other)
    (enough : 2 * ((documentAt indent item).length + (itemsAt indent items).length) + 1 ≤ steps) :
    readItems steps room before
        (documentAt indent item ++ (itemsAt indent items ++ (newline outer ++ ']' :: rest))) =
      .ok (.array (before.reverse ++ item :: items), rest) := by
  induction items generalizing item before steps with
  | nil =>
    obtain ⟨steps, rfl⟩ : ∃ fewer, steps = fewer + 1 := ⟨steps - 1, by omega⟩
    rw [itemsAt, List.nil_append, readItems_item (reads item List.mem_cons_self) (by omega) (follows_newline outer _),
      skipSpace_newline, skipSpace_cons (by decide), List.reverse_cons]
    rfl
  | cons next items ih =>
    obtain ⟨steps, rfl⟩ : ∃ fewer, steps = fewer + 1 := ⟨steps - 1, by omega⟩
    rw [List.forall_mem_cons] at legible reads
    simp only [itemsAt, List.length_append, List.length_cons] at enough
    have others : readItems steps room (item :: before) _ = _ := ih legible.2 reads.2 (by omega)
    rw [List.reverse_cons, List.append_assoc, List.singleton_append] at others
    rw [itemsAt_append, readItems_item reads.1 (by omega) ⟨',', _, rfl, .inl rfl⟩, ← others, skipSpace_cons (by decide)]
    simp only [skipSpace_newline, skipSpace_documentAt (legible.2 next List.mem_cons_self)]

private theorem insertMember_of_new {members : List (Points × Json)} {name : Points}
    (fresh : name ∉ members.map Prod.fst) (value : Json) :
    insertMember members name value = members ++ [(name, value)] := by
  have absent : members.any (·.1 == name) = false := by
    rw [List.any_eq_false]
    intro member inside same
    exact fresh (List.mem_map.mpr ⟨member, inside, by simpa using same⟩)
  rw [insertMember, absent]
  rfl

private theorem fresh_of_nodup {name : Points} {members before : List (Points × Json)}
    (distinct : ((before ++ (name, value) :: members).map Prod.fst).Nodup) : name ∉ before.map Prod.fst := by
  rw [List.map_append, List.nodup_append] at distinct
  intro member
  exact distinct.2.2 name member name (by simp) rfl

private theorem readMembers_member {name : Points} {steps indent : Nat} {rest : List Char}
    {before : List (Points × Json)} (plain : Plain name) (fresh : name ∉ before.map Prod.fst)
    (legible : Legible room value) (reads : Reads room value)
    (enough : 2 * (documentAt indent value).length ≤ steps) (follows : Follows rest) :
    readMembers (steps + 1) room before (documentString name ++ ':' :: ' ' :: (documentAt indent value ++ rest)) =
      match skipSpace rest with
      | ',' :: rest => readMembers steps room (before ++ [(name, value)]) (skipSpace rest)
      | '}' :: rest => .ok (.object (before ++ [(name, value)]), rest)
      | _ => .error .malformed := by
  have space (text : List Char) : skipSpace (' ' :: text) = skipSpace text := List.dropWhile_cons_of_pos rfl
  rw [documentString_of_plain plain]
  simp only [List.cons_append, List.append_assoc, List.nil_append, readMembers]
  rw [readString_documentString plain]
  simp only [bind, Except.bind]
  rw [skipSpace_cons (by decide)]
  simp only [space, skipSpace_documentAt legible, reads steps indent rest enough follows, insertMember_of_new fresh]
  rfl

private theorem membersAt_append (indent : Nat) (name : Points) (value : Json) (members : List (Points × Json))
    (rest : List Char) : membersAt indent ((name, value) :: members) ++ rest =
      ',' :: (newline indent ++ (documentString name ++ ':' :: ' ' ::
        (documentAt indent value ++ (membersAt indent members ++ rest)))) := by
  simp only [membersAt, List.cons_append, List.append_assoc]

private theorem skipSpace_documentString (name : Points) (rest : List Char) :
    skipSpace (documentString name ++ rest) = documentString name ++ rest := by
  rw [documentString, List.cons_append, List.cons_append, skipSpace_cons (by decide)]

/-- The members of an object are read one after the other, up to the brace that closes it. -/
theorem readMembers_membersAt {name : Points} {members before : List (Points × Json)} {steps indent outer : Nat}
    {rest : List Char} (names : ∀ member ∈ (name, value) :: members, Plain member.1)
    (distinct : ((before ++ (name, value) :: members).map Prod.fst).Nodup)
    (legible : ∀ member ∈ (name, value) :: members, Legible room member.2)
    (reads : ∀ member ∈ (name, value) :: members, Reads room member.2)
    (enough : 2 * ((documentAt indent value).length + (membersAt indent members).length) + 1 ≤ steps) :
    readMembers steps room before
        (documentString name ++ ':' :: ' ' :: (documentAt indent value ++
          (membersAt indent members ++ (newline outer ++ '}' :: rest)))) =
      .ok (.object (before ++ (name, value) :: members), rest) := by
  have fresh := fresh_of_nodup distinct
  induction members generalizing name value before steps with
  | nil =>
    obtain ⟨steps, rfl⟩ : ∃ fewer, steps = fewer + 1 := ⟨steps - 1, by omega⟩
    rw [List.forall_mem_cons] at names legible reads
    rw [membersAt, List.nil_append, readMembers_member names.1 fresh legible.1 reads.1 (by dsimp only; omega)
      (follows_newline outer _), skipSpace_newline, skipSpace_cons (by decide)]
    rfl
  | cons next members ih =>
    obtain ⟨steps, rfl⟩ : ∃ fewer, steps = fewer + 1 := ⟨steps - 1, by omega⟩
    obtain ⟨nextName, nextValue⟩ := next
    rw [List.forall_mem_cons] at names legible reads
    simp only [membersAt, List.length_append, List.length_cons] at enough
    have regrouped : before ++ (name, value) :: (nextName, nextValue) :: members =
        (before ++ [(name, value)]) ++ (nextName, nextValue) :: members := by simp
    rw [regrouped] at distinct ⊢
    rw [membersAt_append, readMembers_member names.1 fresh legible.1 reads.1 (by dsimp only; omega)
      ⟨',', _, rfl, .inl rfl⟩, skipSpace_cons (by decide)]
    simp only [skipSpace_newline, skipSpace_documentString]
    exact ih names.2 distinct legible.2 reads.2 (by omega) (fresh_of_nodup distinct)

private theorem readValue_items {text : List Char} {first : Char} {others : List Char}
    (document : text = first :: others) (opens : Opens first) (steps room indent : Nat) :
    readValue (steps + 1) (room + 1) ('[' :: (newline indent ++ text)) = readItems steps room [] text := by
  have bare : skipSpace text = text := by
    rw [document, skipSpace_cons ⟨opens.1, opens.2.1, opens.2.2.1, opens.2.2.2.1⟩]
  rw [readValue, skipSpace_newline, bare, document]
  split
  next closed => exact absurd (List.cons.inj closed).1 opens.2.2.2.2.1
  next => rfl

private theorem readValue_members (name : Points) (rest : List Char) (steps room indent : Nat) :
    readValue (steps + 1) (room + 1) ('{' :: (newline indent ++ (documentString name ++ rest))) =
      readMembers steps room [] (documentString name ++ rest) := by
  rw [readValue, skipSpace_newline, skipSpace_documentString]
  rfl

private theorem readValue_integer {number : Int} {rest : List Char} (short : Text.Numeral.Short number)
    (follows : Follows rest) (steps room : Nat) :
    readValue (steps + 1) room ((toString number).toList ++ rest) = .ok (.integer number, rest) := by
  obtain ⟨first, others, digits⟩ := List.exists_cons_of_ne_nil (Nat.toDigits_ne_nil (b := 10) (n := number.natAbs))
  have digit := Text.Numeral.isDigit_of_mem_toDigits number.natAbs first (by rw [digits]; exact List.mem_cons_self)
  have back := readNumber_integer short follows
  rw [Text.Numeral.toList_toString, digits] at back ⊢
  split at back
  next negative =>
    rw [if_pos negative]
    exact ((readValue_digit digit steps room (others ++ rest)).2).trans back
  next nonneg =>
    rw [if_neg nonneg]
    exact ((readValue_digit digit steps room (others ++ rest)).1).trans back

private theorem exists_succ_of_enough (legible : Legible room value) {steps indent : Nat}
    (enough : 2 * (documentAt indent value).length ≤ steps) : ∃ fewer, steps = fewer + 1 := by
  obtain ⟨first, others, document, _⟩ := exists_opens legible indent
  rw [document, List.length_cons] at enough
  exact ⟨steps - 1, by omega⟩

theorem reads_of_legible (legible : Legible room value) : Reads room value := by
  -- Two steps for each character are enough: one to read a value, one to go on to the next.
  induction legible with
  | @null room =>
    intro steps indent rest enough follows
    obtain ⟨steps, rfl⟩ := exists_succ_of_enough (.null : Legible room .null) enough
    rfl
  | @integer room number short =>
    intro steps indent rest enough follows
    obtain ⟨steps, rfl⟩ := exists_succ_of_enough (.integer short : Legible room _) enough
    exact readValue_integer short follows steps room
  | @string room points plain =>
    intro steps indent rest enough follows
    obtain ⟨steps, rfl⟩ := exists_succ_of_enough (.string plain : Legible room _) enough
    rw [documentAt, documentString_of_plain plain]
    simp only [List.cons_append, List.append_assoc, List.nil_append, readValue]
    rw [readString_documentString plain]
    rfl
  | @array room items inner ih =>
    intro steps indent rest enough follows
    obtain ⟨steps, rfl⟩ := exists_succ_of_enough (.array inner) enough
    cases items with
    | nil => rfl
    | cons item items =>
      obtain ⟨first, others, document, opens⟩ := exists_opens (inner item List.mem_cons_self) (indent + 1)
      simp only [documentAt, List.length_append, List.length_cons] at enough
      simp only [documentAt, List.cons_append, List.append_assoc, List.nil_append]
      rw [readValue_items (by rw [document]; rfl) opens]
      exact readItems_itemsAt inner ih (by omega)
  | @object room members names distinct inner ih =>
    intro steps indent rest enough follows
    obtain ⟨steps, rfl⟩ := exists_succ_of_enough (.object names distinct inner) enough
    cases members with
    | nil => rfl
    | cons member members =>
      obtain ⟨name, value⟩ := member
      simp only [documentAt, List.length_append, List.length_cons] at enough
      simp only [documentAt, List.cons_append, List.append_assoc, List.nil_append]
      rw [readValue_members]
      exact readMembers_membersAt names distinct inner ih (by omega)

/-- What is printed of a value on a line of its own is read as the value. -/
theorem read_document (legible : Legible nestingLimit value) : read (value.document ++ "\n").toList = .ok value := by
  have text : (value.document ++ "\n").toList = documentAt 0 value ++ ['\n'] := by
    rw [String.toList_append, document, String.toList_ofList]
    rfl
  have back := reads_of_legible legible (2 * (documentAt 0 value ++ ['\n']).length + 1) 0 ['\n']
    (by rw [List.length_append]; omega) ⟨'\n', [], rfl, .inr rfl⟩
  rw [read, text, skipSpace_documentAt legible, back]
  rfl

end CertWire.Json
