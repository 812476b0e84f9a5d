import CertWire.Proofs.DigitText

/-! Text that spells octets in hexadecimal: two digits for each octet, of either letter case, and ASCII
white space anywhere but within a pair. The reader takes all such text and no other. -/

namespace CertWire.Text.Hex

inductive IsDigit (value : Nat) : Nat → Prop
  | small : IsDigit value (Nat.digitChar value).toNat
  | capital : IsDigit value (Nat.digitChar value).toUpper.toNat

def spaces : Points := [0x09, 0x0a, 0x0b, 0x0c, 0x0d, 0x20]

inductive Spells : Points → Octets → Prop
  | done : Spells [] []
  | space {point : Nat} {text : Points} {octets : Octets} (blank : point ∈ spaces) (rest : Spells text octets) :
      Spells (point :: text) octets
  | octet {octet : UInt8} {high low : Nat} {text : Points} {octets : Octets} (top : IsDigit (octet.toNat / 16) high)
      (bottom : IsDigit (octet.toNat % 16) low) (rest : Spells text octets) :
      Spells (high :: low :: text) (octet :: octets)

variable {point value : Nat} {text : Points} {octets : Octets}

private theorem digit_capitals : ∀ value < 16, digit? (Nat.digitChar value).toUpper.toNat = some value := by
  decide

private theorem digit_points : ∀ point < 0x67, ∀ value ∈ digit? point,
    value < 16 ∧ (point = (Nat.digitChar value).toNat ∨ point = (Nat.digitChar value).toUpper.toNat) := by
  decide

private theorem lt_of_digit? (digit : digit? point = some value) : point < 0x67 := by
  unfold digit? at digit
  split at digit
  · omega
  · split at digit
    · omega
    · split at digit
      · omega
      · cases digit

theorem digit?_eq_some_iff : digit? point = some value ↔ value < 16 ∧ IsDigit value point := by
  constructor
  · intro digit
    obtain ⟨small, here | here⟩ := digit_points point (lt_of_digit? digit) value digit
    · exact ⟨small, here ▸ .small⟩
    · exact ⟨small, here ▸ .capital⟩
  · rintro ⟨small, digit⟩
    cases digit with
    | small => exact (digitChar_facts value small).1
    | capital => exact digit_capitals value small

private theorem isSpace_iff : isSpace point = true ↔ point ∈ spaces := by
  simp only [isSpace, spaces, Bool.or_eq_true, Bool.and_eq_true, decide_eq_true_eq, beq_iff_eq, List.mem_cons,
    List.not_mem_nil, or_false]
  omega

private theorem isSpace_of_digit? (digit : digit? point = some value) : isSpace point = false := by
  apply Bool.eq_false_iff.mpr
  intro blank
  have known : ∀ point ∈ spaces, digit? point = none := by decide
  cases (known point (isSpace_iff.mp blank)).symm.trans digit

private theorem decodePairs_space (blank : isSpace point = true) (position : Nat) (decoded : Octets) (text : Points) :
    decodePairs position decoded (point :: text) = decodePairs (position + 1) decoded text := by
  rw [decodePairs.eq_def]
  exact if_pos blank

private theorem decodePairs_pair {high low top bottom : Nat} (first : digit? high = some top)
    (second : digit? low = some bottom) (position : Nat) (decoded : Octets) (text : Points) :
    decodePairs position decoded (high :: low :: text) =
      decodePairs (position + 2) (UInt8.ofNat (16 * top + bottom) :: decoded) text := by
  rw [decodePairs.eq_def]
  simp only [isSpace_of_digit? first, Bool.false_eq_true, if_false, first, second]

private theorem decodePairs_of_spells (spells : Spells text octets) (position : Nat) (decoded : Octets) :
    decodePairs position decoded text = .ok (decoded.reverse ++ octets) := by
  induction spells generalizing position decoded with
  | done => exact congrArg Except.ok (List.append_nil _).symm
  | space blank rest ih => exact (decodePairs_space (isSpace_iff.mpr blank) position decoded _).trans (ih _ decoded)
  | @octet octet high low text octets top bottom rest ih =>
    have bound : octet.toNat < 256 := octet.toNat_lt
    have first : digit? high = some (octet.toNat / 16) := digit?_eq_some_iff.mpr ⟨by omega, top⟩
    have second : digit? low = some (octet.toNat % 16) := digit?_eq_some_iff.mpr ⟨by omega, bottom⟩
    have whole : UInt8.ofNat (16 * (octet.toNat / 16) + octet.toNat % 16) = octet := by
      rw [Nat.div_add_mod, UInt8.ofNat_toNat]
    rw [decodePairs_pair first second, whole, ih, List.reverse_cons, List.append_assoc, List.singleton_append]

/-- What the reader accepts it has read as pairs and white space, behind what was read before. -/
theorem spells_of_decodePairs {position : Nat} {decoded result : Octets}
    (reads : decodePairs position decoded text = .ok result) :
    ∃ octets, result = decoded.reverse ++ octets ∧ Spells text octets := by
  induction position, decoded, text using decodePairs.induct with
  | case1 position decoded =>
    cases reads
    exact ⟨[], (List.append_nil _).symm, .done⟩
  | case2 position decoded point rest blank ih =>
    obtain ⟨octets, same, spells⟩ := ih ((decodePairs_space blank position decoded rest).symm.trans reads)
    exact ⟨octets, same, .space (isSpace_iff.mp blank) spells⟩
  | case3 position decoded high rest unblank noDigit =>
    rw [decodePairs.eq_def] at reads
    simp only [unblank, noDigit] at reads
    cases reads
  | case4 position decoded high unblank top first =>
    rw [decodePairs.eq_def] at reads
    simp only [unblank, first] at reads
    cases reads
  | case5 position decoded high unblank top low rest first noDigit =>
    rw [decodePairs.eq_def] at reads
    simp only [unblank, first, noDigit] at reads
    cases reads
  | case6 position decoded high unblank top low rest first bottom second ih =>
    rw [decodePairs_pair first second] at reads
    obtain ⟨octets, same, spells⟩ := ih reads
    obtain ⟨topSmall, topDigit⟩ := digit?_eq_some_iff.mp first
    obtain ⟨bottomSmall, bottomDigit⟩ := digit?_eq_some_iff.mp second
    have whole : (UInt8.ofNat (16 * top + bottom)).toNat = 16 * top + bottom :=
      UInt8.toNat_ofNat_of_lt (show 16 * top + bottom < 256 by omega)
    have topHalf : (16 * top + bottom) / 16 = top := by omega
    have bottomHalf : (16 * top + bottom) % 16 = bottom := by omega
    rw [List.reverse_cons, List.append_assoc, List.singleton_append] at same
    refine ⟨_, same, .octet ?_ ?_ spells⟩
    · rw [whole, topHalf]
      exact topDigit
    · rw [whole, bottomHalf]
      exact bottomDigit

theorem Spells.ascii (spells : Spells text octets) : ∀ point ∈ text, point < 0x80 := by
  have digit {value point : Nat} (small : value < 16) (digit : IsDigit value point) : point < 0x80 :=
    Nat.lt_trans (lt_of_digit? (digit?_eq_some_iff.mpr ⟨small, digit⟩)) (by decide)
  have space : ∀ point ∈ spaces, point < 0x80 := by decide
  induction spells with
  | done => simp
  | space blank rest ih => exact List.forall_mem_cons.mpr ⟨space _ blank, ih⟩
  | @octet octet _ _ _ _ top bottom rest ih =>
    have bound : octet.toNat < 256 := octet.toNat_lt
    exact List.forall_mem_cons.mpr ⟨digit (by omega) top, List.forall_mem_cons.mpr ⟨digit (by omega) bottom, ih⟩⟩

theorem decode_eq_ok_iff : decode text = .ok octets ↔ Spells text octets := by
  constructor
  · intro reads
    unfold decode at reads
    split at reads
    · cases reads
    · obtain ⟨found, same, spells⟩ := spells_of_decodePairs reads
      rw [List.reverse_nil, List.nil_append] at same
      exact same ▸ spells
  · intro spells
    have ascii : text.findIdx? (0x80 ≤ ·) = none := by
      rw [List.findIdx?_eq_none_iff]
      intro point member
      exact decide_eq_false (Nat.not_le_of_lt (spells.ascii point member))
    rw [decode, ascii]
    exact decodePairs_of_spells spells 0 []

end CertWire.Text.Hex
