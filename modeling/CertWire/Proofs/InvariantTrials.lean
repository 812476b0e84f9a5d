import CertWire.Proofs.Framing
import CertWire.Proofs.Rounds
import CertWire.Randomness.MersenneTwister
import CertWire.Trial.Invariants

/-! Invariants on drawn certificates. No trial finds a violation, but one can be broken off: a payload
that is longer than the length field can tell may be drawn, and a declared length within it
keeps the certificate from being written. Shorter payloads pass every trial. -/

namespace CertWire.Trial.Invariants

open CommandLine Randomness

variable {σ : Type} {certificate : Certificate} {maxPayload : Int}

/-- A certificate that can be drawn: its kind is one octet, and its declared length is that of its
payload, or is shorter, or is longer by up to 16. -/
structure Drawable (maxPayload : Int) (certificate : Certificate) : Prop where
  kind_nonneg : 0 ≤ certificate.kind
  kind_le : certificate.kind ≤ 255
  payload_le : (certificate.payload.length : Int) ≤ maxPayload
  declared : certificate.declaredLength = certificate.payload.length ∨
    (0 ≤ certificate.declaredLength ∧ certificate.declaredLength ≤ (certificate.payload.length - 1 : Nat)) ∨
    (certificate.payload.length + 1 ≤ certificate.declaredLength ∧
      certificate.declaredLength ≤ certificate.payload.length + 16)

/-- The payload has what is declared, but the length field cannot tell it. -/
def Overflows (certificate : Certificate) : Prop :=
  65535 < certificate.declaredLength ∧ certificate.declaredLength ≤ certificate.payload.length

theorem Drawable.nonneg (drawable : Drawable maxPayload certificate) : 0 ≤ certificate.declaredLength := by
  have declared := drawable.declared
  omega

theorem Drawable.not_overflows (drawable : Drawable maxPayload certificate) (short : maxPayload ≤ 65535) :
    ¬ Overflows certificate := by
  have bound := drawable.payload_le
  unfold Overflows
  omega

private theorem condition_eq_expected (certificate : Certificate) :
    certificate.condition = expectedCondition certificate := rfl

/-- Length and payload are reconciled alike, and to reconcile them twice changes nothing. -/
theorem reconciliation?_eq_none (certificate : Certificate) : reconciliation? certificate = none := by
  have again : { certificate with payload := certificate.effectivePayload }.effectivePayload = certificate.effectivePayload :=
    Certificate.effectivePayload_clipped certificate
  simp only [reconciliation?, Certificate.length, Certificate.data, condition_eq_expected, again, ne_eq, not_true_eq_false,
    if_false, false_or]
  apply if_neg
  rintro ⟨usable, unequal⟩
  apply unequal
  apply Certificate.length_effectivePayload
  rw [← condition_eq_expected, Certificate.condition_eq_tooShort_iff] at usable
  omega

/-- A certificate is refused where it is written, which the conditions before do not rule out. -/
theorem encodable_iff (nonneg : 0 ≤ certificate.declaredLength)
    (within : certificate.declaredLength ≤ certificate.payload.length) :
    certificate.Encodable ↔ ¬ Overflows certificate := by
  unfold Certificate.Encodable Overflows
  omega

theorem roundTrip?_eq_none (drawable : Drawable maxPayload certificate) (fits : ¬ Overflows certificate) :
    roundTrip? certificate = .ok none := by
  unfold roundTrip?
  split
  next => rfl
  next accepted =>
    have accepted := not_not.mp accepted
    obtain ⟨usable, filled⟩ := Certificate.condition_eq_none_iff.mp accepted
    have encodable := (encodable_iff drawable.nonneg (by omega)).mpr fits
    have small := encodable.2
    have complete : certificate.Complete := ⟨drawable.kind_nonneg, drawable.kind_le, usable, by omega, filled⟩
    rw [Certificate.encode_of_encodable encodable]
    exact congrArg Except.ok (if_pos complete.read_wire)

theorem stability?_eq_none (drawable : Drawable maxPayload certificate) (fits : ¬ Overflows certificate) :
    stability? certificate = .ok none := by
  unfold stability?
  split
  next => rfl
  next within =>
    have encodable := (encodable_iff drawable.nonneg (by omega)).mpr fits
    rw [Certificate.encode_of_encodable encodable]
    exact congrArg Except.ok (if_pos rfl)

theorem violation?_of_refused {error : CertificateError} (refused : roundTrip? certificate = .error error) :
    violation? certificate = .error error := by
  simp only [violation?, reconciliation?_eq_none, refused, bind, Except.bind]

theorem violation?_of_passed (passed : roundTrip? certificate = .ok none) :
    violation? certificate = stability? certificate := by
  simp only [violation?, reconciliation?_eq_none, passed, bind, Except.bind]

theorem violation?_eq_none (drawable : Drawable maxPayload certificate) (fits : ¬ Overflows certificate) :
    violation? certificate = .ok none := by
  rw [violation?_of_passed (roundTrip?_eq_none drawable fits)]
  exact stability?_eq_none drawable fits

/-- Complete or cut, such a certificate reaches a check that writes it. -/
theorem violation?_of_overflows (overflows : Overflows certificate) :
    ∃ error, certificate.encode = .error error ∧ error.condition = .outOfBounds ∧ violation? certificate = .error error := by
  obtain ⟨wide, within⟩ := overflows
  have unfit : ¬ certificate.Encodable := fun fits => (encodable_iff (by omega) within).mp fits ⟨wide, within⟩
  obtain ⟨error, refused, outOfBounds⟩ := Certificate.encode_of_not_encodable unfit
  refine ⟨error, refused, outOfBounds, ?_⟩
  by_cases accepted : certificate.condition = .none
  · apply violation?_of_refused
    rw [roundTrip?, if_neg (not_not_intro accepted), refused]
    rfl
  · have passed : roundTrip? certificate = .ok none := if_pos accepted
    rw [violation?_of_passed passed, stability?, if_neg (by omega), refused]
    rfl

variable [WordSource σ]

private theorem always_declaredLength (available : Nat) :
    Always (declaredLength available : Draw σ Int) fun declared => declared = available ∨
      (0 ≤ declared ∧ declared ≤ (available - 1 : Nat)) ∨ (available + 1 ≤ declared ∧ declared ≤ available + 16) := by
  apply always_fraction.bind
  intro choice _
  split
  · exact .pure (.inl rfl)
  · split
    · exact (always_between (by omega)).weaken fun declared range => .inr (.inl range)
    · apply (always_between (show (1 : Int) ≤ 16 by decide)).bind
      rintro excess ⟨least, most⟩
      exact .pure (.inr (.inr (by omega)))

theorem always_randomCertificate (nonneg : 0 ≤ maxPayload) :
    Always (randomCertificate maxPayload : Draw σ Certificate) (Drawable maxPayload) := by
  apply (always_octets nonneg).bind
  intro payload short
  apply (always_declaredLength payload.length).bind
  intro declared range
  apply (always_between (show (0 : Int) ≤ Certificate.maxKind by decide)).bind
  rintro kind ⟨least, most⟩
  exact .pure ⟨least, most, short, range⟩

/-- Certificates that are drawn in turn. -/
inductive Drawn (maxPayload : Int) : σ → List Certificate → σ → Prop
  | none {source : σ} : Drawn maxPayload source [] source
  | more {source halfway after : σ} {certificate : Certificate} {rest : List Certificate}
      (first : Gives (randomCertificate maxPayload) source certificate halfway) (others : Drawn maxPayload halfway rest after) :
      Drawn maxPayload source (certificate :: rest) after

theorem Drawn.drawable {source after : σ} {certificates : List Certificate} (nonneg : 0 ≤ maxPayload)
    (drawn : Drawn maxPayload source certificates after) : ∀ certificate ∈ certificates, Drawable maxPayload certificate := by
  induction drawn with
  | none => simp
  | more first others ih =>
    exact List.forall_mem_cons.mpr ⟨first.of_always (always_randomCertificate nonneg), ih⟩

/-- How so many trials end: each draws its certificate and passes, or one draws a certificate that cannot be
written, and that breaks them off. -/
inductive Ends {α : Type} (maxPayload : Int) (trials : Nat) (source : σ) (computation : Run σ α) (value : α) : Prop
  | passed {certificates : List Certificate} {after : σ} (drawn : Drawn maxPayload source certificates after)
      (each : certificates.length = trials) (fit : ∀ certificate ∈ certificates, ¬ Overflows certificate)
      (gives : Gives computation source value after) : Ends maxPayload trials source computation value
  | broken {certificates : List Certificate} {certificate : Certificate} {after : σ} {error : CertificateError}
      (drawn : Drawn maxPayload source (certificates ++ [certificate]) after) (early : certificates.length < trials)
      (fit : ∀ certificate ∈ certificates, ¬ Overflows certificate) (overflows : Overflows certificate)
      (refused : certificate.encode = .error error)
      (breaks : Breaks computation source (.certificate error) after) : Ends maxPayload trials source computation value

variable {source halfway after : σ} {index : Nat}

private theorem gives_trial (drawn : Gives (randomCertificate maxPayload) source certificate after)
    (passes : violation? certificate = .ok none) : Gives (trial maxPayload index) source none after :=
  (gives_drawing drawn).bind ((gives_certificate passes after).bind (gives_pure _ after))

private theorem breaks_trial {error : CertificateError}
    (drawn : Gives (randomCertificate maxPayload) source certificate after)
    (refused : violation? certificate = .error error) : Breaks (trial maxPayload index) source (.certificate error) after :=
  (gives_drawing drawn).bind_breaks (breaks_certificate refused after).bind

/-- Trials that pass leave the others to decide. -/
theorem Ends.more {remaining : Nat} (first : Gives (randomCertificate maxPayload) source certificate halfway)
    (passes : Gives (trial maxPayload index) source none halfway) (fits : ¬ Overflows certificate)
    (others : Ends maxPayload remaining halfway (firstFinding (trial maxPayload) (index + 1) remaining) none) :
    Ends maxPayload (remaining + 1) source (firstFinding (trial maxPayload) index (remaining + 1)) none := by
  cases others with
  | passed drawn each fit gives =>
    exact .passed (.more first drawn) (congrArg Nat.succ each) (List.forall_mem_cons.mpr ⟨fits, fit⟩)
      (firstFinding_succ passes gives)
  | @broken certificates last after error drawn early fit overflows refused breaks =>
    have inTurn : Drawn maxPayload source (certificate :: certificates ++ [last]) after := .more first drawn
    exact .broken inTurn (Nat.succ_lt_succ early) (List.forall_mem_cons.mpr ⟨fits, fit⟩) overflows refused
      (firstFinding_breaks_succ passes breaks)

theorem ends_trials (nonneg : 0 ≤ maxPayload) (index remaining : Nat) (source : σ) :
    Ends maxPayload remaining source (firstFinding (trial maxPayload) index remaining) none := by
  induction remaining generalizing index source with
  | zero => exact .passed .none rfl (by simp) (gives_pure none source)
  | succ remaining ih =>
    obtain ⟨certificate, halfway, first, drawable⟩ := always_randomCertificate nonneg source
    by_cases overflows : Overflows certificate
    · obtain ⟨error, refused, _, breaks⟩ := violation?_of_overflows overflows
      have alone : Drawn maxPayload source ([] ++ [certificate]) halfway := .more first .none
      exact .broken alone (Nat.succ_pos remaining) (by simp) overflows refused
        (firstFinding_breaks (breaks_trial first breaks))
    · exact .more first (gives_trial first (violation?_eq_none drawable overflows)) overflows (ih (index + 1) halfway)

theorem ends_run (settings : Settings) (nonneg : 0 ≤ settings.maxPayload) (source : σ) :
    Ends settings.maxPayload settings.trials.toNat source (run settings)
      (passedOutcome s!"OK: invariants passed for TRIALS={settings.trials} seed={settings.seed}") := by
  cases ends_trials nonneg 0 settings.trials.toNat source with
  | passed drawn each fit gives => exact .passed drawn each fit (outcomeOfRounds_passed gives)
  | broken drawn early fit overflows refused breaks =>
    exact .broken drawn early fit overflows refused (outcomeOfRounds_breaks breaks)

theorem Ends.of_short {trials : Nat} {α : Type} {computation : Run σ α} {value : α} (nonneg : 0 ≤ maxPayload)
    (short : maxPayload ≤ 65535) (ends : Ends maxPayload trials source computation value) :
    ∃ after, Gives computation source value after := by
  cases ends with
  | passed drawn each fit gives => exact ⟨_, gives⟩
  | broken drawn early fit overflows refused breaks =>
    have drawable := drawn.drawable nonneg _ (List.mem_append_right _ List.mem_cons_self)
    exact absurd overflows (drawable.not_overflows short)

/-- Whatever is drawn, no certificate violates an invariant, and a check is broken off exactly by a
certificate whose payload has what it declares, but more than the length field can tell. So a
run ends with its success unless such a certificate is drawn, which takes payloads of more
than 65535 octets. A draw that is given up counts as one of the least number of its range. -/
theorem trials_pass_within_length_field (maxPayload : Int) (nonneg : 0 ≤ maxPayload) :
    (∀ (σ : Type) [WordSource σ] (source : σ), ∃ certificate after,
      Gives (randomCertificate maxPayload) source certificate after ∧ Drawable maxPayload certificate) ∧
    (∀ certificate, Drawable maxPayload certificate →
      (¬ Overflows certificate → violation? certificate = .ok none) ∧
      (Overflows certificate → ∃ error, certificate.encode = .error error ∧ error.condition = .outOfBounds ∧
        violation? certificate = .error error)) ∧
    (∀ (σ : Type) [WordSource σ] seed trials (source : σ),
      Ends maxPayload trials.toNat source (run ⟨seed, trials, maxPayload⟩)
        ⟨0, .ofString (s!"OK: invariants passed for TRIALS={trials} seed={seed}" ++ "\n"), []⟩) ∧
    (maxPayload ≤ 65535 → ∀ (σ : Type) [WordSource σ] seed trials (source : σ), ∃ after,
      Gives (run ⟨seed, trials, maxPayload⟩) source
        ⟨0, .ofString (s!"OK: invariants passed for TRIALS={trials} seed={seed}" ++ "\n"), []⟩ after) := by
  refine ⟨fun σ _ => always_randomCertificate nonneg, ?_, ?_, ?_⟩
  · intro certificate drawable
    exact ⟨violation?_eq_none drawable, violation?_of_overflows⟩
  · intro σ _ seed trials source
    exact ends_run ⟨seed, trials, maxPayload⟩ nonneg source
  · intro short σ _ seed trials source
    exact (ends_run ⟨seed, trials, maxPayload⟩ nonneg source).of_short nonneg short

/-- The payloads that are drawn where nothing is set. -/
theorem trials_pass_within_length_field_default :
    (0 : Int) ≤ 96 ∧ Drawable 96 ⟨5, 3, [7, 8]⟩ ∧ violation? ⟨5, 3, [7, 8]⟩ = .ok none ∧
      ∃ after, Gives (run ⟨1337, 2000, 96⟩) (MersenneTwister.ofSeed 1337)
        ⟨0, .ofString (s!"OK: invariants passed for TRIALS={(2000 : Int)} seed={(1337 : Int)}" ++ "\n"), []⟩ after := by
  have nonneg : (0 : Int) ≤ 96 := by decide
  have drawable : Drawable 96 ⟨5, 3, [7, 8]⟩ := by constructor <;> decide
  have fits : ¬ Overflows ⟨5, 3, [7, 8]⟩ := by
    unfold Overflows
    decide
  obtain ⟨_, judged, _, passed⟩ := trials_pass_within_length_field 96 nonneg
  exact ⟨nonneg, drawable, (judged _ drawable).1 fits, passed (by decide) MersenneTwister 1337 2000 (.ofSeed 1337)⟩

/-- A source that gives these words and then zeros. -/
structure Script where
  words : List UInt32

instance : WordSource Script where
  next script := (script.words.headD 0, ⟨script.words.tail⟩)

def silence : Script := ⟨[]⟩

private theorem gives_fraction_silence : Gives (fraction : Draw Script Nat) silence 0 silence := rfl

private theorem gives_octets_silence {script : Script} {longest : Int} {length : Nat}
    (drawn : Gives (between 0 longest) script (length : Int) silence) :
    Gives (octets longest) script (List.replicate length 0) silence := by
  have zero : Gives (octet : Draw Script UInt8) silence 0 silence := (gives_bits (by decide) (by decide) silence).bind rfl
  exact drawn.bind (gives_replicate zero length)

private theorem gives_declared_silence (available : Nat) :
    Gives (declaredLength available : Draw Script Int) silence available silence := by
  apply gives_fraction_silence.bind
  exact gives_pure _ silence

/-- The first word is the length of the longest payload, and the fraction 0 declares all of it. -/
theorem gives_longest :
    Gives (randomCertificate 65536) (Script.mk [0x80000000]) ⟨0, (65536 : Nat), List.replicate 65536 0⟩ silence := by
  have width : bitLength (65536 - 0 + 1 : Int).toNat = 17 := by decide
  have kindWidth : bitLength (Certificate.maxKind - 0 + 1 : Int).toNat = 9 := by decide
  have word : (WordSource.next (Script.mk [0x80000000])).1.toNat >>> (32 - 17) = 65536 := by decide
  have zero : (WordSource.next silence).1.toNat >>> (32 - 9) = 0 := by decide
  have length : Gives (between 0 65536) (Script.mk [0x80000000]) ((65536 : Nat) : Int) silence :=
    gives_between width (by decide) (by decide) _ word (by decide)
  have kind : Gives (between 0 Certificate.maxKind) silence 0 silence :=
    gives_between kindWidth (by decide) (by decide) _ zero (by decide)
  have declared := gives_declared_silence (List.replicate 65536 (0 : UInt8)).length
  rw [List.length_replicate] at declared
  apply (gives_octets_silence length).bind
  rw [List.length_replicate]
  exact declared.bind (kind.bind (gives_pure _ silence))

/-- A payload of 65536 octets that is declared in full cannot be written, and the run has no outcome. -/
theorem longest_payload_breaks_off :
    (0 : Int) ≤ 65536 ∧ Drawable 65536 ⟨0, (65536 : Nat), List.replicate 65536 0⟩ ∧
      ∃ error, violation? ⟨0, (65536 : Nat), List.replicate 65536 0⟩ = .error error ∧ error.condition = .outOfBounds ∧
        Breaks (run ⟨1337, 1, 65536⟩) (Script.mk [0x80000000]) (.certificate error) silence := by
  have nonneg : (0 : Int) ≤ 65536 := by decide
  have overflows : Overflows ⟨0, (65536 : Nat), List.replicate 65536 0⟩ := by
    unfold Overflows
    rw [List.length_replicate]
    decide
  obtain ⟨error, _, outOfBounds, refused⟩ := violation?_of_overflows overflows
  refine ⟨nonneg, gives_longest.of_always (always_randomCertificate nonneg), error, refused, outOfBounds, ?_⟩
  exact outcomeOfRounds_breaks (firstFinding_breaks (breaks_trial gives_longest refused))

end CertWire.Trial.Invariants
