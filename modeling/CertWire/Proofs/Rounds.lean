import CertWire.Proofs.Draws
import CertWire.Trial.Finding

/-! Runs in rounds. A run that finds nothing in any round ends with its success, and is broken off only by
the round that is broken off. -/

namespace CertWire.Trial

open CommandLine Randomness

variable {σ α : Type}

theorem gives_drawing {draw : Draw σ α} {source after : σ} {value : α} (gives : Gives draw source value after) :
    Gives (drawing draw) source value after := by
  unfold Gives at *
  simp only [drawing, ExceptT.run_adapt, StateT.run_map, gives]
  rfl

theorem always_drawing {draw : Draw σ α} {post : α → Prop} (always : Always draw post) : Always (drawing draw) post := by
  intro source
  obtain ⟨value, after, gives, holds⟩ := always source
  exact ⟨value, after, gives_drawing gives, holds⟩

theorem gives_certificate {result : Except CertificateError α} {value : α} (done : result = .ok value) (source : σ) :
    Gives (certificate result) source value source := by
  subst done
  rfl

theorem breaks_certificate {result : Except CertificateError α} {error : CertificateError} (refused : result = .error error)
    (source : σ) : Breaks (certificate result) source (.certificate error) source := by
  subst refused
  rfl

variable {round : Nat → Run σ (Option Finding)} {source halfway after : σ} {index remaining : Nat}
  {interruption : Interruption} {count : Int} {heading success : String}

theorem firstFinding_succ (passed : Gives (round index) source none halfway)
    (rest : Gives (firstFinding round (index + 1) remaining) halfway none after) :
    Gives (firstFinding round index (remaining + 1)) source none after :=
  passed.bind rest

theorem firstFinding_breaks (broken : Breaks (round index) source interruption after) :
    Breaks (firstFinding round index (remaining + 1)) source interruption after :=
  broken.bind

theorem firstFinding_breaks_succ (passed : Gives (round index) source none halfway)
    (rest : Breaks (firstFinding round (index + 1) remaining) halfway interruption after) :
    Breaks (firstFinding round index (remaining + 1)) source interruption after :=
  passed.bind_breaks rest

theorem always_firstFinding (clean : ∀ index, Always (round index) (· = none)) (index remaining : Nat) :
    Always (firstFinding round index remaining) (· = none) := by
  induction remaining generalizing index with
  | zero => exact .pure rfl
  | succ remaining ih =>
    apply (clean index).bind
    rintro found rfl
    exact ih (index + 1)

/-- What a run ends with that found nothing. -/
def passedOutcome (success : String) : Outcome := ⟨0, .ofString (success ++ "\n"), []⟩

theorem outcomeOfRounds_passed (clean : Gives (firstFinding round 0 count.toNat) source none after) :
    Gives (outcomeOfRounds count round heading success) source (passedOutcome success) after :=
  clean.bind (gives_pure _ after)

theorem outcomeOfRounds_breaks (broken : Breaks (firstFinding round 0 count.toNat) source interruption after) :
    Breaks (outcomeOfRounds count round heading success) source interruption after :=
  broken.bind

end CertWire.Trial
