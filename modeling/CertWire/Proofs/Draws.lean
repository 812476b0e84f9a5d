import CertWire.Randomness.Draw

/-! What can be drawn. Whatever words a source gives, a draw ends with a value of its range: bounds are
kept by asking again, and a range that is not empty leaves nothing to refuse. A draw that is given up after
`attemptLimit` attempts ends with the first value of its range, so that nothing that is shown of every draw
leaves it out. -/

namespace CertWire.Randomness

variable {σ ε α β : Type}

/-- From this source the computation ends with this value, and leaves that source. -/
def Gives (draw : ExceptT ε (StateM σ) α) (source : σ) (value : α) (after : σ) : Prop :=
  draw.run.run source = (.ok value, after)

/-- From this source the computation is broken off by this error. -/
def Breaks (draw : ExceptT ε (StateM σ) α) (source : σ) (error : ε) (after : σ) : Prop :=
  draw.run.run source = (.error error, after)

/-- From every source the computation ends with a value, of which this holds. -/
def Always (draw : ExceptT ε (StateM σ) α) (post : α → Prop) : Prop :=
  ∀ source, ∃ value after, Gives draw source value after ∧ post value

variable {draw : ExceptT ε (StateM σ) α} {next : α → ExceptT ε (StateM σ) β} {post middle : α → Prop} {final : β → Prop}
  {source halfway after : σ} {value : α} {result : β} {error : ε}

theorem gives_pure (value : α) (source : σ) : Gives (pure value : ExceptT ε (StateM σ) α) source value source := rfl

theorem Gives.bind (first : Gives draw source value halfway) (rest : Gives (next value) halfway result after) :
    Gives (draw >>= next) source result after := by
  unfold Gives at *
  simp only [ExceptT.run_bind, StateT.run_bind, first]
  exact rest

theorem Gives.bind_breaks (first : Gives draw source value halfway) (rest : Breaks (next value) halfway error after) :
    Breaks (draw >>= next) source error after := by
  unfold Gives at first
  unfold Breaks at *
  simp only [ExceptT.run_bind, StateT.run_bind, first]
  exact rest

theorem Breaks.bind (first : Breaks draw source error after) : Breaks (draw >>= next) source error after := by
  unfold Breaks at *
  simp only [ExceptT.run_bind, StateT.run_bind, first]
  rfl

theorem Gives.of_always (gives : Gives draw source value after) (always : Always draw post) : post value := by
  obtain ⟨other, last, again, holds⟩ := always source
  cases gives.symm.trans again
  exact holds

theorem Always.pure (holds : post value) : Always (pure value : ExceptT ε (StateM σ) α) post :=
  fun source => ⟨value, source, gives_pure value source, holds⟩

theorem Always.bind (first : Always draw middle) (rest : ∀ value, middle value → Always (next value) final) :
    Always (draw >>= next) final := by
  intro source
  obtain ⟨value, halfway, gives, holds⟩ := first source
  obtain ⟨result, after, goesOn, last⟩ := rest value holds halfway
  exact ⟨result, after, gives.bind goesOn, last⟩

theorem Always.weaken (always : Always draw middle) (implies : ∀ value, middle value → post value) : Always draw post := by
  intro source
  obtain ⟨value, after, gives, holds⟩ := always source
  exact ⟨value, after, gives, implies value holds⟩

theorem always_replicate (each : Always draw post) (count : Nat) :
    Always ((List.replicate count ()).mapM fun _ => draw) fun values => values.length = count ∧ ∀ value ∈ values, post value := by
  induction count with
  | zero => exact .pure ⟨rfl, by simp⟩
  | succ count ih =>
    rw [List.replicate_succ, List.mapM_cons]
    apply each.bind
    intro value holds
    apply ih.bind
    rintro values ⟨length, all⟩
    exact .pure ⟨congrArg Nat.succ length, List.forall_mem_cons.mpr ⟨holds, all⟩⟩

theorem gives_replicate (each : Gives draw source value source) (count : Nat) :
    Gives ((List.replicate count ()).mapM fun _ => draw) source (List.replicate count value) source := by
  induction count with
  | zero => exact gives_pure [] source
  | succ count ih =>
    rw [List.replicate_succ, List.mapM_cons]
    exact each.bind (ih.bind (gives_pure _ source))

variable [WordSource σ]

theorem always_word : Always (word : Draw σ UInt32) fun _ => True := fun source =>
  ⟨(WordSource.next source).1, (WordSource.next source).2, rfl, trivial⟩

theorem always_bits (width : Nat) : Always (bits width : Draw σ Nat) fun _ => True := by
  induction width using Nat.strongRecOn with
  | ind width ih =>
    rw [bits]
    split
    · exact .pure trivial
    next occupied =>
      apply always_word.bind
      intro lowest _
      split
      · exact .pure trivial
      · apply (ih (width - 32) (by omega)).bind
        intro higher _
        exact .pure trivial

theorem gives_bits {width : Nat} (positive : 0 < width) (small : width ≤ 32) (source : σ) :
    Gives (bits width : Draw σ Nat) source ((WordSource.next source).1.toNat >>> (32 - width)) (WordSource.next source).2 := by
  rw [bits, if_neg (Nat.ne_of_gt positive)]
  have lowest : Gives (word : Draw σ UInt32) source (WordSource.next source).1 (WordSource.next source).2 := rfl
  apply lowest.bind
  rw [if_pos small]
  exact gives_pure _ _

theorem always_fraction : Always (fraction : Draw σ Nat) fun _ => True := by
  apply always_word.bind
  intro high _
  apply always_word.bind
  intro low _
  exact .pure trivial

/-- Drawing on until a number is below the bound. A source whose numbers never are gives nothing. -/
inductive DrawsOn (bound : Nat) : σ → Nat → σ → Prop
  | taken {source after : σ} {number : Nat} (drawn : Gives (bits (bitLength bound)) source number after)
      (fits : number < bound) : DrawsOn bound source number after
  | again {source halfway after : σ} {number value : Nat} (drawn : Gives (bits (bitLength bound)) source number halfway)
      (large : bound ≤ number) (rest : DrawsOn bound halfway value after) : DrawsOn bound source value after

/-- So many numbers in a row are not below the bound. -/
inductive Misses (bound : Nat) : Nat → σ → σ → Prop
  | none {source : σ} : Misses bound 0 source source
  | more {source halfway after : σ} {number count : Nat} (drawn : Gives (bits (bitLength bound)) source number halfway)
      (large : bound ≤ number) (rest : Misses bound count halfway after) : Misses bound (count + 1) source after

/-- The limit of attempts shows only where every one of them misses. Otherwise a draw is that of drawing on for as
long as it takes. -/
theorem belowWithin_drawsOn (bound attempts : Nat) (source : σ) :
    (∃ value after, Gives (belowWithin bound attempts) source value after ∧ DrawsOn bound source value after) ∨
      ∃ after, Gives (belowWithin bound attempts) source 0 after ∧ Misses bound attempts source after := by
  induction attempts generalizing source with
  | zero => exact .inr ⟨source, gives_pure 0 source, .none⟩
  | succ attempts ih =>
    obtain ⟨number, halfway, drawn, _⟩ := always_bits (bitLength bound) source
    by_cases fits : number < bound
    · refine .inl ⟨number, halfway, drawn.bind ?_, .taken drawn fits⟩
      rw [if_pos fits]
      exact gives_pure number halfway
    · have large : bound ≤ number := Nat.le_of_not_lt fits
      obtain ⟨value, after, gives, goesOn⟩ | ⟨after, gives, misses⟩ := ih halfway
      · refine .inl ⟨value, after, drawn.bind ?_, .again drawn large goesOn⟩
        rwa [if_neg fits]
      · refine .inr ⟨after, drawn.bind ?_, .more drawn large misses⟩
        rwa [if_neg fits]

private theorem DrawsOn.lt {bound value : Nat} {source after : σ} (drawsOn : DrawsOn bound source value after) :
    value < bound := by
  induction drawsOn with
  | taken drawn fits => exact fits
  | again drawn large rest ih => exact ih

/-- A number that does not fit is not taken, however often that happens. The 0 of a draw that is given up fits. -/
theorem always_belowWithin {bound : Nat} (positive : 0 < bound) (attempts : Nat) :
    Always (belowWithin bound attempts : Draw σ Nat) (· < bound) := by
  intro source
  obtain ⟨value, after, gives, drawsOn⟩ | ⟨after, gives, misses⟩ := belowWithin_drawsOn bound attempts source
  · exact ⟨value, after, gives, drawsOn.lt⟩
  · exact ⟨0, after, gives, positive⟩

theorem always_between {low high : Int} (ordered : low ≤ high) :
    Always (between low high : Draw σ Int) fun value => low ≤ value ∧ value ≤ high := by
  unfold Randomness.between
  rw [if_neg (by omega)]
  have positive : 0 < (high - low + 1).toNat := by omega
  apply (always_belowWithin positive attemptLimit).bind
  intro value below
  exact .pure (by omega)

/-- A first attempt that fits is taken. -/
theorem gives_between {low high : Int} {width candidate : Nat} (size : bitLength (high - low + 1).toNat = width)
    (positive : 0 < width) (small : width ≤ 32) (source : σ)
    (drawn : (WordSource.next source).1.toNat >>> (32 - width) = candidate) (fits : candidate < (high - low + 1).toNat) :
    Gives (between low high : Draw σ Int) source (low + candidate) (WordSource.next source).2 := by
  have attempt := gives_bits positive small source
  rw [drawn, ← size] at attempt
  have first : Gives (below (high - low + 1).toNat : Draw σ Nat) source candidate (WordSource.next source).2 := by
    apply attempt.bind
    rw [if_pos fits]
    exact gives_pure _ _
  unfold Randomness.between
  rw [if_neg (by omega)]
  exact first.bind (gives_pure _ _)

theorem always_octets {longest : Int} (nonneg : 0 ≤ longest) :
    Always (octets longest : Draw σ (List UInt8)) fun drawn => (drawn.length : Int) ≤ longest := by
  apply (always_between nonneg).bind
  rintro length ⟨least, most⟩
  have each : Always (octet : Draw σ UInt8) fun _ => True := by
    apply (always_bits 8).bind
    intro value _
    exact .pure trivial
  apply (always_replicate each length.toNat).weaken
  rintro drawn ⟨same, _⟩
  omega

end CertWire.Randomness
