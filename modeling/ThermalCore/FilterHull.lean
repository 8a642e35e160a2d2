import Mathlib.Data.List.Induction
import Mathlib.Logic.Function.Iterate
import ThermalCore.Filter

/-!
# The filter over a run

The low-pass takes the difference of the sample and the held value in `int32_t`.
As long as it fits, the held value stays in the hull of the valid samples, and
under a constant sample it closes in until the rounded step is zero.

`InHull` is the invariant.  The condition under which an update keeps it compares the
sample with the held value and is about nothing the update computes; at the other
samples the subtraction leaves 32 bits.
-/

namespace ThermalCore

open MachineInt

/-! ## Runs -/

structure FilterSample where
  value : Int
  valid : Bool
deriving DecidableEq

/-- The filter after some samples, from reset. -/
def filterAfter (alphaQ16 : Int) (samples : List FilterSample) : FilterState :=
  samples.foldl (fun f x => thermalFilterStep f alphaQ16 x.value x.valid) thermalFilterReset

theorem filterAfter_concat (alpha : Int) (samples : List FilterSample) (x : FilterSample) :
    filterAfter alpha (samples ++ [x]) =
      thermalFilterStep (filterAfter alpha samples) alpha x.value x.valid := by
  unfold filterAfter
  rw [List.foldl_append]
  rfl

/-- The valid samples seen so far. -/
def validValues (samples : List FilterSample) : List Int :=
  (samples.filter FilterSample.valid).map FilterSample.value

theorem validValues_concat (samples : List FilterSample) (x : FilterSample) :
    validValues (samples ++ [x]) =
      validValues samples ++ if x.valid then [x.value] else [] := by
  unfold validValues
  cases h : x.valid <;> simp [h]

/-- Between the least and the greatest of some values. -/
def InHull (values : List Int) (v : Int) : Prop := ∃ lo ∈ values, ∃ hi ∈ values, lo ≤ v ∧ v ≤ hi

instance (values : List Int) (v : Int) : Decidable (InHull values v) :=
  inferInstanceAs (Decidable (∃ lo ∈ values, _))

/-- A valid sample differs from the value held before it by an `int32_t`. -/
def UpdateFits (f : FilterState) (x : FilterSample) : Prop :=
  x.valid = true → f.initialized = true → IsI32 (x.value - f.filteredValue)

instance (f : FilterState) (x : FilterSample) : Decidable (UpdateFits f x) :=
  inferInstanceAs (Decidable (_ → _ → _))

/-! ## The hull -/

section hull

variable {alpha : Int}

/-- **One sample**: the value moves toward it, or is left alone. -/
theorem thermalFilterStep_toward (h0 : 0 ≤ alpha) (h1 : alpha ≤ q16One) {f : FilterState}
    {x : FilterSample} (hf : IsI32 f.filteredValue) (hx : IsI32 x.value) (hfit : UpdateFits f x)
    (hvalid : x.valid = true) :
    Toward f.filteredValue x.value (thermalFilterStep f alpha x.value x.valid).filteredValue ∧
      (f.initialized = false ∨ alpha = q16One →
        (thermalFilterStep f alpha x.value x.valid).filteredValue = x.value) := by
  rw [hvalid]
  cases hi : f.initialized with
  | false =>
      have hstart : (thermalFilterStep f alpha x.value true).filteredValue = x.value := by
        simp [thermalFilterStep, hi]
      rw [hstart]
      exact ⟨⟨fun h => ⟨h, Int.le_refl _⟩, fun h => ⟨Int.le_refl _, h⟩⟩, fun _ => rfl⟩
  | true =>
      rw [thermalFilterStep_of_fits h0 h1 hi hf hx (hfit hvalid hi)]
      refine ⟨approach_toward h0 h1, ?_⟩
      rintro (hno | rfl)
      · cases hno
      · unfold approach q16One roundQ16
        dsimp only
        omega

/-- What a run of updates that fit keeps of the filter. -/
structure HullInv (samples : List FilterSample) (f : FilterState) : Prop where
  initialized : f.initialized = true ↔ validValues samples ≠ []
  isI32 : IsI32 f.filteredValue
  hull : validValues samples ≠ [] → InHull (validValues samples) f.filteredValue

theorem hullInv_reset : HullInv [] thermalFilterReset where
  initialized := by decide
  isI32 := by decide
  hull h := absurd rfl h

/-- More samples make a wider hull. -/
theorem InHull.mono {xs ys : List Int} {v : Int} (h : InHull xs v) (hsub : xs ⊆ ys) :
    InHull ys v := by
  obtain ⟨lo, hlo, hi, hhi, hle⟩ := h
  exact ⟨lo, hsub hlo, hi, hsub hhi, hle⟩

/-- A value on the way from the hull to a sample lies in the hull with the sample. -/
theorem InHull.toward {xs : List Int} {f s next : Int} (h : InHull xs f) (ht : Toward f s next) :
    InHull (xs ++ [s]) next := by
  obtain ⟨lo, hlo, hi, hhi, hle⟩ := h.mono (List.subset_append_left xs [s])
  have hs : s ∈ xs ++ [s] := by simp
  unfold Toward at ht
  rcases Int.le_total f s with hfs | hfs
  · exact ⟨lo, hlo, s, hs, by omega⟩
  · exact ⟨s, hs, hi, hhi, by omega⟩

/-- **One sample keeps the hull.** -/
theorem HullInv.step (h0 : 0 ≤ alpha) (h1 : alpha ≤ q16One) {samples : List FilterSample}
    {f : FilterState} (h : HullInv samples f) {x : FilterSample} (hx : IsI32 x.value)
    (hfit : UpdateFits f x) :
    HullInv (samples ++ [x]) (thermalFilterStep f alpha x.value x.valid) := by
  cases hv : x.valid with
  | false =>
      have hsame : thermalFilterStep f alpha x.value false = { f with valid := false } := rfl
      have hvalues : validValues (samples ++ [x]) = validValues samples := by
        rw [validValues_concat, hv]
        simp
      rw [hsame]
      exact ⟨by rw [hvalues]; exact h.initialized, h.isI32, by rw [hvalues]; exact h.hull⟩
  | true =>
      have hvalues : validValues (samples ++ [x]) = validValues samples ++ [x.value] := by
        rw [validValues_concat, hv]
        simp
      have hne : validValues (samples ++ [x]) ≠ [] := by
        rw [hvalues]
        simp
      have hon : (thermalFilterStep f alpha x.value true).initialized = true := by
        cases hi : f.initialized <;> simp [thermalFilterStep, hi]
      have hmoved := thermalFilterStep_toward h0 h1 h.isI32 hx hfit hv
      rw [hv] at hmoved
      obtain ⟨htoward, hstart⟩ := hmoved
      refine ⟨iff_of_true hon hne, htoward.isI32 h.isI32 hx, fun _ => ?_⟩
      rw [hvalues]
      cases hi : f.initialized with
      | false =>
          have hself : x.value ∈ validValues samples ++ [x.value] := by simp
          rw [hstart (Or.inl hi)]
          exact ⟨_, hself, _, hself, Int.le_refl _, Int.le_refl _⟩
      | true => exact (h.hull (h.initialized.mp hi)).toward htoward

theorem hullInv_after (h0 : 0 ≤ alpha) (h1 : alpha ≤ q16One) {samples : List FilterSample}
    (hi32 : ∀ x ∈ samples, IsI32 x.value)
    (hfits : ∀ pre x post, samples = pre ++ x :: post → UpdateFits (filterAfter alpha pre) x) :
    HullInv samples (filterAfter alpha samples) := by
  induction samples using List.reverseRecOn with
  | nil => exact hullInv_reset
  | append_singleton samples x ih =>
      have hprev := ih (fun y hy => hi32 y (List.mem_append_left _ hy)) fun pre y post h =>
        hfits pre y (post ++ [x]) (by rw [h, List.append_assoc, List.cons_append])
      rw [filterAfter_concat]
      exact hprev.step h0 h1 (hi32 x (by simp)) (hfits samples x [] rfl)

/-- Samples whose differences all fit make every update fit. -/
theorem updateFits_of_samples (h0 : 0 ≤ alpha) (h1 : alpha ≤ q16One) {samples : List FilterSample}
    (hi32 : ∀ x ∈ samples, IsI32 x.value)
    (hdiff : ∀ a ∈ validValues samples, ∀ b ∈ validValues samples, IsI32 (a - b))
    {pre post : List FilterSample} {x : FilterSample} (hsplit : samples = pre ++ x :: post) :
    UpdateFits (filterAfter alpha pre) x := by
  induction hlen : pre.length using Nat.strong_induction_on generalizing pre x post with
  | _ n ih =>
      have hinv : HullInv pre (filterAfter alpha pre) := by
        refine hullInv_after h0 h1 (fun y hy => hi32 y ?_) ?_
        · rw [hsplit]
          exact List.mem_append_left _ hy
        · intro pre' y post' h
          have hcat : samples = pre' ++ y :: (post' ++ x :: post) := by
            rw [hsplit, h, List.append_assoc, List.cons_append]
          refine ih pre'.length ?_ hcat rfl
          rw [← hlen, h, List.length_append, List.length_cons]
          omega
      intro hvalid hinit
      obtain ⟨lo, hlo, hi, hhi, hle⟩ := hinv.hull (hinv.initialized.mp hinit)
      have hvalues : validValues samples = validValues pre ++ (x.value :: validValues post) := by
        rw [hsplit]
        unfold validValues
        simp [hvalid]
      have hx : x.value ∈ validValues samples := by simp [hvalues]
      have hxlo := hdiff _ hx lo (by rw [hvalues]; exact List.mem_append_left _ hlo)
      have hxhi := hdiff _ hx hi (by rw [hvalues]; exact List.mem_append_left _ hhi)
      unfold IsI32 at *
      omega

/-- What one sample of a run does to the filtered value. -/
structure FilterMoves (alpha : Int) (before after : FilterState) (x : FilterSample) : Prop where
  toward : x.valid = true → Toward before.filteredValue x.value after.filteredValue
  held : x.valid = false → after.filteredValue = before.filteredValue
  passes : x.valid = true → alpha = q16One → after.filteredValue = x.value

/-- **The filter stays in the hull of its samples** in every run whose updates fit:
wherever the run is cut, the value lies between valid samples seen so far, and
every sample moves it toward itself or leaves it. -/
theorem filter_in_hull (h0 : 0 ≤ alpha) (h1 : alpha ≤ q16One) {samples : List FilterSample}
    (hi32 : ∀ x ∈ samples, IsI32 x.value)
    (hfits : ∀ pre x post, samples = pre ++ x :: post → UpdateFits (filterAfter alpha pre) x) :
    (∀ pre post, samples = pre ++ post → validValues pre ≠ [] →
      InHull (validValues pre) (filterAfter alpha pre).filteredValue) ∧
    ∀ pre x post, samples = pre ++ x :: post →
      FilterMoves alpha (filterAfter alpha pre) (filterAfter alpha (pre ++ [x])) x := by
  have hinv {pre post : List FilterSample} (h : samples = pre ++ post) :
      HullInv pre (filterAfter alpha pre) := by
    refine hullInv_after h0 h1 (fun y hy => hi32 y ?_) fun pre' y post' h' => ?_
    · rw [h]
      exact List.mem_append_left _ hy
    · refine hfits pre' y (post' ++ post) ?_
      rw [h, h', List.append_assoc, List.cons_append]
  refine ⟨fun pre post h => (hinv h).hull, ?_⟩
  intro pre x post h
  have hx : IsI32 x.value := hi32 x (by rw [h]; simp)
  have hmoved := thermalFilterStep_toward h0 h1 (hinv h).isI32 hx (hfits pre x post h)
  rw [filterAfter_concat]
  refine ⟨fun hvalid => (hmoved hvalid).1, ?_, fun hvalid hone => (hmoved hvalid).2 (Or.inr hone)⟩
  intro hinvalid
  rw [hinvalid]
  rfl

end hull

/-- A rise, a fall and a lost sample. -/
def wavySamples : List FilterSample := [⟨40000, true⟩, ⟨60000, true⟩, ⟨0, false⟩, ⟨50000, true⟩]

theorem filter_in_hull_wavySamples :
    InHull [40000, 60000, 50000] (filterAfter 16384 wavySamples).filteredValue :=
  (@filter_in_hull 16384 (by decide) (by decide) wavySamples (by decide) fun _ _ _ h =>
    updateFits_of_samples (by decide) (by decide) (by decide) (by decide) h).1
      wavySamples [] (by decide) (by decide)

/-- The difference of 3000000000 wraps, and the filter goes to the other end of
`int32_t`: away from the sample, out of the hull, and not onto the sample although
the factor is one. -/
theorem filter_leaves_hull :
    (∀ x ∈ [(⟨-1500000000, true⟩ : FilterSample), ⟨1500000000, true⟩], IsI32 x.value) ∧
      (filterAfter q16One [⟨-1500000000, true⟩, ⟨1500000000, true⟩]).filteredValue = -2147483648 ∧
      ¬InHull [-1500000000, 1500000000]
        (filterAfter q16One [⟨-1500000000, true⟩, ⟨1500000000, true⟩]).filteredValue := by
  decide

/-! ## A constant sample -/

section constant

/-- The filtered value after `n` valid samples `s`, from an initialised filter that
holds `f`. -/
def filterTrajectory (alphaQ16 s f : Int) (n : Nat) : Int :=
  ((fun st => thermalFilterStep st alphaQ16 s true)^[n] ⟨f, true, true⟩).filteredValue

variable {alpha s f : Int}

theorem Toward.refl : Toward f s f := by
  unfold Toward
  omega

theorem Toward.trans {g h : Int} (hfg : Toward f s g) (hgh : Toward g s h) : Toward f s h := by
  unfold Toward at *
  omega

/-- Between two values an `int32_t` apart every difference fits. -/
theorem Toward.isI32_sub {g : Int} (h : Toward f s g) (hfit : IsI32 (s - f)) : IsI32 (s - g) := by
  unfold Toward at h
  unfold IsI32 i32Min i32Max at *
  omega

/-- **The run in plain integers**: nothing wraps and nothing saturates on the way. -/
theorem filterTrajectory_eq (h0 : 0 ≤ alpha) (h1 : alpha ≤ 65536) (hf : IsI32 f) (hs : IsI32 s)
    (hfit : IsI32 (s - f)) (n : Nat) :
    (fun st => thermalFilterStep st alpha s true)^[n] ⟨f, true, true⟩ =
        ⟨(approach alpha s)^[n] f, true, true⟩ ∧
      Toward f s ((approach alpha s)^[n] f) := by
  induction n with
  | zero => exact ⟨rfl, Toward.refl⟩
  | succ n ih =>
      obtain ⟨hstate, htoward⟩ := ih
      rw [Function.iterate_succ_apply', Function.iterate_succ_apply', hstate]
      refine ⟨?_, htoward.trans (approach_toward h0 h1)⟩
      exact thermalFilterStep_of_fits h0 h1 rfl (htoward.isI32 hf hs) hs (htoward.isI32_sub hfit)

/-! ### One update -/

/-- The update stands still exactly in the dead band. -/
theorem approach_eq_self_iff (h0 : 0 ≤ alpha) :
    approach alpha s f = f ↔ alpha * (s - f).natAbs < 32768 := by
  have hzero : approach alpha s f = f ↔ roundQ16 (alpha * (s - f)) = 0 := by
    unfold approach
    omega
  have habs : ((alpha * (s - f)).natAbs : Int) = alpha * (s - f).natAbs := by
    rw [Int.natAbs_mul, Nat.cast_mul, Int.natAbs_of_nonneg h0]
  rw [hzero, roundQ16_eq_zero_iff, ← habs]
  omega

/-- Outside the dead band the update comes closer. -/
theorem approach_closer (h0 : 0 ≤ alpha) (h1 : alpha ≤ 65536)
    (hfar : 32768 ≤ alpha * (s - f).natAbs) :
    (s - approach alpha s f).natAbs < (s - f).natAbs := by
  have hmoves : approach alpha s f ≠ f := by
    intro h
    have hnear := (approach_eq_self_iff h0).mp h
    omega
  have htoward := approach_toward (s := s) (f := f) h0 h1
  unfold Toward at htoward
  omega

/-- The update is odd. -/
theorem approach_neg : approach alpha (-s) (-f) = -approach alpha s f := by
  have hprod : alpha * (-s - -f) = -(alpha * (s - f)) := by ring
  unfold approach
  rw [hprod, roundQ16_neg]
  ring

/-! ### Whole runs -/

/-- Until the dead band is reached, every update takes at least one off the residual. -/
theorem iterate_approach_residual (h0 : 0 ≤ alpha) (h1 : alpha ≤ 65536) (n : Nat) :
    (∃ k ≤ n, alpha * (s - (approach alpha s)^[k] f).natAbs < 32768) ∨
      (s - (approach alpha s)^[n] f).natAbs + n ≤ (s - f).natAbs := by
  induction n with
  | zero => exact Or.inr (Nat.le_refl _)
  | succ n ih =>
      rcases ih with ⟨k, hk, hband⟩ | hle
      · exact Or.inl ⟨k, by omega, hband⟩
      · by_cases hband : alpha * (s - (approach alpha s)^[n] f).natAbs < 32768
        · exact Or.inl ⟨n, by omega, hband⟩
        · have hcloser := approach_closer (s := s) (f := (approach alpha s)^[n] f) h0 h1 (by omega)
          rw [Function.iterate_succ_apply']
          right
          omega

/-- The dead band is reached. -/
theorem exists_iterate_deadBand (h0 : 0 ≤ alpha) (h1 : alpha ≤ 65536) :
    ∃ n, alpha * (s - (approach alpha s)^[n] f).natAbs < 32768 := by
  rcases iterate_approach_residual (s := s) (f := f) h0 h1 ((s - f).natAbs + 1) with
    ⟨k, -, hband⟩ | hle
  · exact ⟨k, hband⟩
  · omega

theorem iterate_approach_neg (n : Nat) :
    (approach alpha (-s))^[n] (-f) = -(approach alpha s)^[n] f := by
  induction n with
  | zero => rfl
  | succ n ih => rw [Function.iterate_succ_apply', Function.iterate_succ_apply', ih, approach_neg]

theorem filterTrajectory_eq_iterate (h0 : 0 ≤ alpha) (h1 : alpha ≤ 65536) (hf : IsI32 f)
    (hs : IsI32 s) (hfit : IsI32 (s - f)) (n : Nat) :
    filterTrajectory alpha s f n = (approach alpha s)^[n] f := by
  unfold filterTrajectory
  rw [(filterTrajectory_eq h0 h1 hf hs hfit n).1]

/-- How the filter converges on a constant sample `s`, starting from `f`. -/
structure FilterConverges (alpha s f : Int) : Prop where
  /-- Outside the dead band the residual shrinks. -/
  closer : ∀ n, 32768 ≤ alpha * (s - filterTrajectory alpha s f n).natAbs →
    (s - filterTrajectory alpha s f (n + 1)).natAbs < (s - filterTrajectory alpha s f n).natAbs
  /-- Inside it the value stays. -/
  constant : ∀ n, alpha * (s - filterTrajectory alpha s f n).natAbs < 32768 →
    ∀ m ≥ n, filterTrajectory alpha s f m = filterTrajectory alpha s f n
  /-- The run ends in the dead band, on the sample itself if the factor is a half or more. -/
  residual : ∃ n, ∀ m ≥ n, filterTrajectory alpha s f m = filterTrajectory alpha s f n ∧
    (s - filterTrajectory alpha s f m).natAbs ≤ 32767 / alpha ∧
    (32768 ≤ alpha → filterTrajectory alpha s f m = s)
  /-- The sample is never crossed. -/
  sign : ∀ n, (f ≤ s → filterTrajectory alpha s f n ≤ s) ∧ (s ≤ f → s ≤ filterTrajectory alpha s f n)
  /-- The mirrored run, where there is one, mirrors every value. -/
  symmetric : IsI32 (-f) → IsI32 (-s) →
    ∀ n, filterTrajectory alpha (-s) (-f) n = -filterTrajectory alpha s f n

/-- The residual of a value in the dead band. -/
theorem residual_le (h0 : 0 < alpha) {r : Nat} (hband : alpha * r < 32768) : r ≤ 32767 / alpha := by
  refine (Int.le_ediv_iff_mul_le h0).mpr ?_
  rw [Int.mul_comm]
  omega

/-- A difference of exactly `-2^31` has no mirror image: the first update of the
mirrored run goes the wrong way. -/
theorem filterTrajectory_mirror_ne (h0 : 1 ≤ alpha) (h1 : alpha ≤ 65536) (hf : IsI32 f)
    (hs : IsI32 s) (hnf : IsI32 (-f)) (hd : s - f = -2 ^ 31) :
    filterTrajectory alpha (-s) (-f) 1 ≠ -filterTrajectory alpha s f 1 := by
  have hwrap : i32 (-s - -f) = -2 ^ 31 := by
    unfold i32
    omega
  have hmirror : filterTrajectory alpha (-s) (-f) 1 =
      satI32 (-f + roundQ16 (alpha * i32 (-s - -f))) := rfl
  have hfit : IsI32 (s - f) := by
    rw [hd]
    decide
  have hnext : filterTrajectory alpha s f 1 = approach alpha s f :=
    filterTrajectory_eq_iterate (by omega) h1 hf hs hfit 1
  have hround : roundQ16 (alpha * -2 ^ 31) = -(alpha * 2 ^ 15) := by
    unfold roundQ16
    split <;> omega
  rw [hmirror, hwrap, hround, hnext]
  unfold approach
  rw [hd, hround]
  unfold satI32
  unfold IsI32 i32Min i32Max at *
  split
  · omega
  · split <;> omega

/-- **Convergence, exactly**: from every value and to every sample an `int32_t`
apart the filter converges, except that it has no mirrored run at a difference of
`-2^31`. -/
theorem filter_converges_iff (h0 : 1 ≤ alpha) (h1 : alpha ≤ q16One) (hf : IsI32 f) (hs : IsI32 s)
    (hfit : IsI32 (s - f)) :
    FilterConverges alpha s f ↔ (s - f = -2 ^ 31 → s = -2 ^ 31) := by
  have hpos : 0 ≤ alpha := by omega
  have hrun := filterTrajectory_eq_iterate hpos h1 hf hs hfit
  have hconst (n : Nat) (hband : alpha * (s - (approach alpha s)^[n] f).natAbs < 32768) :
      ∀ m ≥ n, (approach alpha s)^[m] f = (approach alpha s)^[n] f := by
    intro m hm
    obtain ⟨k, rfl⟩ := Nat.exists_eq_add_of_le hm
    rw [Nat.add_comm n k, Function.iterate_add_apply]
    exact Function.iterate_fixed ((approach_eq_self_iff hpos).mpr hband) k
  constructor
  · intro h hd
    by_contra hne
    have hnf : IsI32 (-f) := by
      unfold IsI32 i32Min i32Max at *
      omega
    have hns : IsI32 (-s) := by
      unfold IsI32 i32Min i32Max at *
      omega
    exact filterTrajectory_mirror_ne h0 h1 hf hs hnf hd (h.symmetric hnf hns 1)
  · intro hcorner
    constructor
    · intro n hfar
      rw [hrun] at hfar
      rw [hrun, hrun, Function.iterate_succ_apply']
      exact approach_closer hpos h1 hfar
    · intro n hband m hm
      rw [hrun] at hband
      rw [hrun, hrun]
      exact hconst n hband m hm
    · obtain ⟨n, hband⟩ := exists_iterate_deadBand (s := s) (f := f) hpos h1
      refine ⟨n, fun m hm => ?_⟩
      rw [hrun, hrun, hconst n hband m hm]
      refine ⟨rfl, residual_le (by omega) hband, fun hhalf => ?_⟩
      have hzero : (s - (approach alpha s)^[n] f).natAbs = 0 := by
        by_contra hne
        have hone : (1 : Int) ≤ (s - (approach alpha s)^[n] f).natAbs := by omega
        have hmul := Int.mul_le_mul_of_nonneg_left hone hpos
        omega
      omega
    · intro n
      have htoward := (filterTrajectory_eq hpos h1 hf hs hfit n).2
      rw [hrun]
      unfold Toward at htoward
      omega
    · intro hnf hns n
      have hmirror : IsI32 (-s - -f) := by
        unfold IsI32 i32Min i32Max at *
        omega
      rw [hrun, filterTrajectory_eq_iterate hpos h1 hnf hns hmirror, iterate_approach_neg]

/-- From 2^30 to -2^30 the difference fits; the mirrored run jumps to the wrong end. -/
theorem filter_mirror_fails :
    IsI32 (2 ^ 30) ∧ IsI32 (-2 ^ 30) ∧ IsI32 (-2 ^ 30 - 2 ^ 30) ∧
      filterTrajectory q16One (-2 ^ 30) (2 ^ 30) 1 = -2 ^ 30 ∧
      filterTrajectory q16One (-(-2 ^ 30)) (-2 ^ 30) 1 = -2 ^ 31 ∧
      filterTrajectory q16One (-(-2 ^ 30)) (-2 ^ 30) 1 ≠
        -filterTrajectory q16One (-2 ^ 30) (2 ^ 30) 1 := by
  decide

theorem filter_converges_iff_rise : FilterConverges 16384 60000 40000 :=
  (filter_converges_iff (by decide) (by decide) (by decide) (by decide) (by decide)).mpr (by decide)

end constant

end ThermalCore
