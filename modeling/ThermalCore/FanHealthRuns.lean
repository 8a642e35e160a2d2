import ThermalCore.EffectiveTrips
import ThermalCore.FanHealth
import ThermalCore.Lib.Machine
import Mathlib.Data.List.Induction
import Mathlib.Data.List.ReduceOption
import Mathlib.Tactic.Ring

/-!
# Runs of the fan-health estimator

A tick of `thermal_fan_health_step` either leaves the estimate as it is or folds one
reading into the baseline point nearest to the duty.  The estimate of a run is
thus a function of its readings, and so are its bounds, its confidence and its
grade; nothing on the way leaves 32 bits.

`fanHealthReadings` lists what the estimator folds in, and the invariant bounds every
field of the state by that list.  The grades are then read off the weighted mean, and
each intermediate value of the C code is shown to stay in its type.
-/

namespace ThermalCore

open MachineInt

/-! ## Readings -/

/-- The arguments of one call, in their C types. -/
structure FanHealthInput where
  appliedPwm : UInt8
  tachRpm : UInt16
  tachValid : UInt8
  slewLimited : Bool
  faultOverride : Bool
  spinupTicks : UInt16

/-- A drift in percent and the baseline point it is folded into. -/
structure DriftReading where
  point : Nat
  delta : Int

/-- The clamped drift of a tach reading from the expected one. -/
def driftPct (expected : Int) (tachRpm : Nat) : Int :=
  let delta := divRoundHalfAway (((tachRpm : Int) - expected) * 100) expected
  let delta := if delta > 127 then 127 else delta
  if delta < -127 then -127 else delta

/-- The reading of a tick the window is steady on. -/
def steadyReading (cfg : FanHealthCfg) (appliedPwm tachRpm : Nat) : Option DriftReading :=
  let expected := thermalCurveEvalY0 cfg.baseline cfg.baselineCount appliedPwm
  if expected ≤ 0 then none else some ⟨nearestPoint cfg appliedPwm, driftPct expected tachRpm⟩

/-- The reading of a tick past the gate. -/
def windowReading (s : FanHealthState) (cfg : FanHealthCfg) (appliedPwm tachRpm : Nat) :
    Option DriftReading :=
  if !s.haveRef then none
  else if ((appliedPwm : Int) - s.refPwm).natAbs > cfg.stablePwmTolerance then none
  else
    let pwmRun := if s.pwmRun < 0xFFFF then s.pwmRun + 1 else s.pwmRun
    let rpmChange := ((tachRpm : Int) - s.prevRpm).natAbs
    let rpmRun :=
      if rpmChange * 100 ≤ cfg.stableRpmTolerancePct * s.prevRpm then
        if s.rpmRun < 0xFFFF then s.rpmRun + 1 else s.rpmRun
      else 1
    if pwmRun < cfg.stablePwmTicks ∨ rpmRun < cfg.stableRpmTicks then none
    else steadyReading cfg appliedPwm tachRpm

/-- The reading a call folds, if any. -/
def fanHealthReading (s : FanHealthState) (cfg : FanHealthCfg) (i : FanHealthInput) :
    Option DriftReading :=
  if cfg.enable = 0 ∨ cfg.baselineCount < 2 then none
  else
    let pwmLow := decide (i.appliedPwm.toNat < toU8 (cfg.baseline.slot 0).x)
    let armed := if s.prevPwmLow && !pwmLow then i.spinupTicks.toNat else s.spinupRemaining
    if decide (i.tachValid.toNat = 0) || pwmLow || decide (armed > 0) || i.slewLimited ||
        (i.faultOverride || s.prevOverride) then none
    else windowReading s cfg i.appliedPwm.toNat i.tachRpm.toNat

/-- A call of the estimator, with the reading it folds in. -/
def fanHealthCall (cfg : FanHealthCfg) (s : FanHealthState) (i : FanHealthInput) :
    FanHealthState × Option DriftReading :=
  (thermalFanHealthStep s cfg i.appliedPwm.toNat i.tachRpm.toNat i.tachValid.toNat i.slewLimited
      i.faultOverride i.spinupTicks.toNat,
    fanHealthReading s cfg i)

/-! ## What a call does to the estimate -/

/-- The accumulators and the published outputs are the same. -/
structure SameEstimate (s s' : FanHealthState) : Prop where
  emaX256 : s'.emaX256 = s.emaX256
  sampleCount : s'.sampleCount = s.sampleCount
  healthDeltaPct : s'.healthDeltaPct = s.healthDeltaPct
  severity : s'.severity = s.severity
  confidence : s'.confidence = s.confidence

/-- Fold a reading. -/
def foldReading (s : FanHealthState) (cfg : FanHealthCfg) (r : DriftReading) : FanHealthState :=
  let ema := s.emaX256.slot r.point
  let count := s.sampleCount.slot r.point
  fanHealthRecompute
    { s with
      emaX256 := s.emaX256.put r.point
        (if count = 0 then r.delta * 256 else ema + (r.delta * 256 - ema).tdiv 8)
      sampleCount := s.sampleCount.put r.point (if count < 0xFFFF then count + 1 else count) }
    cfg

/-- What becomes of the window: the runs and the references stay values of their types. -/
structure WindowTyped (s : FanHealthState) : Prop where
  refPwm : s.refPwm < 2 ^ 8
  prevRpm : s.prevRpm < 2 ^ 16

/-- A tick with a steady duty folds in its reading, if it has one. -/
theorem fanHealthFold_eq (s : FanHealthState) (cfg : FanHealthCfg) (appliedPwm tachRpm : Nat) :
    fanHealthFold s cfg appliedPwm tachRpm =
      match steadyReading cfg appliedPwm tachRpm with
      | some r => foldReading s cfg r
      | none => s := by
  unfold fanHealthFold steadyReading
  by_cases hexpected : thermalCurveEvalY0 cfg.baseline cfg.baselineCount appliedPwm ≤ 0
  · simp only [hexpected, if_true]
  · simp only [hexpected, if_false]
    rfl

section step

variable {s : FanHealthState} {appliedPwm tachRpm : Nat}

/-- A tick that tracks the duty moves the window, and folds in the reading of a full one. -/
theorem fanHealthTrack_cases (cfg : FanHealthCfg) (hs : WindowTyped s) (hpwm : appliedPwm < 2 ^ 8)
    (hrpm : tachRpm < 2 ^ 16) :
    ∃ w, SameEstimate s w ∧ WindowTyped w ∧
      fanHealthTrack s cfg appliedPwm tachRpm =
        match windowReading s cfg appliedPwm tachRpm with
        | some r => foldReading w cfg r
        | none => w := by
  unfold fanHealthTrack windowReading
  by_cases hfresh : (!s.haveRef) = true
  · refine ⟨s.openWindow appliedPwm tachRpm, ⟨rfl, rfl, rfl, rfl, rfl⟩, ⟨hpwm, hrpm⟩, ?_⟩
    rw [if_pos hfresh, if_pos hfresh]
  rw [if_neg hfresh, if_neg hfresh]
  by_cases hmoved : ((appliedPwm : Int) - s.refPwm).natAbs > cfg.stablePwmTolerance
  · refine ⟨s.openWindow appliedPwm tachRpm, ⟨rfl, rfl, rfl, rfl, rfl⟩, ⟨hpwm, hrpm⟩, ?_⟩
    rw [if_pos hmoved, if_pos hmoved]
  rw [if_neg hmoved, if_neg hmoved]
  dsimp only
  generalize (if s.pwmRun < 0xFFFF then s.pwmRun + 1 else s.pwmRun) = pwmRun
  generalize (if ((tachRpm : Int) - s.prevRpm).natAbs * 100 ≤ cfg.stableRpmTolerancePct * s.prevRpm then
    if s.rpmRun < 0xFFFF then s.rpmRun + 1 else s.rpmRun else 1) = rpmRun
  refine ⟨{ s with pwmRun := pwmRun, rpmRun := rpmRun, prevRpm := tachRpm },
    ⟨rfl, rfl, rfl, rfl, rfl⟩, ⟨hs.refPwm, hrpm⟩, ?_⟩
  by_cases hshort : pwmRun < cfg.stablePwmTicks ∨ rpmRun < cfg.stableRpmTicks
  · rw [if_pos hshort, if_pos hshort]
  · rw [if_neg hshort, if_neg hshort, fanHealthFold_eq]

/-- **A call** leaves the estimate alone, but for the reading it folds. -/
theorem thermalFanHealthStep_cases (cfg : FanHealthCfg) (hs : WindowTyped s) (i : FanHealthInput) :
    ∃ w, SameEstimate s w ∧ WindowTyped w ∧
      (fanHealthCall cfg s i).1 =
        match fanHealthReading s cfg i with
        | some r => foldReading w cfg r
        | none => w := by
  unfold fanHealthCall thermalFanHealthStep fanHealthReading
  dsimp only
  by_cases hoff : cfg.enable = 0 ∨ cfg.baselineCount < 2
  · rw [if_pos hoff, if_pos hoff]
    exact ⟨s, ⟨rfl, rfl, rfl, rfl, rfl⟩, hs, rfl⟩
  rw [if_neg hoff, if_neg hoff]
  generalize decide (i.appliedPwm.toNat < toU8 (cfg.baseline.slot 0).x) = pwmLow
  generalize (if (s.prevPwmLow && !pwmLow) = true then i.spinupTicks.toNat else s.spinupRemaining) = armed
  generalize hgate : (decide (i.tachValid.toNat = 0) || pwmLow || decide (armed > 0) || i.slewLimited ||
    (i.faultOverride || s.prevOverride)) = gate
  cases gate with
  | true =>
      refine ⟨{ s with
        prevPwmLow := pwmLow, spinupRemaining := armed - 1, prevOverride := i.faultOverride,
        haveRef := false, pwmRun := 0, rpmRun := 0 }, ⟨rfl, rfl, rfl, rfl, rfl⟩, ⟨hs.1, hs.2⟩, ?_⟩
      simp
  | false =>
      obtain ⟨w, hsame, hw, hstep⟩ := @fanHealthTrack_cases
        { s with
          prevPwmLow := pwmLow, spinupRemaining := armed - 1, prevOverride := i.faultOverride }
        i.appliedPwm.toNat i.tachRpm.toNat cfg ⟨hs.1, hs.2⟩ i.appliedPwm.toNat_lt i.tachRpm.toNat_lt
      refine ⟨w, ⟨hsame.1, hsame.2, hsame.3, hsame.4, hsame.5⟩, hw, ?_⟩
      rw [if_neg (by decide), if_neg (by decide)]
      exact hstep

end step

/-! ## Rounding and the weighted mean -/

/-- A negative quotient is rounded to the integer above a half, downward from it. -/
theorem divRoundHalfAway_of_neg {num den : Int} (hden : 0 < den) (hnum : num < 0) :
    divRoundHalfAway num den = -((den - 2 * num) / (2 * den)) := by
  have hflip : 2 * num - den = -(den - 2 * num) := by omega
  rw [divRoundHalfAway, if_neg (Int.not_le.mpr hnum), hflip, Int.neg_tdiv,
    Int.tdiv_eq_ediv_of_nonneg (by omega)]

/-- No drift rounds to none. -/
theorem divRoundHalfAway_zero {den : Int} (hden : 0 < den) : divRoundHalfAway 0 den = 0 := by
  rw [divRoundHalfAway, if_pos (Int.le_refl 0)]
  exact Int.tdiv_eq_zero_of_lt (by omega) (by omega)

/-- **Rounding stays within bounds** that are integers. -/
theorem divRoundHalfAway_mem {num den k : Int} (hden : 0 < den) (hlo : k * den ≤ num)
    (hnum : num ≤ 0) : k ≤ divRoundHalfAway num den ∧ divRoundHalfAway num den ≤ 0 := by
  obtain rfl | hneg := Int.le_iff_eq_or_lt.mp hnum
  · rw [divRoundHalfAway_zero hden]
    exact ⟨Int.le_of_mul_le_mul_right (by omega) hden, Int.le_refl 0⟩
  · rw [divRoundHalfAway_of_neg hden hneg]
    have hnonneg : 0 ≤ (den - 2 * num) / (2 * den) := Int.ediv_nonneg (by omega) (by omega)
    have hproduct : (-k + 1) * (2 * den) = 2 * den - 2 * (k * den) := by ring
    have hlt : (den - 2 * num) / (2 * den) < -k + 1 := Int.ediv_lt_of_lt_mul (by omega) (by omega)
    omega

/-- The clamp of a drift. -/
theorem driftPct_mem (expected : Int) (tachRpm : Nat) :
    -127 ≤ driftPct expected tachRpm ∧ driftPct expected tachRpm ≤ 127 := by
  unfold driftPct
  dsimp only
  split <;> split <;> omega

/-- The sums over the first `k` points. -/
def fanHealthSumsTo (s : FanHealthState) (cfg : FanHealthCfg) (k : Nat) : FanHealthSums :=
  Loop.fold k ⟨0, 0, 0⟩ fun acc p =>
    if s.sampleCount.slot p = 0 then acc
    else
      let w := pointWeight cfg (s.sampleCount.slot p) p
      let ema := if s.emaX256.slot p > 0 then 0 else s.emaX256.slot p
      ⟨acc.sumWx + w * ema, acc.sumW + w, acc.conf + 1⟩

/-- A point with samples weighs between 1 and 32. -/
theorem pointWeight_mem (cfg : FanHealthCfg) {samples : Nat} (p : Nat) (h : samples ≠ 0) :
    1 ≤ pointWeight cfg samples p ∧ pointWeight cfg samples p ≤ 32 := by
  unfold pointWeight
  dsimp only
  split <;> split <;> omega

/-- What the sums over accumulators within the drift's range satisfy. -/
structure SumsBounded (s : FanHealthState) (k : Nat) (sums : FanHealthSums) : Prop where
  sumW_nonneg : 0 ≤ sums.sumW
  sumW_le : sums.sumW ≤ 32 * k
  sumWx_nonpos : sums.sumWx ≤ 0
  le_sumWx : -127 * (sums.sumW * 256) ≤ sums.sumWx
  conf : sums.conf = (List.range k).countP fun p => s.sampleCount.slot p ≠ 0

/-- The weighted sums are bounded by the weights. -/
theorem sumsBounded (cfg : FanHealthCfg) {s : FanHealthState}
    (hema : ∀ p, -127 * 256 ≤ s.emaX256.slot p) (k : Nat) :
    SumsBounded s k (fanHealthSumsTo s cfg k) := by
  induction k with
  | zero => exact ⟨Int.le_refl 0, Int.le_refl 0, Int.le_refl 0, Int.le_refl 0, rfl⟩
  | succ k ih =>
      have hsucc : fanHealthSumsTo s cfg (k + 1) =
          if s.sampleCount.slot k = 0 then fanHealthSumsTo s cfg k
          else
            ⟨(fanHealthSumsTo s cfg k).sumWx + pointWeight cfg (s.sampleCount.slot k) k *
                if s.emaX256.slot k > 0 then 0 else s.emaX256.slot k,
              (fanHealthSumsTo s cfg k).sumW + pointWeight cfg (s.sampleCount.slot k) k,
              (fanHealthSumsTo s cfg k).conf + 1⟩ := Loop.fold_succ
      rw [hsucc]
      by_cases hnone : s.sampleCount.slot k = 0
      · rw [if_pos hnone]
        refine ⟨ih.sumW_nonneg, ?_, ih.sumWx_nonpos, ih.le_sumWx, ?_⟩
        · have hle := ih.sumW_le
          omega
        · simp [List.range_succ, hnone, ih.conf]
      · rw [if_neg hnone]
        obtain ⟨hw1, hw32⟩ := pointWeight_mem cfg k hnone
        have hlow := hema k
        generalize pointWeight cfg (s.sampleCount.slot k) k = w at hw1 hw32 ⊢
        generalize hterm : (if s.emaX256.slot k > 0 then 0 else s.emaX256.slot k) = ema
        have hema0 : -127 * 256 ≤ ema ∧ ema ≤ 0 := by
          split at hterm <;> omega
        have hprod0 : w * ema ≤ 0 := Int.mul_nonpos_of_nonneg_of_nonpos (by omega) hema0.2
        have hprod1 : w * (-127 * 256) ≤ w * ema := Int.mul_le_mul_of_nonneg_left hema0.1 (by omega)
        obtain ⟨h1, h2, h3, h4, h5⟩ := ih
        refine ⟨?_, ?_, ?_, ?_, ?_⟩
        · dsimp only
          omega
        · dsimp only
          omega
        · dsimp only
          omega
        · dsimp only
          omega
        · simp [List.range_succ, hnone, h5]

/-! ## The invariant -/

/-- The drift the sums stand for. -/
def meanDrift (sums : FanHealthSums) : Int :=
  if sums.sumW > 0 then divRoundHalfAway sums.sumWx (sums.sumW * 256) else 0

/-- The drifts folded into a point, oldest first. -/
def readingsAt (rs : List DriftReading) (p : Nat) : List Int :=
  (rs.filter fun r => r.point = p).map DriftReading.delta

/-- No readings at any point. -/
@[simp] theorem readingsAt_nil (p : Nat) : readingsAt [] p = [] := rfl

/-- A reading counts at its own point. -/
theorem readingsAt_concat_self (rs : List DriftReading) (r : DriftReading) :
    readingsAt (rs ++ [r]) r.point = readingsAt rs r.point ++ [r.delta] := by
  simp [readingsAt]

/-- A reading does not count at another point. -/
theorem readingsAt_concat_ne (rs : List DriftReading) {r : DriftReading} {p : Nat} (h : r.point ≠ p) :
    readingsAt (rs ++ [r]) p = readingsAt rs p := by
  simp [readingsAt, h]

/-- The accumulators are what the readings make of them, and the outputs are what
the accumulators make of them. -/
structure FanHealthInv (cfg : FanHealthCfg) (rs : List DriftReading) (s : FanHealthState) : Prop where
  inBaseline : ∀ r ∈ rs, r.point < cfg.baselineCount
  clamped : ∀ r ∈ rs, -127 ≤ r.delta ∧ r.delta ≤ 127
  counted : ∀ p < maxFanHealthPoints,
    s.sampleCount.slot p = min (readingsAt rs p).length 0xFFFF
  unseen : ∀ p < maxFanHealthPoints, readingsAt rs p = [] → s.emaX256.slot p = 0
  hull : ∀ p < maxFanHealthPoints, readingsAt rs p ≠ [] →
    ∃ lo ∈ readingsAt rs p, ∃ hi ∈ readingsAt rs p,
      lo * 256 ≤ s.emaX256.slot p ∧ s.emaX256.slot p ≤ hi * 256
  confidence : s.confidence = (fanHealthSums s cfg).conf
  delta : s.healthDeltaPct = meanDrift (fanHealthSums s cfg)
  severity : s.severity = fanHealthGrade cfg s.confidence s.healthDeltaPct
  window : WindowTyped s

section invariant

variable {cfg : FanHealthCfg} {rs : List DriftReading} {s : FanHealthState}

/-- A drift at a point is that of a reading there. -/
theorem mem_readingsAt {p : Nat} {d : Int} (h : d ∈ readingsAt rs p) :
    ∃ r ∈ rs, r.point = p ∧ r.delta = d := by
  obtain ⟨r, hr, hd⟩ := List.mem_map.mp h
  obtain ⟨hmem, hpoint⟩ := List.mem_filter.mp hr
  exact ⟨r, hmem, of_decide_eq_true hpoint, hd⟩

/-- **Every accumulator** is within the range of a drift. -/
theorem FanHealthInv.ema_mem (h : FanHealthInv cfg rs s) (p : Nat) :
    -127 * 256 ≤ s.emaX256.slot p ∧ s.emaX256.slot p ≤ 127 * 256 := by
  by_cases hp : p < maxFanHealthPoints
  · by_cases hseen : readingsAt rs p = []
    · rw [h.unseen p hp hseen]
      decide
    · obtain ⟨lo, hlo, hi, hhi, hge, hle⟩ := h.hull p hp hseen
      obtain ⟨r, hr, -, rfl⟩ := mem_readingsAt hlo
      obtain ⟨r', hr', -, rfl⟩ := mem_readingsAt hhi
      have hclamped := h.clamped r hr
      have hclamped' := h.clamped r' hr'
      omega
  · rw [Vector.slot_of_ge _ (Nat.le_of_not_lt hp)]
    decide

/-- The sums look at the averages and the counts only. -/
theorem fanHealthSums_congr {w : FanHealthState} (hema : w.emaX256 = s.emaX256)
    (hcount : w.sampleCount = s.sampleCount) : fanHealthSums w cfg = fanHealthSums s cfg := by
  unfold fanHealthSums
  rw [hema, hcount]

/-- The invariant is about the estimate, whatever the window holds. -/
theorem FanHealthInv.of_same (h : FanHealthInv cfg rs s) {w : FanHealthState} (hsame : SameEstimate s w)
    (hw : WindowTyped w) : FanHealthInv cfg rs w where
  inBaseline := h.inBaseline
  clamped := h.clamped
  counted := hsame.sampleCount ▸ h.counted
  unseen := hsame.emaX256 ▸ h.unseen
  hull := hsame.emaX256 ▸ h.hull
  confidence := by
    rw [hsame.confidence, fanHealthSums_congr hsame.emaX256 hsame.sampleCount, h.confidence]
  delta := by
    rw [hsame.healthDeltaPct, fanHealthSums_congr hsame.emaX256 hsame.sampleCount, h.delta]
  severity := by rw [hsame.severity, hsame.confidence, hsame.healthDeltaPct, h.severity]
  window := hw

/-- The average moves toward the reading and not past it. -/
theorem ema_step (ema target : Int) :
    min ema target ≤ ema + (target - ema).tdiv 8 ∧ ema + (target - ema).tdiv 8 ≤ max ema target := by
  obtain hle | hge := Int.le_total ema target
  · have hmem := @tdiv_mem 0 (target - ema) (target - ema) 8 (by decide) (by omega) (by omega)
    omega
  · have hmem := @tdiv_mem (target - ema) 0 (target - ema) 8 (by decide) (by omega) (by omega)
    omega

/-- **A reading** is counted, and moves the accumulator of its point into its own
direction. -/
theorem FanHealthInv.fold (h : FanHealthInv cfg rs s) {r : DriftReading}
    (hcount : cfg.baselineCount ≤ maxFanHealthPoints) (hpoint : r.point < cfg.baselineCount)
    (hdelta : -127 ≤ r.delta ∧ r.delta ≤ 127) :
    FanHealthInv cfg (rs ++ [r]) (foldReading s cfg r) := by
  have hlt : r.point < maxFanHealthPoints := Nat.lt_of_lt_of_le hpoint hcount
  have hzero : s.sampleCount.slot r.point = 0 ↔ readingsAt rs r.point = [] := by
    rw [h.counted r.point hlt, ← List.length_eq_zero_iff]
    omega
  have hmem : ∀ q, q ∈ rs ++ [r] → q ∈ rs ∨ q = r := fun q hq => by simpa using hq
  constructor
  case inBaseline =>
    intro q hq
    obtain hold | rfl := hmem q hq
    · exact h.inBaseline q hold
    · exact hpoint
  case clamped =>
    intro q hq
    obtain hold | rfl := hmem q hq
    · exact h.clamped q hold
    · exact hdelta
  case counted =>
    intro p hp
    by_cases heq : r.point = p
    · subst heq
      have hold := h.counted r.point hlt
      rw [readingsAt_concat_self, List.length_append, List.length_singleton]
      show (s.sampleCount.put _ _).slot _ = _
      rw [Vector.slot_put_self _ _ hlt]
      split <;> omega
    · rw [readingsAt_concat_ne rs heq, ← h.counted p hp]
      exact Vector.slot_put_ne _ _ heq
  case unseen =>
    intro p hp hnone
    by_cases heq : r.point = p
    · subst heq
      rw [readingsAt_concat_self] at hnone
      simp at hnone
    · rw [readingsAt_concat_ne rs heq] at hnone
      exact (Vector.slot_put_ne _ _ heq).trans (h.unseen p hp hnone)
  case hull =>
    intro p hp hsome
    by_cases heq : r.point = p
    · subst heq
      have hslot : (foldReading s cfg r).emaX256.slot r.point =
          if s.sampleCount.slot r.point = 0 then r.delta * 256
          else s.emaX256.slot r.point + (r.delta * 256 - s.emaX256.slot r.point).tdiv 8 :=
        Vector.slot_put_self _ _ hlt
      rw [readingsAt_concat_self, hslot]
      by_cases hfirst : readingsAt rs r.point = []
      · rw [if_pos (hzero.mpr hfirst)]
        exact ⟨r.delta, by simp, r.delta, by simp, Int.le_refl _, Int.le_refl _⟩
      · obtain ⟨lo, hlo, hi, hhi, hge, hle⟩ := h.hull r.point hp hfirst
        have hstep := ema_step (s.emaX256.slot r.point) (r.delta * 256)
        have hmin : min lo r.delta ∈ readingsAt rs r.point ++ [r.delta] := by
          obtain heq | heq := min_choice lo r.delta <;> simp [heq, hlo]
        have hmax : max hi r.delta ∈ readingsAt rs r.point ++ [r.delta] := by
          obtain heq | heq := max_choice hi r.delta <;> simp [heq, hhi]
        rw [if_neg (mt hzero.mp hfirst)]
        exact ⟨min lo r.delta, hmin, max hi r.delta, hmax, by omega, by omega⟩
    · rw [readingsAt_concat_ne rs heq] at hsome ⊢
      obtain ⟨lo, hlo, hi, hhi, hbetween⟩ := h.hull p hp hsome
      have hslot : (foldReading s cfg r).emaX256.slot p = s.emaX256.slot p := Vector.slot_put_ne _ _ heq
      exact ⟨lo, hlo, hi, hhi, by rw [hslot]; exact hbetween⟩
  case confidence => rfl
  case delta => rfl
  case severity => rfl
  case window => exact ⟨h.window.1, h.window.2⟩

/-- Nothing has been read after a reset. -/
theorem fanHealthInv_reset (hmin : 0 < cfg.minPointsObserved) :
    FanHealthInv cfg [] thermalFanHealthReset := by
  have hsums : fanHealthSums thermalFanHealthReset cfg = ⟨0, 0, 0⟩ := by
    unfold fanHealthSums
    refine Loop.fold_induct (fun _ (sums : FanHealthSums) => sums = ⟨0, 0, 0⟩) rfl
      fun p sums _ hsums => ?_
    have hnone : thermalFanHealthReset.sampleCount.slot p = 0 := Vector.slot_replicate_default p
    rw [if_pos hnone, hsums]
  have hgrade : fanHealthGrade cfg 0 0 = .healthy := if_pos hmin
  constructor
  case inBaseline => simp
  case clamped => simp
  case counted => exact fun p _ => Vector.slot_replicate_default p
  case unseen => exact fun p _ _ => Vector.slot_replicate_default p
  case hull => simp
  case confidence => rw [hsums]; rfl
  case delta => rw [hsums]; rfl
  case severity => exact hgrade.symm
  case window => exact ⟨by decide, by decide⟩

end invariant

/-! ## Runs -/

open Machine

section run

variable {cfg : FanHealthCfg}

/-- What the validator asks of an enabled block. -/
structure FanHealthRules (cfg : FanHealthCfg) : Prop where
  enabled : cfg.enable ≠ 0
  tolerance : cfg.stableRpmTolerancePct ≤ 100
  two_le : 2 ≤ cfg.baselineCount
  le_max : cfg.baselineCount ≤ maxFanHealthPoints
  ascending : ∀ k < cfg.baselineCount, 0 < k → (cfg.baseline.slot (k - 1)).x < (cfg.baseline.slot k).x
  duty : ∀ k < cfg.baselineCount, 0 ≤ (cfg.baseline.slot k).x ∧ (cfg.baseline.slot k).x ≤ 255
  rpm : ∀ k < cfg.baselineCount, 1 ≤ (cfg.baseline.slot k).value0 ∧ (cfg.baseline.slot k).value0 ≤ 65535
  minPoints : 0 < cfg.minPointsObserved

/-- What an enabled block of an accepted configuration satisfies. -/
theorem fanHealthRules {ac : ActuatorCfg} (hv : validateFanHealthSlot cfg ac = .ok ())
    (hen : cfg.enable ≠ 0) : FanHealthRules cfg := by
  unfold validateFanHealthSlot at hv
  rw [if_neg hen] at hv
  simp only [Check.bind_eq_ok, Check.each_eq_ok, Check.failIf_eq_ok, Check.ite_ok_eq_ok] at hv
  obtain ⟨-, htolerance, hcount, -, hpoints, -, -, hmin⟩ := hv
  refine ⟨hen, by omega, by omega, by omega, fun k hk hpos => ?_, fun k hk => ?_, fun k hk => ?_, by omega⟩
  · have hprev := ((hpoints k hk).2.2 hpos).1
    omega
  · have hduty := (hpoints k hk).1
    omega
  · have hrpm := (hpoints k hk).2.1
    omega

/-- The nearest point is one of the baseline. -/
theorem nearestPoint_lt_count (h : FanHealthRules cfg) (pwm : Nat) :
    nearestPoint cfg pwm < cfg.baselineCount := by
  have hpos := h.two_le
  unfold nearestPoint
  refine Loop.fold_induct (fun _ (acc : Nat × Int) => acc.1 < cfg.baselineCount) (by dsimp only; omega) ?_
  intro i acc hi hacc
  dsimp only
  split
  · exact hi
  · exact hacc

/-- A reading is of a baseline point, and clamped. -/
theorem steadyReading_mem (h : FanHealthRules cfg) {pwm rpm : Nat} {r : DriftReading}
    (hr : steadyReading cfg pwm rpm = some r) :
    r.point < cfg.baselineCount ∧ -127 ≤ r.delta ∧ r.delta ≤ 127 := by
  unfold steadyReading at hr
  dsimp only at hr
  split at hr
  · cases hr
  · obtain rfl := Option.some.inj hr
    exact ⟨nearestPoint_lt_count h pwm, driftPct_mem _ _⟩

/-- A window's reading is at a baseline point, its drift in `int8_t`. -/
theorem windowReading_mem (h : FanHealthRules cfg) {s : FanHealthState} {pwm rpm : Nat}
    {r : DriftReading} (hr : windowReading s cfg pwm rpm = some r) :
    r.point < cfg.baselineCount ∧ -127 ≤ r.delta ∧ r.delta ≤ 127 := by
  unfold windowReading at hr
  simp only [Option.ite_none_left_eq_some] at hr
  exact steadyReading_mem h hr.2.2.2

/-- A tick's reading is at a baseline point, its drift in `int8_t`. -/
theorem fanHealthReading_mem (h : FanHealthRules cfg) {s : FanHealthState} {i : FanHealthInput}
    {r : DriftReading} (hr : fanHealthReading s cfg i = some r) :
    r.point < cfg.baselineCount ∧ -127 ≤ r.delta ∧ r.delta ≤ 127 := by
  unfold fanHealthReading at hr
  simp only [Option.ite_none_left_eq_some] at hr
  exact windowReading_mem h hr.2.2

/-- **One call** keeps the invariant with its reading. -/
theorem FanHealthInv.call (h : FanHealthRules cfg) {rs : List DriftReading} {s : FanHealthState}
    (hs : FanHealthInv cfg rs s) (i : FanHealthInput) :
    FanHealthInv cfg (rs ++ (fanHealthCall cfg s i).2.toList) (fanHealthCall cfg s i).1 := by
  obtain ⟨w, hsame, hw, hstep⟩ := thermalFanHealthStep_cases cfg hs.window i
  have hread : (fanHealthCall cfg s i).2 = fanHealthReading s cfg i := rfl
  rw [hstep, hread]
  cases hr : fanHealthReading s cfg i with
  | none => simpa using hs.of_same hsame hw
  | some r =>
      obtain ⟨hpoint, hdelta⟩ := fanHealthReading_mem h hr
      exact (hs.of_same hsame hw).fold h.le_max hpoint hdelta

/-- The readings along a run. -/
def fanHealthReadings (cfg : FanHealthCfg) (is : List FanHealthInput) : List DriftReading :=
  (outputs (fanHealthCall cfg) thermalFanHealthReset is).reduceOption

/-- The estimator behind a run of calls. -/
def fanHealthAfter (cfg : FanHealthCfg) (is : List FanHealthInput) : FanHealthState :=
  after (fanHealthCall cfg) thermalFanHealthReset is

/-- **Every run** keeps the invariant with its readings. -/
theorem fanHealthInv_after (h : FanHealthRules cfg) (is : List FanHealthInput) :
    FanHealthInv cfg (fanHealthReadings cfg is) (fanHealthAfter cfg is) := by
  induction is using List.reverseRecOn with
  | nil => exact fanHealthInv_reset h.minPoints
  | append_singleton is i ih =>
      have hcall := ih.call h i
      unfold fanHealthReadings fanHealthAfter at hcall ⊢
      rwa [outputs_concat, after_concat, List.reduceOption_append, List.reduceOption_singleton]

end run

/-! ## Nothing leaves its type -/

/-- Every operation of `div_round_half_away` in `int32_t`. -/
structure DivRoundFits (num den : Int) : Prop where
  divisor : 0 < den
  doubled : IsI32 (2 * num)
  twice : IsI32 (2 * den)
  dividend : IsI32 (if num ≥ 0 then 2 * num + den else 2 * num - den)

/-- Every operation of `recompute` in its type, at every turn of its loop. -/
structure RecomputeFits (s : FanHealthState) (cfg : FanHealthCfg) : Prop where
  term : ∀ p < cfg.baselineCount, s.sampleCount.slot p ≠ 0 →
    IsI32 (pointWeight cfg (s.sampleCount.slot p) p) ∧
      IsI32 (pointWeight cfg (s.sampleCount.slot p) p *
        if s.emaX256.slot p > 0 then 0 else s.emaX256.slot p)
  sums : ∀ k ≤ cfg.baselineCount,
    IsI32 (fanHealthSumsTo s cfg k).sumW ∧ IsI32 (fanHealthSumsTo s cfg k).sumWx ∧
      (fanHealthSumsTo s cfg k).conf < 2 ^ 8
  scaled : IsI32 ((fanHealthSums s cfg).sumW * 256)
  mean : 0 < (fanHealthSums s cfg).sumW →
    DivRoundFits (fanHealthSums s cfg).sumWx ((fanHealthSums s cfg).sumW * 256)
  delta : -2 ^ 15 ≤ meanDrift (fanHealthSums s cfg) ∧ meanDrift (fanHealthSums s cfg) < 2 ^ 15

/-- Every operation of a call in its type, whichever way the call goes. -/
structure FanHealthFits (cfg : FanHealthCfg) (s : FanHealthState) (i : FanHealthInput) : Prop where
  pwmMove : IsI32 ((i.appliedPwm.toNat : Int) - s.refPwm)
  rpmMove : IsI32 ((i.tachRpm.toNat : Int) - s.prevRpm)
  rpmChange : IsI32 ((((i.tachRpm.toNat : Int) - s.prevRpm).natAbs : Int) * 100)
  rpmTolerance : IsI32 ((cfg.stableRpmTolerancePct : Int) * s.prevRpm)
  interpolation : ∀ p0 p1,
    curveBracket cfg.baseline cfg.baselineCount i.appliedPwm.toNat = some (p0, p1) →
    InterpolationFits p0.x p0.value0 p1.x p1.value0 i.appliedPwm.toNat
  offset : IsI32 (((i.tachRpm.toNat : Int) -
    thermalCurveEvalY0 cfg.baseline cfg.baselineCount i.appliedPwm.toNat) * 100)
  drift : DivRoundFits (((i.tachRpm.toNat : Int) -
      thermalCurveEvalY0 cfg.baseline cfg.baselineCount i.appliedPwm.toNat) * 100)
    (thermalCurveEvalY0 cfg.baseline cfg.baselineCount i.appliedPwm.toNat)
  distance : ∀ k < cfg.baselineCount,
    IsI32 ((i.appliedPwm.toNat : Int) - (cfg.baseline.slot k).x) ∧
      IsI32 (-((i.appliedPwm.toNat : Int) - (cfg.baseline.slot k).x))
  move : ∀ r, fanHealthReading s cfg i = some r →
    IsI32 (r.delta * 256) ∧ IsI32 (r.delta * 256 - s.emaX256.slot r.point) ∧
      IsI32 (s.emaX256.slot r.point + (r.delta * 256 - s.emaX256.slot r.point).tdiv 8)
  recompute : RecomputeFits (fanHealthCall cfg s i).1 cfg

section fits

variable {cfg : FanHealthCfg} {rs : List DriftReading} {s : FanHealthState}

/-- A rounded quotient of small numbers fits its intermediate values. -/
theorem divRoundFits_of_le {num den : Int} (hden : 0 < den ∧ den ≤ 2 ^ 29)
    (hnum : -2 ^ 29 ≤ num ∧ num ≤ 2 ^ 29) : DivRoundFits num den := by
  constructor
  case divisor => exact hden.1
  case doubled =>
    unfold IsI32 i32Min i32Max
    omega
  case twice =>
    unfold IsI32 i32Min i32Max
    omega
  case dividend =>
    unfold IsI32 i32Min i32Max
    split <;> omega

/-- The mean of drifts that are at most 0 is one of them at most. -/
theorem meanDrift_mem {k : Nat} {sums : FanHealthSums} (h : SumsBounded s k sums) :
    -127 ≤ meanDrift sums ∧ meanDrift sums ≤ 0 := by
  unfold meanDrift
  by_cases hpos : sums.sumW > 0
  · rw [if_pos hpos]
    exact divRoundHalfAway_mem (by omega) h.le_sumWx h.sumWx_nonpos
  · simp [hpos]

/-- The sums of a run are bounded. -/
theorem FanHealthInv.sums (h : FanHealthInv cfg rs s) :
    SumsBounded s cfg.baselineCount (fanHealthSums s cfg) :=
  sumsBounded cfg (fun p => (h.ema_mem p).1) cfg.baselineCount

/-- So the recomputed grade stays in its types. -/
theorem FanHealthInv.recomputeFits (h : FanHealthInv cfg rs s)
    (hmax : cfg.baselineCount ≤ maxFanHealthPoints) : RecomputeFits s cfg := by
  have hall := h.sums
  have hcount : cfg.baselineCount ≤ 8 := hmax
  have hweight := hall.sumW_le
  have hnonneg := hall.sumW_nonneg
  have hlow := hall.le_sumWx
  have hhigh := hall.sumWx_nonpos
  constructor
  case term =>
    intro p _ hsampled
    obtain ⟨hw1, hw32⟩ := pointWeight_mem cfg p hsampled
    have hema := h.ema_mem p
    generalize pointWeight cfg (s.sampleCount.slot p) p = w at hw1 hw32 ⊢
    generalize hterm : (if s.emaX256.slot p > 0 then 0 else s.emaX256.slot p) = ema
    have hema0 : -127 * 256 ≤ ema ∧ ema ≤ 0 := by
      split at hterm <;> omega
    have hprod0 : w * ema ≤ 0 := Int.mul_nonpos_of_nonneg_of_nonpos (by omega) hema0.2
    have hprod1 : w * (-127 * 256) ≤ w * ema := Int.mul_le_mul_of_nonneg_left hema0.1 (by omega)
    unfold IsI32 i32Min i32Max
    omega
  case sums =>
    intro k hk
    have hsums := sumsBounded cfg (fun p => (h.ema_mem p).1) k
    have hconf : (fanHealthSumsTo s cfg k).conf ≤ (List.range k).length :=
      hsums.conf ▸ List.countP_le_length
    have hk0 := hsums.sumW_nonneg
    have hk1 := hsums.sumW_le
    have hk2 := hsums.sumWx_nonpos
    have hk3 := hsums.le_sumWx
    rw [List.length_range] at hconf
    unfold IsI32 i32Min i32Max
    omega
  case scaled =>
    unfold IsI32 i32Min i32Max
    omega
  case mean =>
    intro hpos
    exact divRoundFits_of_le (by omega) (by omega)
  case delta =>
    have hmean := meanDrift_mem hall
    omega

/-- The expected speed is one between those of the baseline. -/
theorem fanHealthExpected_mem (h : FanHealthRules cfg) (pwm : Nat) :
    (∀ p0 p1, curveBracket cfg.baseline cfg.baselineCount pwm = some (p0, p1) →
      InterpolationFits p0.x p0.value0 p1.x p1.value0 pwm) ∧
    1 ≤ thermalCurveEvalY0 cfg.baseline cfg.baselineCount pwm ∧
      thermalCurveEvalY0 cfg.baseline cfg.baselineCount pwm ≤ 65535 := by
  have hfits : ∀ p0 p1, curveBracket cfg.baseline cfg.baselineCount pwm = some (p0, p1) →
      InterpolationFits p0.x p0.value0 p1.x p1.value0 pwm := by
    intro p0 p1 hbracket
    obtain ⟨i, hi, rfl, rfl, hx, h0, h1⟩ := curveBracket_spec h.ascending hbracket
    have hx0 := h.duty i (by omega)
    have hx1 := h.duty (i + 1) hi
    have hy0 := h.rpm i (by omega)
    have hy1 := h.rpm (i + 1) hi
    rw [interpolationFits_iff hx h0 h1]
    all_goals
      unfold IsI32 i32Min i32Max
      omega
  have hexact := curveEvalAxis_eq_curveExact CurvePoint.value0 hfits
  have hpos := h.two_le
  refine ⟨hfits, ?_⟩
  unfold thermalCurveEvalY0
  rw [hexact]
  exact curveExact_mem 1 65535 (by omega) h.ascending h.rpm

/-- **Every call** computes within its types. -/
theorem FanHealthInv.fits (hrules : FanHealthRules cfg) (h : FanHealthInv cfg rs s)
    (i : FanHealthInput) : FanHealthFits cfg s i := by
  obtain ⟨hinterpolation, hexpected⟩ := fanHealthExpected_mem hrules i.appliedPwm.toNat
  have hpwm := i.appliedPwm.toNat_lt
  have hrpm := i.tachRpm.toNat_lt
  have href := h.window.refPwm
  have hprev := h.window.prevRpm
  constructor
  case pwmMove =>
    unfold IsI32 i32Min i32Max
    omega
  case rpmMove =>
    unfold IsI32 i32Min i32Max
    omega
  case rpmChange =>
    unfold IsI32 i32Min i32Max
    omega
  case rpmTolerance =>
    have htolerance : cfg.stableRpmTolerancePct * s.prevRpm ≤ 100 * 65535 :=
      Nat.mul_le_mul hrules.tolerance (by omega)
    unfold IsI32 i32Min i32Max
    omega
  case interpolation => exact hinterpolation
  case offset =>
    unfold IsI32 i32Min i32Max
    omega
  case drift => exact divRoundFits_of_le (by omega) (by omega)
  case distance =>
    intro k hk
    have hduty := hrules.duty k hk
    unfold IsI32 i32Min i32Max
    omega
  case move =>
    intro r hr
    obtain ⟨-, hdelta⟩ := fanHealthReading_mem hrules hr
    have hema := h.ema_mem r.point
    have hstep := ema_step (s.emaX256.slot r.point) (r.delta * 256)
    unfold IsI32 i32Min i32Max
    omega
  case recompute => exact (h.call hrules i).recomputeFits hrules.le_max

end fits

/-! ## Soundness -/

/-- What holds after a run from reset. -/
structure FanHealthSound (cfg : FanHealthCfg) (is : List FanHealthInput) : Prop where
  emaRange : ∀ p, -127 * 256 ≤ (fanHealthAfter cfg is).emaX256.slot p ∧
    (fanHealthAfter cfg is).emaX256.slot p ≤ 127 * 256
  emaHull : ∀ p < maxFanHealthPoints, readingsAt (fanHealthReadings cfg is) p ≠ [] →
    ∃ lo ∈ readingsAt (fanHealthReadings cfg is) p, ∃ hi ∈ readingsAt (fanHealthReadings cfg is) p,
      lo * 256 ≤ (fanHealthAfter cfg is).emaX256.slot p ∧
        (fanHealthAfter cfg is).emaX256.slot p ≤ hi * 256
  delta : -127 ≤ (fanHealthAfter cfg is).healthDeltaPct ∧ (fanHealthAfter cfg is).healthDeltaPct ≤ 0
  confidence : (fanHealthAfter cfg is).confidence =
    (List.range cfg.baselineCount).countP fun p => readingsAt (fanHealthReadings cfg is) p ≠ []
  covered : (fanHealthAfter cfg is).confidence ≤ cfg.baselineCount
  rising : ∀ js, (fanHealthAfter cfg is).confidence ≤ (fanHealthAfter cfg (is ++ js)).confidence
  severity : (fanHealthAfter cfg is).severity =
    fanHealthGrade cfg (fanHealthAfter cfg is).confidence (fanHealthAfter cfg is).healthDeltaPct
  -- the readings are those the next call folds, and all it does to the estimate
  folded : ∀ i, ∃ w, SameEstimate (fanHealthAfter cfg is) w ∧
    fanHealthAfter cfg (is ++ [i]) =
      match fanHealthReading (fanHealthAfter cfg is) cfg i with
      | some r => foldReading w cfg r
      | none => w
  fits : ∀ i, FanHealthFits cfg (fanHealthAfter cfg is) i

section soundness

variable {cfg : FanHealthCfg}

/-- The confidence counts the points with a reading. -/
theorem FanHealthInv.confidence_eq {rs : List DriftReading} {s : FanHealthState}
    (h : FanHealthInv cfg rs s) (hmax : cfg.baselineCount ≤ maxFanHealthPoints) :
    s.confidence = (List.range cfg.baselineCount).countP fun p => readingsAt rs p ≠ [] := by
  rw [h.confidence, h.sums.conf]
  refine List.countP_congr fun p hp => ?_
  have hlt : p < maxFanHealthPoints := Nat.lt_of_lt_of_le (List.mem_range.mp hp) hmax
  have hcounted := h.counted p hlt
  have hlength : readingsAt rs p = [] ↔ (readingsAt rs p).length = 0 := List.length_eq_zero_iff.symm
  simp only [decide_eq_true_eq, ne_eq, hlength]
  omega

/-- The readings of a run come first among those of a longer one. -/
theorem fanHealthReadings_append (is js : List FanHealthInput) :
    ∃ rs, fanHealthReadings cfg (is ++ js) = fanHealthReadings cfg is ++ rs := by
  have houtputs := outputs_append (fanHealthCall cfg) thermalFanHealthReset is js
  exact ⟨_, (congrArg List.reduceOption houtputs).trans (List.reduceOption_append _ _)⟩

/-- A point with readings keeps them. -/
theorem readingsAt_append_ne_nil {rs : List DriftReading} (rs' : List DriftReading) {p : Nat}
    (h : readingsAt rs p ≠ []) : readingsAt (rs ++ rs') p ≠ [] := by
  simp only [readingsAt, List.filter_append, List.map_append] at h ⊢
  simp [h]

end soundness

/-- **The estimator is sound**: on every run of a validated, enabled block from reset,
the averages stay among their readings, the published drift, confidence and grade are
those of the averages, and no operation leaves its type. -/
theorem fanHealthSound {cfg : FanHealthCfg} {ac : ActuatorCfg}
    (hv : validateFanHealthSlot cfg ac = .ok ()) (hen : cfg.enable ≠ 0) (is : List FanHealthInput) :
    FanHealthSound cfg is := by
  have hrules := fanHealthRules hv hen
  have hinv := fanHealthInv_after hrules is
  have hconfidence := hinv.confidence_eq hrules.le_max
  constructor
  case emaRange => exact hinv.ema_mem
  case emaHull => exact hinv.hull
  case delta =>
    rw [hinv.delta]
    exact meanDrift_mem hinv.sums
  case confidence => exact hconfidence
  case covered =>
    have hlength := @List.countP_le_length _ (fun p => decide (readingsAt (fanHealthReadings cfg is) p ≠ []))
      (List.range cfg.baselineCount)
    rwa [← hconfidence, List.length_range] at hlength
  case rising =>
    intro js
    obtain ⟨rs, hreadings⟩ := @fanHealthReadings_append cfg is js
    have hlater := (fanHealthInv_after hrules (is ++ js)).confidence_eq hrules.le_max
    rw [hconfidence, hlater, hreadings]
    exact List.countP_mono_left fun p _ hp =>
      decide_eq_true (readingsAt_append_ne_nil rs (of_decide_eq_true hp))
  case severity => exact hinv.severity
  case folded =>
    intro i
    obtain ⟨w, hsame, -, hstep⟩ := thermalFanHealthStep_cases cfg hinv.window i
    refine ⟨w, hsame, ?_⟩
    unfold fanHealthAfter at hstep ⊢
    rw [after_concat]
    exact hstep
  case fits => exact hinv.fits hrules

/-- A fan of 600 rpm at duty 40 and 3000 at 200, graded from one point on. -/
def twoPointFanHealth : FanHealthCfg where
  enable := 1
  baselineSource := FanBaselineSrc.factory.code
  baseline := (default : Vector CurvePoint maxFanHealthPoints).put 0 ⟨40, 600, 0⟩ |>.put 1 ⟨200, 3000, 0⟩
  baselineCount := 2
  stablePwmTicks := 1
  stablePwmTolerance := 0
  stableRpmTicks := 1
  stableRpmTolerancePct := 10
  minPointsObserved := 1
  agingPct := -10
  degradedPct := -20
  failingPct := -30

/-- Two ticks at duty 100, where 1500 rpm are expected, with 1200. -/
theorem fanHealthSound_twoPoint :
    let is : List FanHealthInput := [⟨100, 1200, 1, false, false, 0⟩, ⟨100, 1200, 1, false, false, 0⟩]
    FanHealthSound twoPointFanHealth is ∧
      (fanHealthAfter twoPointFanHealth is).severity = .degraded :=
  ⟨@fanHealthSound twoPointFanHealth default (by decide +kernel) (by decide) _, by decide +kernel⟩

end ThermalCore
