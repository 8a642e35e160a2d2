import ThermalCore.Curve

/-!
# Fan-health estimator

`core/thermal_fan_health.c`: compares the tach of a steadily driven fan with a
PWM-to-RPM baseline and grades the drift.  It produces telemetry only.

A reading is taken when duty and speed have both been steady for their numbers of ticks,
and is folded into the nearest baseline point by an exponential mean that is kept in
1/256 percent.  The weighted mean over the points observed is the drift; the drift and
the number of those points give the grade.
-/

namespace ThermalCore

open MachineInt

inductive FanHealthSeverity where
  | healthy
  | aging
  | degraded
  | failing
deriving DecidableEq, Inhabited

@[simp] def FanHealthSeverity.code : FanHealthSeverity → Nat
  | .healthy => 0
  | .aging => 1
  | .degraded => 2
  | .failing => 3

/-- Baseline provenance; `none` is reported for a disabled slot only. -/
inductive FanBaselineSrc where
  | field
  | factory
  | model
  | none
deriving DecidableEq

@[simp] def FanBaselineSrc.code : FanBaselineSrc → Nat
  | .field => 0
  | .factory => 1
  | .model => 2
  | .none => 3

structure FanHealthState where
  haveRef : Bool
  refPwm : Nat
  pwmRun : Nat
  prevRpm : Nat
  rpmRun : Nat
  prevPwmLow : Bool
  spinupRemaining : Nat
  prevOverride : Bool
  emaX256 : Vector Int maxFanHealthPoints
  sampleCount : Vector Nat maxFanHealthPoints
  healthDeltaPct : Int
  severity : FanHealthSeverity
  confidence : Nat
deriving DecidableEq, Inhabited

def thermalFanHealthReset : FanHealthState :=
  { haveRef := false, refPwm := 0, pwmRun := 0, prevRpm := 0, rpmRun := 0, prevPwmLow := true,
    spinupRemaining := 0, prevOverride := false, emaX256 := .replicate _ 0,
    sampleCount := .replicate _ 0, healthDeltaPct := 0, severity := .healthy, confidence := 0 }

/-- `num / den` to the nearest integer, halves away from zero. -/
def divRoundHalfAway (num den : Int) : Int :=
  if num ≥ 0 then (2 * num + den).tdiv (2 * den) else (2 * num - den).tdiv (2 * den)

/-- Baseline point whose PWM is closest; ties go to the lower index.  The
accumulator is the best index and its distance, `-1` before the first point. -/
def nearestPoint (cfg : FanHealthCfg) (pwm : Nat) : Nat :=
  (Loop.fold cfg.baselineCount ((0, -1) : Nat × Int) fun acc i =>
    let d := ((pwm : Int) - (cfg.baseline.slot i).x).natAbs
    if acc.2 < 0 ∨ (d : Int) < acc.2 then (i, (d : Int)) else acc).1

/-- Weight of a baseline point: its sample count up to 16, doubled for interior
points. -/
def pointWeight (cfg : FanHealthCfg) (samples p : Nat) : Int :=
  let sc := if samples > 16 then 16 else samples
  sc * (if p = 0 ∨ p = cfg.baselineCount - 1 then 1 else 2)

/-- The sums over observed points: weighted drift, weight, and coverage. -/
structure FanHealthSums where
  sumWx : Int
  sumW : Int
  conf : Nat

def fanHealthSums (s : FanHealthState) (cfg : FanHealthCfg) : FanHealthSums :=
  Loop.fold cfg.baselineCount ⟨0, 0, 0⟩ fun acc p =>
    if s.sampleCount.slot p = 0 then acc
    else
      let w := pointWeight cfg (s.sampleCount.slot p) p
      let ema := if s.emaX256.slot p > 0 then 0 else s.emaX256.slot p
      ⟨acc.sumWx + w * ema, acc.sumW + w, acc.conf + 1⟩

/-- The grade the thresholds assign to a drift at a coverage. -/
def fanHealthGrade (cfg : FanHealthCfg) (confidence : Nat) (delta : Int) : FanHealthSeverity :=
  if confidence < cfg.minPointsObserved then .healthy
  else if delta ≤ cfg.failingPct then .failing
  else if delta ≤ cfg.degradedPct then .degraded
  else if cfg.baselineSource ≠ FanBaselineSrc.model.code ∧ delta ≤ cfg.agingPct then .aging
  else .healthy

/-- Re-derive the published outputs from the per-point accumulators. -/
def fanHealthRecompute (s : FanHealthState) (cfg : FanHealthCfg) : FanHealthState :=
  let sums := fanHealthSums s cfg
  let delta := if sums.sumW > 0 then divRoundHalfAway sums.sumWx (sums.sumW * 256) else 0
  { s with
    confidence := sums.conf
    healthDeltaPct := delta
    severity := fanHealthGrade cfg sums.conf delta }

/-- Fold one steady reading into the nearest baseline point. -/
def fanHealthFold (s : FanHealthState) (cfg : FanHealthCfg) (appliedPwm tachRpm : Nat) :
    FanHealthState :=
  let expected := thermalCurveEvalY0 cfg.baseline cfg.baselineCount appliedPwm
  if expected ≤ 0 then s
  else
    let delta := divRoundHalfAway (((tachRpm : Int) - expected) * 100) expected
    let delta := if delta > 127 then 127 else delta
    let delta := if delta < -127 then -127 else delta
    let np := nearestPoint cfg appliedPwm
    let target := delta * 256
    let ema := s.emaX256.slot np
    let count := s.sampleCount.slot np
    fanHealthRecompute
      { s with
        emaX256 := s.emaX256.put np (if count = 0 then target else ema + (target - ema).tdiv 8)
        sampleCount := s.sampleCount.put np (if count < 0xFFFF then count + 1 else count) }
      cfg

/-- The steady window is opened at the current operating point. -/
def FanHealthState.openWindow (s : FanHealthState) (appliedPwm tachRpm : Nat) : FanHealthState :=
  { s with haveRef := true, refPwm := appliedPwm, pwmRun := 1, prevRpm := tachRpm, rpmRun := 1 }

/-- The steady-window half of a tick, past the gate. -/
def fanHealthTrack (s : FanHealthState) (cfg : FanHealthCfg) (appliedPwm tachRpm : Nat) :
    FanHealthState :=
  if !s.haveRef then s.openWindow appliedPwm tachRpm
  else if ((appliedPwm : Int) - s.refPwm).natAbs > cfg.stablePwmTolerance then
    s.openWindow appliedPwm tachRpm
  else
    let pwmRun := if s.pwmRun < 0xFFFF then s.pwmRun + 1 else s.pwmRun
    let rpmChange := ((tachRpm : Int) - s.prevRpm).natAbs
    let rpmRun :=
      if rpmChange * 100 ≤ cfg.stableRpmTolerancePct * s.prevRpm then
        if s.rpmRun < 0xFFFF then s.rpmRun + 1 else s.rpmRun
      else 1
    let s := { s with pwmRun := pwmRun, rpmRun := rpmRun, prevRpm := tachRpm }
    if s.pwmRun < cfg.stablePwmTicks ∨ s.rpmRun < cfg.stableRpmTicks then s
    else fanHealthFold s cfg appliedPwm tachRpm

def thermalFanHealthStep (s : FanHealthState) (cfg : FanHealthCfg) (appliedPwm tachRpm tachValid : Nat)
    (slewLimited faultOverride : Bool) (spinupTicks : Nat) : FanHealthState :=
  if cfg.enable = 0 ∨ cfg.baselineCount < 2 then s
  else
    let pwmMin := toU8 (cfg.baseline.slot 0).x
    let pwmLow := decide (appliedPwm < pwmMin)
    let armed := if s.prevPwmLow && !pwmLow then spinupTicks else s.spinupRemaining
    let inSpinup := decide (armed > 0)
    let overrideWindow := faultOverride || s.prevOverride
    let s := { s with
      prevPwmLow := pwmLow, spinupRemaining := armed - 1, prevOverride := faultOverride }
    if decide (tachValid = 0) || pwmLow || inSpinup || slewLimited || overrideWindow then
      { s with haveRef := false, pwmRun := 0, rpmRun := 0 }
    else fanHealthTrack s cfg appliedPwm tachRpm

end ThermalCore
