import ThermalCore.Dwell
import ThermalCore.DutyEnvelope

/-!
# The modifier's cap at the output

The cap is applied to the request right after arbitration.  Dwell and the slew
limiter keep a duty at or below it there; the clamp does not, since it raises
every nonzero request to `pwm_min`, and a curve whose points are legal caps takes
values between them that are not.

The severity that lifts the cap is read off the trips.  `pwm_cap_honoured_iff` is exact:
a cap that nothing opposes bounds the duty if and only if it is 0, or at least
`pwm_min`, or there is no request to cap.
-/

namespace ThermalCore

open MachineInt Check

/-! ## Severity from above -/

section severity

variable {cfg : Config} {core : Core} {a bound : Nat}

theorem zoneMaxSeverity_lt {zr : ZoneRuntime} {zc : ZoneCfg} (hbound : 0 < bound)
    (h : ∀ t < zc.tripCount, zr.activeTripMask.testBit t = true → (zc.trips.slot t).severity < bound) :
    zoneMaxSeverity zr zc < bound := by
  refine Loop.fold_induct (fun _ s => s < bound) hbound fun t s ht hs => ?_
  grind

theorem actuatorMaxSeverity_lt (hbound : 0 < bound)
    (h : ∀ z < cfg.zoneCount,
      (cfg.zones.slot z).refsActuator (cfg.actuators.slot a).id = true →
      zoneMaxSeverity (core.zones.slot z) (cfg.zones.slot z) < bound) :
    actuatorMaxSeverity cfg core a < bound := by
  refine Loop.fold_induct (fun _ s => s < bound) hbound fun z s hz hs => ?_
  grind

end severity

/-! ## A capped request -/

/-- The modifier is active with the cap stage and evaluates to `c`, as the step's
core has it. -/
structure CapInForce (cfg : Config) (core : Core) (c : Int) : Prop where
  configured : 0 < cfg.modifierCount
  stage : (cfg.modifiers.slot 0).hasStage .postGovernorPwmCap = true
  active : (core.modifiers.slot 0).active = true
  value : (core.modifiers.slot 0).pwmCap = c

/-- On a step to `next` nothing overrides a cap of `c` on actuator `a`: no zone that
references it has an active CRITICAL or SHUTDOWN trip, no detector responds for
it, no boost is applied, and its duty is not above the cap already. -/
structure CapUnopposed (cfg : Config) (cb : Callbacks) (inp : InputSnapshot) (core next : Core)
    (a : Nat) (c : Int) : Prop where
  calm : ∀ z < cfg.zoneCount, (cfg.zones.slot z).refsActuator (cfg.actuators.slot a).id = true →
    ∀ t < (cfg.zones.slot z).tripCount, (next.zones.slot z).activeTripMask.testBit t = true →
      ((cfg.zones.slot z).trips.slot t).severity < TripSeverity.critical.code
  unforced : ¬Responds cfg next a
  unboosted : driveBoosted cfg (cfg.actuators.slot a) (core.actuators.slot a)
    (decidedTick cfg cb inp core a) = false
  below : ((core.actuators.slot a).prevDuty : Int) ≤ c

section cap

variable {cfg : Config} {cb : Callbacks} {inp : InputSnapshot} {core : Core} {out : OutputFrame}
  {a : Nat} {c : Int}

/-- A cap below `pwm_max` bounds the request. -/
theorem capTick_le {t : ActuatorTick} {sev : Nat} (hcap : CapInForce cfg core c) (h0 : 0 ≤ c)
    {ac : ActuatorCfg} (hmax : c < ac.pwmMax) (hsev : sev < TripSeverity.critical.code) :
    ((capTick sev (pwmCapFor cfg core ac) t).arbPwm : Int) ≤ c := by
  have hsome : pwmCapFor cfg core ac = some (toU8 c) := by
    have hvalue := hcap.value
    unfold pwmCapFor
    dsimp only
    rw [if_pos ⟨hcap.configured, hcap.active, hcap.stage, by omega, by omega⟩, hvalue]
  have hle : ((toU8 c : Nat) : Int) ≤ c := by
    unfold toU8
    omega
  unfold capTick
  grind

/-- What dwell leaves of a capped request is capped. -/
theorem dwellRequest_le {ac : ActuatorCfg} {ar : ActuatorRuntime} {t : ActuatorTick}
    (hprev : (ar.prevDuty : Int) ≤ c) (hreq : (t.arbPwm : Int) ≤ c) :
    (dwellRequest ac ar t : Int) ≤ c := by
  unfold dwellRequest
  grind

/-- **The path below a cap**: without a boost, a capped request over a capped duty
comes out capped unless the clamp raises it to `pwm_min`. -/
theorem finalPwm_le_iff {ac : ActuatorCfg} {ar : ActuatorRuntime} {t : ActuatorTick}
    (hmin : ac.pwmMin ≤ ac.pwmMax) (hprev : (ar.prevDuty : Int) ≤ c) (hreq : (t.arbPwm : Int) ≤ c)
    (hboost : driveBoosted cfg ac ar t = false) :
    (finalPwm cfg ac ar t : Int) ≤ c ↔ c = 0 ∨ (ac.pwmMin : Int) ≤ c ∨ dwellRequest ac ar t = 0 := by
  have hrequest : driveRequest cfg ac ar t = dwellRequest ac ar t := by
    unfold driveBoosted at hboost
    unfold driveRequest
    dsimp only at hboost ⊢
    rw [hboost]
    exact if_neg Bool.false_ne_true
  have hdwell : (dwellRequest ac ar t : Int) ≤ c := dwellRequest_le hprev hreq
  have hslew : (driveSlew cfg ac ar t).newDuty ≤ max ar.prevDuty (dwellRequest ac ar t) := by
    unfold driveSlew
    rw [hrequest]
    exact thermalSlewStep_le_max
  unfold finalPwm
  rw [hrequest]
  by_cases hzero : dwellRequest ac ar t = 0
  · have hoff : finalClamp ac 0 (driveSlew cfg ac ar t).newDuty ≤ (driveSlew cfg ac ar t).newDuty := by
      unfold finalClamp
      grind
    rw [hzero] at *
    omega
  · have hpos : 0 < (driveSlew cfg ac ar t).newDuty := by
      unfold driveSlew
      rw [hrequest]
      exact thermalSlewStep_pos (Nat.pos_of_ne_zero hzero)
    by_cases hlow : (driveSlew cfg ac ar t).newDuty < ac.pwmMin
    · rw [finalClamp_raised hmin hzero (Nat.ne_of_gt hpos) hlow]
      omega
    · have hclamp : finalClamp ac (dwellRequest ac ar t) (driveSlew cfg ac ar t).newDuty ≤
          (driveSlew cfg ac ar t).newDuty := by
        unfold finalClamp
        grind
      omega

/-- **The cap, exactly**: an unopposed cap bounds the duty written if and only if it
is 0, or at least `pwm_min`, or there is no request to cap. -/
theorem pwm_cap_honoured_iff (hacc : Accepted cfg)
    (hin : (thermalCoreStep cfg cb core inp out).status = .ok) (ha : a < cfg.actuatorCount)
    (hcap : CapInForce cfg (thermalCoreStep cfg cb core inp out).core c)
    (hfree : CapUnopposed cfg cb inp core (thermalCoreStep cfg cb core inp out).core a c) :
    (((thermalCoreStep cfg cb core inp out).out.actuatorCmds.slot a).duty : Int) ≤ c ↔
      c = 0 ∨ ((cfg.actuators.slot a).pwmMin : Int) ≤ c ∨
        dwellRequest (cfg.actuators.slot a) (core.actuators.slot a)
          (decidedTick cfg cb inp core a) = 0 := by
  have hr : ConfigRules cfg := (accepted_iff cfg).mp hacc
  have hadm := thermalCoreStep_status_iff.mp hin
  have hmin := (hr.actuator ha).minMax
  have hbelow := hfree.below
  rw [step_duty hr hadm ha]
  rw [thermalCoreStep_accepted hadm] at hcap hfree
  by_cases hmax : c < (cfg.actuators.slot a).pwmMax
  · have hsev : actuatorMaxSeverity cfg (passDone cfg cb inp core).core a <
        TripSeverity.critical.code :=
      actuatorMaxSeverity_lt (by decide) fun z hz href =>
        zoneMaxSeverity_lt (by decide) (hfree.calm z hz href)
    have hforce : (decidedTick cfg cb inp core a).forcePwmMax = false := by
      rw [← Bool.not_eq_true, decided_forcePwmMax hr ha, not_or]
      exact ⟨fun h => absurd (Nat.le_trans (by decide) h) (Nat.not_le.mpr hsev), hfree.unforced⟩
    have hreq : ((decidedTick cfg cb inp core a).arbPwm : Int) ≤ c := by
      rw [decided_arbPwm hr.actuatorCount_le ha, hforce, if_neg Bool.false_ne_true]
      exact capTick_le hcap (by omega) hmax hsev
    exact finalPwm_le_iff hmin hfree.below hreq hfree.unboosted
  · have hle : finalPwm cfg (cfg.actuators.slot a) (core.actuators.slot a)
        (decidedTick cfg cb inp core a) ≤ (cfg.actuators.slot a).pwmMax := finalClamp_le _ _ _
    omega

end cap

/-! ## A cap between two legal points -/

/-- The fan without boost and slew limit, under a curve that stops it at standstill
and allows 100 at speed 100. -/
def cappedFanConfig : Config :=
  { oneFanConfig with
    actuators := #v[{ fanActuator with slewPerTick := 0, spinupMs := 0 }, default]
    contexts := (default : Vector ContextCfg maxContextSignals).put 0
      { (default : ContextCfg) with
        id := 9, unit := ContextUnit.kmh.code, iirAlphaQ16 := q16One, timeoutMs := 5000
        failSafe := ContextFailsafe.assumeStationary.code }
    contextCount := 1
    modifiers := #v[{ (default : ModifierCfg) with
      name := (default : Name).forSlots acousticMask.length fun i _ => acousticMask.getD i 0
      contextId := 9, stages := 2, failSafe := ContextFailsafe.assumeStationary.code
      curve := (default : Vector CurvePoint maxCurvePoints).put 0 ⟨0, 0, 0⟩ |>.put 1 ⟨100, 100, 0⟩
      curveCount := 2 }, default]
    modifierCount := 1 }

theorem accepted_cappedFanConfig : Accepted cappedFanConfig := by decide +kernel

/-- 55 °C at the given speed. -/
def cappedInput (speed : Int) : InputSnapshot :=
  snapshotOf 0 [⟨1, SampleKind.tempMc.code, 1, 55000⟩, ⟨9, SampleKind.contextI32.code, 1, speed⟩]

/-- The first step on it. -/
def cappedStep (speed : Int) : StepResult :=
  thermalCoreStep cappedFanConfig ⟨false, false⟩ (initCore cappedFanConfig) (cappedInput speed)
    default

/-- No detector is enabled, so none responds. -/
theorem cappedFan_unforced (core : Core) : ¬Responds cappedFanConfig core 0 := by
  have hquiet (state : FaultState) (b : Bool) :
      enabledResponse cappedFanConfig.faults.stallDefaults state b = .none ∧
        enabledResponse cappedFanConfig.faults.runawayDefaults state b = .none ∧
        enabledResponse cappedFanConfig.faults.staleContextDefaults state b = .none ∧
        enabledResponse cappedFanConfig.faults.stuckSensorDefaults state b = .none :=
    ⟨rfl, rfl, rfl, rfl⟩
  intro h
  cases h with
  | stall h => exact h (hquiet _ _).1
  | runaway z hz href h => exact h (hquiet _ _).2.1
  | staleContext c hc h => exact h (hquiet _ _).2.2.1
  | stuckSensor s z hs hz hlist href h => exact h (hquiet _ _).2.2.2

/-- At speed 30 the cap is 30: the fan stands still, is asked for 60, and is driven
at its `pwm_min` of 40. -/
theorem pwm_cap_missed :
    Accepted cappedFanConfig ∧ (cappedStep 30).status = .ok ∧
      CapInForce cappedFanConfig (cappedStep 30).core 30 ∧
      CapUnopposed cappedFanConfig ⟨false, false⟩ (cappedInput 30) (initCore cappedFanConfig)
        (cappedStep 30).core 0 30 ∧
      ((cappedStep 30).out.actuatorCmds.slot 0).duty = 40 ∧
      ¬(((cappedStep 30).out.actuatorCmds.slot 0).duty : Int) ≤ 30 :=
  ⟨accepted_cappedFanConfig, by decide +kernel,
    ⟨by decide, by decide, by decide +kernel, by decide +kernel⟩,
    ⟨by decide +kernel, cappedFan_unforced _, by decide +kernel, by decide⟩,
    by decide +kernel, by decide +kernel⟩

/-- At speed 50 the cap of 50 is kept. -/
theorem pwm_cap_honoured_at_50 : (((cappedStep 50).out.actuatorCmds.slot 0).duty : Int) ≤ 50 :=
  (pwm_cap_honoured_iff accepted_cappedFanConfig (by decide +kernel) (by decide)
    ⟨by decide, by decide, by decide +kernel, by decide +kernel⟩
    ⟨by decide +kernel, cappedFan_unforced _, by decide +kernel, by decide⟩).mpr (by decide +kernel)

end ThermalCore
