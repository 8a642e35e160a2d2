import ThermalCore.Safety

/-!
# The duty envelope and the cap

What the slew limiter and the final clamp leave of a request: bounds on the duty
written, in terms of the duty before it and the actuator's limits.  The modifier's
cap is then followed through the same path, up to the one stage that can lift a
capped request again.

The envelope is a structure of four bounds on one record.  The clamp gives the maximum,
the limiter the fall and the rise, and a duty below `pwm_min` is only met on the way to
off: it lies below the duty before it.
-/

namespace ThermalCore

open MachineInt Check

/-! ## The limiter and the clamp -/

section bounds

variable {cfg : Config} {ac : ActuatorCfg} {ar : ActuatorRuntime} {t : ActuatorTick}
  {prev req slew : Nat} {up : Bool}

/-- The limiter never falls by more than the slew limit. -/
theorem sub_le_thermalSlewStep (hslew : 0 < slew) :
    prev - slew ≤ (thermalSlewStep prev req slew up).newDuty := by
  unfold thermalSlewStep
  grind

/-- Without an override it never rises by more. -/
theorem thermalSlewStep_le_add (hslew : 0 < slew) :
    (thermalSlewStep prev req slew false).newDuty ≤ prev + slew := by
  unfold thermalSlewStep
  grind

/-- It never leaves the range between the two duties. -/
theorem thermalSlewStep_le_max : (thermalSlewStep prev req slew up).newDuty ≤ max prev req := by
  unfold thermalSlewStep
  grind

/-- Toward 0 the limiter goes down, or is there. -/
theorem thermalSlewStep_zero :
    (thermalSlewStep prev 0 slew up).newDuty = 0 ∨
      (thermalSlewStep prev 0 slew up).newDuty < prev := by
  unfold thermalSlewStep
  grind

theorem finalClamp_le_max {duty : Nat} : finalClamp ac req duty ≤ max duty ac.pwmMin := by
  unfold finalClamp
  grind

/-- A duty below `pwm_min` is on its way to 0. -/
theorem finalClamp_below (hmin : ac.pwmMin ≤ ac.pwmMax) {duty : Nat}
    (hpos : 0 < finalClamp ac req duty) (hlow : finalClamp ac req duty < ac.pwmMin) :
    req = 0 ∧ finalClamp ac req duty = duty := by
  unfold finalClamp at *
  grind

/-- A nonzero request that the limiter leaves below `pwm_min` comes out at `pwm_min`. -/
theorem finalClamp_raised (hmin : ac.pwmMin ≤ ac.pwmMax) {duty : Nat} (hreq : req ≠ 0)
    (hduty : duty ≠ 0) (hlow : duty < ac.pwmMin) : finalClamp ac req duty = ac.pwmMin := by
  unfold finalClamp
  grind

end bounds

/-! ## The envelope -/

/-- The bounds on the duty `d` written for an actuator after the duty `p`. -/
structure DutyEnvelope (cfg : Config) (ac : ActuatorCfg) (ar : ActuatorRuntime) (t : ActuatorTick)
    (p d : Nat) : Prop where
  le_max : d ≤ ac.pwmMax
  /-- A slew limit bounds every fall. -/
  fall : 0 < ac.slewPerTick → p - ac.slewPerTick ≤ d
  /-- A rise above it and above `pwm_min` takes an override or a boost. -/
  rise : 0 < ac.slewPerTick → max (p + ac.slewPerTick) ac.pwmMin < d →
    t.slewOverrideUp = true ∨ driveBoosted cfg ac ar t = true
  /-- A duty below `pwm_min` is a ramp toward off. -/
  ramp : 0 < d → d < ac.pwmMin → d < p

section envelope

variable {cfg : Config} {cb : Callbacks} {inp : InputSnapshot} {core : Core} {out : OutputFrame}
  {a : Nat}

/-- The drive stage keeps the envelope on every record it can meet. -/
theorem finalPwm_envelope {ac : ActuatorCfg} {ar : ActuatorRuntime} (hrules : ActuatorRules ac)
    (hinv : ActuatorInv ac ar) (t : ActuatorTick) :
    DutyEnvelope cfg ac ar t ar.prevDuty (finalPwm cfg ac ar t) where
  le_max := finalClamp_le _ _ _
  fall hslew := by
    have hdown : ar.prevDuty - ac.slewPerTick ≤ (driveSlew cfg ac ar t).newDuty :=
      sub_le_thermalSlewStep hslew
    have hmax := hinv.duty_le
    exact le_finalClamp hdown (by omega)
  rise hslew hjump := by
    by_contra hno
    rw [not_or, Bool.not_eq_true, Bool.not_eq_true] at hno
    have hup : (driveSlew cfg ac ar t).newDuty ≤ ar.prevDuty + ac.slewPerTick := by
      unfold driveSlew
      rw [hno.1, hno.2]
      exact thermalSlewStep_le_add hslew
    have hclamp : finalPwm cfg ac ar t ≤ max (driveSlew cfg ac ar t).newDuty ac.pwmMin :=
      finalClamp_le_max
    omega
  ramp hpos hlow := by
    obtain ⟨hreq, hduty⟩ := finalClamp_below hrules.minMax hpos hlow
    have hramp : (driveSlew cfg ac ar t).newDuty = 0 ∨
        (driveSlew cfg ac ar t).newDuty < ar.prevDuty := by
      unfold driveSlew
      rw [hreq]
      exact thermalSlewStep_zero
    have hfinal : finalPwm cfg ac ar t = (driveSlew cfg ac ar t).newDuty := hduty
    omega

/-- **The duty envelope**, for every actuator on every accepted step of every
reachable state. -/
theorem duty_envelope (hacc : Accepted cfg) (hreach : Reachable cfg cb core)
    (hin : (thermalCoreStep cfg cb core inp out).status = .ok) (ha : a < cfg.actuatorCount) :
    DutyEnvelope cfg (cfg.actuators.slot a) (core.actuators.slot a) (decidedTick cfg cb inp core a)
      (core.actuators.slot a).prevDuty
      ((thermalCoreStep cfg cb core inp out).out.actuatorCmds.slot a).duty := by
  have hr : ConfigRules cfg := (accepted_iff cfg).mp hacc
  rw [step_duty hr (thermalCoreStep_status_iff.mp hin) ha]
  exact finalPwm_envelope (hr.actuator ha) (reachable_actuatorInv hr hreach ha) _

/-- A first warm tick of the one-fan configuration. -/
theorem duty_envelope_oneFan :
    DutyEnvelope oneFanConfig (oneFanConfig.actuators.slot 0)
      ((initCore oneFanConfig).actuators.slot 0)
      (decidedTick oneFanConfig ⟨false, false⟩ (tempSnapshot 0 1 55000) (initCore oneFanConfig) 0)
      ((initCore oneFanConfig).actuators.slot 0).prevDuty
      ((thermalCoreStep oneFanConfig ⟨false, false⟩ (initCore oneFanConfig) (tempSnapshot 0 1 55000)
        default).out.actuatorCmds.slot 0).duty :=
  duty_envelope accepted_oneFanConfig .init (by decide +kernel) (by decide)

end envelope

end ThermalCore
