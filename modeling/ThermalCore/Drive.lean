import ThermalCore.Detect

/-!
# Control loop, step 10: dwell, spin-up, slew, clamp

What turns an actuator's request into the duty that is written: the
anti-short-cycle dwell, the spin-up boost, the slew limiter
(`core/thermal_slew.c`), the final clamp and the reason code.

One actuator's path is a chain of small functions, and `driveActuator` is the chain.
The stage applies it to each actuator by itself: no actuator's duty depends on another.
-/

namespace ThermalCore

open MachineInt

/-! ## thermal_slew.c -/

structure SlewResult where
  newDuty : Nat
  slewLimited : Bool
deriving DecidableEq

/-- The sums cannot leave `uint8_t`: they lie between the two duties. -/
def thermalSlewStep (prevDuty requestedDuty slewPerTick : Nat) (safetyOverrideUp : Bool) :
    SlewResult :=
  if safetyOverrideUp = true ∧ requestedDuty > prevDuty then ⟨requestedDuty, false⟩
  else if slewPerTick = 0 then ⟨requestedDuty, false⟩
  else
    let delta : Int := requestedDuty - prevDuty
    if delta > slewPerTick then ⟨prevDuty + slewPerTick, true⟩
    else if delta < -(slewPerTick : Int) then ⟨prevDuty - slewPerTick, true⟩
    else ⟨requestedDuty, false⟩

/-! ## Dwell -/

/-- `safety_bypass_dwell`. -/
def ActuatorTick.safetyBypassDwell (t : ActuatorTick) : Bool :=
  t.slewOverrideUp || t.forcePwmMax || t.shutdownAction

/-- The start of an actuator is held back: it has been off too briefly. -/
def dwellHoldsOff (ac : ActuatorCfg) (ar : ActuatorRuntime) (t : ActuatorTick) : Bool :=
  !t.safetyBypassDwell && decide (t.arbPwm > 0) && decide (ar.prevDuty = 0) &&
    decide (ar.offTicks < ac.minOffTicks)

/-- The stop of an actuator is held back: it has been on too briefly. -/
def dwellHoldsOn (ac : ActuatorCfg) (ar : ActuatorRuntime) (t : ActuatorTick) : Bool :=
  !t.safetyBypassDwell && decide (t.arbPwm = 0) && decide (ar.prevDuty > 0) &&
    decide (ar.onTicks < ac.minOnTicks)

/-- The request after dwell. -/
def dwellRequest (ac : ActuatorCfg) (ar : ActuatorRuntime) (t : ActuatorTick) : Nat :=
  if dwellHoldsOff ac ar t then 0
  else if dwellHoldsOn ac ar t then ar.prevDuty
  else t.arbPwm

/-! ## Spin-up -/

/-- `actuator_spinup_remaining[a]` once the tick has armed it. -/
def spinupArmed (cfg : Config) (ac : ActuatorCfg) (ar : ActuatorRuntime) (request : Nat) : Nat :=
  if request = 0 then 0
  else if ac.spinupMs > 0 ∧ spinupTicks cfg ac > 0 ∧ ar.prevDuty = 0 ∧ ar.spinupRemaining = 0 then
    spinupTicks cfg ac
  else ar.spinupRemaining

/-- `spinup_applied`: the boost exceeds the request. -/
def spinupApplied (ac : ActuatorCfg) (armed request : Nat) : Bool :=
  decide (request ≠ 0) && decide (armed > 0) && decide (ac.spinupPwm > request)

/-! ## Clamp -/

/-- Off commands stay 0 and ramp down below `pwm_min`; other requests are kept
inside `[pwm_min, pwm_max]`. -/
def finalClamp (ac : ActuatorCfg) (requestedPwm newDuty : Nat) : Nat :=
  let pwm := if newDuty ≠ 0 ∧ requestedPwm ≠ 0 ∧ newDuty < ac.pwmMin then ac.pwmMin else newDuty
  if pwm > ac.pwmMax then ac.pwmMax else pwm

/-! ## Reason -/

/-- The zone loop that picks the governor reason; it stops at the first PID zone.
The accumulator is the reason and whether the loop has stopped. -/
def governorReason (cfg : Config) (ac : ActuatorCfg) : ActuatorReason :=
  (Loop.fold cfg.zoneCount (ActuatorReason.governorStep, false) fun acc z =>
    let zc := cfg.zones.slot z
    if acc.2 then acc
    else if zc.refsActuator ac.id then
      match governorOpsFor zc.governor with
      | none => acc
      | some ops => (ops.reason, ops.supportsPidCommands)
    else acc).1

def actuatorReason (cfg : Config) (ac : ActuatorCfg) (t : ActuatorTick) (dwellApplied : Bool)
    (spinupApplied : Bool) (finalPwm : Nat) : ActuatorReason :=
  let reason :=
    if finalPwm > 0 then
      if t.modifierCapApplied then .modifierAcousticCap else governorReason cfg ac
    else .none
  let reason := if spinupApplied = true ∧ finalPwm > 0 then .spinup else reason
  let reason := if dwellApplied then .dwell else reason
  let reason := if t.causeStall then .faultStall else reason
  let reason := if t.causeStuck then .faultStuckSensor else reason
  let reason := if t.causeRunaway then .faultRunaway else reason
  let reason := if t.causeStale then .faultStaleContext else reason
  if t.maxZoneSev ≥ TripSeverity.shutdown.code ∨ t.shutdownAction = true then .safetyShutdown
  else reason

/-! ## One actuator -/

/-- The request the slew limiter receives: after dwell and spin-up. -/
def driveRequest (cfg : Config) (ac : ActuatorCfg) (ar : ActuatorRuntime) (t : ActuatorTick) : Nat :=
  let request := dwellRequest ac ar t
  if spinupApplied ac (spinupArmed cfg ac ar request) request then ac.spinupPwm else request

/-- The boost is in force on this tick. -/
def driveBoosted (cfg : Config) (ac : ActuatorCfg) (ar : ActuatorRuntime) (t : ActuatorTick) : Bool :=
  let request := dwellRequest ac ar t
  spinupApplied ac (spinupArmed cfg ac ar request) request

def driveSlew (cfg : Config) (ac : ActuatorCfg) (ar : ActuatorRuntime) (t : ActuatorTick) :
    SlewResult :=
  thermalSlewStep ar.prevDuty (driveRequest cfg ac ar t) ac.slewPerTick
    (t.slewOverrideUp || driveBoosted cfg ac ar t)

/-- The duty written for an actuator. -/
def finalPwm (cfg : Config) (ac : ActuatorCfg) (ar : ActuatorRuntime) (t : ActuatorTick) : Nat :=
  finalClamp ac (driveRequest cfg ac ar t) (driveSlew cfg ac ar t).newDuty

def finalReason (cfg : Config) (ac : ActuatorCfg) (ar : ActuatorRuntime) (t : ActuatorTick) :
    ActuatorReason :=
  actuatorReason cfg ac t (dwellHoldsOff ac ar t || dwellHoldsOn ac ar t) (driveBoosted cfg ac ar t)
    (finalPwm cfg ac ar t)

/-- `if (n < 0xFFFF) n++`. -/
def tickUp (n : Nat) : Nat := if n < 0xFFFF then n + 1 else n

/-- An actuator's record after the drive stage. -/
def driveActuator (cfg : Config) (ac : ActuatorCfg) (t : ActuatorTick) (ar : ActuatorRuntime) :
    ActuatorRuntime :=
  let duty := finalPwm cfg ac ar t
  { ar with
    prevDuty := duty
    prevSlewLimited := (driveSlew cfg ac ar t).slewLimited
    prevReason := finalReason cfg ac ar t
    prevSafetyOverride := t.slewOverrideUp
    spinupRemaining := spinupArmed cfg ac ar (dwellRequest ac ar t) - 1
    onTicks := if duty > 0 then tickUp ar.onTicks else 0
    offTicks := if duty > 0 then 0 else tickUp ar.offTicks }

/-! ## The stage -/

def step10Drive (cfg : Config) (p : Pass) : Pass :=
  { p with
    core := { p.core with
      actuators := p.core.actuators.forSlots cfg.actuatorCount fun a ar =>
        driveActuator cfg (cfg.actuators.slot a) (p.ticks.slot a) ar } }

/-- The output frame the stage writes; entries past the actuator count keep what
the caller had there. -/
def outputFrame (cfg : Config) (p : Pass) (out : OutputFrame) : OutputFrame :=
  { actuatorCmds := out.actuatorCmds.forSlots cfg.actuatorCount fun a _ =>
      let ac := cfg.actuators.slot a
      let ar := p.core.actuators.slot a
      let t := p.ticks.slot a
      ⟨ac.id, finalPwm cfg ac ar t, finalReason cfg ac ar t⟩
    actuatorCmdCount := cfg.actuatorCount }

end ThermalCore
