import ThermalCore.Filter
import ThermalCore.Governor
import ThermalCore.Fault
import ThermalCore.FanHealth

/-!
# Runtime state and governor dispatch

`thermal_core_internal_t` and `zone_runtime_t`, and the governor table of
`core/thermal_core.c`.  The parallel per-target arrays of the C struct
(`actuator_prev_duty[]`, `actuator_on_ticks[]`, …) are gathered into one record
per target.  The configuration and the callbacks are fixed at init, so they are
parameters of the operations and not fields of the state.
-/

namespace ThermalCore

open MachineInt

/-! ## Per-target records -/

/-- What the core keeps for a zone. -/
structure ZoneRuntime where
  tempMc : Int
  activeTripMask : Nat
  coolingState : Nat
  aggregationValid : Bool
  aggregationSeen : Bool
  sensorSlotCount : Nat
  sensorSlots : Vector Nat maxSensorsPerZone
  pid : PidState
  shadowPid : PidCfg
  shadowTrips : Vector TripCfg maxTripsPerZone
  pwmThisTick : Nat
  pidPTermQ16 : Int
  pidITermQ16 : Int
  pidDTermQ16 : Int
  pidErrorMc : Int
  effectiveSetpointMc : Int
deriving DecidableEq, Inhabited

/-- What the core keeps for a context signal. -/
structure ContextRuntime where
  filter : FilterState
  lastValidMs : Nat
  everValid : Bool
  failSafeActive : Bool
  effectiveValue : Int
deriving DecidableEq, Inhabited

/-- What the core keeps for an actuator. -/
structure ActuatorRuntime where
  prevDuty : Nat
  prevSlewLimited : Bool
  prevRequested : Nat
  prevReason : ActuatorReason
  prevSafetyOverride : Bool
  spinupRemaining : Nat
  onTicks : Nat
  offTicks : Nat
  tachRpm : Nat
  tachValid : Nat
deriving DecidableEq, Inhabited

/-- What the core keeps for a modifier. -/
structure ModifierRuntime where
  active : Bool
  pwmCap : Int
  tripOffset : Int
  shadow : ModifierCfg
deriving DecidableEq, Inhabited

/-- What the core keeps for a zone's runaway detector. -/
structure RunawayRuntime where
  detector : RunawayState
  latchedActiveTicks : Nat
  escalatedShutdown : Bool
deriving DecidableEq, Inhabited

/-- `thermal_core_internal_t`. -/
structure Core where
  filters : Vector FilterState maxSensors
  zones : Vector ZoneRuntime maxZones
  contexts : Vector ContextRuntime maxContextSignals
  actuators : Vector ActuatorRuntime maxActuators
  shutdownRequestLatched : Bool
  modifiers : Vector ModifierRuntime maxModifiers
  stallStates : Vector StallState maxActuators
  stuckSensorStates : Vector StuckSensorState maxSensors
  runaways : Vector RunawayRuntime maxZones
  staleContextStates : Vector StaleContextState maxContextSignals
  fanHealthStates : Vector FanHealthState maxActuators
  prevZoneMaxSeverity : Vector Nat maxZones
  tickCount : Nat
  lastNowMs : Nat
deriving DecidableEq, Inhabited

/-! ## Governor dispatch -/

/-- The entries of `GOVERNOR_OPS`. -/
inductive Governor where
  | stepWise
  | pid
deriving DecidableEq

/-- `governor_ops_for`: the table entry a governor byte selects. -/
def governorOpsFor (gov : Nat) : Option Governor :=
  if gov = 1 then some .stepWise else if gov = 2 then some .pid else none

/-- Whether `SET_PID` and `SET_SETPOINT` are for this governor. -/
def Governor.supportsPidCommands : Governor → Bool
  | .stepWise => false
  | .pid => true

/-- The reason given for the governor's duty. -/
def Governor.reason : Governor → ActuatorReason
  | .stepWise => .governorStep
  | .pid => .governorPid

/-- The step governor: active trips and the cooling state. -/
def governorEvalStep (zr : ZoneRuntime) (zc : ZoneCfg) (tripsEff : Vector TripCfg maxTripsPerZone) :
    ZoneRuntime :=
  let gr := thermalGovernorStepWise zr.tempMc tripsEff zc.tripCount zr.activeTripMask
  { zr with
    activeTripMask := gr.activeTripMask
    coolingState := gr.coolingState
    pwmThisTick := 0
    effectiveSetpointMc := 0
    pidErrorMc := 0
    pidPTermQ16 := 0
    pidITermQ16 := 0
    pidDTermQ16 := 0 }

/-- A step zone's demand on an actuator. -/
def governorDemandStep (zr : ZoneRuntime) (actuator : ActuatorCfg) : Nat :=
  actuator.statePwm.slot zr.coolingState

/-- Highest cooling state among the active CRITICAL and SHUTDOWN trips. -/
def pidFloorState (trips : Vector TripCfg n) (tripCount mask : Nat) : Nat :=
  Loop.fold tripCount 0 fun cs k =>
    let t := trips.slot k
    if !mask.testBit k then cs
    else if t.severity ≠ TripSeverity.critical.code ∧ t.severity ≠ TripSeverity.shutdown.code then cs
    else if t.coolingState > cs then t.coolingState
    else cs

/-- The floor reaches the cooling state of every active CRITICAL or SHUTDOWN trip. -/
theorem le_pidFloorState (trips : Vector TripCfg n) (tripCount mask : Nat) {i : Nat}
    (hi : i < tripCount) (hbit : mask.testBit i = true)
    (hsev : (trips.slot i).severity = TripSeverity.critical.code ∨
      (trips.slot i).severity = TripSeverity.shutdown.code) :
    (trips.slot i).coolingState ≤ pidFloorState trips tripCount mask := by
  refine Loop.fold_reaches (fun cs => (trips.slot i).coolingState ≤ cs) hi (fun cs => ?_)
    fun j cs hcs => ?_
  · dsimp only
    rw [hbit, if_neg (by simp), if_neg (by tauto)]
    split <;> omega
  · dsimp only
    split
    · exact hcs
    · split
      · exact hcs
      · split <;> omega

/-- The floor is 0 or the cooling state of a trip of the zone. -/
theorem pidFloorState_cases (trips : Vector TripCfg n) (tripCount mask : Nat) :
    pidFloorState trips tripCount mask = 0 ∨
      ∃ i < tripCount, pidFloorState trips tripCount mask = (trips.slot i).coolingState := by
  refine Loop.fold_induct
    (fun c cs => cs = 0 ∨ ∃ i < c, cs = (trips.slot i).coolingState) (Or.inl rfl) fun j cs _ hcs => ?_
  have hold : cs = 0 ∨ ∃ i < j + 1, cs = (trips.slot i).coolingState := by
    refine hcs.imp_right ?_
    rintro ⟨i, hi, h⟩
    exact ⟨i, Nat.lt_succ_of_lt hi, h⟩
  dsimp only
  split
  · exact hold
  · split
    · exact hold
    · split
      · exact Or.inr ⟨j, Nat.lt_succ_self j, rfl⟩
      · exact hold

/-- The PID governor: the duty, and the floor from the trips. -/
def governorEvalPid (zr : ZoneRuntime) (zc : ZoneCfg) (tripsEff : Vector TripCfg maxTripsPerZone)
    (tripOffsetMc : Int) (nowMs : Nat) : ZoneRuntime :=
  let setpointEff := i32 (zr.shadowPid.setpointMc + tripOffsetMc)
  let pr := thermalPidStepFiltered zr.pid zr.shadowPid.kpQ16 zr.shadowPid.kiQ16 zr.shadowPid.kdQ16
    zr.shadowPid.dFilterAlphaQ16 setpointEff zr.tempMc nowMs zr.shadowPid.dtMinMs
    zr.shadowPid.dtMaxMs 0 255
  let gr := thermalGovernorStepWise zr.tempMc tripsEff zc.tripCount zr.activeTripMask
  { zr with
    pid := pr.1
    pwmThisTick := toU8 pr.2.outputPwm
    effectiveSetpointMc := setpointEff
    pidErrorMc := i32 (zr.tempMc - setpointEff)
    pidPTermQ16 := pr.2.pTermQ16
    pidITermQ16 := pr.2.iTermQ16
    pidDTermQ16 := pr.2.dTermQ16
    activeTripMask := gr.activeTripMask
    coolingState := pidFloorState tripsEff zc.tripCount gr.activeTripMask }

/-- A PID demand mapped through the actuator's linearization table, if it has one. -/
def linearizeDemand (actuator : ActuatorCfg) (demand : Nat) : Nat :=
  if actuator.dutyLinearizationCount > 0 then
    let mapped := thermalCurveEvalY0 actuator.dutyLinearization actuator.dutyLinearizationCount demand
    let mapped := if mapped < 0 then 0 else mapped
    let mapped := if mapped > 255 then 255 else mapped
    toU8 mapped
  else demand

/-- A PID zone's demand: its duty, no lower than the floor. -/
def governorDemandPid (zr : ZoneRuntime) (actuator : ActuatorCfg) : Nat :=
  let floor := actuator.statePwm.slot zr.coolingState
  let demand := linearizeDemand actuator zr.pwmThisTick
  if floor > demand then floor else demand

/-- `evaluate` of the governor's table. -/
def Governor.evaluate (g : Governor) (zr : ZoneRuntime) (zc : ZoneCfg)
    (tripsEff : Vector TripCfg maxTripsPerZone) (tripOffsetMc : Int) (nowMs : Nat) : ZoneRuntime :=
  match g with
  | .stepWise => governorEvalStep zr zc tripsEff
  | .pid => governorEvalPid zr zc tripsEff tripOffsetMc nowMs

/-- `actuator_demand` of the governor's table. -/
def Governor.actuatorDemand (g : Governor) (zr : ZoneRuntime) (actuator : ActuatorCfg) : Nat :=
  match g with
  | .stepWise => governorDemandStep zr actuator
  | .pid => governorDemandPid zr actuator

/-- `effective_setpoint` of the governor's table. -/
def Governor.effectiveSetpoint (g : Governor) (zr : ZoneRuntime) : Int :=
  match g with
  | .stepWise => 0
  | .pid => zr.effectiveSetpointMc

/-! ## Init -/

/-- A zone's runtime record after init: sensor slots resolved, the tunable
fields shadowed. -/
def initZone (cfg : Config) (zc : ZoneCfg) : ZoneRuntime :=
  { (default : ZoneRuntime) with
    sensorSlotCount := zc.sensorCount
    sensorSlots := (default : Vector Nat maxSensorsPerZone).forSlots zc.sensorCount fun k _ =>
      (findSensorSlot cfg (zc.sensorIds.slot k)).getD 255
    pid := thermalPidReset
    shadowPid := zc.pid
    shadowTrips := (default : Vector TripCfg maxTripsPerZone).forSlots zc.tripCount fun t _ =>
      zc.trips.slot t }

/-- Init of an actuator: it may start at once, its off time counted as over. -/
def initActuator (ac : ActuatorCfg) : ActuatorRuntime :=
  { (default : ActuatorRuntime) with offTicks := ac.minOffTicks }

/-- The state `thermal_core_init` builds from a zeroed context. -/
def initCore (cfg : Config) : Core :=
  { filters := .replicate _ thermalFilterReset
    zones := (default : Vector ZoneRuntime maxZones).forSlots cfg.zoneCount fun i _ =>
      initZone cfg (cfg.zones.slot i)
    contexts := .replicate _ { (default : ContextRuntime) with filter := thermalFilterReset }
    actuators := (default : Vector ActuatorRuntime maxActuators).forSlots cfg.actuatorCount fun i _ =>
      initActuator (cfg.actuators.slot i)
    shutdownRequestLatched := false
    modifiers := (default : Vector ModifierRuntime maxModifiers).forSlots cfg.modifierCount fun i m =>
      { m with shadow := cfg.modifiers.slot i }
    stallStates := .replicate _ thermalFaultStallReset
    stuckSensorStates := .replicate _ thermalFaultStuckSensorReset
    runaways := .replicate _ ⟨thermalFaultRunawayReset, 0, false⟩
    staleContextStates := .replicate _ thermalFaultStaleContextReset
    fanHealthStates := .replicate _ thermalFanHealthReset
    prevZoneMaxSeverity := .replicate _ 0
    tickCount := 0
    lastNowMs := 0 }

end ThermalCore
