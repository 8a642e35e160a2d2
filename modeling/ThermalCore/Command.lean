import ThermalCore.Zones

/-!
# thermal_core_apply_command

The five runtime commands.  Each handler returns a status and a core; the
dispatcher wraps it with the applied/rejected event.

A command never changes the configuration.  It writes the shadow copies that init made
of trips, PID parameters and modifier curves, after testing the new value against its
neighbours and against what the modifiers may add to it; clearing a fault resets the
detector when its condition is gone.
-/

namespace ThermalCore

open MachineInt

/-! ## Runtime checks against the modifier curves -/

/-- The curve points of the shadowed modifiers that shift trips all satisfy `p`:
the loops of `runtime_trips_with_modifier_offsets_valid` and
`runtime_setpoint_with_modifier_offsets_valid`. -/
def allOffsetPoints (cfg : Config) (core : Core) (p : CurvePoint → Bool) : Bool :=
  !Loop.any cfg.modifierCount fun m =>
    let mod := (core.modifiers.slot m).shadow
    mod.hasStage .preGovernorTripOffset && Loop.any mod.curveCount fun i => !p (mod.curve.slot i)

/-- The trips under every offset that a runtime curve can give. -/
def runtimeTripsWithModifierOffsetsValid (cfg : Config) (core : Core)
    (trips : Vector TripCfg maxTripsPerZone) (tripCount : Nat) : Bool :=
  allOffsetPoints cfg core fun pt => adjustedTripsValid trips tripCount pt.value1

/-- The setpoint under every offset that a runtime curve can give. -/
def runtimeSetpointWithModifierOffsetsValid (cfg : Config) (core : Core) (zoneId : Nat)
    (setpointMc : Int) : Bool :=
  let pid := (cfg.zones.slot zoneId).pid
  allOffsetPoints cfg core fun pt =>
    decide (pid.setpointMinMc ≤ setpointMc + pt.value1 ∧ setpointMc + pt.value1 ≤ pid.setpointMaxMc)

/-- A new curve against the runtime trips and setpoints. -/
def modifierCurveValuesValidRuntime (cfg : Config) (core : Core) (m : ModifierCfg) : Bool :=
  curvePointsValid cfg (fun z => (core.zones.slot z).shadowTrips)
    (fun z => (core.zones.slot z).shadowPid.setpointMc) m

/-! ## SET_PID and SET_SETPOINT -/

/-- The zone exists and its governor takes PID commands. -/
def pidZone (cfg : Config) (z : Nat) : Bool :=
  decide (z < cfg.zoneCount) &&
    match governorOpsFor (cfg.zones.slot z).governor with
    | none => false
    | some ops => ops.supportsPidCommands

/-- The gains within the configured limits. -/
def gainsInBounds (b : PidCfg) (kp ki kd : Int) : Bool :=
  !(decide (kp < b.kpMinQ16 ∨ kp > b.kpMaxQ16) || decide (ki < b.kiMinQ16 ∨ ki > b.kiMaxQ16) ||
    decide (kd < b.kdMinQ16 ∨ kd > b.kdMaxQ16))

/-- New gains, with the PID state reset. -/
def ZoneRuntime.withGains (zr : ZoneRuntime) (kp ki kd : Int) : ZoneRuntime :=
  { zr with
    shadowPid := { zr.shadowPid with kpQ16 := kp, kiQ16 := ki, kdQ16 := kd }
    pid := thermalPidReset }

/-- `SET_PID`. -/
def cmdSetPid (cfg : Config) (core : Core) (z : Nat) (kp ki kd : Int) : ThermalStatus × Core :=
  if pidZone cfg z = false then (.errInvalidArg, core)
  else if gainsInBounds (cfg.zones.slot z).pid kp ki kd = false then (.errBounds, core)
  else (.ok, { core with zones := core.zones.edit z fun zr => zr.withGains kp ki kd })

/-- A new setpoint. -/
def ZoneRuntime.withSetpoint (zr : ZoneRuntime) (sp : Int) : ZoneRuntime :=
  { zr with shadowPid := { zr.shadowPid with setpointMc := sp } }

/-- `SET_SETPOINT`. -/
def cmdSetSetpoint (cfg : Config) (core : Core) (z : Nat) (sp : Int) : ThermalStatus × Core :=
  if pidZone cfg z = false then (.errInvalidArg, core)
  else
    let b := (cfg.zones.slot z).pid
    if sp < b.setpointMinMc ∨ sp > b.setpointMaxMc then (.errBounds, core)
    else if runtimeSetpointWithModifierOffsetsValid cfg core z sp = false then (.errBounds, core)
    else (.ok, { core with zones := core.zones.edit z fun zr => zr.withSetpoint sp })

/-! ## SET_TRIP -/

/-- A trip with a new temperature and hysteresis. -/
def TripCfg.withTemp (t : TripCfg) (temp hyst : Int) : TripCfg :=
  { t with tempMc := temp, hystMc := hyst }

/-- One runtime trip replaced. -/
def ZoneRuntime.withTrip (zr : ZoneRuntime) (t : Nat) (temp hyst : Int) : ZoneRuntime :=
  { zr with shadowTrips := zr.shadowTrips.edit t fun tc => tc.withTemp temp hyst }

/-- The tests on a proposed trip, against its neighbours, the fallback
temperature and every modifier offset. -/
def tripAcceptable (cfg : Config) (core : Core) (z t : Nat) (temp hyst : Int) : Bool :=
  let zc := cfg.zones.slot z
  let trips := (core.zones.slot z).shadowTrips
  let proposed := trips.edit t fun tc => tc.withTemp temp hyst
  let prev := trips.slot (t - 1)
  let next := trips.slot (t + 1)
  decide (hyst ≥ 0) &&
    (decide (t = 0) || decide (temp > prev.tempMc ∧ temp - hyst ≥ prev.tempMc)) &&
    (decide (t + 1 ≥ zc.tripCount) || decide (temp < next.tempMc ∧ next.tempMc - next.hystMc ≥ temp)) &&
    zoneFallbackReachesSafetyFloor zc proposed &&
    runtimeTripsWithModifierOffsetsValid cfg core proposed zc.tripCount

/-- `SET_TRIP`. -/
def cmdSetTrip (cfg : Config) (core : Core) (z t : Nat) (temp hyst : Int) : ThermalStatus × Core :=
  if z ≥ cfg.zoneCount then (.errInvalidArg, core)
  else if t ≥ (cfg.zones.slot z).tripCount then (.errBounds, core)
  else if tripAcceptable cfg core z t temp hyst = false then (.errBounds, core)
  else (.ok, { core with zones := core.zones.edit z fun zr => zr.withTrip t temp hyst })

/-! ## SET_CURVE_POINT -/

/-- One curve point replaced. -/
def ModifierCfg.withPoint (m : ModifierCfg) (p : Nat) (pt : CurvePoint) : ModifierCfg :=
  { m with curve := m.curve.put p pt }

/-- The tests on a proposed point, against its neighbours, the actuators and the
zones. -/
def pointAcceptable (cfg : Config) (core : Core) (m p : Nat) (pt : CurvePoint) : Bool :=
  let mod := (core.modifiers.slot m).shadow
  (decide (p = 0) || decide (pt.x > (mod.curve.slot (p - 1)).x)) &&
    (decide (p + 1 ≥ (cfg.modifiers.slot m).curveCount) ||
      decide (pt.x < (mod.curve.slot (p + 1)).x)) &&
    modifierCurveValuesValidRuntime cfg core (mod.withPoint p pt)

/-- `SET_CURVE_POINT`. -/
def cmdSetCurvePoint (cfg : Config) (core : Core) (m p : Nat) (pt : CurvePoint) :
    ThermalStatus × Core :=
  if m ≥ cfg.modifierCount then (.errInvalidArg, core)
  else if p ≥ (cfg.modifiers.slot m).curveCount then (.errBounds, core)
  else if pointAcceptable cfg core m p pt = false then (.errBounds, core)
  else
    (.ok, { core with
      modifiers := core.modifiers.edit m fun mr => { mr with shadow := mr.shadow.withPoint p pt } })

/-! ## CLEAR_FAULT -/

/-- The status of a clear on a detector's machine, and whether it is reset. -/
def clearVerdict (fsm : Fsm) (fc : FaultDetectorCfg) : ThermalStatus × Bool :=
  if fsm.state = .normal then (.ok, false)
  else if clearAllowed fsm fc = false then (.errRejectedSafety, false)
  else (.ok, true)

/-- The stall detector of a slot, cleared when it may be. -/
def clearStall (cfg : Config) (core : Core) (slot : Nat) : ThermalStatus × Core :=
  let v := clearVerdict (core.stallStates.slot slot).fsm cfg.faults.stallDefaults
  (v.1, if v.2 then { core with stallStates := core.stallStates.put slot thermalFaultStallReset }
    else core)

/-- The stuck-sensor detector of a slot, cleared when it may be. -/
def clearStuckSensor (cfg : Config) (core : Core) (slot : Nat) : ThermalStatus × Core :=
  let v := clearVerdict (core.stuckSensorStates.slot slot).fsm cfg.faults.stuckSensorDefaults
  (v.1, if v.2 then
      { core with
        stuckSensorStates := core.stuckSensorStates.put slot thermalFaultStuckSensorReset }
    else core)

/-- The escalation counters go with the detector. -/
def clearRunaway (cfg : Config) (core : Core) (z : Nat) : ThermalStatus × Core :=
  let v := clearVerdict (core.runaways.slot z).detector.fsm cfg.faults.runawayDefaults
  (v.1, if v.2 then
      { core with runaways := core.runaways.put z ⟨thermalFaultRunawayReset, 0, false⟩ }
    else core)

/-- The stale-context detector of a slot, cleared when it may be. -/
def clearStaleContext (cfg : Config) (core : Core) (slot : Nat) : ThermalStatus × Core :=
  let v := clearVerdict (core.staleContextStates.slot slot).fsm cfg.faults.staleContextDefaults
  (v.1, if v.2 then
      { core with
        staleContextStates := core.staleContextStates.put slot thermalFaultStaleContextReset }
    else core)

/-- The target of a runaway detector is its zone's index; the others have ids. -/
def cmdClearFault (cfg : Config) (core : Core) (ftype tid : Nat) : ThermalStatus × Core :=
  if ftype = FaultType.stall.code then
    match findActuatorSlot cfg tid with
    | none => (.errInvalidArg, core)
    | some slot => clearStall cfg core slot
  else if ftype = FaultType.stuckSensor.code then
    match findSensorSlot cfg tid with
    | none => (.errInvalidArg, core)
    | some slot => clearStuckSensor cfg core slot
  else if ftype = FaultType.runaway.code then
    if tid ≥ cfg.zoneCount then (.errInvalidArg, core) else clearRunaway cfg core tid
  else if ftype = FaultType.staleContext.code then
    match findContextSlot cfg tid with
    | none => (.errInvalidArg, core)
    | some slot => clearStaleContext cfg core slot
  else (.errInvalidArg, core)

/-! ## Dispatch -/

/-- The switch over the command's id. -/
def runCommand (cfg : Config) (core : Core) : Command → ThermalStatus × Core
  | .setPid z kp ki kd => cmdSetPid cfg core z kp ki kd
  | .setSetpoint z sp => cmdSetSetpoint cfg core z sp
  | .setTrip z t temp hyst => cmdSetTrip cfg core z t temp hyst
  | .setCurvePoint m p x v0 v1 => cmdSetCurvePoint cfg core m p ⟨x, v0, v1⟩
  | .clearFault ftype tid => cmdClearFault cfg core ftype tid
  | .unknown _ => (.errInvalidArg, core)

/-- Event argument `a2`. -/
def Command.targetId : Command → Nat
  | .setPid z _ _ _ => z
  | .setSetpoint z _ => z
  | .setTrip z _ _ _ => z
  | .setCurvePoint m _ _ _ _ => m
  | .clearFault _ tid => tid
  | .unknown _ => 0

/-- What `thermal_core_apply_command` returns and calls. -/
structure CommandOutcome where
  result : CommandResult
  core : Core
  calls : List Call
deriving DecidableEq

/-- `thermal_core_apply_command`. -/
def thermalCoreApplyCommand (cfg : Config) (cb : Callbacks) (core : Core) (nowMs : Nat)
    (cmd : Command) : CommandOutcome :=
  let r := runCommand cfg core cmd
  { result := ⟨r.1, 0⟩
    core := r.2
    calls := cb.log nowMs (if r.1 = .ok then .commandApplied else .commandRejected)
      cmd.commandId cmd.targetId r.1.code 0 }

end ThermalCore
