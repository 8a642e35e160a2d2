import ThermalCore.State
import ThermalCore.Lib.Check

/-!
# Configuration validation

`thermal_core_validate_config` and its helpers.  A helper that returns a status
is a sequence of tests in the `Except` monad, in the order of the source; a
helper that returns a flag is a `Bool`.

The order matters for the status that is returned, and for what a test may rely on:
the counts come first, and a zone's own counts before its lists.  The tests on trips
and curves take the trips as a parameter, since the same tests are made again on the
runtime values when a command changes them.
-/

namespace ThermalCore

open MachineInt Check

/-- A validation passes, or stops with the status of the first test that fails. -/
abbrev Validation := Except ThermalStatus Unit

/-! ## Known enumerators -/

/-- An aggregation mode of the enumeration. -/
def aggregationKnown (agg : Nat) : Bool :=
  agg == Aggregation.max.code || agg == Aggregation.avg.code || agg == Aggregation.weighted.code

/-- A governor with an entry in the table. -/
def governorKnown (gov : Nat) : Bool := (governorOpsFor gov).isSome

/-- A trip severity of the enumeration. -/
def severityKnown (sev : Nat) : Bool :=
  sev == TripSeverity.warn.code || sev == TripSeverity.critical.code ||
    sev == TripSeverity.shutdown.code

/-- A context unit of the enumeration. -/
def contextUnitKnown (unit : Nat) : Bool :=
  unit == ContextUnit.none.code || unit == ContextUnit.kmh.code || unit == ContextUnit.bool.code ||
    unit == ContextUnit.rpm.code || unit == ContextUnit.celsiusMc.code

/-- A fault action of the enumeration. -/
def faultActionKnown (action : Nat) : Bool :=
  action == FaultAction.none.code || action == FaultAction.markDegraded.code ||
    action == FaultAction.useZoneFallback.code ||
    action == FaultAction.forcePwmMaxUntilRecovered.code ||
    action == FaultAction.forcePwmMaxAndLatch.code || action == FaultAction.requestShutdown.code

/-- A fault severity of the enumeration. -/
def faultSeverityKnown (sev : Nat) : Bool :=
  sev == FaultSeverity.degraded.code || sev == FaultSeverity.critical.code

/-! ## Sensors, actuators, contexts -/

/-- No two of the first `count` ids are equal. -/
def idsDistinct (count : Nat) (id : Nat → Nat) : Validation :=
  each count fun i => each count fun j =>
    failIf (i < j ∧ id i = id j) .errInvalidConfig

/-- `validate_sensors`. -/
def validateSensors (cfg : Config) : Validation := do
  each cfg.sensorCount fun i => do
    let s := cfg.sensors.slot i
    failIf (s.maxStalenessMs = 0) .errInvalidConfig
    failIf (s.iirAlphaQ16 < 0 ∨ s.iirAlphaQ16 > q16One) .errInvalidConfig
  idsDistinct cfg.sensorCount fun i => (cfg.sensors.slot i).id

/-- The optional linearization table of one actuator. -/
def validateDutyLinearization (a : ActuatorCfg) : Validation :=
  if a.dutyLinearizationCount ≠ 0 then do
    failIf (a.dutyLinearizationCount < 2 ∨ a.dutyLinearizationCount > maxCurvePoints)
      .errInvalidConfig
    each a.dutyLinearizationCount fun p => do
      let pt := a.dutyLinearization.slot p
      failIf (pt.x < 0 ∨ pt.x > 255 ∨ pt.value0 < 0 ∨ pt.value0 > 255 ∨ pt.value1 ≠ 0)
        .errInvalidConfig
      if p > 0 then
        let prev := a.dutyLinearization.slot (p - 1)
        failIf (pt.x ≤ prev.x ∨ pt.value0 < prev.value0) .errInvalidConfig
      else .ok ()
    let head := a.dutyLinearization.slot 0
    failIf (head.x ≠ 0 ∨ head.value0 ≠ 0) .errInvalidConfig
    let last := a.dutyLinearization.slot (a.dutyLinearizationCount - 1)
    failIf (last.x ≠ 255 ∨ last.value0 ≠ 255) .errInvalidConfig
  else .ok ()

/-- `validate_actuators`. -/
def validateActuators (cfg : Config) : Validation := do
  each cfg.actuatorCount fun i => do
    let a := cfg.actuators.slot i
    failIf (a.pwmMin > a.pwmMax) .errInvalidConfig
    failIf (a.spinupMs > 0 ∧ (a.spinupPwm = 0 ∨ a.spinupPwm < a.pwmMin ∨ a.spinupPwm > a.pwmMax))
      .errInvalidConfig
    validateDutyLinearization a
  idsDistinct cfg.actuatorCount fun i => (cfg.actuators.slot i).id

/-- `validate_contexts`. -/
def validateContexts (cfg : Config) : Validation :=
  each cfg.contextCount fun i => do
    let c := cfg.contexts.slot i
    failIf (contextUnitKnown c.unit = false) .errInvalidConfig
    failIf (c.timeoutMs = 0) .errInvalidConfig
    failIf (c.failSafe = ContextFailsafe.assumeValue.code) .errInvalidConfig
    failIf (c.failSafe ≠ ContextFailsafe.assumeStationary.code ∧
      c.failSafe ≠ ContextFailsafe.holdLast.code) .errInvalidConfig
    failIf (c.iirAlphaQ16 < 0 ∨ c.iirAlphaQ16 > q16One) .errInvalidConfig
    each cfg.contextCount fun j =>
      failIf (i < j ∧ c.id = (cfg.contexts.slot j).id) .errInvalidConfig

/-! ## Trips, offsets and modifier curves -/

/-- Trips shifted by an offset stay in `int32_t`, ascending, with no hysteresis
reaching below the previous trip. -/
def adjustedTripsValid (trips : Vector TripCfg n) (tripCount : Nat) (offsetMc : Int) : Bool :=
  !Loop.any tripCount fun i =>
    let shifted := (trips.slot i).tempMc + offsetMc
    let prev := (trips.slot (i - 1)).tempMc + offsetMc
    decide (shifted < i32Min ∨ shifted > i32Max) ||
      (decide (i > 0) &&
        (decide (shifted ≤ prev) || decide (shifted - (trips.slot i).hystMc < prev)))

/-- Highest temperature among the trips satisfying `p`. -/
def highestTrip (trips : Vector TripCfg n) (tripCount : Nat) (p : TripCfg → Bool) : Option Int :=
  Loop.fold tripCount none fun best i =>
    let t := trips.slot i
    if !p t then best
    else match best with
      | none => some t.tempMc
      | some b => if t.tempMc > b then some t.tempMc else some b

/-- The fallback temperature reaches the highest CRITICAL trip, or the highest
trip of all when there is no CRITICAL one. -/
def zoneFallbackReachesSafetyFloor (z : ZoneCfg) (trips : Vector TripCfg maxTripsPerZone) : Bool :=
  match highestTrip trips z.tripCount fun t => t.severity == TripSeverity.critical.code with
  | some highest => decide (z.fallbackTempMc ≥ highest)
  | none =>
      match highestTrip trips z.tripCount fun _ => true with
      | some highest => decide (z.fallbackTempMc ≥ highest)
      | none => true

/-- `stages & stage`. -/
def ModifierCfg.hasStage (m : ModifierCfg) (stage : ModifierStage) : Bool :=
  m.stages &&& stage.code != 0

/-- One curve point against the actuators and against one list of trips and one
setpoint per zone.  `modifier_curve_values_valid` and
`modifier_curve_values_valid_runtime` run the same tests, on the configured
trips and setpoints and on the shadowed ones. -/
def curvePointValid (cfg : Config) (trips : Nat → Vector TripCfg maxTripsPerZone)
    (setpoint : Nat → Int) (m : ModifierCfg) (pt : CurvePoint) : Bool :=
  decide (0 ≤ pt.value0 ∧ pt.value0 ≤ 255) &&
    (!m.hasStage .postGovernorPwmCap ||
      !Loop.any cfg.actuatorCount fun a =>
        decide (pt.value0 ≠ 0 ∧ pt.value0 < (cfg.actuators.slot a).pwmMin)) &&
    (!m.hasStage .preGovernorTripOffset ||
      !Loop.any cfg.zoneCount fun z =>
        let zc := cfg.zones.slot z
        !adjustedTripsValid (trips z) zc.tripCount pt.value1 ||
          (match governorOpsFor zc.governor with
            | some ops => ops.supportsPidCommands &&
                decide (setpoint z + pt.value1 < zc.pid.setpointMinMc ∨
                  setpoint z + pt.value1 > zc.pid.setpointMaxMc)
            | none => false))

/-- Every point of a curve against every zone. -/
def curvePointsValid (cfg : Config) (trips : Nat → Vector TripCfg maxTripsPerZone)
    (setpoint : Nat → Int) (m : ModifierCfg) : Bool :=
  !Loop.any m.curveCount fun p => !curvePointValid cfg trips setpoint m (m.curve.slot p)

/-- The curve against the configured trips and setpoints. -/
def modifierCurveValuesValid (cfg : Config) (m : ModifierCfg) : Bool :=
  curvePointsValid cfg (fun z => (cfg.zones.slot z).trips)
    (fun z => (cfg.zones.slot z).pid.setpointMc) m

/-- `"acoustic_mask"` with its terminating NUL. -/
def acousticMask : List Nat := [97, 99, 111, 117, 115, 116, 105, 99, 95, 109, 97, 115, 107, 0]

/-- `strncmp(name, "acoustic_mask", THERMAL_NAME_MAX) == 0`: the bytes agree up
to and including the NUL. -/
def nameIsAcousticMask (name : Name) : Bool := name.toList.take acousticMask.length == acousticMask

/-- The modifier's fail-safe is the one of its context, when that resolves. -/
def validateModifierFailSafe (cfg : Config) (m : ModifierCfg) : Validation :=
  match findContextSlot cfg m.contextId with
  | some ctxSlot => failIf ((cfg.contexts.slot ctxSlot).failSafe ≠ m.failSafe) .errInvalidConfig
  | none => .ok ()

/-- `validate_modifiers`. -/
def validateModifiers (cfg : Config) : Validation :=
  each cfg.modifierCount fun i => do
    let m := cfg.modifiers.slot i
    failIf (nameIsAcousticMask m.name = false) .errInvalidConfig
    failIf (findContextSlot cfg m.contextId = none) .errInvalidConfig
    failIf (m.curveCount < 2 ∨ m.curveCount > maxCurvePoints) .errInvalidConfig
    each m.curveCount fun k =>
      failIf (k ≥ 1 ∧ (m.curve.slot k).x ≤ (m.curve.slot (k - 1)).x) .errInvalidConfig
    failIf (modifierCurveValuesValid cfg m = false) .errBounds
    failIf (m.failSafe = ContextFailsafe.assumeValue.code) .errInvalidConfig
    failIf (m.failSafe ≠ ContextFailsafe.assumeStationary.code ∧
      m.failSafe ≠ ContextFailsafe.holdLast.code) .errInvalidConfig
    validateModifierFailSafe cfg m
    failIf (m.stages = 0 ∨ m.stages / 4 ≠ 0) .errInvalidConfig

/-! ## Fault detectors -/

/-- `validate_fault_defaults`. -/
def validateFaultDefaults (cfg : Config) (fc : FaultDetectorCfg)
    (needsCorrelatedCtxResolution : Bool) : Validation :=
  if fc.enabled = 0 then .ok ()
  else do
    failIf (faultSeverityKnown fc.severity = false) .errInvalidConfig
    failIf (faultActionKnown fc.action = false) .errInvalidConfig
    if needsCorrelatedCtxResolution ∧ fc.correlatedContextId ≠ 0xFFFF then do
      failIf (findContextSlot cfg fc.correlatedContextId = none) .errInvalidConfig
      failIf (fc.threshold2 ≤ 0) .errInvalidConfig
    else .ok ()

/-- `validate_fault_detectors`. -/
def validateFaultDetectors (cfg : Config) : Validation := do
  validateFaultDefaults cfg cfg.faults.stallDefaults false
  validateFaultDefaults cfg cfg.faults.stuckSensorDefaults true
  validateFaultDefaults cfg cfg.faults.runawayDefaults false
  validateFaultDefaults cfg cfg.faults.staleContextDefaults false

/-! ## Cooling states -/

/-- Highest cooling state a trip of some zone asks of the actuator in `slot`,
`none` when no such zone has a trip: the arrays `referenced` and `max_state`. -/
def maxReferencedState (cfg : Config) (slot : Nat) : Option Nat :=
  Loop.fold cfg.zoneCount none fun acc z =>
    let zc := cfg.zones.slot z
    Loop.fold zc.tripCount acc fun acc t =>
      let cs := (zc.trips.slot t).coolingState
      Loop.fold zc.actuatorCount acc fun acc k =>
        if findActuatorSlot cfg (zc.actuatorIds.slot k) = some slot then
          match acc with
          | none => some cs
          | some m => if cs > m then some cs else some m
        else acc

/-- `validate_state_pwm_references`. -/
def validateStatePwmReferences (cfg : Config) : Validation := do
  each cfg.zoneCount fun z =>
    let zc := cfg.zones.slot z
    each zc.tripCount fun t =>
      let cs := (zc.trips.slot t).coolingState
      each zc.actuatorCount fun k =>
        match findActuatorSlot cfg (zc.actuatorIds.slot k) with
        | none => .ok ()
        | some slot =>
            let a := cfg.actuators.slot slot
            let pwm := a.statePwm.slot cs
            failIf (pwm ≠ 0 ∧ (pwm < a.pwmMin ∨ pwm > a.pwmMax)) .errBounds
  each cfg.actuatorCount fun a =>
    match maxReferencedState cfg a with
    | none => .ok ()
    | some maxState =>
        let ac := cfg.actuators.slot a
        each (maxState + 1) fun s =>
          failIf (s ≥ 1 ∧ ac.statePwm.slot s < ac.statePwm.slot (s - 1)) .errInvalidConfig

/-! ## Telemetry -/

/-- The families of telemetry signal ids, `0x100` ids each. -/
inductive SignalFamily where
  | zone
  | actuator
  | pid
  | context
  | modifier
  | fault
  | fanHealth
deriving DecidableEq

/-- The first id of each family. -/
@[simp] def SignalFamily.base : SignalFamily → Nat
  | .zone => 0x0100
  | .actuator => 0x0200
  | .pid => 0x0300
  | .context => 0x0400
  | .modifier => 0x0500
  | .fault => 0x0600
  | .fanHealth => 0x0800

/-- `sig >= BASE && sig < BASE + TSIG_RANGE_SIZE`. -/
def SignalFamily.contains (f : SignalFamily) (sig : Nat) : Bool :=
  decide (sig ≥ f.base) && decide (sig < f.base + 0x0100)

/-- Sub-signal bits of an id within its family. -/
def signalSub (f : SignalFamily) (sig : Nat) : Nat := toU8 ((sig - f.base) &&& 0xF0 : Nat)

/-- Slot bits of an id within its family. -/
def signalSlot (f : SignalFamily) (sig : Nat) : Nat := toU8 ((sig - f.base) &&& 0x0F : Nat)

/-- An id that a sample of this configuration can have. -/
def signalIdIsSupported (cfg : Config) (sig : Nat) : Bool :=
  if SignalFamily.zone.contains sig then
    let sub := signalSub .zone sig
    if signalSlot .zone sig ≥ cfg.zoneCount then false
    else sub == 0x00 || sub == 0x10 || sub == 0x20 || sub == 0x30 || sub == 0x40
  else if SignalFamily.actuator.contains sig then
    let sub := signalSub .actuator sig
    if signalSlot .actuator sig ≥ cfg.actuatorCount then false
    else sub == 0x00 || sub == 0x10 || sub == 0x20
  else if SignalFamily.pid.contains sig then
    let off := u8 (sig - SignalFamily.pid.base)
    decide (off / 4 < cfg.zoneCount)
  else if SignalFamily.context.contains sig then
    let sub := signalSub .context sig
    if signalSlot .context sig ≥ cfg.contextCount then false
    else sub == 0x00 || sub == 0x10
  else if SignalFamily.modifier.contains sig then
    let sub := signalSub .modifier sig
    if signalSlot .modifier sig ≥ cfg.modifierCount then false
    else sub == 0x00 || sub == 0x10 || sub == 0x20
  else if SignalFamily.fault.contains sig then
    let slot := signalSlot .fault sig
    match signalSub .fault sig with
    | 0x00 => decide (slot < cfg.actuatorCount)
    | 0x10 => decide (slot < cfg.sensorCount)
    | 0x20 => decide (slot < cfg.zoneCount)
    | 0x30 => decide (slot < cfg.contextCount)
    | _ => false
  else if SignalFamily.fanHealth.contains sig then
    let sub := signalSub .fanHealth sig
    if signalSlot .fanHealth sig ≥ cfg.actuatorCount then false
    else sub == 0x00 || sub == 0x10 || sub == 0x20 || sub == 0x30
  else false

/-- `validate_telemetry`. -/
def validateTelemetry (cfg : Config) : Validation := do
  failIf (cfg.telemetry.enable ≠ 0 ∧ cfg.telemetry.periodTicks = 0) .errInvalidConfig
  each cfg.telemetry.enabledSignalCount fun i =>
    failIf (signalIdIsSupported cfg (cfg.telemetry.enabledSignalIds.slot i) = false) .errInvalidConfig

/-! ## Zones -/

/-- `governor_validate_pid`. -/
def governorValidatePid (cfg : Config) (z : ZoneCfg) : Validation := do
  let p := z.pid
  failIf (p.kpQ16 < p.kpMinQ16 ∨ p.kpQ16 > p.kpMaxQ16) .errInvalidConfig
  failIf (p.kiQ16 < p.kiMinQ16 ∨ p.kiQ16 > p.kiMaxQ16) .errInvalidConfig
  failIf (p.kdQ16 < p.kdMinQ16 ∨ p.kdQ16 > p.kdMaxQ16) .errInvalidConfig
  failIf (p.dFilterAlphaQ16 < 0 ∨ p.dFilterAlphaQ16 > q16One) .errInvalidConfig
  failIf (p.setpointMc < p.setpointMinMc ∨ p.setpointMc > p.setpointMaxMc) .errInvalidConfig
  failIf (p.dtMinMs = 0) .errInvalidConfig
  failIf (p.dtMinMs > cfg.controlPeriodMs) .errInvalidConfig
  failIf (p.dtMaxMs < cfg.controlPeriodMs) .errInvalidConfig
  failIf (Loop.any z.tripCount (fun i =>
    (z.trips.slot i).severity == TripSeverity.critical.code ||
      (z.trips.slot i).severity == TripSeverity.shutdown.code) = false) .errInvalidConfig

/-- The governor's own tests. -/
def Governor.validate (g : Governor) (cfg : Config) (z : ZoneCfg) : Validation :=
  match g with
  | .stepWise => .ok ()
  | .pid => governorValidatePid cfg z

/-- Sum of the configured weights of a zone's sensors. -/
def weightSum (z : ZoneCfg) : Int :=
  Loop.fold z.sensorCount 0 fun wsum i => wsum + z.sensorWeightsQ16.slot i

/-- `validate_zone`. -/
def validateZone (cfg : Config) (z : ZoneCfg) : Validation := do
  failIf (z.sensorCount = 0 ∨ z.sensorCount > maxSensorsPerZone) .errInvalidConfig
  failIf (z.actuatorCount = 0 ∨ z.actuatorCount > maxActuatorsPerZone) .errInvalidConfig
  failIf (aggregationKnown z.aggregation = false) .errInvalidConfig
  failIf (governorKnown z.governor = false) .errInvalidConfig
  each z.sensorCount fun i =>
    failIf (findSensorSlot cfg (z.sensorIds.slot i) = none) .errInvalidConfig
  each z.actuatorCount fun i =>
    failIf (findActuatorSlot cfg (z.actuatorIds.slot i) = none) .errInvalidConfig
  failIf (z.aggregation = Aggregation.weighted.code ∧ weightSum z ≤ 0) .errInvalidConfig
  failIf (z.tripCount > maxTripsPerZone) .errNoSpace
  each z.tripCount fun i => do
    let t := z.trips.slot i
    failIf (t.coolingState ≥ maxCoolingStates) .errBounds
    failIf (severityKnown t.severity = false) .errInvalidConfig
    if i > 0 then do
      let p := z.trips.slot (i - 1)
      failIf (t.tempMc ≤ p.tempMc) .errInvalidConfig
      failIf (t.tempMc - t.hystMc < p.tempMc) .errInvalidConfig
    else .ok ()
  failIf (zoneFallbackReachesSafetyFloor z z.trips = false) .errInvalidConfig
  match governorOpsFor z.governor with
  | none => .error .errInvalidConfig
  | some ops => ops.validate cfg z

/-! ## Fan health -/

/-- The tests of one block of `validate_fan_health`. -/
def validateFanHealthSlot (fh : FanHealthCfg) (ac : ActuatorCfg) : Validation :=
  if fh.enable = 0 then .ok ()
  else do
    failIf (fh.baselineSource > FanBaselineSrc.model.code) .errInvalidConfig
    failIf (fh.stableRpmTolerancePct > 100) .errInvalidConfig
    failIf (fh.baselineCount < 2 ∨ fh.baselineCount > maxFanHealthPoints) .errInvalidConfig
    failIf ((fh.baseline.slot (fh.baselineCount - 1)).x < ac.pwmMax) .errInvalidConfig
    each fh.baselineCount fun p => do
      let pt := fh.baseline.slot p
      failIf (pt.x < 0 ∨ pt.x > 255) .errInvalidConfig
      failIf (pt.value0 < 1 ∨ pt.value0 > 65535) .errInvalidConfig
      if p > 0 then do
        let prev := fh.baseline.slot (p - 1)
        failIf (pt.x ≤ prev.x) .errInvalidConfig
        failIf (pt.value0 < prev.value0) .errInvalidConfig
      else .ok ()
    failIf (¬(0 > fh.agingPct ∧ fh.agingPct > fh.degradedPct ∧ fh.degradedPct > fh.failingPct))
      .errInvalidConfig
    failIf (fh.stablePwmTicks = 0 ∨ fh.stableRpmTicks = 0) .errInvalidConfig
    failIf (fh.minPointsObserved < 1 ∨ fh.minPointsObserved > fh.baselineCount) .errInvalidConfig

/-- `validate_fan_health`. -/
def validateFanHealth (cfg : Config) : Validation :=
  each cfg.actuatorCount fun a =>
    validateFanHealthSlot (cfg.fanHealth.slot a) (cfg.actuators.slot a)

/-! ## The whole configuration -/

/-- The counts against the compile-time maxima. -/
def validateCounts (cfg : Config) : Validation := do
  failIf (cfg.sensorCount > maxSensors) .errNoSpace
  failIf (cfg.zoneCount > maxZones) .errNoSpace
  failIf (cfg.actuatorCount > maxActuators) .errNoSpace
  failIf (cfg.contextCount > maxContextSignals) .errNoSpace
  failIf (cfg.modifierCount > maxModifiers) .errNoSpace
  failIf (cfg.telemetry.enabledSignalCount > maxTelemetrySignals) .errNoSpace

/-- `thermal_core_validate_config` as a sequence of tests. -/
def validateConfig (cfg : Config) : Validation := do
  failIf (cfg.configVersion ≠ 1) .errInvalidConfig
  failIf (cfg.controlPeriodMs = 0) .errInvalidConfig
  failIf (cfg.periodRelativeToMs ≠ 0 ∧ cfg.periodRelativeToMs ≠ cfg.controlPeriodMs) .errInvalidConfig
  validateCounts cfg
  failIf (cfg.modifierCount > 1) .errInvalidConfig
  failIf (cfg.faults.runawayDefaults.enabled ≠ 0 ∧
    cfg.faults.runawayDefaults.persistTicks > faultRunawayWindowMax) .errBounds
  validateSensors cfg
  validateActuators cfg
  validateContexts cfg
  each cfg.zoneCount fun i => validateZone cfg (cfg.zones.slot i)
  validateModifiers cfg
  validateFaultDetectors cfg
  validateStatePwmReferences cfg
  validateTelemetry cfg
  validateFanHealth cfg

/-- The status a validation returns. -/
def Validation.status : Validation → ThermalStatus
  | .ok _ => .ok
  | .error e => e

/-- `thermal_core_validate_config`. -/
def thermalCoreValidateConfig (cfg : Config) : ThermalStatus := Validation.status (validateConfig cfg)

end ThermalCore
