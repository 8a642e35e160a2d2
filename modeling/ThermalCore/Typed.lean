import Mathlib.Tactic.MkIffOfInductiveProp
import ThermalCore.Config

/-!
# Fields that hold values of their C types

The model keeps fields in `Nat` and `Int`.  A configuration is `Typed` when every
field, counted or not, holds a value its C type has: `uint8_t`, `uint16_t` and
`uint32_t` fields lie below their power of two, `int8_t` and `int32_t` fields in
their two's complement range, and a `char` array holds bytes.

Nothing here is a rule of `thermal_validate_config`; it is what the types in
`thermal_types.h` promise before any test is made.  The byte streams of the
configuration hash and the bounds on the intermediate values of the 64-bit
arithmetic rest on it, and every configuration that is compiled or loaded has it.
-/

namespace ThermalCore

open MachineInt

/-- A `char` array of `THERMAL_NAME_MAX` bytes. -/
def NameTyped (name : Name) : Prop := ∀ b ∈ name.toList, b < 2 ^ 8

instance (name : Name) : Decidable (NameTyped name) :=
  inferInstanceAs (Decidable (∀ b ∈ name.toList, b < 2 ^ 8))

/-- The range of `int8_t`, the type of the fan health thresholds. -/
def IsI8 (x : Int) : Prop := -2 ^ 7 ≤ x ∧ x < 2 ^ 7

instance (x : Int) : Decidable (IsI8 x) := inferInstanceAs (Decidable (_ ∧ _))

/-- `thermal_curve_point_t`, a point of a curve: three `int32_t`. -/
@[mk_iff]
structure CurvePoint.Typed (c : CurvePoint) : Prop where
  x : IsI32 c.x
  value0 : IsI32 c.value0
  value1 : IsI32 c.value1

instance (c : CurvePoint) : Decidable (c.Typed) := decidable_of_iff' _ (CurvePoint.typed_iff _)

/-- `thermal_sensor_cfg_t` within its C types. -/
@[mk_iff]
structure SensorCfg.Typed (c : SensorCfg) : Prop where
  id : c.id < 2 ^ 16
  name : NameTyped c.name
  iirAlphaQ16 : IsI32 c.iirAlphaQ16
  maxStalenessMs : c.maxStalenessMs < 2 ^ 32

instance (c : SensorCfg) : Decidable (c.Typed) := decidable_of_iff' _ (SensorCfg.typed_iff _)

/-- `thermal_context_cfg_t` within its C types. -/
@[mk_iff]
structure ContextCfg.Typed (c : ContextCfg) : Prop where
  id : c.id < 2 ^ 16
  name : NameTyped c.name
  unit : c.unit < 2 ^ 8
  iirAlphaQ16 : IsI32 c.iirAlphaQ16
  timeoutMs : c.timeoutMs < 2 ^ 32
  failSafe : c.failSafe < 2 ^ 8

instance (c : ContextCfg) : Decidable (c.Typed) := decidable_of_iff' _ (ContextCfg.typed_iff _)

/-- `thermal_actuator_cfg_t` within its C types, the unused curve points included. -/
@[mk_iff]
structure ActuatorCfg.Typed (c : ActuatorCfg) : Prop where
  id : c.id < 2 ^ 16
  name : NameTyped c.name
  pwmMin : c.pwmMin < 2 ^ 8
  pwmMax : c.pwmMax < 2 ^ 8
  slewPerTick : c.slewPerTick < 2 ^ 8
  spinupPwm : c.spinupPwm < 2 ^ 8
  spinupMs : c.spinupMs < 2 ^ 32
  minOnTicks : c.minOnTicks < 2 ^ 16
  minOffTicks : c.minOffTicks < 2 ^ 16
  statePwm : ∀ i < maxCoolingStates, c.statePwm.slot i < 2 ^ 8
  dutyLinearization : ∀ i < maxCurvePoints, (c.dutyLinearization.slot i).Typed
  dutyLinearizationCount : c.dutyLinearizationCount < 2 ^ 8

instance (c : ActuatorCfg) : Decidable (c.Typed) := decidable_of_iff' _ (ActuatorCfg.typed_iff _)

/-- `thermal_pid_cfg_t` within its C types: gains and their limits are Q16.16 `int32_t`. -/
@[mk_iff]
structure PidCfg.Typed (p : PidCfg) : Prop where
  kpQ16 : IsI32 p.kpQ16
  kiQ16 : IsI32 p.kiQ16
  kdQ16 : IsI32 p.kdQ16
  dFilterAlphaQ16 : IsI32 p.dFilterAlphaQ16
  setpointMc : IsI32 p.setpointMc
  kpMinQ16 : IsI32 p.kpMinQ16
  kpMaxQ16 : IsI32 p.kpMaxQ16
  kiMinQ16 : IsI32 p.kiMinQ16
  kiMaxQ16 : IsI32 p.kiMaxQ16
  kdMinQ16 : IsI32 p.kdMinQ16
  kdMaxQ16 : IsI32 p.kdMaxQ16
  setpointMinMc : IsI32 p.setpointMinMc
  setpointMaxMc : IsI32 p.setpointMaxMc
  dtMinMs : p.dtMinMs < 2 ^ 16
  dtMaxMs : p.dtMaxMs < 2 ^ 16

instance (p : PidCfg) : Decidable (p.Typed) := decidable_of_iff' _ (PidCfg.typed_iff _)

/-- `thermal_trip_cfg_t` within its C types. -/
@[mk_iff]
structure TripCfg.Typed (t : TripCfg) : Prop where
  tempMc : IsI32 t.tempMc
  hystMc : IsI32 t.hystMc
  severity : t.severity < 2 ^ 8
  coolingState : t.coolingState < 2 ^ 8

instance (t : TripCfg) : Decidable (t.Typed) := decidable_of_iff' _ (TripCfg.typed_iff _)

/-- `thermal_zone_cfg_t` within its C types, the slots past the counts included. -/
@[mk_iff]
structure ZoneCfg.Typed (z : ZoneCfg) : Prop where
  name : NameTyped z.name
  sensorIds : ∀ k < maxSensorsPerZone, z.sensorIds.slot k < 2 ^ 16
  sensorWeightsQ16 : ∀ k < maxSensorsPerZone, IsI32 (z.sensorWeightsQ16.slot k)
  sensorCount : z.sensorCount < 2 ^ 8
  aggregation : z.aggregation < 2 ^ 8
  fallbackTempMc : IsI32 z.fallbackTempMc
  governor : z.governor < 2 ^ 8
  pid : z.pid.Typed
  actuatorIds : ∀ k < maxActuatorsPerZone, z.actuatorIds.slot k < 2 ^ 16
  actuatorCount : z.actuatorCount < 2 ^ 8
  trips : ∀ t < maxTripsPerZone, (z.trips.slot t).Typed
  tripCount : z.tripCount < 2 ^ 8

instance (z : ZoneCfg) : Decidable (z.Typed) := decidable_of_iff' _ (ZoneCfg.typed_iff _)

/-- `thermal_modifier_cfg_t` within its C types. -/
@[mk_iff]
structure ModifierCfg.Typed (m : ModifierCfg) : Prop where
  name : NameTyped m.name
  contextId : m.contextId < 2 ^ 16
  stages : m.stages < 2 ^ 8
  curve : ∀ k < maxCurvePoints, (m.curve.slot k).Typed
  curveCount : m.curveCount < 2 ^ 8
  failSafe : m.failSafe < 2 ^ 8

instance (m : ModifierCfg) : Decidable (m.Typed) := decidable_of_iff' _ (ModifierCfg.typed_iff _)

/-- `thermal_fault_detector_cfg_t` within its C types. -/
@[mk_iff]
structure FaultDetectorCfg.Typed (f : FaultDetectorCfg) : Prop where
  enabled : f.enabled < 2 ^ 8
  severity : f.severity < 2 ^ 8
  action : f.action < 2 ^ 8
  persistTicks : f.persistTicks < 2 ^ 16
  recoveryTicks : f.recoveryTicks < 2 ^ 16
  threshold0 : IsI32 f.threshold0
  threshold1 : IsI32 f.threshold1
  threshold2 : IsI32 f.threshold2
  correlatedContextId : f.correlatedContextId < 2 ^ 16

instance (f : FaultDetectorCfg) : Decidable (f.Typed) := decidable_of_iff' _ (FaultDetectorCfg.typed_iff _)

/-- `thermal_telemetry_cfg_t` within its C types. -/
@[mk_iff]
structure TelemetryCfg.Typed (t : TelemetryCfg) : Prop where
  enable : t.enable < 2 ^ 8
  periodTicks : t.periodTicks < 2 ^ 16
  enabledSignalIds : ∀ k < maxTelemetrySignals, t.enabledSignalIds.slot k < 2 ^ 16
  enabledSignalCount : t.enabledSignalCount < 2 ^ 8

instance (t : TelemetryCfg) : Decidable (t.Typed) := decidable_of_iff' _ (TelemetryCfg.typed_iff _)

/-- `thermal_fan_health_cfg_t` within its C types. -/
@[mk_iff]
structure FanHealthCfg.Typed (f : FanHealthCfg) : Prop where
  enable : f.enable < 2 ^ 8
  baselineSource : f.baselineSource < 2 ^ 8
  baseline : ∀ k < maxFanHealthPoints, (f.baseline.slot k).Typed
  baselineCount : f.baselineCount < 2 ^ 8
  stablePwmTicks : f.stablePwmTicks < 2 ^ 16
  stablePwmTolerance : f.stablePwmTolerance < 2 ^ 8
  stableRpmTicks : f.stableRpmTicks < 2 ^ 16
  stableRpmTolerancePct : f.stableRpmTolerancePct < 2 ^ 8
  minPointsObserved : f.minPointsObserved < 2 ^ 8
  agingPct : IsI8 f.agingPct
  degradedPct : IsI8 f.degradedPct
  failingPct : IsI8 f.failingPct

instance (f : FanHealthCfg) : Decidable (f.Typed) := decidable_of_iff' _ (FanHealthCfg.typed_iff _)

/-- `thermal_config_t` within its C types, every array slot included. -/
@[mk_iff]
structure Config.Typed (cfg : Config) : Prop where
  configVersion : cfg.configVersion < 2 ^ 16
  controlPeriodMs : cfg.controlPeriodMs < 2 ^ 16
  periodRelativeToMs : cfg.periodRelativeToMs < 2 ^ 16
  sensors : ∀ s < maxSensors, (cfg.sensors.slot s).Typed
  sensorCount : cfg.sensorCount < 2 ^ 8
  contexts : ∀ c < maxContextSignals, (cfg.contexts.slot c).Typed
  contextCount : cfg.contextCount < 2 ^ 8
  actuators : ∀ a < maxActuators, (cfg.actuators.slot a).Typed
  actuatorCount : cfg.actuatorCount < 2 ^ 8
  zones : ∀ z < maxZones, (cfg.zones.slot z).Typed
  zoneCount : cfg.zoneCount < 2 ^ 8
  modifiers : ∀ m < maxModifiers, (cfg.modifiers.slot m).Typed
  modifierCount : cfg.modifierCount < 2 ^ 8
  stallDefaults : cfg.faults.stallDefaults.Typed
  stuckSensorDefaults : cfg.faults.stuckSensorDefaults.Typed
  runawayDefaults : cfg.faults.runawayDefaults.Typed
  staleContextDefaults : cfg.faults.staleContextDefaults.Typed
  telemetry : cfg.telemetry.Typed
  fanHealth : ∀ a < maxActuators, (cfg.fanHealth.slot a).Typed

instance (cfg : Config) : Decidable (cfg.Typed) := decidable_of_iff' _ (Config.typed_iff _)

end ThermalCore
