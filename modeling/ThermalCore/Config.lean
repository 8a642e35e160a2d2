import ThermalCore.Types

/-!
# The configuration

`thermal_config_t` and the structs under it (`core/thermal_core.h`), field for
field.  Every counted array is a fixed-size vector next to its count, so a
configuration with arbitrary contents may carry a count above the array's size.

The array sizes are those of the full profile; the tiny profile of the CH32 firmware has
smaller ones.
-/

namespace ThermalCore

/-- `thermal_sensor_cfg_t`. -/
structure SensorCfg where
  id : Nat
  name : Name
  iirAlphaQ16 : Int
  maxStalenessMs : Nat
deriving DecidableEq, Inhabited

/-- `thermal_context_cfg_t`. -/
structure ContextCfg where
  id : Nat
  name : Name
  unit : Nat
  iirAlphaQ16 : Int
  timeoutMs : Nat
  failSafe : Nat
deriving DecidableEq, Inhabited

/-- `thermal_actuator_cfg_t`. -/
structure ActuatorCfg where
  id : Nat
  name : Name
  pwmMin : Nat
  pwmMax : Nat
  slewPerTick : Nat
  spinupPwm : Nat
  spinupMs : Nat
  minOnTicks : Nat
  minOffTicks : Nat
  statePwm : Vector Nat maxCoolingStates
  dutyLinearization : Vector CurvePoint maxCurvePoints
  dutyLinearizationCount : Nat
deriving DecidableEq, Inhabited

/-- `thermal_pid_cfg_t`. -/
structure PidCfg where
  kpQ16 : Int
  kiQ16 : Int
  kdQ16 : Int
  dFilterAlphaQ16 : Int
  setpointMc : Int
  kpMinQ16 : Int
  kpMaxQ16 : Int
  kiMinQ16 : Int
  kiMaxQ16 : Int
  kdMinQ16 : Int
  kdMaxQ16 : Int
  setpointMinMc : Int
  setpointMaxMc : Int
  dtMinMs : Nat
  dtMaxMs : Nat
deriving DecidableEq, Inhabited

/-- `thermal_trip_cfg_t`. -/
structure TripCfg where
  tempMc : Int
  hystMc : Int
  severity : Nat
  coolingState : Nat
deriving DecidableEq, Inhabited

/-- `thermal_zone_cfg_t`. -/
structure ZoneCfg where
  name : Name
  sensorIds : Vector Nat maxSensorsPerZone
  sensorWeightsQ16 : Vector Int maxSensorsPerZone
  sensorCount : Nat
  aggregation : Nat
  fallbackTempMc : Int
  governor : Nat
  pid : PidCfg
  actuatorIds : Vector Nat maxActuatorsPerZone
  actuatorCount : Nat
  trips : Vector TripCfg maxTripsPerZone
  tripCount : Nat
deriving DecidableEq, Inhabited

/-- `thermal_modifier_cfg_t`. -/
structure ModifierCfg where
  name : Name
  contextId : Nat
  stages : Nat
  curve : Vector CurvePoint maxCurvePoints
  curveCount : Nat
  failSafe : Nat
deriving DecidableEq, Inhabited

/-- `thermal_fault_detector_cfg_t`. -/
structure FaultDetectorCfg where
  enabled : Nat
  severity : Nat
  action : Nat
  persistTicks : Nat
  recoveryTicks : Nat
  threshold0 : Int
  threshold1 : Int
  threshold2 : Int
  correlatedContextId : Nat
deriving DecidableEq, Inhabited

/-- `thermal_fault_detection_cfg_t`. -/
structure FaultDetectionCfg where
  stallDefaults : FaultDetectorCfg
  stuckSensorDefaults : FaultDetectorCfg
  runawayDefaults : FaultDetectorCfg
  staleContextDefaults : FaultDetectorCfg
deriving DecidableEq, Inhabited

/-- `thermal_telemetry_cfg_t`. -/
structure TelemetryCfg where
  enable : Nat
  periodTicks : Nat
  enabledSignalIds : Vector Nat maxTelemetrySignals
  enabledSignalCount : Nat
deriving DecidableEq, Inhabited

/-- `thermal_fan_health_cfg_t`. -/
structure FanHealthCfg where
  enable : Nat
  baselineSource : Nat
  baseline : Vector CurvePoint maxFanHealthPoints
  baselineCount : Nat
  stablePwmTicks : Nat
  stablePwmTolerance : Nat
  stableRpmTicks : Nat
  stableRpmTolerancePct : Nat
  minPointsObserved : Nat
  agingPct : Int
  degradedPct : Int
  failingPct : Int
deriving DecidableEq, Inhabited

/-- `thermal_config_t`. -/
structure Config where
  configVersion : Nat
  controlPeriodMs : Nat
  periodRelativeToMs : Nat
  sensors : Vector SensorCfg maxSensors
  sensorCount : Nat
  contexts : Vector ContextCfg maxContextSignals
  contextCount : Nat
  actuators : Vector ActuatorCfg maxActuators
  actuatorCount : Nat
  zones : Vector ZoneCfg maxZones
  zoneCount : Nat
  modifiers : Vector ModifierCfg maxModifiers
  modifierCount : Nat
  faults : FaultDetectionCfg
  telemetry : TelemetryCfg
  fanHealth : Vector FanHealthCfg maxActuators
deriving DecidableEq, Inhabited

/-! ## Lookups by id -/

/-- The slot of the first sensor with an id. -/
def findSensorSlot (cfg : Config) (id : Nat) : Option Nat :=
  Loop.first cfg.sensorCount fun i => (cfg.sensors.slot i).id == id

/-- The slot of the first actuator with an id. -/
def findActuatorSlot (cfg : Config) (id : Nat) : Option Nat :=
  Loop.first cfg.actuatorCount fun i => (cfg.actuators.slot i).id == id

/-- The slot of the first context signal with an id. -/
def findContextSlot (cfg : Config) (id : Nat) : Option Nat :=
  Loop.first cfg.contextCount fun i => (cfg.contexts.slot i).id == id

/-! ## References inside a zone -/

/-- The zone's actuator list names the actuator with this id. -/
def ZoneCfg.refsActuator (zc : ZoneCfg) (id : Nat) : Bool :=
  Loop.any zc.actuatorCount fun k => zc.actuatorIds.slot k == id

/-- First position of a sensor id in the zone's sensor list. -/
def ZoneCfg.sensorIndex (zc : ZoneCfg) (id : Nat) : Option Nat :=
  Loop.first zc.sensorCount fun k => zc.sensorIds.slot k == id

/-- The actuator slots a zone drives, in list order; an id that does not resolve
is skipped. -/
def zoneActuatorSlots (cfg : Config) (zc : ZoneCfg) : List Nat :=
  (List.range zc.actuatorCount).filterMap fun k => findActuatorSlot cfg (zc.actuatorIds.slot k)

end ThermalCore
