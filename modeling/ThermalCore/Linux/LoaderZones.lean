import ThermalCore.Linux.Loader
import ThermalCore.Validate

/-!
# The JSON loader: zones, modifiers and fault detectors

The sections of pass B that resolve names of pass A,
`platform/linux/config_jsmn.c` from `parse_trip` to
`parse_fault_detection_object`.

A reference is a name, looked up among the entries that pass A has counted.  Two
objects are more than their keys: a zone asks at its end whether explicit weights are
as many as its sensors, and a detector whether a correlated context has a threshold.
-/

namespace ThermalCore

open MachineInt Check

/-! ## Trips and PID -/

/-- The keys of a trip. -/
def tripArms : List (Arm TripCfg) :=
  [intArm "temp_mc" i32Min i32Max "expected integer" fun val out => { out with tempMc := val },
    intArm "hyst_mc" 0 i32Max "expected non-negative integer"
      fun val out => { out with hystMc := val },
    enumArm "severity" tripSeverityMap fun val out => { out with severity := val },
    intArm "cooling_state" 0 (maxCoolingStates - 1) "cooling_state out of range"
      fun val out => { out with coolingState := val.toNat }]

/-- `parse_trip`. -/
def parseTrip : Bytes → Json → TripCfg → Load TripCfg :=
  parseObject tripArms ["temp_mc", "hyst_mc", "severity", "cooling_state"]

/-- A field behind `dst32`. -/
def pidIntArm (key : String) (set : Int → PidCfg → PidCfg) : Arm PidCfg :=
  intArm key i32Min i32Max "expected integer" set

/-- The keys of `pid`. -/
def pidArms : List (Arm PidCfg) :=
  [pidIntArm "kp_q16" fun val out => { out with kpQ16 := val },
    pidIntArm "ki_q16" fun val out => { out with kiQ16 := val },
    pidIntArm "kd_q16" fun val out => { out with kdQ16 := val },
    pidIntArm "d_filter_alpha_q16" fun val out => { out with dFilterAlphaQ16 := val },
    pidIntArm "setpoint_mc" fun val out => { out with setpointMc := val },
    pidIntArm "kp_min_q16" fun val out => { out with kpMinQ16 := val },
    pidIntArm "kp_max_q16" fun val out => { out with kpMaxQ16 := val },
    pidIntArm "ki_min_q16" fun val out => { out with kiMinQ16 := val },
    pidIntArm "ki_max_q16" fun val out => { out with kiMaxQ16 := val },
    pidIntArm "kd_min_q16" fun val out => { out with kdMinQ16 := val },
    pidIntArm "kd_max_q16" fun val out => { out with kdMaxQ16 := val },
    pidIntArm "setpoint_min_mc" fun val out => { out with setpointMinMc := val },
    pidIntArm "setpoint_max_mc" fun val out => { out with setpointMaxMc := val },
    intArm "dt_min_ms" 0 65535 "expected integer in [0, 65535]"
      fun val out => { out with dtMinMs := val.toNat },
    intArm "dt_max_ms" 0 65535 "expected integer in [0, 65535]"
      fun val out => { out with dtMaxMs := val.toNat }]

/-- Every key is optional. -/
def parsePid : Bytes → Json → PidCfg → Load PidCfg := parseObject pidArms []

/-! ## Name resolution -/

/-- `strcmp(name, s) == 0`. -/
def nameIs (name : Name) (s : Bytes) : Bool := cString name.toList == cString s

/-- `resolve_name_in_sensors`. -/
def resolveNameInSensors (cfg : Config) (s : Bytes) : Option Nat :=
  Loop.first cfg.sensorCount fun i => nameIs (cfg.sensors.slot i).name s

/-- `resolve_name_in_contexts`. -/
def resolveNameInContexts (cfg : Config) (s : Bytes) : Option Nat :=
  Loop.first cfg.contextCount fun i => nameIs (cfg.contexts.slot i).name s

/-- `resolve_name_in_actuators`. -/
def resolveNameInActuators (cfg : Config) (s : Bytes) : Option Nat :=
  Loop.first cfg.actuatorCount fun i => nameIs (cfg.actuators.slot i).name s

/-- `resolve_name_in_zones`. -/
def resolveNameInZones (cfg : Config) (s : Bytes) : Option Nat :=
  Loop.first cfg.zoneCount fun i => nameIs (cfg.zones.slot i).name s

/-- A name field that refers to an entry of pass A: its slot. -/
def parseReference (resolve : Bytes → Option Nat) (wrongType unknown : String) (path : Bytes)
    (v : Json) : Load Nat :=
  match tokStrCopy nameMax v with
  | none => setErr .errInvalidArg path wrongType
  | some nm =>
      match resolve nm with
      | none => setErrf .errInvalidArg path unknown nm
      | some idx => .ok idx

/-! ## Zones -/

/-- The zone being filled with `weights_explicit_len`, which is -1 until the
weights are seen. -/
structure ZoneLoad where
  out : ZoneCfg
  weightsExplicitLen : Option Nat

/-- The `sensors` array of a zone. -/
def parseZoneSensors (cfgView : Config) : Bytes → Json → ZoneLoad → Load ZoneLoad :=
  parseArray maxSensorsPerZone "too many sensors per zone"
    (fun j path v st => do
      let idx ← parseReference (resolveNameInSensors cfgView) "expected string sensor name"
        "unknown sensor" path v
      .ok { st with
            out := { st.out with sensorIds := st.out.sensorIds.put j (cfgView.sensors.slot idx).id } })
    (fun n st => { st with out := { st.out with sensorCount := n } })

/-- The `sensor_weights_q16` array of a zone. -/
def parseZoneWeights : Bytes → Json → ZoneLoad → Load ZoneLoad :=
  parseArray maxSensorsPerZone "too many sensor weights per zone"
    (fun j path v st => do
      let val ← intField i32Min i32Max "expected integer" path v
      .ok { st with out := { st.out with sensorWeightsQ16 := st.out.sensorWeightsQ16.put j val } })
    (fun n st => { st with weightsExplicitLen := some n })

/-- The `actuators` array of a zone. -/
def parseZoneActuators (cfgView : Config) : Bytes → Json → ZoneLoad → Load ZoneLoad :=
  parseArray maxActuatorsPerZone "too many actuators per zone"
    (fun j path v st => do
      let idx ← parseReference (resolveNameInActuators cfgView) "expected string actuator name"
        "unknown actuator" path v
      .ok { st with
            out :=
              { st.out with actuatorIds := st.out.actuatorIds.put j (cfgView.actuators.slot idx).id } })
    (fun n st => { st with out := { st.out with actuatorCount := n } })

/-- The `trips` array of a zone. -/
def parseZoneTrips : Bytes → Json → ZoneLoad → Load ZoneLoad :=
  parseArray maxTripsPerZone "too many trips per zone"
    (fun j path v st => do
      let trip ← parseTrip path v (st.out.trips.slot j)
      .ok { st with out := { st.out with trips := st.out.trips.put j trip } })
    (fun n st => { st with out := { st.out with tripCount := n } })

/-- The keys of a zone. -/
def zoneArms (cfgView : Config) : List (Arm ZoneLoad) :=
  [nameArm fun copy st => { st with out := { st.out with name := copy st.out.name } },
    { key := "sensors", parse := parseZoneSensors cfgView },
    { key := "sensor_weights_q16", parse := parseZoneWeights },
    enumArm "aggregation" aggregationMap
      fun val st => { st with out := { st.out with aggregation := val } },
    intArm "fallback_temp_mc" i32Min i32Max "expected integer"
      fun val st => { st with out := { st.out with fallbackTempMc := val } },
    enumArm "governor" governorMap fun val st => { st with out := { st.out with governor := val } },
    { key := "pid"
      parse := fun path v st => do
        let pid ← parsePid path v st.out.pid
        .ok { st with out := { st.out with pid := pid } } },
    { key := "actuators", parse := parseZoneActuators cfgView },
    { key := "trips", parse := parseZoneTrips }]

/-- A weighted zone lists one weight for each of its sensors. -/
def checkWeights (path : Bytes) (st : ZoneLoad) : Load Unit :=
  if st.out.aggregation = Aggregation.weighted.code then
    match st.weightsExplicitLen with
    | none => setErr .errInvalidArg path "weighted aggregation requires sensor_weights_q16"
    | some len =>
        if u8 len ≠ st.out.sensorCount then
          setErr .errInvalidArg path "sensor_weights_q16 length must match sensor_count"
        else .ok ()
  else .ok ()

/-- No trip asks an actuator of the zone for a cooling state past the entries
its `state_pwm` listed. -/
def checkCoolingStates (statePwmLens : Vector Nat maxActuators) (cfgView : Config) (path : Bytes)
    (z : ZoneCfg) : Load Unit :=
  each z.tripCount fun t => each z.actuatorCount fun a =>
    match findActuatorSlot cfgView (z.actuatorIds.slot a) with
    | none => .ok ()
    | some slot =>
        if (z.trips.slot t).coolingState ≥ statePwmLens.slot slot then
          setErrf .errInvalidArg (elemPath (path ++ ascii ".trips") t)
            "cooling_state past actuator state_pwm length" (cfgView.actuators.slot slot).name.toList
        else .ok ()

/-- `parse_zone`. -/
def parseZone (statePwmLens : Vector Nat maxActuators) (cfgView : Config) (path : Bytes) (v : Json)
    (out : ZoneCfg) : Load ZoneCfg := do
  let st ← parseObject (zoneArms cfgView)
    ["name", "sensors", "aggregation", "governor", "fallback_temp_mc", "actuators", "trips"] path v
    { out := out, weightsExplicitLen := none }
  checkWeights path st
  checkCoolingStates statePwmLens cfgView path st.out
  .ok st.out

/-! ## Modifiers -/

/-- The keys of a curve point. -/
def curvePointArms : List (Arm CurvePoint) :=
  [intArm "x" i32Min i32Max "expected integer" fun val out => { out with x := val },
    intArm "value0" i32Min i32Max "expected integer" fun val out => { out with value0 := val },
    intArm "value1" i32Min i32Max "expected integer" fun val out => { out with value1 := val }]

/-- `parse_curve_point`. -/
def parseCurvePoint : Bytes → Json → CurvePoint → Load CurvePoint :=
  parseObject curvePointArms ["x", "value0", "value1"]

/-- The mask of a `stages` array. -/
def parseStages (path : Bytes) (v : Json) : Load Nat :=
  parseList (fun _ path v mask =>
      match enumLookup v modStageMap with
      | some val => .ok (mask ||| val)
      | none => setErr .errInvalidArg path "unknown stage")
    path v 0

/-- The `curve` array of a modifier. -/
def parseCurve : Bytes → Json → ModifierCfg → Load ModifierCfg :=
  parseArray maxCurvePoints "too many curve points"
    (fun j path v out => do
      let pt ← parseCurvePoint path v (out.curve.slot j)
      .ok { out with curve := out.curve.put j pt })
    (fun n out => { out with curveCount := n })

/-- The keys of a modifier. -/
def modifierArms (cfgView : Config) : List (Arm ModifierCfg) :=
  [nameArm fun copy out => { out with name := copy out.name },
    { key := "context"
      parse := fun path v out => do
        let idx ← parseReference (resolveNameInContexts cfgView) "expected string" "unknown context"
          path v
        .ok { out with contextId := (cfgView.contexts.slot idx).id } },
    { key := "stages"
      parse := fun path v out => do
        let mask ← parseStages path v
        .ok { out with stages := mask } },
    { key := "curve", parse := parseCurve },
    enumArm "fail_safe" failsafeMap fun val out => { out with failSafe := val }]

/-- `parse_modifier`. -/
def parseModifier (cfgView : Config) : Bytes → Json → ModifierCfg → Load ModifierCfg :=
  parseObject (modifierArms cfgView) ["name", "context", "stages", "curve", "fail_safe"]

/-! ## Fault detectors -/

/-- The four detectors of `fault_detection`, whose thresholds have different names. -/
inductive DetectorKind where
  | stall
  | stuckSensor
  | runaway
  | staleContext
deriving DecidableEq

/-- A threshold that only the detector `owner`, called `ownerName`, has. -/
def thresholdArm (kind owner : DetectorKind) (ownerName key : String) (lo : Int) (reason : String)
    (set : Int → FaultDetectorCfg → FaultDetectorCfg) : Arm FaultDetectorCfg where
  key := key
  parse path v out :=
    if kind ≠ owner then
      setErr .errInvalidArg path (key ++ " only valid for " ++ ownerName ++ " detector")
    else do
      let val ← intField lo i32Max reason path v
      .ok (set val out)

/-- The `correlated_context` key: a context name, or `null` for advisory mode. -/
def parseCorrelatedContext (kind : DetectorKind) (cfgView : Config) (path : Bytes) (v : Json)
    (out : FaultDetectorCfg) : Load FaultDetectorCfg :=
  if kind ≠ .stuckSensor then
    setErr .errInvalidArg path "correlated_context only valid for stuck_sensor detector"
  else if tokIsNull v then .ok { out with correlatedContextId := 0xFFFF }
  else do
    let idx ← parseReference (resolveNameInContexts cfgView) "expected string or null"
      "unknown context" path v
    .ok { out with correlatedContextId := (cfgView.contexts.slot idx).id }

/-- The keys of a detector, the thresholds by its kind. -/
def faultDetectorArms (kind : DetectorKind) (cfgView : Config) : List (Arm FaultDetectorCfg) :=
  [boolArm "enabled" "expected boolean" fun val out => { out with enabled := val },
    enumArm "severity" faultSeverityMap fun val out => { out with severity := val },
    enumArm "action" faultActionMap fun val out => { out with action := val },
    intArm "persist_ticks" 0 65535 "expected integer in [0, 65535]"
      fun val out => { out with persistTicks := val.toNat },
    intArm "recovery_ticks" 0 65535 "expected integer in [0, 65535]"
      fun val out => { out with recoveryTicks := val.toNat },
    thresholdArm kind .stall "stall" "stall_rpm" i32Min "expected integer"
      fun val out => { out with threshold0 := val },
    thresholdArm kind .stall "stall" "stall_pwm_threshold" i32Min "expected integer"
      fun val out => { out with threshold1 := val },
    thresholdArm kind .stuckSensor "stuck_sensor" "delta_mc" i32Min "expected integer"
      fun val out => { out with threshold0 := val },
    thresholdArm kind .stuckSensor "stuck_sensor" "window_ticks" 0 "expected non-negative integer"
      fun val out => { out with threshold1 := val },
    thresholdArm kind .stuckSensor "stuck_sensor" "correlated_delta_threshold" 1
      "expected positive integer" fun val out => { out with threshold2 := val },
    thresholdArm kind .runaway "runaway" "rise_mc_threshold" i32Min "expected integer"
      fun val out => { out with threshold0 := val },
    thresholdArm kind .runaway "runaway" "cooling_pwm_threshold" i32Min "expected integer"
      fun val out => { out with threshold1 := val },
    { key := "correlated_context", parse := parseCorrelatedContext kind cfgView }]

/-- `parse_fault_detector`. -/
def parseFaultDetector (kind : DetectorKind) (cfgView : Config) (path : Bytes) (v : Json)
    (out : FaultDetectorCfg) : Load FaultDetectorCfg := do
  let out ← parseObject (faultDetectorArms kind cfgView) [] path v
    { out with correlatedContextId := 0xFFFF }
  if kind = .stuckSensor ∧ out.correlatedContextId ≠ 0xFFFF ∧ out.threshold2 ≤ 0 then
    setErr .errInvalidArg path
      "correlated_delta_threshold required when correlated_context is set"
  else .ok out

/-- The keys of `fault_detection`. -/
def faultDetectionArms (cfgView : Config) : List (Arm FaultDetectionCfg) :=
  [{ key := "stall"
     parse := fun path v out => do
       let fc ← parseFaultDetector .stall cfgView path v out.stallDefaults
       .ok { out with stallDefaults := fc } },
    { key := "stuck_sensor"
      parse := fun path v out => do
        let fc ← parseFaultDetector .stuckSensor cfgView path v out.stuckSensorDefaults
        .ok { out with stuckSensorDefaults := fc } },
    { key := "runaway"
      parse := fun path v out => do
        let fc ← parseFaultDetector .runaway cfgView path v out.runawayDefaults
        .ok { out with runawayDefaults := fc } },
    { key := "stale_context"
      parse := fun path v out => do
        let fc ← parseFaultDetector .staleContext cfgView path v out.staleContextDefaults
        .ok { out with staleContextDefaults := fc } }]

/-- `parse_fault_detection_object`. -/
def parseFaultDetectionObject (cfgView : Config) :
    Bytes → Json → FaultDetectionCfg → Load FaultDetectionCfg :=
  parseObject (faultDetectionArms cfgView) []

end ThermalCore
