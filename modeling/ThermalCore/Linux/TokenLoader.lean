import ThermalCore.Linux.Jsmn
import ThermalCore.Linux.TokenScan

/-!
# The JSON loader on the token array

The parsers of `platform/linux/config_jsmn.c` as they step over the tokens, from
`parse_sensor` to `thermal_config_jsmn_parse`.  The tables of keys are those of the
parsers on documents; what is written here is which values are objects and arrays
themselves and how their tokens are reached.  A key is compared and copied through
`tok_in_range`, but the token behind it is not tested before it is read.

The second half shows that every parser `Walks`: its own reads are reads of parsed
tokens exactly where a token was parsed for each value and each entry it announces,
and where a document's tokens lie that is always so.  The entry point then reads in
range on every text whose tokens list a document.
-/

namespace ThermalCore

open MachineInt

/-- `(uint8_t)n`. -/
def count8 (n : Int) : Nat := (n % 2 ^ 8).toNat

namespace ParseCtx

variable (c : ParseCtx)

/-! ## Sensors and context signals -/

/-- `parse_sensor`. -/
def parseSensor (runtime : Bool) : Bytes → Int → SensorCfg → Scan SensorCfg :=
  c.parseObject (c.tokenArms (sensorArms runtime) []) ["id", "name", "iir_alpha_q16", "max_staleness_ms"]

/-- `parse_context_signal`. -/
def parseContextSignal (runtime : Bool) : Bytes → Int → ContextCfg → Scan ContextCfg :=
  c.parseObject (c.tokenArms (contextSignalArms runtime) [])
    ["id", "name", "unit", "iir_alpha_q16", "timeout_ms", "fail_safe"]

/-! ## Fan health -/

/-- `parse_severity_pct`. -/
def parseSeverityPct : Bytes → Int → FanHealthCfg → Scan FanHealthCfg :=
  c.parseObject (c.tokenArms severityPctArms []) ["aging", "degraded", "failing"]

/-- One entry of the `baseline` array, the only one read behind `tok_in_range`. -/
def parseBaselinePoint (j : Nat) (path : Bytes) (ck : Int) (out : FanHealthCfg) : Scan FanHealthCfg := do
  let pair ← c.checkedTok ck
  match pair with
  | none => lift (setErr .errInvalidArg path "expected [pwm, rpm] pair")
  | some pair =>
      if pair.type ≠ .array ∨ pair.size ≠ 2 then
        lift (setErr .errInvalidArg path "expected [pwm, rpm] pair")
      else do
        let pRpm ← c.skipToken (ck + 1)
        let pwm ← c.view (ck + 1)
        let pwmV ← lift (intField 0 255 "pwm must be an integer in [0, 255]" path pwm)
        let rpm ← c.view pRpm
        let rpmV ← lift (intField 1 65535 "rpm must be an integer in [1, 65535]" path rpm)
        pure { out with baseline := out.baseline.put j { x := pwmV, value0 := rpmV, value1 := 0 } }

/-- `baseline` of `parse_fan_health`: an array of points. -/
def parseBaseline : Bytes → Int → FanHealthCfg → Scan FanHealthCfg :=
  c.parseArray maxFanHealthPoints "too many baseline points" c.parseBaselinePoint
    fun n out => { out with baselineCount := count8 n }

/-- The keys of a fan health block. -/
def fanHealthArms : List (TokenArm FanHealthCfg) :=
  c.tokenArms ThermalCore.fanHealthArms
    [valueArm "baseline" c.parseBaseline, valueArm "severity_pct" c.parseSeverityPct]

/-- `parse_fan_health`: the required fields are asked for only when it is enabled. -/
def parseFanHealth (path : Bytes) (t : Int) : Scan FanHealthCfg := do
  let tok ← c.readTok t
  if tok.type ≠ .object then lift (setErr .errInvalidArg path "expected object")
  else do
    let st ← c.keyLoop (c.parseMember c.fanHealthArms path) tok.size.toNat (t + 1) (fanHealthZeroed, [])
    if st.1.enable = 0 then pure st.1
    else if sawAll fanHealthRequired st.2 then pure st.1
    else lift (setErr .errInvalidArg path "required field missing")

/-! ## Actuators -/

/-- One entry of the `duty_linearization` array. -/
def parseDutyPoint (j : Nat) (path : Bytes) (pk : Int) (out : ActuatorCfg) : Scan ActuatorCfg := do
  let pair ← c.readTok pk
  if pair.type ≠ .array ∨ pair.size ≠ 2 then
    lift (setErr .errInvalidArg path "expected [input_pwm, output_pwm]")
  else do
    let input ← c.view (pk + 1)
    let x ← lift (intField 0 255 "expected input PWM in [0, 255]" path input)
    let vk ← c.skipToken (pk + 1)
    let output ← c.view vk
    let y ← lift (intField 0 255 "expected output PWM in [0, 255]" path output)
    pure { out with
            dutyLinearization := out.dutyLinearization.put j { x := x, value0 := y, value1 := 0 } }

/-- `parse_duty_linearization`: an array of points. -/
def parseDutyLinearization : Bytes → Int → ActuatorCfg → Scan ActuatorCfg :=
  c.parseArray maxCurvePoints "too many curve points" (valueElem c.parseDutyPoint)
    fun n out => { out with dutyLinearizationCount := count8 n }

/-- `state_pwm` of `parse_actuator`: an array of duties. -/
def parseStatePwm : Bytes → Int → ActuatorLoad → Scan ActuatorLoad :=
  c.parseArray maxCoolingStates "too many cooling states"
    (fun j => c.leafElem fun path v st => do
      let val ← intField 0 255 "expected integer in [0, 255]" path v
      .ok { st with out := { st.out with statePwm := st.out.statePwm.put j val.toNat } })
    (fun n st => { st with statePwmLen := count8 n })

/-- The keys of an actuator. -/
def actuatorArms (runtime : Bool) : List (TokenArm ActuatorLoad) :=
  c.tokenArms (ThermalCore.actuatorArms runtime)
    [valueArm "state_pwm" c.parseStatePwm,
      valueArm "duty_linearization" fun path t st => do
        let out ← c.parseDutyLinearization path t st.out
        pure { st with out := out },
      valueArm "fan_health" fun path t st => do
        let fanHealth ← c.parseFanHealth path t
        pure { st with fanHealth := fanHealth, sawFanHealth := true }]

/-- `parse_actuator`: enabled fan health needs a tachometer. -/
def parseActuator (runtime : Bool) (path : Bytes) (t : Int) (out : ActuatorCfg) (statePwmLen : Nat) :
    Scan ActuatorLoad := do
  let st ← c.parseObject (c.actuatorArms runtime) ["id", "name", "pwm_min", "pwm_max", "state_pwm"] path t
    { out := out, fanHealth := fanHealthZeroed, statePwmLen := statePwmLen, sawTach := false,
      sawFanHealth := false }
  if st.sawFanHealth ∧ st.fanHealth.enable ≠ 0 ∧ st.sawTach = false then
    lift (setErr .errInvalidArg path "fan_health enabled but actuator has no tach source")
  else pure st

/-! ## Zones -/

/-- `parse_trip`. -/
def parseTrip : Bytes → Int → TripCfg → Scan TripCfg :=
  c.parseObject (c.tokenArms tripArms []) ["temp_mc", "hyst_mc", "severity", "cooling_state"]

/-- `parse_pid`: no field is required. -/
def parsePid : Bytes → Int → PidCfg → Scan PidCfg := c.parseObject (c.tokenArms pidArms []) []

/-- `sensors` of `parse_zone`: an array of sensor names. -/
def parseZoneSensors (cfgView : Config) : Bytes → Int → ZoneLoad → Scan ZoneLoad :=
  c.parseArray maxSensorsPerZone "too many sensors per zone"
    (fun j => c.leafElem fun path v st => do
      let idx ← parseReference (resolveNameInSensors cfgView) "expected string sensor name"
        "unknown sensor" path v
      .ok { st with
            out := { st.out with sensorIds := st.out.sensorIds.put j (cfgView.sensors.slot idx).id } })
    (fun n st => { st with out := { st.out with sensorCount := count8 n } })

/-- `sensor_weights_q16` of `parse_zone`: an array of integers. -/
def parseZoneWeights : Bytes → Int → ZoneLoad → Scan ZoneLoad :=
  c.parseArray maxSensorsPerZone "too many sensor weights per zone"
    (fun j => c.leafElem fun path v st => do
      let val ← intField i32Min i32Max "expected integer" path v
      .ok { st with out := { st.out with sensorWeightsQ16 := st.out.sensorWeightsQ16.put j val } })
    -- a length below 0 is the mark of weights that were not seen
    (fun n st => { st with weightsExplicitLen := if n < 0 then none else some n.toNat })

/-- `actuators` of `parse_zone`: an array of actuator names. -/
def parseZoneActuators (cfgView : Config) : Bytes → Int → ZoneLoad → Scan ZoneLoad :=
  c.parseArray maxActuatorsPerZone "too many actuators per zone"
    (fun j => c.leafElem fun path v st => do
      let idx ← parseReference (resolveNameInActuators cfgView) "expected string actuator name"
        "unknown actuator" path v
      .ok { st with
            out :=
              { st.out with actuatorIds := st.out.actuatorIds.put j (cfgView.actuators.slot idx).id } })
    (fun n st => { st with out := { st.out with actuatorCount := count8 n } })

/-- One entry of the `trips` array. -/
def parseZoneTrip (j : Nat) (path : Bytes) (t : Int) (st : ZoneLoad) : Scan ZoneLoad := do
  let trip ← c.parseTrip path t (st.out.trips.slot j)
  pure { st with out := { st.out with trips := st.out.trips.put j trip } }

/-- `trips` of `parse_zone`: an array of trips. -/
def parseZoneTrips : Bytes → Int → ZoneLoad → Scan ZoneLoad :=
  c.parseArray maxTripsPerZone "too many trips per zone" (valueElem c.parseZoneTrip)
    (fun n st => { st with out := { st.out with tripCount := count8 n } })

/-- The keys of a zone. -/
def zoneArms (cfgView : Config) : List (TokenArm ZoneLoad) :=
  c.tokenArms (ThermalCore.zoneArms cfgView)
    [valueArm "sensors" (c.parseZoneSensors cfgView),
      valueArm "sensor_weights_q16" c.parseZoneWeights,
      valueArm "pid" fun path t st => do
        let pid ← c.parsePid path t st.out.pid
        pure { st with out := { st.out with pid := pid } },
      valueArm "actuators" (c.parseZoneActuators cfgView),
      valueArm "trips" c.parseZoneTrips]

/-- `parse_zone`: explicit weights must be as many as the sensors. -/
def parseZone (statePwmLens : Vector Nat maxActuators) (cfgView : Config) (path : Bytes) (t : Int)
    (out : ZoneCfg) : Scan ZoneCfg := do
  let st ← c.parseObject (c.zoneArms cfgView)
    ["name", "sensors", "aggregation", "governor", "fallback_temp_mc", "actuators", "trips"] path t
    { out := out, weightsExplicitLen := none }
  lift (checkWeights path st)
  lift (checkCoolingStates statePwmLens cfgView path st.out)
  pure st.out

/-! ## Modifiers -/

/-- `parse_curve_point`. -/
def parseCurvePoint : Bytes → Int → CurvePoint → Scan CurvePoint :=
  c.parseObject (c.tokenArms curvePointArms []) ["x", "value0", "value1"]

/-- `stages` of `parse_modifier`: an array of names, without a limit on their number. -/
def parseStages (path : Bytes) (t : Int) : Scan Nat :=
  c.parseList (fun _ => c.leafElem fun path v mask =>
      match enumLookup v modStageMap with
      | some val => .ok (mask ||| val)
      | none => setErr .errInvalidArg path "unknown stage")
    path t 0

/-- One entry of the `curve` array. -/
def parseCurveElem (j : Nat) (path : Bytes) (t : Int) (out : ModifierCfg) : Scan ModifierCfg := do
  let pt ← c.parseCurvePoint path t (out.curve.slot j)
  pure { out with curve := out.curve.put j pt }

/-- `curve` of `parse_modifier`: an array of points. -/
def parseCurve : Bytes → Int → ModifierCfg → Scan ModifierCfg :=
  c.parseArray maxCurvePoints "too many curve points" (valueElem c.parseCurveElem)
    (fun n out => { out with curveCount := count8 n })

/-- The keys of a modifier. -/
def modifierArms (cfgView : Config) : List (TokenArm ModifierCfg) :=
  c.tokenArms (ThermalCore.modifierArms cfgView)
    [valueArm "stages" fun path t out => do
        let mask ← c.parseStages path t
        pure { out with stages := mask },
      valueArm "curve" c.parseCurve]

/-- `parse_modifier`. -/
def parseModifier (cfgView : Config) : Bytes → Int → ModifierCfg → Scan ModifierCfg :=
  c.parseObject (c.modifierArms cfgView) ["name", "context", "stages", "curve", "fail_safe"]

/-! ## Fault detectors -/

/-- `parse_fault_detector`: a correlated context needs a positive threshold. -/
def parseFaultDetector (kind : DetectorKind) (cfgView : Config) (path : Bytes) (t : Int)
    (out : FaultDetectorCfg) : Scan FaultDetectorCfg := do
  let out ← c.parseObject (c.tokenArms (faultDetectorArms kind cfgView) []) [] path t
    { out with correlatedContextId := 0xFFFF }
  if kind = .stuckSensor ∧ out.correlatedContextId ≠ 0xFFFF ∧ out.threshold2 ≤ 0 then
    lift (setErr .errInvalidArg path
      "correlated_delta_threshold required when correlated_context is set")
  else pure out

/-- The keys of `fault_detection`. -/
def faultDetectionArms (cfgView : Config) : List (TokenArm FaultDetectionCfg) :=
  [valueArm "stall" fun path t out => do
      let fc ← c.parseFaultDetector .stall cfgView path t out.stallDefaults
      pure { out with stallDefaults := fc },
    valueArm "stuck_sensor" fun path t out => do
      let fc ← c.parseFaultDetector .stuckSensor cfgView path t out.stuckSensorDefaults
      pure { out with stuckSensorDefaults := fc },
    valueArm "runaway" fun path t out => do
      let fc ← c.parseFaultDetector .runaway cfgView path t out.runawayDefaults
      pure { out with runawayDefaults := fc },
    valueArm "stale_context" fun path t out => do
      let fc ← c.parseFaultDetector .staleContext cfgView path t out.staleContextDefaults
      pure { out with staleContextDefaults := fc }]

/-- `parse_fault_detection_object`. -/
def parseFaultDetectionObject (cfgView : Config) :
    Bytes → Int → FaultDetectionCfg → Scan FaultDetectionCfg :=
  c.parseObject (c.faultDetectionArms cfgView) []

/-! ## Telemetry and platform-only objects -/

/-- The keys of `telemetry`. -/
def telemetryArms (runtime : Bool) (cfgView : Config) : List (TokenArm TelemetryCfg) :=
  c.tokenArms (ThermalCore.telemetryArms runtime cfgView)
    [valueArm "signals" (c.parseList fun _ => c.leafElem (parseSelector cfgView))]

/-- `parse_telemetry_object`. -/
def parseTelemetryObject (runtime : Bool) (cfgView : Config) :
    Bytes → Int → TelemetryCfg → Scan TelemetryCfg :=
  c.parseObject (c.telemetryArms runtime cfgView) []

/-- `parse_control_object`. -/
def parseControlObject (runtime : Bool) : Bytes → Int → Unit → Scan Unit :=
  c.parseObject (c.tokenArms (controlArms runtime) []) []

/-- `parse_hil_object`. -/
def parseHilObject (runtime : Bool) : Bytes → Int → Unit → Scan Unit :=
  c.parseObject (c.tokenArms (hilArms runtime) []) []

/-! ## Top-level passes -/

/-- One entry of the `sensors` array. -/
def parseSensorsElem (runtime : Bool) (j : Nat) (path : Bytes) (t : Int) (st : LoadState) : Scan LoadState := do
  let sensor ← c.parseSensor runtime path t (st.cfg.sensors.slot j)
  pure { st with cfg := { st.cfg with sensors := st.cfg.sensors.put j sensor } }

/-- The array of sensors. -/
def parseSensors (runtime : Bool) : Bytes → Int → LoadState → Scan LoadState :=
  c.parseArray maxSensors "too many sensors" (valueElem (c.parseSensorsElem runtime))
    (fun n st => { st with cfg := { st.cfg with sensorCount := count8 n } })

/-- One entry of the `context_signals` array. -/
def parseContextSignalsElem (runtime : Bool) (j : Nat) (path : Bytes) (t : Int) (st : LoadState) :
    Scan LoadState := do
  let context ← c.parseContextSignal runtime path t (st.cfg.contexts.slot j)
  pure { st with cfg := { st.cfg with contexts := st.cfg.contexts.put j context } }

/-- The array of context signals. -/
def parseContextSignals (runtime : Bool) : Bytes → Int → LoadState → Scan LoadState :=
  c.parseArray maxContextSignals "too many context signals" (valueElem (c.parseContextSignalsElem runtime))
    (fun n st => { st with cfg := { st.cfg with contextCount := count8 n } })

/-- One entry of the `actuators` array. -/
def parseActuatorsElem (runtime : Bool) (j : Nat) (path : Bytes) (t : Int) (st : LoadState) :
    Scan LoadState := do
  let act ← c.parseActuator runtime path t (st.cfg.actuators.slot j) (st.statePwmLens.slot j)
  pure { cfg :=
          { st.cfg with
            actuators := st.cfg.actuators.put j act.out
            fanHealth := st.cfg.fanHealth.put j act.fanHealth }
         statePwmLens := st.statePwmLens.put j act.statePwmLen }

/-- The array of actuators. -/
def parseActuators (runtime : Bool) : Bytes → Int → LoadState → Scan LoadState :=
  c.parseArray maxActuators "too many actuators" (valueElem (c.parseActuatorsElem runtime))
    (fun n st => { st with cfg := { st.cfg with actuatorCount := count8 n } })

/-- The keys that pass A handles. -/
def passAArms (runtime : Bool) : List (TokenArm LoadState) :=
  [valueArm "sensors" (c.parseSensors runtime),
    valueArm "context_signals" (c.parseContextSignals runtime),
    valueArm "actuators" (c.parseActuators runtime)]

/-- One round of pass A, which leaves every other key for pass B. -/
def passAMember (runtime : Bool) (k : Int) (st : LoadState) : Scan LoadState := do
  let keyTok ← c.view k
  match keyTok with
  | .string key =>
      match findTokenArm (c.passAArms runtime) key with
      | some arm => arm.parse key k st
      | none => pure st
  | _ => pure st

/-- `pass_a_top_level`: sensors, context signals and actuators, any other key skipped. -/
def passATopLevel (runtime : Bool) (st : LoadState) : Scan LoadState := do
  let root ← c.readTok 0
  if root.type ≠ .object then lift (setErr .errInvalidArg (ascii "$") "expected root object")
  else c.keyLoop (c.passAMember runtime) root.size.toNat 1 st

/-- One entry of the `zones` array. -/
def parseZonesElem (j : Nat) (path : Bytes) (t : Int) (st : LoadState) : Scan LoadState := do
  let zone ← c.parseZone st.statePwmLens st.cfg path t (st.cfg.zones.slot j)
  pure { st with cfg := { st.cfg with zones := st.cfg.zones.put j zone } }

/-- The array of zones. -/
def parseZones : Bytes → Int → LoadState → Scan LoadState :=
  c.parseArray maxZones "too many zones" (valueElem c.parseZonesElem)
    (fun n st => { st with cfg := { st.cfg with zoneCount := count8 n } })

/-- One entry of the `policy_modifiers` array. -/
def parsePolicyModifiersElem (j : Nat) (path : Bytes) (t : Int) (st : LoadState) : Scan LoadState := do
  let modifier ← c.parseModifier st.cfg path t (st.cfg.modifiers.slot j)
  pure { st with cfg := { st.cfg with modifiers := st.cfg.modifiers.put j modifier } }

/-- The array of modifiers. -/
def parsePolicyModifiers : Bytes → Int → LoadState → Scan LoadState :=
  c.parseArray maxModifiers "too many modifiers" (valueElem c.parsePolicyModifiersElem)
    (fun n st => { st with cfg := { st.cfg with modifierCount := count8 n } })

/-- The keys that pass B handles, those of pass A among them as done. -/
def passBArms (runtime : Bool) : List (TokenArm LoadState) :=
  c.tokenArms (ThermalCore.passBArms runtime)
    [valueArm "zones" c.parseZones,
      valueArm "policy_modifiers" c.parsePolicyModifiers,
      valueArm "fault_detection" fun path t st => do
        let faults ← c.parseFaultDetectionObject st.cfg path t st.cfg.faults
        pure { st with cfg := { st.cfg with faults := faults } },
      valueArm "telemetry" fun path t st => do
        let telemetry ← c.parseTelemetryObject runtime st.cfg path t st.cfg.telemetry
        pure { st with cfg := { st.cfg with telemetry := telemetry } },
      valueArm "control" fun path t st => do
        c.parseControlObject runtime path t ()
        pure st,
      valueArm "hil" fun path t st => do
        c.parseHilObject runtime path t ()
        pure st]

/-- One round of pass B; `st.2` are the keys seen so far. -/
def passBMember (runtime : Bool) (k : Int) (st : LoadState × List Bytes) :
    Scan (LoadState × List Bytes) := do
  let keyTok ← c.view k
  match tokStrCopy 64 keyTok with
  | none => lift (setErr .errInvalidArg (ascii "$") "non-string top-level key")
  | some key =>
      match findTokenArm (c.passBArms runtime) key with
      | none => lift (setErrf .errInvalidArg (ascii "$") "unknown top-level key" key)
      | some arm => do
          let out ← arm.parse key k st.1
          pure (out, key :: st.2)

/-- The round of pass B: the key is the path. -/
theorem passBMember_eq_round (runtime : Bool) :
    c.passBMember runtime =
      c.memberRound (c.passBArms runtime) (fun key => key)
        ⟨.errInvalidArg, ascii "$" ++ ascii ": " ++ ascii "non-string top-level key"⟩ fun key =>
          ⟨.errInvalidArg,
            ascii "$" ++ ascii ": " ++ ascii "unknown top-level key" ++ ascii " '" ++ cString key ++ ascii "'"⟩ := by
  funext k st
  refine congrArg (c.view k >>= ·) (funext fun keyTok => ?_)
  cases tokStrCopy 64 keyTok with
  | none => rfl
  | some key =>
      dsimp only
      cases findTokenArm (c.passBArms runtime) key <;> rfl

/-- `pass_b_top_level`: all that refers to what pass A has read. -/
def passBTopLevel (runtime : Bool) (st : LoadState) : Scan LoadState := do
  let root ← c.readTok 0
  let st ← c.keyLoop (c.passBMember runtime) root.size.toNat 1 (st, [])
  if sawAll ["config_version"] st.2 = false then
    lift (setErr .errInvalidArg (ascii "$") "required field 'config_version' missing")
  else if sawAll ["control_period_ms"] st.2 = false then
    lift (setErr .errInvalidArg (ascii "$") "required field 'control_period_ms' missing")
  else pure st.1

/-- What follows tokenisation. -/
def loadConfig (runtime : Bool) : Scan Config := do
  let st ← c.passATopLevel runtime loadStateZeroed
  let st ← c.passBTopLevel runtime st
  lift (validated st.cfg)

/-! ## Every parser walks -/

section walks

variable {c}

/-- A sensor walks as an object. -/
theorem walksAt_parseSensor (runtime : Bool) : c.WalksAt (c.parseSensor runtime) :=
  walksAt_parseObject (walksArms_tokenArms walksArms_nil) _

/-- A context signal walks as an object. -/
theorem walksAt_parseContextSignal (runtime : Bool) : c.WalksAt (c.parseContextSignal runtime) :=
  walksAt_parseObject (walksArms_tokenArms walksArms_nil) _

/-- The severity percentages walk as an object. -/
theorem walksAt_parseSeverityPct : c.WalksAt c.parseSeverityPct :=
  walksAt_parseObject (walksArms_tokenArms walksArms_nil) _

/-- A baseline point tests its token before it reads it. -/
theorem walksElem_parseBaselinePoint : c.WalksElem c.parseBaselinePoint := by
  intro j path a out
  refine (walks_checkedTok a).bind fun pair _ => ?_
  cases pair with
  | none => exact walks_lift _
  | some pair =>
      dsimp only
      split_ifs
      · exact walks_lift _
      · exact (walks_skipToken _).bind fun _ _ => (walks_view _).bind fun _ _ =>
          (walks_lift _).bind fun _ _ => (walks_view _).bind fun _ _ =>
          (walks_lift _).bind fun _ _ => walks_pure _

/-- A baseline walks as an array. -/
theorem walksAt_parseBaseline : c.WalksAt c.parseBaseline :=
  walksAt_parseArray walksElem_parseBaselinePoint _ _ _

/-- The keys of a fan health block walk. -/
theorem walksArms_fanHealthArms : c.WalksArms c.fanHealthArms := by
  apply walksArms_tokenArms
  intro arm harm
  simp only [List.mem_cons, List.not_mem_nil, or_false] at harm
  rcases harm with rfl | rfl
  · exact walksArm_valueArm walksAt_parseBaseline _
  · exact walksArm_valueArm walksAt_parseSeverityPct _

/-- A fan health block walks: it reads its own token first. -/
theorem walks_parseFanHealth (path : Bytes) (t : Int) :
    c.Walks (t < c.nToks) t (c.parseFanHealth path t) :=
  walks_object walksArms_fanHealthArms path fanHealthZeroed fun st => by
    split_ifs
    · exact walks_pure _
    · exact walks_pure _
    · exact walks_lift _

/-- A point of a linearization curve walks. -/
theorem walksAt_parseDutyPoint (j : Nat) : c.WalksAt (c.parseDutyPoint j) := by
  intro path t out
  refine walks_readTok.bind fun pair _ => ?_
  split_ifs
  · exact walks_lift _
  · exact (walks_view _).bind fun _ _ => (walks_lift _).bind fun _ _ =>
      (walks_skipToken _).bind fun _ _ => (walks_view _).bind fun _ _ =>
      (walks_lift _).bind fun _ _ => walks_pure _

/-- A linearization curve walks as an array. -/
theorem walksAt_parseDutyLinearization : c.WalksAt c.parseDutyLinearization :=
  walksAt_parseArray (walksElem_valueElem walksAt_parseDutyPoint) _ _ _

/-- The cooling states' duties walk as an array. -/
theorem walksAt_parseStatePwm : c.WalksAt c.parseStatePwm :=
  walksAt_parseArray (fun _ _ _ _ => walks_leafElem _ _ _ _) _ _ _

/-- The keys of an actuator walk. -/
theorem walksArms_actuatorArms (runtime : Bool) : c.WalksArms (c.actuatorArms runtime) := by
  apply walksArms_tokenArms
  intro arm harm
  simp only [List.mem_cons, List.not_mem_nil, or_false] at harm
  rcases harm with rfl | rfl | rfl
  · exact walksArm_valueArm walksAt_parseStatePwm _
  · exact walksArm_store (fun (st : ActuatorLoad) path t => walksAt_parseDutyLinearization path t st.out) _ _
  · exact walksArm_store (fun _ path t => walks_parseFanHealth path t) _ _

/-- An actuator walks as an object. -/
theorem walks_parseActuator (runtime : Bool) (path : Bytes) (t : Int) (out : ActuatorCfg)
    (statePwmLen : Nat) :
    c.Walks (t < c.nToks) t (c.parseActuator runtime path t out statePwmLen) := by
  refine (walksAt_parseObject (walksArms_actuatorArms runtime) _ path t _).bind fun st _ => ?_
  split_ifs
  · exact walks_lift _
  · exact walks_pure _

/-- A trip walks as an object. -/
theorem walksAt_parseTrip : c.WalksAt c.parseTrip :=
  walksAt_parseObject (walksArms_tokenArms walksArms_nil) _

/-- The PID block walks as an object. -/
theorem walksAt_parsePid : c.WalksAt c.parsePid :=
  walksAt_parseObject (walksArms_tokenArms walksArms_nil) _

/-- A zone's sensors walk as an array. -/
theorem walksAt_parseZoneSensors (cfgView : Config) : c.WalksAt (c.parseZoneSensors cfgView) :=
  walksAt_parseArray (fun _ _ _ _ => walks_leafElem _ _ _ _) _ _ _

/-- A zone's weights walk as an array. -/
theorem walksAt_parseZoneWeights : c.WalksAt c.parseZoneWeights :=
  walksAt_parseArray (fun _ _ _ _ => walks_leafElem _ _ _ _) _ _ _

/-- A zone's actuators walk as an array. -/
theorem walksAt_parseZoneActuators (cfgView : Config) : c.WalksAt (c.parseZoneActuators cfgView) :=
  walksAt_parseArray (fun _ _ _ _ => walks_leafElem _ _ _ _) _ _ _

/-- A zone's trips walk as an array. -/
theorem walksAt_parseZoneTrips : c.WalksAt c.parseZoneTrips :=
  walksAt_parseArray (walksElem_store (fun _ _ path t => walksAt_parseTrip path t _) _) _ _ _

/-- The keys of a zone walk. -/
theorem walksArms_zoneArms (cfgView : Config) : c.WalksArms (c.zoneArms cfgView) := by
  apply walksArms_tokenArms
  intro arm harm
  simp only [List.mem_cons, List.not_mem_nil, or_false] at harm
  rcases harm with rfl | rfl | rfl | rfl | rfl
  · exact walksArm_valueArm (walksAt_parseZoneSensors cfgView) _
  · exact walksArm_valueArm walksAt_parseZoneWeights _
  · exact walksArm_store (fun (st : ZoneLoad) path t => walksAt_parsePid path t st.out.pid) _ _
  · exact walksArm_valueArm (walksAt_parseZoneActuators cfgView) _
  · exact walksArm_valueArm walksAt_parseZoneTrips _

/-- A zone walks as an object. -/
theorem walks_parseZone (statePwmLens : Vector Nat maxActuators) (cfgView : Config) (path : Bytes)
    (t : Int) (out : ZoneCfg) :
    c.Walks (t < c.nToks) t (c.parseZone statePwmLens cfgView path t out) :=
  (walksAt_parseObject (walksArms_zoneArms cfgView) _ path t _).bind fun _ _ =>
    (walks_lift _).bind fun _ _ => (walks_lift _).bind fun _ _ => walks_pure _

/-- A curve point walks as an object. -/
theorem walksAt_parseCurvePoint : c.WalksAt c.parseCurvePoint :=
  walksAt_parseObject (walksArms_tokenArms walksArms_nil) _

/-- The stages walk as a list. -/
theorem walks_parseStages (path : Bytes) (t : Int) : c.Walks (t < c.nToks) t (c.parseStages path t) :=
  walksAt_parseList (fun _ _ _ _ => walks_leafElem _ _ _ _) path t 0

/-- A modifier's curve walks as an array. -/
theorem walksAt_parseCurve : c.WalksAt c.parseCurve :=
  walksAt_parseArray (walksElem_store (fun _ _ path t => walksAt_parseCurvePoint path t _) _) _ _ _

/-- The keys of a modifier walk. -/
theorem walksArms_modifierArms (cfgView : Config) : c.WalksArms (c.modifierArms cfgView) := by
  apply walksArms_tokenArms
  intro arm harm
  simp only [List.mem_cons, List.not_mem_nil, or_false] at harm
  rcases harm with rfl | rfl
  · exact walksArm_store (fun _ path t => walks_parseStages path t) _ _
  · exact walksArm_valueArm walksAt_parseCurve _

/-- A modifier walks as an object. -/
theorem walksAt_parseModifier (cfgView : Config) : c.WalksAt (c.parseModifier cfgView) :=
  walksAt_parseObject (walksArms_modifierArms cfgView) _

/-- A detector's block walks as an object. -/
theorem walks_parseFaultDetector (kind : DetectorKind) (cfgView : Config) (path : Bytes) (t : Int)
    (out : FaultDetectorCfg) :
    c.Walks (t < c.nToks) t (c.parseFaultDetector kind cfgView path t out) := by
  refine (walksAt_parseObject (walksArms_tokenArms walksArms_nil) _ path t _).bind fun out' _ => ?_
  split_ifs
  · exact walks_lift _
  · exact walks_pure _

/-- The keys of `fault_detection` walk. -/
theorem walksArms_faultDetectionArms (cfgView : Config) : c.WalksArms (c.faultDetectionArms cfgView) := by
  intro arm harm
  simp only [faultDetectionArms, List.mem_cons, List.not_mem_nil, or_false] at harm
  rcases harm with rfl | rfl | rfl | rfl
  · exact walksArm_store (fun _ path t => walks_parseFaultDetector .stall cfgView path t _) _ _
  · exact walksArm_store (fun _ path t => walks_parseFaultDetector .stuckSensor cfgView path t _) _ _
  · exact walksArm_store (fun _ path t => walks_parseFaultDetector .runaway cfgView path t _) _ _
  · exact walksArm_store (fun _ path t => walks_parseFaultDetector .staleContext cfgView path t _) _ _

/-- `fault_detection` walks as an object. -/
theorem walksAt_parseFaultDetectionObject (cfgView : Config) :
    c.WalksAt (c.parseFaultDetectionObject cfgView) :=
  walksAt_parseObject (walksArms_faultDetectionArms cfgView) _

/-- `telemetry` walks as an object. -/
theorem walksAt_parseTelemetryObject (runtime : Bool) (cfgView : Config) :
    c.WalksAt (c.parseTelemetryObject runtime cfgView) := by
  apply walksAt_parseObject
  apply walksArms_tokenArms
  intro arm harm
  simp only [List.mem_cons, List.not_mem_nil, or_false] at harm
  subst harm
  exact walksArm_valueArm (walksAt_parseList fun _ _ _ _ => walks_leafElem _ _ _ _) _

/-- `control` walks as an object. -/
theorem walksAt_parseControlObject (runtime : Bool) : c.WalksAt (c.parseControlObject runtime) :=
  walksAt_parseObject (walksArms_tokenArms walksArms_nil) _

/-- `hil` walks as an object. -/
theorem walksAt_parseHilObject (runtime : Bool) : c.WalksAt (c.parseHilObject runtime) :=
  walksAt_parseObject (walksArms_tokenArms walksArms_nil) _

/-! ### The passes -/

/-- The sensors walk as an array. -/
theorem walksAt_parseSensors (runtime : Bool) : c.WalksAt (c.parseSensors runtime) :=
  walksAt_parseArray (walksElem_store (fun _ _ path t => walksAt_parseSensor runtime path t _) _) _ _ _

/-- The context signals walk as an array. -/
theorem walksAt_parseContextSignals (runtime : Bool) : c.WalksAt (c.parseContextSignals runtime) :=
  walksAt_parseArray (walksElem_store (fun _ _ path t => walksAt_parseContextSignal runtime path t _) _) _ _ _

/-- The actuators walk as an array. -/
theorem walksAt_parseActuators (runtime : Bool) : c.WalksAt (c.parseActuators runtime) :=
  walksAt_parseArray (walksElem_store (fun _ _ path t => walks_parseActuator runtime path t _ _) _) _ _ _

/-- The keys of pass A walk. -/
theorem walksArms_passAArms (runtime : Bool) : c.WalksArms (c.passAArms runtime) := by
  intro arm harm
  simp only [passAArms, List.mem_cons, List.not_mem_nil, or_false] at harm
  rcases harm with rfl | rfl | rfl
  · exact walksArm_valueArm (walksAt_parseSensors runtime) _
  · exact walksArm_valueArm (walksAt_parseContextSignals runtime) _
  · exact walksArm_valueArm (walksAt_parseActuators runtime) _

/-- A top-level member walks in pass A, whatever its key. -/
theorem walks_passAMember (runtime : Bool) (k : Int) (st : LoadState) :
    c.Walks True (k + 1) (c.passAMember runtime k st) := by
  refine (walks_view k).bind fun keyTok _ => ?_
  cases keyTok with
  | string key =>
      cases hfind : findTokenArm (c.passAArms runtime) key with
      | none => simp [hfind]
      | some arm =>
          have harm := walksArms_passAArms runtime arm (List.mem_of_find?_eq_some hfind)
          simpa [hfind] using harm key k st
  | object ms => exact walks_pure _
  | array vs => exact walks_pure _
  | primitive bytes => exact walks_pure _

/-- Pass A walks from the root token. -/
theorem walks_passATopLevel (runtime : Bool) (st : LoadState) :
    c.Walks (0 < c.nToks) 0 (c.passATopLevel runtime st) := by
  refine walks_readTok.bind fun root hroot => ?_
  rw [readTok_result hroot]
  by_cases htype : (c.toks 0).type = .object
  · rw [if_neg (not_not.mpr htype)]
    exact walks_keyLoop (walks_passAMember runtime) htype st
  · rw [if_pos htype]
    exact walks_lift _

/-- Behind pass A the root is an object. -/
theorem passATopLevel_object {runtime : Bool} {st st' : LoadState}
    (h : (c.passATopLevel runtime st).result = .ok st') : (c.toks 0).type = .object := by
  by_contra htype
  have herror : (c.passATopLevel runtime st).result =
      setErr .errInvalidArg (ascii "$") "expected root object" := by
    show (Logged.result (if (c.toks 0).type ≠ .object then _ else _)) = _
    rw [if_pos htype]
    rfl
  rw [herror] at h
  cases h

/-- The zones walk as an array. -/
theorem walksAt_parseZones : c.WalksAt c.parseZones :=
  walksAt_parseArray (walksElem_store (fun _ _ path t => walks_parseZone _ _ path t _) _) _ _ _

/-- The modifiers walk as an array. -/
theorem walksAt_parsePolicyModifiers : c.WalksAt c.parsePolicyModifiers :=
  walksAt_parseArray
    (walksElem_store (fun _ (st : LoadState) path t => walksAt_parseModifier st.cfg path t _) _) _ _ _

/-- The keys of pass B walk. -/
theorem walksArms_passBArms (runtime : Bool) : c.WalksArms (c.passBArms runtime) := by
  apply walksArms_tokenArms
  intro arm harm
  simp only [List.mem_cons, List.not_mem_nil, or_false] at harm
  rcases harm with rfl | rfl | rfl | rfl | rfl | rfl
  · exact walksArm_valueArm walksAt_parseZones _
  · exact walksArm_valueArm walksAt_parsePolicyModifiers _
  · exact walksArm_store
      (fun (st : LoadState) path t => walksAt_parseFaultDetectionObject st.cfg path t st.cfg.faults) _ _
  · exact walksArm_store
      (fun (st : LoadState) path t => walksAt_parseTelemetryObject runtime st.cfg path t _) _ _
  · exact walksArm_store (fun _ path t => walksAt_parseControlObject runtime path t ()) _ _
  · exact walksArm_store (fun _ path t => walksAt_parseHilObject runtime path t ()) _ _

/-- A top-level member walks in pass B, whatever its key. -/
theorem walks_passBMember (runtime : Bool) (k : Int) (st : LoadState × List Bytes) :
    c.Walks True (k + 1) (c.passBMember runtime k st) := by
  rw [passBMember_eq_round]
  exact walks_memberRound (walksArms_passBArms runtime) _ _ _ k st

/-- Pass B walks from the root token, which pass A has found to be an object. -/
theorem walks_passBTopLevel (runtime : Bool) (st : LoadState) (htype : (c.toks 0).type = .object) :
    c.Walks (0 < c.nToks) 0 (c.passBTopLevel runtime st) := by
  refine walks_readTok.bind fun root hroot => ?_
  rw [readTok_result hroot]
  refine (walks_keyLoop (walks_passBMember runtime) htype (st, [])).bind fun _ _ => ?_
  split_ifs
  · exact walks_lift _
  · exact walks_lift _
  · exact walks_pure _

/-- **The whole load walks** over any token array with a root token. -/
theorem walks_loadConfig (hpos : 0 < c.nToks) (runtime : Bool) :
    c.Walks True 0 (c.loadConfig runtime) := by
  have hroot : (0 < c.nToks) = True := eq_true hpos
  have hA := walks_passATopLevel (c := c) runtime loadStateZeroed
  rw [hroot] at hA
  refine hA.bind fun st hst => ?_
  have hB := walks_passBTopLevel (c := c) runtime st (passATopLevel_object hst)
  rw [hroot] at hB
  exact hB.bind fun _ _ => walks_lift _

end walks

end ParseCtx

/-! ## Entry point -/

/-- The token array after tokenisation: `tokens`, then what the stack held before. -/
def tokenArray (tokens : List JsmnTok) (stack : Int → JsmnTok) (i : Int) : JsmnTok :=
  if i < 0 then stack i else tokens.getD i.toNat (stack i)

/-- `thermal_config_jsmn_parse` on the text `json`; `stack` is what an entry of the
token array holds that the tokenizer has not written. -/
def thermalConfigJsmnScan (runtime : Bool) (stack : Int → JsmnTok) (json : Bytes) : Scan Config :=
  if (json.length : Int) > i32Max then .ofExcept (.error ⟨.errNoSpace, []⟩)
  else
    match jsmnParse json jsmnMaxTokens with
    | .error .nomem => .ofExcept (setErr .errNoSpace (ascii "$") "exceeded JSMN token budget")
    | .error .inval => .ofExcept (setErr .errInvalidArg (ascii "$") "invalid character in JSON")
    | .error .part => .ofExcept (setErr .errInvalidArg (ascii "$") "incomplete JSON document")
    | .ok (nToks, tokens) =>
        if nToks < 1 then .ofExcept (setErr .errInvalidArg (ascii "$") "empty JSON document")
        else { json := json, toks := tokenArray tokens stack, nToks := nToks : ParseCtx }.loadConfig runtime

/-- The number of tokens the tokenizer returns; 0 where it fails. -/
def parsedTokens (json : Bytes) : Int :=
  match jsmnParse json jsmnMaxTokens with
  | .ok (nToks, _) => nToks
  | .error _ => 0

/-- A text that is not walked reads no token. -/
theorem thermalConfigJsmnScan_cases (runtime : Bool) (stack : Int → JsmnTok) (json : Bytes) :
    (thermalConfigJsmnScan runtime stack json).log = [] ∨
      ∃ nToks tokens, jsmnParse json jsmnMaxTokens = .ok (nToks, tokens) ∧ 0 < nToks ∧
        parsedTokens json = nToks ∧
        thermalConfigJsmnScan runtime stack json =
          { json := json, toks := tokenArray tokens stack, nToks := nToks : ParseCtx }.loadConfig
            runtime := by
  rw [thermalConfigJsmnScan, parsedTokens]
  by_cases hlong : (json.length : Int) > i32Max
  · exact .inl (by rw [if_pos hlong]; rfl)
  · rw [if_neg hlong]
    cases hparse : jsmnParse json jsmnMaxTokens with
    | error e => cases e <;> exact .inl rfl
    | ok parsed =>
        obtain ⟨nToks, tokens⟩ := parsed
        by_cases hempty : nToks < 1
        · exact .inl (by simp [hempty])
        · exact .inr ⟨nToks, tokens, rfl, by omega, rfl, by simp [hempty]⟩

/-- The tokens of a listing, where the array holds them. -/
theorem listedAt_tokenArray {tokens : List JsmnTok} {es : List (JsmnType × Int × Nat)}
    (h : tokens.map (fun t => (t.type, t.size)) = es.map fun e => (e.1, e.2.1)) (stack : Int → JsmnTok) :
    ListedAt (tokenArray tokens stack) 0 es := by
  intro i e he
  have hmap : (tokens.map fun t => (t.type, t.size))[i]? = some (e.1, e.2.1) := by
    rw [h, List.getElem?_map, he]
    rfl
  rw [List.getElem?_map, Option.map_eq_some_iff] at hmap
  obtain ⟨tok, htok, heq⟩ := hmap
  have hat : tokenArray tokens stack (0 + i) = tok := by
    simp [tokenArray, List.getD_eq_getElem?_getD, htok]
  rw [hat]
  exact Prod.mk.inj heq

/-- The tokens of a document are all there: each key has one value, and nothing more. -/
theorem thermalConfigJsmnScan_of_listing {nToks : Nat} {tokens : List JsmnTok} {root : Json} {json : Bytes}
    (hparse : jsmnParse json jsmnMaxTokens = .ok (nToks, tokens))
    (hlisting : tokens.map (fun t => (t.type, t.size)) = root.listing.map fun e => (e.1, e.2.1))
    (runtime : Bool) (stack : Int → JsmnTok) :
    Logged.All (TokenEvent.Met (parsedTokens json)) (thermalConfigJsmnScan runtime stack json) := by
  obtain hlog | ⟨nToks', tokens', hparse', hpos, hcount, hscan⟩ := thermalConfigJsmnScan_cases runtime stack json
  · simp [Logged.All, hlog]
  · rw [hscan, hcount]
    rw [hparse, Except.ok.injEq, Prod.mk.injEq] at hparse'
    obtain ⟨rfl, rfl⟩ := hparse'
    have hwalks := ParseCtx.walks_loadConfig (c := ⟨json, tokenArray tokens stack, nToks⟩)
      (Int.natCast_pos.mpr hpos) runtime
    have hlength : tokens.length = root.listing.length := by
      simpa using congrArg List.length hlisting
    have hfits : (0 : Int) + root.listing.length ≤ nToks := by
      rw [jsmnParse_count hparse, hlength]
      omega
    exact hwalks.meets root ⟨Int.le_refl 0, listedAt_tokenArray hlisting stack, hfits⟩

end ThermalCore
