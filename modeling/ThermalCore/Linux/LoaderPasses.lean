import ThermalCore.Linux.LoaderZones

/-!
# The JSON loader: telemetry, the two passes and the entry point

`platform/linux/config_jsmn.c` from `telemetry_append` on.  Pass A reads the
sections other sections refer to by name; pass B reads the rest in document
order, so that the telemetry selectors are expanded against the zones and
modifiers read so far.

Each pass is a fold over the root's members that tries its table of keys.  Behind pass B
the required keys are asked for and the result goes to `thermal_core_validate_config`.
-/

namespace ThermalCore

open MachineInt

/-! ## Signal ids (`core/thermal_signals.h`) -/

/-- `TSIG_ZONE_TEMP`. -/
def tsigZoneTemp (slot : Nat) : Nat := SignalFamily.zone.base + 0x00 + slot

/-- `TSIG_ZONE_COOLING_STATE`. -/
def tsigZoneCoolingState (slot : Nat) : Nat := SignalFamily.zone.base + 0x10 + slot

/-- `TSIG_ZONE_AGGREGATION_VALID`. -/
def tsigZoneAggregationValid (slot : Nat) : Nat := SignalFamily.zone.base + 0x40 + slot

/-- `TSIG_ACTUATOR_DUTY`. -/
def tsigActuatorDuty (slot : Nat) : Nat := SignalFamily.actuator.base + 0x00 + slot

/-- `TSIG_ACTUATOR_RPM`. -/
def tsigActuatorRpm (slot : Nat) : Nat := SignalFamily.actuator.base + 0x10 + slot

/-- `TSIG_PID`. -/
def tsigPid (zone term : Nat) : Nat := SignalFamily.pid.base + zone * 4 + term

/-- `TSIG_CONTEXT_VALUE`. -/
def tsigContextValue (slot : Nat) : Nat := SignalFamily.context.base + 0x00 + slot

/-- `TSIG_MODIFIER_PWM_CAP_AT`. -/
def tsigModifierPwmCapAt (slot : Nat) : Nat := SignalFamily.modifier.base + 0x00 + slot

/-- `TSIG_FAULT_STALL_STATE`. -/
def tsigFaultStallState (slot : Nat) : Nat := SignalFamily.fault.base + 0x00 + slot

/-- `TSIG_FAULT_STUCK_SENSOR_STATE`. -/
def tsigFaultStuckSensorState (slot : Nat) : Nat := SignalFamily.fault.base + 0x10 + slot

/-- `TSIG_FAULT_RUNAWAY_STATE`. -/
def tsigFaultRunawayState (slot : Nat) : Nat := SignalFamily.fault.base + 0x20 + slot

/-- `TSIG_FAULT_STALE_CONTEXT_STATE`. -/
def tsigFaultStaleContextState (slot : Nat) : Nat := SignalFamily.fault.base + 0x30 + slot

/-- `TSIG_FAN_HEALTH_DELTA`. -/
def tsigFanHealthDelta (slot : Nat) : Nat := SignalFamily.fanHealth.base + 0x00 + slot

/-- `TSIG_FAN_HEALTH_SEVERITY`. -/
def tsigFanHealthSeverity (slot : Nat) : Nat := SignalFamily.fanHealth.base + 0x10 + slot

/-- `TSIG_FAN_HEALTH_BASELINE_SOURCE`. -/
def tsigFanHealthBaselineSource (slot : Nat) : Nat := SignalFamily.fanHealth.base + 0x20 + slot

/-- `TSIG_FAN_HEALTH_CONFIDENCE`. -/
def tsigFanHealthConfidence (slot : Nat) : Nat := SignalFamily.fanHealth.base + 0x30 + slot

/-! ## Telemetry selectors -/

/-- `telemetry_append`: one more id, when there is room. -/
def telemetryAppend (path : Bytes) (t : TelemetryCfg) (sig : Nat) : Load TelemetryCfg :=
  if t.enabledSignalCount ≥ maxTelemetrySignals then
    setErr .errNoSpace path "too many enabled telemetry signals"
  else
    .ok { t with
          enabledSignalIds := t.enabledSignalIds.put t.enabledSignalCount sig
          enabledSignalCount := t.enabledSignalCount + 1 }

/-- The four PID term signals of a zone. -/
def pidTermSignals (zone : Nat) : List Nat := (List.range 4).map (tsigPid zone)

/-- The four fan-health signals of an actuator. -/
def fanHealthSignals (slot : Nat) : List Nat :=
  [tsigFanHealthDelta slot, tsigFanHealthSeverity slot, tsigFanHealthBaselineSource slot,
    tsigFanHealthConfidence slot]

/-- The wildcard families, each with the signals it stands for. -/
def wildcardSelectors (cfg : Config) : List (String × List Nat) :=
  [("zone_temp_*", (List.range cfg.zoneCount).map tsigZoneTemp),
    ("zone_cooling_state_*", (List.range cfg.zoneCount).map tsigZoneCoolingState),
    ("zone_aggregation_valid_*", (List.range cfg.zoneCount).map tsigZoneAggregationValid),
    ("actuator_pwm_*", (List.range cfg.actuatorCount).map tsigActuatorDuty),
    ("actuator_rpm_*", (List.range cfg.actuatorCount).map tsigActuatorRpm),
    ("pid_terms_*", (List.range cfg.zoneCount).flatMap pidTermSignals),
    ("modifier_pwm_cap_*", (List.range cfg.modifierCount).map tsigModifierPwmCapAt),
    ("fault_*",
      (List.range cfg.actuatorCount).map tsigFaultStallState ++
        (List.range cfg.sensorCount).map tsigFaultStuckSensorState ++
        (List.range cfg.zoneCount).map tsigFaultRunawayState ++
        (List.range cfg.contextCount).map tsigFaultStaleContextState),
    ("fan_health_*", (List.range cfg.actuatorCount).flatMap fanHealthSignals)]

/-- A selector `<stem><name>` with the entries `name` is looked up in and the
signals of the slot found. -/
structure NamedSelector where
  stem : String
  resolve : Bytes → Option Nat
  unknown : String
  signals : Nat → List Nat

/-- The signals of a name, or the error about it. -/
def NamedSelector.expand (s : NamedSelector) (path rest : Bytes) : Load (List Nat) :=
  match s.resolve rest with
  | none => setErrf .errInvalidArg path s.unknown rest
  | some idx => .ok (s.signals idx)

/-- The selectors that end in a name, in the order they are tried. -/
def namedSelectors (cfg : Config) : List NamedSelector :=
  [⟨"context_", resolveNameInContexts cfg, "unknown context", fun idx => [tsigContextValue idx]⟩,
    ⟨"zone_temp_", resolveNameInZones cfg, "unknown zone", fun idx => [tsigZoneTemp idx]⟩,
    ⟨"zone_aggregation_valid_", resolveNameInZones cfg, "unknown zone",
      fun idx => [tsigZoneAggregationValid idx]⟩,
    ⟨"actuator_pwm_", resolveNameInActuators cfg, "unknown actuator",
      fun idx => [tsigActuatorDuty idx]⟩,
    ⟨"actuator_rpm_", resolveNameInActuators cfg, "unknown actuator",
      fun idx => [tsigActuatorRpm idx]⟩,
    ⟨"pid_terms_", resolveNameInZones cfg, "unknown zone", pidTermSignals⟩]

/-- The signals a named selector stands for: `speed_kmh`, or one with a stem. -/
def namedSignals (cfg : Config) (path sel : Bytes) : Load (List Nat) :=
  if sel = ascii "speed_kmh" then
    match resolveNameInContexts cfg (ascii "vehicle_speed") with
    | none => setErr .errInvalidArg path "speed_kmh requires a 'vehicle_speed' context"
    | some idx => .ok [tsigContextValue idx]
  else
    match (namedSelectors cfg).find? fun s => (ascii s.stem).isPrefixOf sel with
    | none => setErrf .errInvalidArg path "unknown telemetry selector" sel
    | some s => s.expand path (sel.drop (ascii s.stem).length)

/-- The signals a selector stands for, in the order they are appended. -/
def selectorSignals (cfg : Config) (path sel : Bytes) : Load (List Nat) :=
  match (wildcardSelectors cfg).find? fun w => ascii w.1 == sel with
  | some w =>
      if w.2 = [] then setErr .errInvalidArg path "wildcard expanded to nothing" else .ok w.2
  | none => namedSignals cfg path sel

/-- `telemetry_expand_one`: the signals of a selector, appended. -/
def telemetryExpandOne (cfg : Config) (path sel : Bytes) (t : TelemetryCfg) : Load TelemetryCfg := do
  let sigs ← selectorSignals cfg path sel
  sigs.foldlM (telemetryAppend path) t

/-- One element of the `signals` array. -/
def parseSelector (cfgView : Config) (path : Bytes) (v : Json) (t : TelemetryCfg) :
    Load TelemetryCfg :=
  match tokStrCopy (nameMax * 2) v with
  | none => setErr .errInvalidArg path "expected string selector"
  | some sel => telemetryExpandOne cfgView path (cString sel) t

/-- The keys of `telemetry`. -/
def telemetryArms (runtime : Bool) (cfgView : Config) : List (Arm TelemetryCfg) :=
  [boolArm "enable" "expected boolean" fun val out => { out with enable := val },
    intArm "period_ticks" 0 65535 "expected integer in [0, 65535]"
      fun val out => { out with periodTicks := val.toNat },
    { key := "signals", parse := parseList fun _ => parseSelector cfgView },
    platformStrArm runtime "transport" "transport URI too long or wrong type" id]

/-- `parse_telemetry_object`. -/
def parseTelemetryObject (runtime : Bool) (cfgView : Config) :
    Bytes → Json → TelemetryCfg → Load TelemetryCfg :=
  parseObject (telemetryArms runtime cfgView) []

/-! ## Platform-only objects -/

/-- The keys of `control`. -/
def controlArms (runtime : Bool) : List (Arm Unit) :=
  [platformStrArm runtime "listen" "listen spec too long or wrong type" id,
    boolArm "enable" "control.enable must be true or false" fun _ out => out]

/-- `parse_control_object`. -/
def parseControlObject (runtime : Bool) (path : Bytes) (v : Json) : Load Unit :=
  parseObject (controlArms runtime) [] path v ()

/-- The keys of `hil`. -/
def hilArms (runtime : Bool) : List (Arm Unit) :=
  [platformStrArm runtime "transport" "hil.transport URI too long or wrong type" id]

/-- `parse_hil_object`. -/
def parseHilObject (runtime : Bool) (path : Bytes) (v : Json) : Load Unit :=
  parseObject (hilArms runtime) [] path v ()

/-! ## Top-level passes -/

/-- The configuration being filled, with `ctx->state_pwm_lens`. -/
structure LoadState where
  cfg : Config
  statePwmLens : Vector Nat maxActuators

/-- The array of sensors. -/
def parseSensors (runtime : Bool) : Bytes → Json → LoadState → Load LoadState :=
  parseArray maxSensors "too many sensors"
    (fun j path v st => do
      let sensor ← parseSensor runtime path v (st.cfg.sensors.slot j)
      .ok { st with cfg := { st.cfg with sensors := st.cfg.sensors.put j sensor } })
    (fun n st => { st with cfg := { st.cfg with sensorCount := n } })

/-- The array of context signals. -/
def parseContextSignals (runtime : Bool) : Bytes → Json → LoadState → Load LoadState :=
  parseArray maxContextSignals "too many context signals"
    (fun j path v st => do
      let context ← parseContextSignal runtime path v (st.cfg.contexts.slot j)
      .ok { st with cfg := { st.cfg with contexts := st.cfg.contexts.put j context } })
    (fun n st => { st with cfg := { st.cfg with contextCount := n } })

/-- The array of actuators. -/
def parseActuators (runtime : Bool) : Bytes → Json → LoadState → Load LoadState :=
  parseArray maxActuators "too many actuators"
    (fun j path v st => do
      let act ← parseActuator runtime path v (st.cfg.actuators.slot j) (st.statePwmLens.slot j)
      .ok { cfg :=
              { st.cfg with
                actuators := st.cfg.actuators.put j act.out
                fanHealth := st.cfg.fanHealth.put j act.fanHealth }
            statePwmLens := st.statePwmLens.put j act.statePwmLen })
    (fun n st => { st with cfg := { st.cfg with actuatorCount := n } })

/-- The keys that pass A handles. -/
def passAArms (runtime : Bool) : List (Arm LoadState) :=
  [{ key := "sensors", parse := parseSensors runtime },
    { key := "context_signals", parse := parseContextSignals runtime },
    { key := "actuators", parse := parseActuators runtime }]

/-- One step of pass A; the other keys are left for pass B. -/
def passAMember (runtime : Bool) (st : LoadState) (m : Member) : Load LoadState :=
  match findArm (passAArms runtime) m.1 with
  | some arm => arm.parse m.1 m.2 st
  | none => .ok st

/-- `pass_a_top_level`. -/
def passATopLevel (runtime : Bool) (ms : List Member) (st : LoadState) : Load LoadState :=
  ms.foldlM (passAMember runtime) st

/-- The array of zones. -/
def parseZones : Bytes → Json → LoadState → Load LoadState :=
  parseArray maxZones "too many zones"
    (fun j path v st => do
      let zone ← parseZone st.statePwmLens st.cfg path v (st.cfg.zones.slot j)
      .ok { st with cfg := { st.cfg with zones := st.cfg.zones.put j zone } })
    (fun n st => { st with cfg := { st.cfg with zoneCount := n } })

/-- The array of modifiers. -/
def parsePolicyModifiers : Bytes → Json → LoadState → Load LoadState :=
  parseArray maxModifiers "too many modifiers"
    (fun j path v st => do
      let modifier ← parseModifier st.cfg path v (st.cfg.modifiers.slot j)
      .ok { st with cfg := { st.cfg with modifiers := st.cfg.modifiers.put j modifier } })
    (fun n st => { st with cfg := { st.cfg with modifierCount := n } })

/-- A scalar of the root object. -/
def topLevelIntArm (key : String) (set : Nat → Config → Config) : Arm LoadState :=
  intArm key 0 65535 "expected integer in [0, 65535]"
    fun val st => { st with cfg := set val.toNat st.cfg }

/-- A section of the root object that pass A has read. -/
def passADone (key : String) : Arm LoadState where
  key := key
  parse _ _ st := .ok st

/-- The telemetry section is expanded against the configuration read so far. -/
def telemetryArm (runtime : Bool) : Arm LoadState where
  key := "telemetry"
  parse path v st := do
    let telemetry ← parseTelemetryObject runtime st.cfg path v st.cfg.telemetry
    .ok { st with cfg := { st.cfg with telemetry := telemetry } }

/-- The keys that pass B handles, those of pass A among them as done. -/
def passBArms (runtime : Bool) : List (Arm LoadState) :=
  [topLevelIntArm "config_version" fun val cfg => { cfg with configVersion := val },
    topLevelIntArm "control_period_ms" fun val cfg => { cfg with controlPeriodMs := val },
    topLevelIntArm "period_relative_to_ms" fun val cfg => { cfg with periodRelativeToMs := val },
    passADone "sensors",
    passADone "context_signals",
    passADone "actuators",
    { key := "zones", parse := parseZones },
    { key := "policy_modifiers", parse := parsePolicyModifiers },
    { key := "fault_detection"
      parse := fun path v st => do
        let faults ← parseFaultDetectionObject st.cfg path v st.cfg.faults
        .ok { st with cfg := { st.cfg with faults := faults } } },
    telemetryArm runtime,
    { key := "control"
      parse := fun path v st => do
        parseControlObject runtime path v
        .ok st },
    { key := "hil"
      parse := fun path v st => do
        parseHilObject runtime path v
        .ok st }]

/-- One step of pass B. -/
def passBMember (runtime : Bool) (st : LoadState) (m : Member) : Load LoadState :=
  if m.1.length + 1 > 64 then setErr .errInvalidArg (ascii "$") "non-string top-level key"
  else
    match findArm (passBArms runtime) m.1 with
    | some arm => arm.parse m.1 m.2 st
    | none => setErrf .errInvalidArg (ascii "$") "unknown top-level key" m.1

/-- The keys pass B must have seen. -/
def requireTopLevel (ms : List Member) : Load Unit :=
  if allSeen ["config_version"] ms = false then
    setErr .errInvalidArg (ascii "$") "required field 'config_version' missing"
  else if allSeen ["control_period_ms"] ms = false then
    setErr .errInvalidArg (ascii "$") "required field 'control_period_ms' missing"
  else .ok ()

/-- `pass_b_top_level`. -/
def passBTopLevel (runtime : Bool) (ms : List Member) (st : LoadState) : Load LoadState := do
  let st ← ms.foldlM (passBMember runtime) st
  requireTopLevel ms
  .ok st

/-! ## Entry point -/

/-- `JSMN_MAX_TOKENS`. -/
abbrev jsmnMaxTokens : Nat := 4096

/-- `memset` of the configuration and of the loader's scratch. -/
def loadStateZeroed : LoadState where
  cfg := default
  statePwmLens := default

/-- The final semantic gate. -/
def validated (cfg : Config) : Load Config :=
  match thermalCoreValidateConfig cfg with
  | .ok => .ok cfg
  | status =>
      .error ⟨status, ascii "validate_config: rejected (status=" ++ ascii (toString status.code) ++
        ascii ")"⟩

/-- `thermal_config_jsmn_parse` on the document `root`, written in `jsonLen`
bytes; `runtime` says whether the caller passed a runtime struct. -/
def thermalConfigJsmnParse (runtime : Bool) (jsonLen : Nat) (root : Json) : Load Config :=
  if (jsonLen : Int) > i32Max then .error ⟨.errNoSpace, []⟩
  else if root.tokenCount > jsmnMaxTokens then
    setErr .errNoSpace (ascii "$") "exceeded JSMN token budget"
  else
    match root with
    | .object ms => do
        let st ← passATopLevel runtime ms loadStateZeroed
        let st ← passBTopLevel runtime ms st
        validated st.cfg
    | _ => setErr .errInvalidArg (ascii "$") "expected root object"

end ThermalCore
