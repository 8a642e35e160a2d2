import ThermalCore.Lib.FixedArray
import ThermalCore.Lib.MachineInt

/-!
# Public enums, samples, frames and callbacks

The vocabulary of `core/thermal_types.h`, `core/thermal_events.h`,
`core/thermal_commands.h` and `core/thermal_platform.h`, at the compile-time
maxima of the default host build (`core/thermal_config.h`, PID and fan-health
compiled in).  Enumerators keep their numeric value as `code`; a field the C
struct declares as a raw byte stays a number, since nothing stops a caller from
storing a value outside the enumeration there.
-/

namespace ThermalCore

/-! ## Compile-time maxima -/

abbrev maxZones : Nat := 4
abbrev maxSensors : Nat := 8
abbrev maxActuators : Nat := 2
abbrev maxContextSignals : Nat := 4
abbrev maxTripsPerZone : Nat := 4
abbrev maxModifiers : Nat := 2
abbrev maxFaults : Nat := 24
abbrev maxSamplesPerSnapshot : Nat := 16
abbrev maxSensorsPerZone : Nat := 4
abbrev maxActuatorsPerZone : Nat := 2
abbrev maxCoolingStates : Nat := 5
abbrev maxCurvePoints : Nat := 8
abbrev maxFanHealthPoints : Nat := 8
abbrev maxTelemetrySignals : Nat := 128
abbrev nameMax : Nat := 24
abbrev faultRunawayWindowMax : Nat := 64

/-- Q16.16 unity. -/
abbrev q16One : Int := 0x00010000

/-- `char name[THERMAL_NAME_MAX]`. -/
abbrev Name := Vector Nat nameMax

/-! ## Enumerations -/

/-- `thermal_status_t`. -/
inductive ThermalStatus where
  | ok
  | errInvalidArg
  | errInvalidConfig
  | errBounds
  | errState
  | errUnavailable
  | errNoSpace
  | errRejectedSafety
deriving DecidableEq, Inhabited

/-- The values of `thermal_status_t`. -/
@[simp] def ThermalStatus.code : ThermalStatus → Nat
  | .ok => 0
  | .errInvalidArg => 1
  | .errInvalidConfig => 2
  | .errBounds => 3
  | .errState => 4
  | .errUnavailable => 5
  | .errNoSpace => 6
  | .errRejectedSafety => 7

/-- `thermal_sample_kind_t`. -/
inductive SampleKind where
  | tempMc
  | tachRpm
  | contextI32
deriving DecidableEq

/-- The values of `thermal_sample_kind_t`. -/
@[simp] def SampleKind.code : SampleKind → Nat
  | .tempMc => 0
  | .tachRpm => 1
  | .contextI32 => 2

/-- `thermal_aggregation_t`. -/
inductive Aggregation where
  | max
  | avg
  | weighted
deriving DecidableEq

/-- The values of `thermal_aggregation_t`. -/
@[simp] def Aggregation.code : Aggregation → Nat
  | .max => 1
  | .avg => 2
  | .weighted => 3

/-- `thermal_trip_severity_t`. -/
inductive TripSeverity where
  | warn
  | critical
  | shutdown
deriving DecidableEq

/-- The values of `thermal_trip_severity_t`. -/
@[simp] def TripSeverity.code : TripSeverity → Nat
  | .warn => 1
  | .critical => 2
  | .shutdown => 3

/-- `thermal_context_unit_t`. -/
inductive ContextUnit where
  | none
  | kmh
  | bool
  | rpm
  | celsiusMc
deriving DecidableEq

/-- The values of `thermal_context_unit_t`. -/
@[simp] def ContextUnit.code : ContextUnit → Nat
  | .none => 0
  | .kmh => 1
  | .bool => 2
  | .rpm => 3
  | .celsiusMc => 4

/-- `thermal_context_failsafe_t`. -/
inductive ContextFailsafe where
  | assumeStationary
  | holdLast
  | assumeValue
deriving DecidableEq

/-- The values of `thermal_context_failsafe_t`. -/
@[simp] def ContextFailsafe.code : ContextFailsafe → Nat
  | .assumeStationary => 1
  | .holdLast => 2
  | .assumeValue => 3

/-- Bits of `thermal_modifier_cfg_t.stages`. -/
inductive ModifierStage where
  | preGovernorTripOffset
  | postGovernorPwmCap
deriving DecidableEq

/-- The bits of `thermal_modifier_stage_t`. -/
@[simp] def ModifierStage.code : ModifierStage → Nat
  | .preGovernorTripOffset => 1
  | .postGovernorPwmCap => 2

/-- `thermal_fault_severity_t`. -/
inductive FaultSeverity where
  | degraded
  | critical
deriving DecidableEq

/-- The values of `thermal_fault_severity_t`. -/
@[simp] def FaultSeverity.code : FaultSeverity → Nat
  | .degraded => 1
  | .critical => 2

/-- `thermal_fault_action_t`. -/
inductive FaultAction where
  | none
  | markDegraded
  | useZoneFallback
  | forcePwmMaxUntilRecovered
  | forcePwmMaxAndLatch
  | requestShutdown
deriving DecidableEq

/-- The values of `thermal_fault_action_t`. -/
@[simp] def FaultAction.code : FaultAction → Nat
  | .none => 0
  | .markDegraded => 1
  | .useZoneFallback => 2
  | .forcePwmMaxUntilRecovered => 3
  | .forcePwmMaxAndLatch => 4
  | .requestShutdown => 5

/-- The state field of a detector only ever holds these five values, so it is
the enumeration itself. -/
inductive FaultState where
  | normal
  | degraded
  | critical
  | latched
  | recovering
deriving DecidableEq, Inhabited

/-- The values of `thermal_fault_state_t`. -/
@[simp] def FaultState.code : FaultState → Nat
  | .normal => 0
  | .degraded => 1
  | .critical => 2
  | .latched => 3
  | .recovering => 4

/-- `thermal_fault_type_t`. -/
inductive FaultType where
  | stall
  | stuckSensor
  | runaway
  | staleContext
deriving DecidableEq, Inhabited

/-- The values of `thermal_fault_type_t`. -/
@[simp] def FaultType.code : FaultType → Nat
  | .stall => 1
  | .stuckSensor => 2
  | .runaway => 3
  | .staleContext => 4

/-- `thermal_actuator_reason_t`. -/
inductive ActuatorReason where
  | none
  | governorPid
  | governorStep
  | modifierAcousticCap
  | faultStall
  | faultRunaway
  | faultStuckSensor
  | faultStaleContext
  | safetyShutdown
  | manualCmd
  | spinup
  | dwell
deriving DecidableEq, Inhabited

/-- The values of `thermal_actuator_reason_t`. -/
@[simp] def ActuatorReason.code : ActuatorReason → Nat
  | .none => 0x0000
  | .governorPid => 0x0101
  | .governorStep => 0x0102
  | .modifierAcousticCap => 0x0201
  | .faultStall => 0x0301
  | .faultRunaway => 0x0302
  | .faultStuckSensor => 0x0303
  | .faultStaleContext => 0x0304
  | .safetyShutdown => 0x0401
  | .manualCmd => 0x0501
  | .spinup => 0x0601
  | .dwell => 0x0701

/-- `thermal_event_code_t`. -/
inductive EventCode where
  | faultEnter
  | faultRecovering
  | faultClear
  | safetyOverride
  | shutdownRequest
  | commandApplied
  | commandRejected
  | zoneFallbackEnter
  | zoneFallbackExit
  | platformTickOverrun
deriving DecidableEq

/-- The values of `thermal_event_code_t`. -/
@[simp] def EventCode.code : EventCode → Nat
  | .faultEnter => 0x1000
  | .faultRecovering => 0x1001
  | .faultClear => 0x1002
  | .safetyOverride => 0x1100
  | .shutdownRequest => 0x1101
  | .commandApplied => 0x1200
  | .commandRejected => 0x1201
  | .zoneFallbackEnter => 0x1300
  | .zoneFallbackExit => 0x1301
  | .platformTickOverrun => 0x1400

/-! ## Callbacks -/

/-- Which function pointers of `thermal_core_callbacks_t` are non-NULL. -/
structure Callbacks where
  logEvent : Bool
  telemetryEmit : Bool
deriving DecidableEq

/-- One invocation of a platform callback. -/
inductive Call where
  | logEvent (tsMs : Nat) (code : EventCode) (a1 a2 a3 a4 : Nat)
  | telemetryEmit (tsMs signalId : Nat) (value : Int)
deriving DecidableEq

/-- `if (cb.log_event) cb.log_event(...)`. -/
def Callbacks.log (cb : Callbacks) (tsMs : Nat) (code : EventCode) (a1 a2 a3 a4 : Nat) : List Call :=
  if cb.logEvent then [.logEvent tsMs code a1 a2 a3 a4] else []

/-! ## Platform → core: samples -/

/-- A sample; `sample_ts_ms` and `quality` are not read by the core. -/
structure Sample where
  id : Nat
  kind : Nat
  valid : Nat
  value : Int
deriving DecidableEq, Inhabited

/-- The input snapshot.  `samples` is NULL or points to `sampleCount` samples. -/
structure InputSnapshot where
  nowMs : Nat
  sampleCount : Nat
  samples : Option (Vector Sample sampleCount)

/-- The samples a scan of the snapshot visits, in order. -/
def InputSnapshot.entries (inp : InputSnapshot) : List Sample :=
  match inp.samples with
  | none => []
  | some v => v.toList

/-- First sample of a kind and id: the inner loops of steps 3, 3b and 4. -/
def InputSnapshot.find (inp : InputSnapshot) (kind : SampleKind) (id : Nat) : Option Sample :=
  inp.entries.find? fun smp => smp.kind == kind.code && smp.id == id

/-! ## Core → platform: the output frame -/

/-- `thermal_actuator_cmd_t`. -/
structure ActuatorCmd where
  actuatorId : Nat
  duty : Nat
  reason : ActuatorReason
deriving DecidableEq, Inhabited

/-- `thermal_output_frame_t`. -/
structure OutputFrame where
  actuatorCmds : Vector ActuatorCmd maxActuators
  actuatorCmdCount : Nat
deriving DecidableEq, Inhabited

/-! ## Curve points -/

/-- `thermal_curve_point_t`. -/
structure CurvePoint where
  x : Int
  value0 : Int
  value1 : Int
deriving DecidableEq, Inhabited

/-! ## Commands -/

/-- `thermal_command_t`: the id together with the union member it selects.  A
command whose id is none of the five is `unknown`. -/
inductive Command where
  | setPid (zoneId : Nat) (kpQ16 kiQ16 kdQ16 : Int)
  | setSetpoint (zoneId : Nat) (setpointMc : Int)
  | setTrip (zoneId tripIdx : Nat) (tempMc hystMc : Int)
  | setCurvePoint (modifierId pointIdx : Nat) (x value0 value1 : Int)
  | clearFault (faultType targetId : Nat)
  | unknown (commandId : Nat)
deriving DecidableEq

/-- The values of `thermal_command_id_t`. -/
def Command.commandId : Command → Nat
  | .setPid .. => 0x0001
  | .setSetpoint .. => 0x0002
  | .setTrip .. => 0x0003
  | .setCurvePoint .. => 0x0004
  | .clearFault .. => 0x0005
  | .unknown id => id

/-- `thermal_command_result_t`. -/
structure CommandResult where
  status : ThermalStatus
  detailCode : Nat
deriving DecidableEq

end ThermalCore
