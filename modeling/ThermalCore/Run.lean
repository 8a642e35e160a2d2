import ThermalCore.Lib.Machine
import ThermalCore.Step
import ThermalCore.Command

/-!
# State reads, and runs of the core

`thermal_core_get_state`, and the machine whose inputs are the two calls that
can change a core: a step with a snapshot and an output frame, and a command.
Everything "for every reachable state" is about this machine from the state
`thermal_core_init` leaves.

A run is a list of inputs.  Its outputs keep the status, the frame and the callbacks of
each call, so that a statement about what the platform sees is one about that list.
-/

namespace ThermalCore

open MachineInt

/-! ## thermal_core_get_state -/

structure ZoneState where
  tempMc : Int
  activeTripMask : Nat
  coolingState : Nat
  aggregationValid : Bool
  effectiveSetpointMc : Int
deriving DecidableEq, Inhabited

structure ActuatorState where
  requestedDuty : Nat
  duty : Nat
  rpm : Nat
  tachValid : Nat
  slewLimited : Bool
  reason : ActuatorReason
deriving DecidableEq, Inhabited

structure FaultSnapshot where
  faultType : FaultType
  targetId : Nat
  state : FaultState
  enteredTsMs : Nat
deriving DecidableEq, Inhabited

structure ContextState where
  filteredValue : Int
  valid : Bool
  msSinceLastValid : Nat
deriving DecidableEq, Inhabited

structure ModifierState where
  modifierId : Nat
  active : Bool
  pwmCap : Nat
  tripOffsetMc : Int
deriving DecidableEq, Inhabited

/-- The bits of `flags`. -/
structure StateFlags where
  anyFaultActive : Bool
  shutdownRequested : Bool
  anyContextStale : Bool
  anySafetyOverride : Bool
deriving DecidableEq, Inhabited

/-- The first `count` entries of a snapshot array are its list of records. -/
structure StateSnapshot where
  nowMs : Nat
  zones : Vector ZoneState maxZones
  zoneCount : Nat
  actuators : Vector ActuatorState maxActuators
  actuatorCount : Nat
  faults : List FaultSnapshot
  contexts : Vector ContextState maxContextSignals
  contextCount : Nat
  modifiers : Vector ModifierState maxModifiers
  modifierCount : Nat
  flags : StateFlags
deriving DecidableEq

def zoneState (zc : ZoneCfg) (zr : ZoneRuntime) : ZoneState :=
  { tempMc := zr.tempMc
    activeTripMask := zr.activeTripMask
    coolingState := zr.coolingState
    aggregationValid := zr.aggregationValid
    effectiveSetpointMc :=
      match governorOpsFor zc.governor with
      | none => 0
      | some ops => ops.effectiveSetpoint zr }

def actuatorState (ar : ActuatorRuntime) : ActuatorState :=
  ⟨ar.prevRequested, ar.prevDuty, ar.tachRpm, ar.tachValid, ar.prevSlewLimited, ar.prevReason⟩

/-- A cap clamped to `uint8_t`. -/
def clampCap (cap : Int) : Nat :=
  let cap := if cap < 0 then 0 else cap
  let cap := if cap > 255 then 255 else cap
  toU8 cap

/-- The snapshot entry of a detector that is not NORMAL. -/
def faultEntry (faultType : FaultType) (targetId : Nat) (fsm : Fsm) : List FaultSnapshot :=
  if fsm.state ≠ .normal then [⟨faultType, targetId, fsm.state, fsm.enteredTsMs⟩] else []

/-- The active detectors in the order of the four loops. -/
def activeFaults (cfg : Config) (core : Core) : List FaultSnapshot :=
  (Loop.emit cfg.actuatorCount fun i =>
      faultEntry .stall (cfg.actuators.slot i).id (core.stallStates.slot i).fsm) ++
    (Loop.emit cfg.sensorCount fun i =>
      faultEntry .stuckSensor (cfg.sensors.slot i).id (core.stuckSensorStates.slot i).fsm) ++
    (Loop.emit cfg.zoneCount fun i =>
      faultEntry .runaway i (core.runaways.slot i).detector.fsm) ++
    (Loop.emit cfg.contextCount fun i =>
      faultEntry .staleContext (cfg.contexts.slot i).id (core.staleContextStates.slot i).fsm)

/-- The fault list holds `maxFaults` entries: each of the four loops stops once
that many are written. -/
def thermalCoreGetState (cfg : Config) (core : Core) : StateSnapshot :=
  let faults := (activeFaults cfg core).take maxFaults
  { nowMs := core.lastNowMs
    zones := (default : Vector ZoneState maxZones).forSlots cfg.zoneCount fun i _ =>
      zoneState (cfg.zones.slot i) (core.zones.slot i)
    zoneCount := cfg.zoneCount
    actuators := (default : Vector ActuatorState maxActuators).forSlots cfg.actuatorCount fun i _ =>
      actuatorState (core.actuators.slot i)
    actuatorCount := cfg.actuatorCount
    faults := faults
    contexts := (default : Vector ContextState maxContextSignals).forSlots cfg.contextCount fun i _ =>
      let cr := core.contexts.slot i
      ⟨cr.filter.filteredValue, cr.filter.valid,
        if cr.everValid then subU32 core.lastNowMs cr.lastValidMs else 0xFFFFFFFF⟩
    contextCount := cfg.contextCount
    modifiers := (default : Vector ModifierState maxModifiers).forSlots cfg.modifierCount fun i _ =>
      let mr := core.modifiers.slot i
      ⟨i, mr.active, clampCap mr.pwmCap, mr.tripOffset⟩
    modifierCount := cfg.modifierCount
    flags :=
      { anyFaultActive := faults.any fun _ => true
        shutdownRequested := core.shutdownRequestLatched
        anyContextStale := faults.any fun f => decide (f.faultType = .staleContext)
        anySafetyOverride := Loop.any cfg.actuatorCount fun a =>
          (core.actuators.slot a).prevSafetyOverride } }

/-! ## Runs -/

/-- One call on an initialised core. -/
inductive Input where
  | step (inp : InputSnapshot) (out : OutputFrame)
  | command (nowMs : Nat) (cmd : Command)

/-- What a call shows its caller and the platform. -/
inductive Effect where
  | step (status : ThermalStatus) (out : OutputFrame) (calls : List Call)
  | command (result : CommandResult) (calls : List Call)
deriving DecidableEq

def Effect.calls : Effect → List Call
  | .step _ _ calls => calls
  | .command _ calls => calls

def call (cfg : Config) (cb : Callbacks) (core : Core) : Input → Core × Effect
  | .step inp out =>
      let r := thermalCoreStep cfg cb core inp out
      (r.core, .step r.status r.out r.calls)
  | .command nowMs cmd =>
      let r := thermalCoreApplyCommand cfg cb core nowMs cmd
      (r.core, .command r.result r.calls)

/-- The states a core can be in after init with an accepted configuration and any
sequence of calls. -/
def Reachable (cfg : Config) (cb : Callbacks) (core : Core) : Prop :=
  Machine.Reachable (call cfg cb) (initCore cfg) core

/-- A configuration that `thermal_core_init` accepts. -/
def Accepted (cfg : Config) : Prop := thermalCoreValidateConfig cfg = .ok

instance (cfg : Config) : Decidable (Accepted cfg) := inferInstanceAs (Decidable (_ = _))

/-- A snapshot the preflight of a step lets through. -/
def Admissible (cfg : Config) (inp : InputSnapshot) : Prop := preflightSnapshot cfg inp = .ok ()

/-- A snapshot made of a list of samples. -/
def snapshotOf (nowMs : Nat) (samples : List Sample) : InputSnapshot :=
  ⟨nowMs, samples.length, some ⟨samples.toArray, by simp⟩⟩

/-- The snapshot of one valid temperature. -/
def tempSnapshot (nowMs id : Nat) (tempMc : Int) : InputSnapshot :=
  snapshotOf nowMs [⟨id, SampleKind.tempMc.code, 1, tempMc⟩]

end ThermalCore
