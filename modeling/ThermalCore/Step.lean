import ThermalCore.Drive

/-!
# thermal_core_step

Telemetry (step 11) and the whole step: preflight, then every stage in the
order of the control loop.

The stages are pure functions of a `Pass`, which holds the core as far as the step has
written it, the ticks of the actuators and the callbacks made.  `passDone` is their
composition; a step that preflight rejects returns the core unchanged, its frame
untouched and no callbacks.
-/

namespace ThermalCore

open MachineInt

/-! ## Step 11: telemetry -/

/-- The value a telemetry signal has, `none` for an id the configuration does not
support. -/
def dispatchSignalValue (cfg : Config) (core : Core) (sig : Nat) : Option Int :=
  if SignalFamily.zone.contains sig then
    let slot := signalSlot .zone sig
    let zr := core.zones.slot slot
    if slot ≥ cfg.zoneCount then none
    else match signalSub .zone sig with
      | 0x00 => some zr.tempMc
      | 0x10 => some zr.coolingState
      | 0x20 => some (i32 zr.activeTripMask)
      | 0x30 => some zr.effectiveSetpointMc
      | 0x40 => some zr.aggregationValid.toNat
      | _ => none
  else if SignalFamily.actuator.contains sig then
    let slot := signalSlot .actuator sig
    let ar := core.actuators.slot slot
    if slot ≥ cfg.actuatorCount then none
    else match signalSub .actuator sig with
      | 0x00 => some ar.prevDuty
      | 0x10 => some ar.tachRpm
      | 0x20 => some ar.prevSlewLimited.toNat
      | _ => none
  else if SignalFamily.pid.contains sig then
    let off := u8 (sig - SignalFamily.pid.base)
    let zr := core.zones.slot (off / 4)
    if off / 4 ≥ cfg.zoneCount then none
    else match off % 4 with
      | 0 => some zr.pidErrorMc
      | 1 => some zr.pidITermQ16
      | 2 => some zr.pidDTermQ16
      | _ => some zr.pwmThisTick
  else if SignalFamily.context.contains sig then
    let slot := signalSlot .context sig
    let cr := core.contexts.slot slot
    if slot ≥ cfg.contextCount then none
    else match signalSub .context sig with
      | 0x00 => some cr.effectiveValue
      | 0x10 => some cr.filter.valid.toNat
      | _ => none
  else if SignalFamily.modifier.contains sig then
    let slot := signalSlot .modifier sig
    let mr := core.modifiers.slot slot
    if slot ≥ cfg.modifierCount then none
    else match signalSub .modifier sig with
      | 0x00 => some mr.pwmCap
      | 0x10 => some mr.tripOffset
      | 0x20 => some mr.active.toNat
      | _ => none
  else if SignalFamily.fault.contains sig then
    let slot := signalSlot .fault sig
    match signalSub .fault sig with
    | 0x00 =>
        if slot ≥ cfg.actuatorCount then none
        else some (core.stallStates.slot slot).fsm.state.code
    | 0x10 =>
        if slot ≥ cfg.sensorCount then none
        else some (core.stuckSensorStates.slot slot).fsm.state.code
    | 0x20 =>
        if slot ≥ cfg.zoneCount then none
        else some (core.runaways.slot slot).detector.fsm.state.code
    | 0x30 =>
        if slot ≥ cfg.contextCount then none
        else some (core.staleContextStates.slot slot).fsm.state.code
    | _ => none
  else if SignalFamily.fanHealth.contains sig then
    let slot := signalSlot .fanHealth sig
    let fh := core.fanHealthStates.slot slot
    if slot ≥ cfg.actuatorCount then none
    else match signalSub .fanHealth sig with
      | 0x00 => some fh.healthDeltaPct
      | 0x10 => some fh.severity.code
      | 0x20 =>
          if (cfg.fanHealth.slot slot).enable ≠ 0 then
            some ((cfg.fanHealth.slot slot).baselineSource : Int)
          else some FanBaselineSrc.none.code
      | 0x30 => some fh.confidence
      | _ => none
  else none

/-- The samples emitted on this step, in list order. -/
def telemetryCalls (cfg : Config) (cb : Callbacks) (core : Core) (nowMs : Nat) : List Call :=
  if cfg.telemetry.enable ≠ 0 ∧ cfg.telemetry.periodTicks > 0 ∧
      core.tickCount % cfg.telemetry.periodTicks = 0 ∧ cb.telemetryEmit = true then
    Loop.emit cfg.telemetry.enabledSignalCount fun i =>
      let sig := cfg.telemetry.enabledSignalIds.slot i
      match dispatchSignalValue cfg core sig with
      | some value => [.telemetryEmit nowMs sig value]
      | none => []
  else []

def step11Telemetry (cfg : Config) (cb : Callbacks) (inp : InputSnapshot) (p : Pass) : Pass :=
  { p with
    core := { p.core with
      tickCount := u32 (p.core.tickCount + 1)
      lastNowMs := inp.nowMs }
    calls := p.calls ++ telemetryCalls cfg cb p.core inp.nowMs }

/-! ## The step -/

section

variable (cfg : Config) (cb : Callbacks) (inp : InputSnapshot) (core : Core)

/-- Steps 3 to 6: once it is done every zone has its temperature and trips. -/
def passZones : Pass :=
  step6Zones cfg cb inp (stuckSensorPrepass cfg cb inp (Pass.start (senseCore cfg inp core)))

/-- Steps 7 and 8 and the severity flags. -/
def passRequests : Pass :=
  stepSeverity cfg (step8PwmCap cfg (step7Arbitrate cfg (passZones cfg cb inp core)))

/-- The detectors of step 9. -/
def passDetectors : Pass :=
  stepStuckActions cfg
    (stepStaleContext cfg cb inp (stepRunaway cfg cb inp (stepStall cfg cb inp
      (passRequests cfg cb inp core))))

/-- Everything before the drive stage: requests are final. -/
def passDecided : Pass :=
  stepFanHealth cfg (stepForceMax cfg cb inp (stepShutdownLatch cfg (stepZoneShutdown cfg cb inp
    (passDetectors cfg cb inp core))))

/-- The whole pass. -/
def passDone : Pass :=
  step11Telemetry cfg cb inp (step10Drive cfg (passDecided cfg cb inp core))

end

structure StepResult where
  status : ThermalStatus
  core : Core
  out : OutputFrame
  calls : List Call
deriving DecidableEq

def thermalCoreStep (cfg : Config) (cb : Callbacks) (core : Core) (inp : InputSnapshot)
    (out : OutputFrame) : StepResult :=
  match preflightSnapshot cfg inp with
  | .error e => ⟨e, core, out, []⟩
  | .ok _ =>
      let decided := passDecided cfg cb inp core
      let done := passDone cfg cb inp core
      ⟨.ok, done.core, outputFrame cfg decided out, done.calls⟩

end ThermalCore
