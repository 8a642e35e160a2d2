import ThermalCore.Zones

/-!
# Control loop, steps 7 to 9: arbitration, cap, detectors, overrides

Arbitration gives every actuator a request; the modifier may cap it; severity
and the active detectors mark the actuators they concern, and the marks decide
which requests are forced to `pwm_max`.

A family of detectors is a loop over its targets: tick the machine, tell the listener,
mark the actuators it concerns.  The marks are flags that are only raised; the shutdown
and force stages read them at the end.
-/

namespace ThermalCore

open MachineInt

/-! ## Step 7: arbitration -/

def thermalArbitratorMaxWins (demands : List Nat) : Nat :=
  demands.foldl (fun winner d => if d > winner then d else winner) 0

/-- The demands of the zones that reference an actuator, in zone order. -/
def actuatorDemands (cfg : Config) (core : Core) (a : Nat) : List Nat :=
  (List.range cfg.zoneCount).filterMap fun z =>
    let zc := cfg.zones.slot z
    if zc.refsActuator (cfg.actuators.slot a).id then
      match governorOpsFor zc.governor with
      | none => some 0
      | some ops => some (ops.actuatorDemand (core.zones.slot z) (cfg.actuators.slot a))
    else none

def step7Arbitrate (cfg : Config) (p : Pass) : Pass :=
  { p with
    core := { p.core with
      actuators := p.core.actuators.forSlots cfg.actuatorCount fun a ar =>
        { ar with prevRequested := thermalArbitratorMaxWins (actuatorDemands cfg p.core a) } }
    ticks := p.ticks.forSlots cfg.actuatorCount fun a t =>
      { t with arbPwm := thermalArbitratorMaxWins (actuatorDemands cfg p.core a) } }

/-! ## Step 8: severities and the modifier's cap -/

/-- Highest severity among a zone's active trips. -/
def zoneMaxSeverity (zr : ZoneRuntime) (zc : ZoneCfg) : Nat :=
  Loop.fold zc.tripCount 0 fun maxSev t =>
    if zr.activeTripMask.testBit t then
      if (zc.trips.slot t).severity > maxSev then (zc.trips.slot t).severity else maxSev
    else maxSev

/-- Highest severity among the zones that reference an actuator. -/
def actuatorMaxSeverity (cfg : Config) (core : Core) (a : Nat) : Nat :=
  Loop.fold cfg.zoneCount 0 fun maxSev z =>
    let zc := cfg.zones.slot z
    if zc.refsActuator (cfg.actuators.slot a).id then
      let s := zoneMaxSeverity (core.zones.slot z) zc
      if s > maxSev then s else maxSev
    else maxSev

/-- The cap the modifier puts on an actuator, if it is active with the cap stage
and the cap lies below the actuator's maximum. -/
def pwmCapFor (cfg : Config) (core : Core) (ac : ActuatorCfg) : Option Nat :=
  let mr := core.modifiers.slot 0
  if cfg.modifierCount > 0 ∧ mr.active = true ∧
      (cfg.modifiers.slot 0).hasStage .postGovernorPwmCap = true ∧
      mr.pwmCap ≥ 0 ∧ mr.pwmCap < ac.pwmMax then
    some (toU8 mr.pwmCap)
  else none

/-- One actuator of step 8: the cap is skipped at CRITICAL severity and above. -/
def capTick (sev : Nat) (cap : Option Nat) (t : ActuatorTick) : ActuatorTick :=
  let t := { t with maxZoneSev := sev }
  if sev ≥ TripSeverity.critical.code then t
  else
    match cap with
    | none => t
    | some c => if c < t.arbPwm then { t with arbPwm := c, modifierCapApplied := true } else t

def step8PwmCap (cfg : Config) (p : Pass) : Pass :=
  { p with
    ticks := p.ticks.forSlots cfg.actuatorCount fun a t =>
      capTick (actuatorMaxSeverity cfg p.core a) (pwmCapFor cfg p.core (cfg.actuators.slot a)) t }

/-! ## Step 9: marks -/

def actionForcesPwmMax (action : Nat) : Bool :=
  action == FaultAction.forcePwmMaxUntilRecovered.code ||
    action == FaultAction.forcePwmMaxAndLatch.code

/-- What an active detector does to the actuators it concerns. -/
inductive FaultResponse where
  | none
  | forceMax
  | shutdown
deriving DecidableEq

/-- The response of an active detector; only a latched runaway escalates. -/
def faultResponse (action : Nat) (escalates : Bool) : FaultResponse :=
  if escalates then .shutdown
  else if actionForcesPwmMax action then .forceMax
  else if action = FaultAction.requestShutdown.code then .shutdown
  else .none

/-- The response of a detector in a given state: an inactive one has none. -/
def detectorResponse (state : FaultState) (action : Nat) (escalates : Bool) : FaultResponse :=
  if faultStateActive state then faultResponse action escalates else .none

/-- A detector's response on one actuator. -/
def ActuatorTick.respond (kind : FaultType) : FaultResponse → ActuatorTick → ActuatorTick
  | .none, t => t
  | .shutdown, t => { t with slewOverrideUp := true, forcePwmMax := true, shutdownAction := true }
  | .forceMax, t =>
      let t := { t with slewOverrideUp := true, forcePwmMax := true }
      match kind with
      | .stall => { t with causeStall := true }
      | .stuckSensor => { t with causeStuck := true }
      | .runaway => { t with causeRunaway := true }
      | .staleContext => { t with causeStale := true }

/-- A detector's response on every actuator of a list of slots. -/
def respondSlots (kind : FaultType) (r : FaultResponse) (slots : List Nat)
    (ticks : Vector ActuatorTick maxActuators) : Vector ActuatorTick maxActuators :=
  slots.foldl (fun ticks slot => ticks.edit slot (ActuatorTick.respond kind r)) ticks

/-- The flags severity alone sets. -/
def severityTick (t : ActuatorTick) : ActuatorTick :=
  { t with
    slewOverrideUp := t.slewOverrideUp || decide (t.maxZoneSev ≥ TripSeverity.critical.code)
    forcePwmMax := t.forcePwmMax || decide (t.maxZoneSev ≥ TripSeverity.shutdown.code) }

def stepSeverity (cfg : Config) (p : Pass) : Pass :=
  { p with ticks := p.ticks.forSlots cfg.actuatorCount fun _ t => severityTick t }

/-! ## Step 9: stall -/

/-- `(spinup_ms + control_period_ms - 1) / control_period_ms`, the sum in
`uint32_t` and the result in `uint16_t`. -/
def spinupTicks (cfg : Config) (ac : ActuatorCfg) : Nat :=
  if cfg.controlPeriodMs > 0 then
    u16 (u32 (ac.spinupMs + cfg.controlPeriodMs - 1) / cfg.controlPeriodMs)
  else 0

def stepStall (cfg : Config) (cb : Callbacks) (inp : InputSnapshot) (p : Pass) : Pass :=
  let fc := cfg.faults.stallDefaults
  if fc.enabled = 0 then p
  else
    let core :=
      { p.core with
        stallStates := p.core.stallStates.forSlots cfg.actuatorCount fun a st =>
          let ar := p.core.actuators.slot a
          thermalFaultStallStep st fc (p.ticks.slot a).arbPwm ar.tachRpm ar.tachValid
            (spinupTicks cfg (cfg.actuators.slot a)) inp.nowMs }
    { core := core
      ticks := p.ticks.forSlots cfg.actuatorCount fun a =>
        .respond .stall (detectorResponse (core.stallStates.slot a).fsm.state fc.action false)
      calls := p.calls ++ Loop.emit cfg.actuatorCount fun a =>
        let prev := (p.core.stallStates.slot a).fsm.state
        let new := (core.stallStates.slot a).fsm.state
        let id := (cfg.actuators.slot a).id
        emitFaultTransition cb .stall id prev new inp.nowMs ++
          emitShutdownRequest cb .stall id prev new fc.action inp.nowMs }

/-! ## Step 9: runaway -/

/-- `rep_pwm`: the highest request among a zone's actuators. -/
def zoneRepPwm (cfg : Config) (ticks : Vector ActuatorTick maxActuators) (zc : ZoneCfg) : Nat :=
  (zoneActuatorSlots cfg zc).foldl
    (fun rep slot => if (ticks.slot slot).arbPwm > rep then (ticks.slot slot).arbPwm else rep) 0

/-- `runaway_latched_active_ticks[z]` after the detector was stepped: the length
of the current run of condition-active ticks of a latched detector, which shows
as a recovery count of 0. -/
def latchedActiveTicksNext (fc : FaultDetectorCfg) (fsm : Fsm) (ticks : Nat) : Nat :=
  if fc.action = FaultAction.forcePwmMaxAndLatch.code ∧ fsm.state = .latched then
    if fsm.recoveryCount = 0 then if ticks < 0xFFFF then ticks + 1 else ticks
    else 0
  else 0

/-- `escalates_sd`. -/
def runawayEscalates (fc : FaultDetectorCfg) (fsm : Fsm) (ticks : Nat) : Bool :=
  decide (fc.action = FaultAction.forcePwmMaxAndLatch.code) && decide (fsm.state = .latched) &&
    decide (fc.recoveryTicks > 0) && decide (ticks ≥ fc.recoveryTicks)

/-- One zone's detector with its escalation counters.  The escalation flag is
raised together with its event, so only when there is a log callback. -/
def runawayZoneStep (cb : Callbacks) (fc : FaultDetectorCfg) (rr : RunawayRuntime) (tempMc : Int)
    (repPwm nowMs : Nat) : RunawayRuntime :=
  let detector := thermalFaultRunawayStep rr.detector fc tempMc repPwm nowMs
  let ticks := latchedActiveTicksNext fc detector.fsm rr.latchedActiveTicks
  { detector := detector
    latchedActiveTicks := ticks
    escalatedShutdown :=
      faultStateActive detector.fsm.state &&
        (rr.escalatedShutdown || (runawayEscalates fc detector.fsm ticks && cb.logEvent)) }

/-- The response of a zone's runaway detector. -/
def runawayResponse (fc : FaultDetectorCfg) (rr : RunawayRuntime) : FaultResponse :=
  detectorResponse rr.detector.fsm.state fc.action
    (runawayEscalates fc rr.detector.fsm rr.latchedActiveTicks)

/-- The events of one zone's runaway detector. -/
def runawayCalls (cb : Callbacks) (fc : FaultDetectorCfg) (z : Nat) (prev new : RunawayRuntime)
    (nowMs : Nat) : List Call :=
  emitFaultTransition cb .runaway z prev.detector.fsm.state new.detector.fsm.state nowMs ++
    emitShutdownRequest cb .runaway z prev.detector.fsm.state new.detector.fsm.state fc.action nowMs ++
    (if runawayEscalates fc new.detector.fsm new.latchedActiveTicks = true ∧
        prev.escalatedShutdown = false then
      cb.log nowMs .shutdownRequest z FaultType.runaway.code
        FaultAction.forcePwmMaxAndLatch.code 0
    else [])

def stepRunaway (cfg : Config) (cb : Callbacks) (inp : InputSnapshot) (p : Pass) : Pass :=
  let fc := cfg.faults.runawayDefaults
  if fc.enabled = 0 then p
  else
    let core :=
      { p.core with
        runaways := p.core.runaways.forSlots cfg.zoneCount fun z rr =>
          runawayZoneStep cb fc rr (p.core.zones.slot z).tempMc
            (zoneRepPwm cfg p.ticks (cfg.zones.slot z)) inp.nowMs }
    { core := core
      ticks := Loop.fold cfg.zoneCount p.ticks fun ticks z =>
        respondSlots .runaway (runawayResponse fc (core.runaways.slot z))
          (zoneActuatorSlots cfg (cfg.zones.slot z)) ticks
      calls := p.calls ++ Loop.emit cfg.zoneCount fun z =>
        runawayCalls cb fc z (p.core.runaways.slot z) (core.runaways.slot z) inp.nowMs }

/-! ## Step 9: stale context -/

/-- `ms_since`: time since the last valid sample, the maximum if there was none. -/
def msSinceLastValid (cr : ContextRuntime) (nowMs : Nat) : Nat :=
  if cr.everValid then subU32 nowMs cr.lastValidMs else 0xFFFFFFFF

/-- Every detector marks every actuator: the only modifier is global. -/
def stepStaleContext (cfg : Config) (cb : Callbacks) (inp : InputSnapshot) (p : Pass) : Pass :=
  let fc := cfg.faults.staleContextDefaults
  if fc.enabled = 0 then p
  else
    let core :=
      { p.core with
        staleContextStates := p.core.staleContextStates.forSlots cfg.contextCount fun c st =>
          thermalFaultStaleContextStep st fc (msSinceLastValid (p.core.contexts.slot c) inp.nowMs)
            (cfg.contexts.slot c).timeoutMs inp.nowMs }
    { core := core
      ticks := Loop.fold cfg.contextCount p.ticks fun ticks c =>
        respondSlots .staleContext
          (detectorResponse (core.staleContextStates.slot c).fsm.state fc.action false)
          (List.range cfg.actuatorCount) ticks
      calls := p.calls ++ Loop.emit cfg.contextCount fun c =>
        let prev := (p.core.staleContextStates.slot c).fsm.state
        let new := (core.staleContextStates.slot c).fsm.state
        let id := (cfg.contexts.slot c).id
        emitFaultTransition cb .staleContext id prev new inp.nowMs ++
          emitShutdownRequest cb .staleContext id prev new fc.action inp.nowMs }

/-! ## Step 9: actions of the stuck-sensor detectors -/

/-- The detectors were stepped in the pre-pass; here each active one marks the
actuators of every zone that lists its sensor. -/
def stepStuckActions (cfg : Config) (p : Pass) : Pass :=
  let fc := cfg.faults.stuckSensorDefaults
  if fc.enabled = 0 then p
  else
    { p with
      ticks := Loop.fold cfg.sensorCount p.ticks fun ticks s =>
        Loop.fold cfg.zoneCount ticks fun ticks z =>
          let zc := cfg.zones.slot z
          if (zc.sensorIndex (cfg.sensors.slot s).id).isSome then
            respondSlots .stuckSensor
              (detectorResponse (p.core.stuckSensorStates.slot s).fsm.state fc.action false)
              (zoneActuatorSlots cfg zc) ticks
          else ticks }

/-! ## Step 9: shutdown and force -/

/-- Shutdown events on a zone's rise to SHUTDOWN severity, and the latch. -/
def stepZoneShutdown (cfg : Config) (cb : Callbacks) (inp : InputSnapshot) (p : Pass) : Pass :=
  let sev := fun z => zoneMaxSeverity (p.core.zones.slot z) (cfg.zones.slot z)
  { p with
    core := { p.core with
      shutdownRequestLatched := p.core.shutdownRequestLatched ||
        Loop.any cfg.zoneCount fun z => decide (sev z ≥ TripSeverity.shutdown.code)
      prevZoneMaxSeverity := p.core.prevZoneMaxSeverity.forSlots cfg.zoneCount fun z _ => sev z }
    calls := p.calls ++ Loop.emit cfg.zoneCount fun z =>
      if sev z ≥ TripSeverity.shutdown.code ∧
          p.core.prevZoneMaxSeverity.slot z < TripSeverity.shutdown.code then
        cb.log inp.nowMs .shutdownRequest z (sev z) 0 0
      else [] }

/-- An actuator with a shutdown action latches the request too. -/
def stepShutdownLatch (cfg : Config) (p : Pass) : Pass :=
  { p with
    core := { p.core with
      shutdownRequestLatched := p.core.shutdownRequestLatched ||
        Loop.any cfg.actuatorCount fun a => (p.ticks.slot a).shutdownAction } }

/-- `force_pwm_max` applied to the requests, with the override events. -/
def stepForceMax (cfg : Config) (cb : Callbacks) (inp : InputSnapshot) (p : Pass) : Pass :=
  { p with
    ticks := p.ticks.forSlots cfg.actuatorCount fun a t =>
      if t.forcePwmMax then { t with arbPwm := (cfg.actuators.slot a).pwmMax } else t
    calls := p.calls ++ Loop.emit cfg.actuatorCount fun a =>
      let t := p.ticks.slot a
      if t.slewOverrideUp = true ∧ (p.core.actuators.slot a).prevSafetyOverride = false then
        cb.log inp.nowMs .safetyOverride (cfg.actuators.slot a).id t.maxZoneSev 0 0
      else [] }

/-! ## Fan health -/

/-- Runs between the detectors and the drive stage, on the duty and slew flag of
the previous tick. -/
def stepFanHealth (cfg : Config) (p : Pass) : Pass :=
  { p with
    core := { p.core with
      fanHealthStates := p.core.fanHealthStates.forSlots cfg.actuatorCount fun a fh =>
        let ar := p.core.actuators.slot a
        let t := p.ticks.slot a
        thermalFanHealthStep fh (cfg.fanHealth.slot a) ar.prevDuty ar.tachRpm ar.tachValid
          ar.prevSlewLimited (t.forcePwmMax || t.shutdownAction)
          (spinupTicks cfg (cfg.actuators.slot a)) } }

end ThermalCore
