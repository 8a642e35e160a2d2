import ThermalCore.Checked.Detect

/-!
# thermal_core_step, steps 10 and 11, with every access checked

The drive stage, the telemetry, and the whole step put together from its stages.

The output frame is written by slot, one command for each counted actuator.  A
telemetry id is arbitrary in its 16 bits: its slot is compared with the count of
its family before it indexes, and the period divides only after it was found
positive.  `runStages_eq` chains the stages of this module and of the two before
it: on a safe core an admissible snapshot passes every test.
-/

namespace ThermalCore.Checked

open MachineInt Exec

/-! ## Step 10 -/

/-- The ticks of spin-up that a start from standstill arms. -/
def spinupArmed (cfg : Config) (ac : ActuatorCfg) (ar : ActuatorRuntime) (request : Nat) :
    Exec ThermalStatus Nat :=
  if request = 0 then .ok 0
  else do
    let ticks ← spinupTicks cfg ac
    .ok (if ac.spinupMs > 0 ∧ ticks > 0 ∧ ar.prevDuty = 0 ∧ ar.spinupRemaining = 0 then ticks
      else ar.spinupRemaining)

/-- The reason that the first zone listing an actuator gives. -/
def governorReason (cfg : Config) (ac : ActuatorCfg) : Exec ThermalStatus ActuatorReason := do
  let found ← fold cfg.zoneCount (ActuatorReason.governorStep, false) fun acc z =>
    if acc.2 then .ok acc
    else do
      let zc ← read cfg.zones z
      let referenced ← refsActuator zc ac.id
      let ops ← governorOpsFor zc.governor
      .ok (if referenced then
          match ops with
          | none => acc
          | some ops => (ops.reason, ops.supportsPidCommands)
        else acc)
  .ok found.1

/-- The reason reported for a duty, the strongest last. -/
def actuatorReason (cfg : Config) (ac : ActuatorCfg) (t : ActuatorTick) (dwellApplied : Bool)
    (spinupApplied : Bool) (finalPwm : Nat) : Exec ThermalStatus ActuatorReason := do
  let governor ← governorReason cfg ac
  let reason :=
    if finalPwm > 0 then if t.modifierCapApplied then .modifierAcousticCap else governor else .none
  let reason := if spinupApplied = true ∧ finalPwm > 0 then .spinup else reason
  let reason := if dwellApplied then .dwell else reason
  let reason := if t.causeStall then .faultStall else reason
  let reason := if t.causeStuck then .faultStuckSensor else reason
  let reason := if t.causeRunaway then .faultRunaway else reason
  let reason := if t.causeStale then .faultStaleContext else reason
  .ok (if t.maxZoneSev ≥ TripSeverity.shutdown.code ∨ t.shutdownAction = true then .safetyShutdown
    else reason)

/-- Step 10 for one actuator: dwell, spin-up, slew, clamp. -/
def driveActuator (cfg : Config) (ac : ActuatorCfg) (t : ActuatorTick) (ar : ActuatorRuntime) :
    Exec ThermalStatus ActuatorRuntime := do
  let request := dwellRequest ac ar t
  let armed ← spinupArmed cfg ac ar request
  let boosted := spinupApplied ac armed request
  let driven := if boosted then ac.spinupPwm else request
  let sr := thermalSlewStep ar.prevDuty driven ac.slewPerTick (t.slewOverrideUp || boosted)
  let duty := finalClamp ac driven sr.newDuty
  let reason ← actuatorReason cfg ac t (dwellHoldsOff ac ar t || dwellHoldsOn ac ar t) boosted duty
  .ok { ar with
    prevDuty := duty
    prevSlewLimited := sr.slewLimited
    prevReason := reason
    prevSafetyOverride := t.slewOverrideUp
    spinupRemaining := armed - 1
    onTicks := if duty > 0 then tickUp ar.onTicks else 0
    offTicks := if duty > 0 then 0 else tickUp ar.offTicks }

/-- The stage with the output frame it writes. -/
def step10Drive (cfg : Config) (p : Pass) (out : OutputFrame) :
    Exec ThermalStatus (Pass × OutputFrame) := do
  let actuators ← forSlots p.core.actuators cfg.actuatorCount fun a ar => do
    let ac ← read cfg.actuators a
    let t ← read p.ticks a
    driveActuator cfg ac t ar
  let cmds ← forSlots out.actuatorCmds cfg.actuatorCount fun a _ => do
    let ac ← read cfg.actuators a
    let ar ← read actuators a
    .ok ⟨ac.id, ar.prevDuty, ar.prevReason⟩
  .ok ({ p with core := { p.core with actuators := actuators } },
    { actuatorCmds := cmds, actuatorCmdCount := cfg.actuatorCount })

section drive

variable {cfg : Config}

/-- Arming the spin-up divides by a tested period only. -/
theorem spinupArmed_eq (cfg : Config) (ac : ActuatorCfg) (ar : ActuatorRuntime) (request : Nat) :
    spinupArmed cfg ac ar request = .ok (ThermalCore.spinupArmed cfg ac ar request) := by
  unfold spinupArmed
  rw [spinupTicks_eq, ok_bind, ite_ok]
  rfl

/-- The search for a reason stays within the zones and their lists. -/
theorem governorReason_eq (hr : ConfigRules cfg) (ac : ActuatorCfg) :
    governorReason cfg ac = .ok (ThermalCore.governorReason cfg ac) := by
  unfold governorReason
  rw [fold_eq fun z acc hz => by
      rw [read_of_lt _ (Nat.lt_of_lt_of_le hz hr.zoneCount_le), ok_bind,
        refsActuator_eq (hr.zone hz).actuatorCount.2, ok_bind, governorOpsFor_eq, ok_bind, ite_ok],
    ok_bind]
  rfl

/-- Driving an actuator is in bounds. -/
theorem driveActuator_eq (hr : ConfigRules cfg) (ac : ActuatorCfg) (t : ActuatorTick)
    (ar : ActuatorRuntime) :
    driveActuator cfg ac t ar = .ok (ThermalCore.driveActuator cfg ac t ar) := by
  unfold driveActuator actuatorReason
  dsimp only
  rw [spinupArmed_eq, ok_bind, governorReason_eq hr, ok_bind, ok_bind]
  rfl

/-- Step 10 writes the actuators and the frame's commands within their arrays. -/
theorem step10Drive_eq (hr : ConfigRules cfg) (p : Pass) (out : OutputFrame) :
    step10Drive cfg p out = .ok (ThermalCore.step10Drive cfg p, outputFrame cfg p out) := by
  have hle := hr.actuatorCount_le
  have hlt {a : Nat} (ha : a < cfg.actuatorCount) := Nat.lt_of_lt_of_le ha hle
  have hdrive : (forSlots p.core.actuators cfg.actuatorCount fun a ar => do
      let ac ← read cfg.actuators a
      let t ← read p.ticks a
      driveActuator cfg ac t ar) = .ok (ThermalCore.step10Drive cfg p).core.actuators := by
    refine forSlots_pure hle fun a ar ha => ?_
    rw [read_of_lt _ (hlt ha), ok_bind, read_of_lt _ (hlt ha), ok_bind, driveActuator_eq hr]
  have hcmds : (forSlots out.actuatorCmds cfg.actuatorCount fun a _ => do
      let ac ← read cfg.actuators a
      let ar ← read (ThermalCore.step10Drive cfg p).core.actuators a
      .ok ⟨ac.id, ar.prevDuty, ar.prevReason⟩ : Exec ThermalStatus (Vector ActuatorCmd maxActuators)) =
      .ok (outputFrame cfg p out).actuatorCmds := by
    refine forSlots_pure hle fun a cmd ha => ?_
    have hslot : (ThermalCore.step10Drive cfg p).core.actuators.slot a =
        ThermalCore.driveActuator cfg (cfg.actuators.slot a) (p.ticks.slot a)
          (p.core.actuators.slot a) := Vector.slot_forSlots_lt _ _ hle ha
    rw [read_of_lt _ (hlt ha), ok_bind, read_of_lt _ (hlt ha), ok_bind, hslot]
    rfl
  unfold step10Drive
  rw [hdrive, ok_bind, hcmds, ok_bind]
  rfl

end drive

/-! ## Step 11 -/

/-- The entry a signal names, read once its slot has passed the count. -/
def signalEntry [Inhabited α] (v : Vector α n) (count slot : Nat) (value : α → Option Int) :
    Exec ThermalStatus (Option Int) :=
  if slot ≥ count then .ok none
  else do
    let x ← read v slot
    .ok (value x)

/-- `dispatch_signal_value`: the id's slot is tested against the family's count. -/
def dispatchSignalValue (cfg : Config) (core : Core) (sig : Nat) :
    Exec ThermalStatus (Option Int) :=
  if SignalFamily.zone.contains sig then
    signalEntry core.zones cfg.zoneCount (signalSlot .zone sig) fun zr =>
      match signalSub .zone sig with
      | 0x00 => some zr.tempMc
      | 0x10 => some zr.coolingState
      | 0x20 => some (i32 zr.activeTripMask)
      | 0x30 => some zr.effectiveSetpointMc
      | 0x40 => some zr.aggregationValid.toNat
      | _ => none
  else if SignalFamily.actuator.contains sig then
    signalEntry core.actuators cfg.actuatorCount (signalSlot .actuator sig) fun ar =>
      match signalSub .actuator sig with
      | 0x00 => some ar.prevDuty
      | 0x10 => some ar.tachRpm
      | 0x20 => some ar.prevSlewLimited.toNat
      | _ => none
  else if SignalFamily.pid.contains sig then
    let off := u8 (sig - SignalFamily.pid.base)
    signalEntry core.zones cfg.zoneCount (off / 4) fun zr =>
      match off % 4 with
      | 0 => some zr.pidErrorMc
      | 1 => some zr.pidITermQ16
      | 2 => some zr.pidDTermQ16
      | _ => some zr.pwmThisTick
  else if SignalFamily.context.contains sig then
    signalEntry core.contexts cfg.contextCount (signalSlot .context sig) fun cr =>
      match signalSub .context sig with
      | 0x00 => some cr.effectiveValue
      | 0x10 => some cr.filter.valid.toNat
      | _ => none
  else if SignalFamily.modifier.contains sig then
    signalEntry core.modifiers cfg.modifierCount (signalSlot .modifier sig) fun mr =>
      match signalSub .modifier sig with
      | 0x00 => some mr.pwmCap
      | 0x10 => some mr.tripOffset
      | 0x20 => some mr.active.toNat
      | _ => none
  else if SignalFamily.fault.contains sig then
    let slot := signalSlot .fault sig
    match signalSub .fault sig with
    | 0x00 => signalEntry core.stallStates cfg.actuatorCount slot fun st => some st.fsm.state.code
    | 0x10 => signalEntry core.stuckSensorStates cfg.sensorCount slot fun st => some st.fsm.state.code
    | 0x20 => signalEntry core.runaways cfg.zoneCount slot fun rr => some rr.detector.fsm.state.code
    | 0x30 => signalEntry core.staleContextStates cfg.contextCount slot fun st =>
        some st.fsm.state.code
    | _ => .ok none
  else if SignalFamily.fanHealth.contains sig then
    let slot := signalSlot .fanHealth sig
    if slot ≥ cfg.actuatorCount then .ok none
    else do
      let fh ← read core.fanHealthStates slot
      let fc ← read cfg.fanHealth slot
      .ok (match signalSub .fanHealth sig with
        | 0x00 => some fh.healthDeltaPct
        | 0x10 => some fh.severity.code
        | 0x20 =>
            if fc.enable ≠ 0 then some (fc.baselineSource : Int) else some FanBaselineSrc.none.code
        | 0x30 => some fh.confidence
        | _ => none)
  else .ok none

/-- The samples of a telemetry tick. -/
def telemetryCalls (cfg : Config) (cb : Callbacks) (core : Core) (nowMs : Nat) :
    Exec ThermalStatus (List Call) :=
  if cfg.telemetry.enable ≠ 0 ∧ cfg.telemetry.periodTicks > 0 then do
    let phase ← mod core.tickCount cfg.telemetry.periodTicks
    if phase = 0 ∧ cb.telemetryEmit = true then
      emit cfg.telemetry.enabledSignalCount fun i => do
        let sig ← read cfg.telemetry.enabledSignalIds i
        let value ← dispatchSignalValue cfg core sig
        .ok (match value with
          | some value => [.telemetryEmit nowMs sig value]
          | none => [])
    else .ok []
  else .ok []

/-- Step 11: the samples, the tick count and the time of the step. -/
def step11Telemetry (cfg : Config) (cb : Callbacks) (inp : InputSnapshot) (p : Pass) :
    Exec ThermalStatus Pass := do
  let calls ← telemetryCalls cfg cb p.core inp.nowMs
  .ok { p with
    core := { p.core with
      tickCount := u32 (p.core.tickCount + 1)
      lastNowMs := inp.nowMs }
    calls := p.calls ++ calls }

section telemetry

variable {cfg : Config}

/-- An id whose slot is not counted has no value, any other is read in bounds. -/
theorem signalEntry_eq [Inhabited α] {v : Vector α n} {count : Nat} (hc : count ≤ n) (slot : Nat)
    (value : α → Option Int) :
    signalEntry v count slot value = .ok (if slot ≥ count then none else value (v.slot slot)) := by
  unfold signalEntry
  by_cases hs : slot ≥ count
  · rw [if_pos hs, if_pos hs]
  · rw [if_neg hs, if_neg hs, read_of_lt _ (by omega), ok_bind]

/-- Every telemetry id, supported or not, is looked up in bounds. -/
theorem dispatchSignalValue_eq (h : CountRules cfg) (core : Core) (sig : Nat) :
    dispatchSignalValue cfg core sig = .ok (ThermalCore.dispatchSignalValue cfg core sig) := by
  unfold dispatchSignalValue ThermalCore.dispatchSignalValue
  by_cases hzone : SignalFamily.zone.contains sig = true
  · rw [if_pos hzone, if_pos hzone]
    exact signalEntry_eq h.zones _ _
  rw [if_neg hzone, if_neg hzone]
  by_cases hactuator : SignalFamily.actuator.contains sig = true
  · rw [if_pos hactuator, if_pos hactuator]
    exact signalEntry_eq h.actuators _ _
  rw [if_neg hactuator, if_neg hactuator]
  by_cases hpid : SignalFamily.pid.contains sig = true
  · rw [if_pos hpid, if_pos hpid]
    generalize u8 (sig - SignalFamily.pid.base) = off
    exact signalEntry_eq h.zones _ _
  rw [if_neg hpid, if_neg hpid]
  by_cases hcontext : SignalFamily.context.contains sig = true
  · rw [if_pos hcontext, if_pos hcontext]
    exact signalEntry_eq h.contexts _ _
  rw [if_neg hcontext, if_neg hcontext]
  by_cases hmodifier : SignalFamily.modifier.contains sig = true
  · rw [if_pos hmodifier, if_pos hmodifier]
    exact signalEntry_eq h.modifiers _ _
  rw [if_neg hmodifier, if_neg hmodifier]
  by_cases hfault : SignalFamily.fault.contains sig = true
  · rw [if_pos hfault, if_pos hfault]
    dsimp only
    rw [signalEntry_eq h.actuators, signalEntry_eq h.sensors, signalEntry_eq h.zones,
      signalEntry_eq h.contexts]
    generalize signalSub .fault sig = sub
    split <;> simp
  rw [if_neg hfault, if_neg hfault]
  by_cases hfan : SignalFamily.fanHealth.contains sig = true
  · rw [if_pos hfan, if_pos hfan]
    dsimp only
    by_cases hslot : signalSlot .fanHealth sig ≥ cfg.actuatorCount
    · rw [if_pos hslot, if_pos hslot]
    · have hlt : signalSlot .fanHealth sig < maxActuators :=
        Nat.lt_of_lt_of_le (Nat.lt_of_not_le hslot) h.actuators
      rw [if_neg hslot, if_neg hslot, read_of_lt _ hlt, ok_bind, read_of_lt _ hlt]
      rfl
  rw [if_neg hfan, if_neg hfan]

/-- The period divides only when it is positive. -/
theorem telemetryCalls_eq (h : CountRules cfg) (cb : Callbacks) (core : Core) (nowMs : Nat) :
    telemetryCalls cfg cb core nowMs = .ok (ThermalCore.telemetryCalls cfg cb core nowMs) := by
  have hemit : (emit cfg.telemetry.enabledSignalCount fun i => do
      let sig ← read cfg.telemetry.enabledSignalIds i
      let value ← dispatchSignalValue cfg core sig
      .ok (match value with
        | some value => [Call.telemetryEmit nowMs sig value]
        | none => [])) = .ok (Loop.emit cfg.telemetry.enabledSignalCount fun i =>
          match ThermalCore.dispatchSignalValue cfg core (cfg.telemetry.enabledSignalIds.slot i) with
          | some value => [.telemetryEmit nowMs (cfg.telemetry.enabledSignalIds.slot i) value]
          | none => []) := by
    refine emit_eq fun i hi => ?_
    rw [read_of_lt _ (Nat.lt_of_lt_of_le hi h.telemetry), ok_bind, dispatchSignalValue_eq h, ok_bind]
  unfold telemetryCalls ThermalCore.telemetryCalls
  by_cases hon : cfg.telemetry.enable ≠ 0 ∧ cfg.telemetry.periodTicks > 0
  · have hphase : (core.tickCount % cfg.telemetry.periodTicks = 0 ∧ cb.telemetryEmit = true) ↔
        cfg.telemetry.enable ≠ 0 ∧ cfg.telemetry.periodTicks > 0 ∧
          core.tickCount % cfg.telemetry.periodTicks = 0 ∧ cb.telemetryEmit = true :=
      ⟨fun hdue => ⟨hon.1, hon.2, hdue⟩, fun hall => hall.2.2⟩
    rw [if_pos hon, mod_of_pos hon.2, ok_bind, hemit, ite_ok]
    exact congrArg Except.ok (if_congr hphase rfl rfl)
  · rw [if_neg hon, if_neg fun hall => hon ⟨hall.1, hall.2.1⟩]

/-- Every access of step 11 is in bounds. -/
theorem step11Telemetry_eq (h : CountRules cfg) (cb : Callbacks) (inp : InputSnapshot) (p : Pass) :
    step11Telemetry cfg cb inp p = .ok (ThermalCore.step11Telemetry cfg cb inp p) := by
  unfold step11Telemetry
  rw [telemetryCalls_eq h, ok_bind]
  rfl

end telemetry

/-! ## The step -/

/-- The stages past the preflight. -/
def runStages (cfg : Config) (cb : Callbacks) (core : Core) (inp : InputSnapshot)
    (out : OutputFrame) : Exec ThermalStatus StepResult := do
  let core ← senseCore cfg inp core
  let p ← stuckSensorPrepass cfg cb inp (Pass.start core)
  let p ← step6Zones cfg cb inp p
  let p ← step7Arbitrate cfg p
  let p ← step8PwmCap cfg p
  let p ← stepSeverity cfg p
  let p ← stepStall cfg cb inp p
  let p ← stepRunaway cfg cb inp p
  let p ← stepStaleContext cfg cb inp p
  let p ← stepStuckActions cfg p
  let p ← stepZoneShutdown cfg cb inp p
  let p ← stepShutdownLatch cfg p
  let p ← stepForceMax cfg cb inp p
  let p ← stepFanHealth cfg p
  let driven ← step10Drive cfg p out
  let p ← step11Telemetry cfg cb inp driven.1
  .ok ⟨.ok, p.core, driven.2, p.calls⟩

/-- `thermal_core_step`: a refusal of the preflight leaves core and frame as they were. -/
def thermalCoreStep (cfg : Config) (cb : Callbacks) (core : Core) (inp : InputSnapshot)
    (out : OutputFrame) : Exec ThermalStatus StepResult :=
  returning (do
    preflightSnapshot cfg inp
    runStages cfg cb core inp out) fun e => ⟨e, core, out, []⟩

section step

variable {cfg : Config} {core : Core} {inp : InputSnapshot}

/-- Nor does the pre-pass. -/
theorem CoreSafe.prepass (cb : Callbacks) (hs : CoreSafe cfg core) :
    CoreSafe cfg (ThermalCore.stuckSensorPrepass cfg cb inp (Pass.start core)).core where
  sensorSlots := by
    rw [stuckSensorPrepass_core]
    exact hs.sensorSlots
  coolingStates := by
    rw [stuckSensorPrepass_core]
    exact hs.coolingStates
  pidDt := by
    rw [stuckSensorPrepass_core]
    exact hs.pidDt
  curves := by
    rw [stuckSensorPrepass_core]
    exact hs.curves
  heads := by
    rw [stuckSensorPrepass_core]
    exact hs.heads

/-- **The stages of an admissible step** on a safe core pass every test of an index and of a
divisor. -/
theorem runStages_eq (hr : ConfigRules cfg) (hs : CoreSafe cfg core) (hin : Admissible cfg inp)
    (cb : Callbacks) (out : OutputFrame) :
    runStages cfg cb core inp out =
      .ok ⟨.ok, (passDone cfg cb inp core).core, outputFrame cfg (passDecided cfg cb inp core) out,
        (passDone cfg cb inp core).calls⟩ := by
  have h := countRules hr
  have hcs : ∀ z < cfg.zoneCount,
      ((passZones cfg cb inp core).core.zones.slot z).coolingState < maxCoolingStates :=
    fun z hz => coolingState_step6Zones_lt hr cb inp (hs.senseCore.prepass cb) hz
  have hheads : ∀ z < cfg.zoneCount,
      ((ThermalCore.stepStall cfg cb inp (passRequests cfg cb inp core)).core.runaways.slot
        z).detector.windowHead < faultRunawayWindowMax := by
    rw [stepStall_runaways]
    exact hs.heads
  unfold passRequests passZones at hheads
  unfold passZones at hcs
  unfold runStages passDone passDecided passDetectors passRequests passZones
  rw [senseCore_eq h (readable_of_admissible hin) hs, ok_bind, stuckSensorPrepass_eq h, ok_bind,
    step6Zones_eq hr cb inp (hs.senseCore.prepass cb), ok_bind, step7Arbitrate_eq hr hcs, ok_bind,
    step8PwmCap_eq hr, ok_bind, stepSeverity_eq h.actuators, ok_bind, stepStall_eq h, ok_bind,
    stepRunaway_eq hr cb inp hheads, ok_bind, stepStaleContext_eq h, ok_bind, stepStuckActions_eq hr,
    ok_bind, stepZoneShutdown_eq hr, ok_bind, stepShutdownLatch_eq h.actuators, ok_bind,
    stepForceMax_eq h.actuators, ok_bind, stepFanHealth_eq hr, ok_bind, step10Drive_eq hr, ok_bind,
    step11Telemetry_eq h, ok_bind]

/-- **Step**: on a safe core it does what the model does, whatever the snapshot. -/
theorem thermalCoreStep_eq (hr : ConfigRules cfg) (hs : CoreSafe cfg core) (cb : Callbacks)
    (inp : InputSnapshot) (out : OutputFrame) :
    thermalCoreStep cfg cb core inp out = .ok (ThermalCore.thermalCoreStep cfg cb core inp out) := by
  unfold thermalCoreStep ThermalCore.thermalCoreStep
  rw [preflightSnapshot_eq (countRules hr), returning_test fun _ hin => runStages_eq hr hs hin cb out]
  cases ThermalCore.preflightSnapshot cfg inp <;> rfl

end step

end ThermalCore.Checked
