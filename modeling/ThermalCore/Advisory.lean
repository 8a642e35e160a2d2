import ThermalCore.Reach

/-!
# Fan health is advisory

The fan-health monitor is configured by a block of its own and keeps a state of
its own.  Here both are replaced by arbitrary ones, and every stage of a step,
every command and every state read is shown not to notice: the block and the
state reach nothing but the state and the telemetry signals of the monitor.

The proof is a relation between two runs that may differ in the monitor's block and in
its state.  Each stage keeps it, and what a stage emits is the same outside the
monitor's own signals.
-/

namespace ThermalCore

open MachineInt Check

/-! ## Replacing the monitor -/

def Config.withFanHealth (cfg : Config) (fh : Vector FanHealthCfg maxActuators) : Config :=
  { cfg with fanHealth := fh }

def Core.withFanHealth (core : Core) (st : Vector FanHealthState maxActuators) : Core :=
  { core with fanHealthStates := st }

def Pass.withFanHealth (p : Pass) (st : Vector FanHealthState maxActuators) : Pass :=
  { p with core := p.core.withFanHealth st }

/-- The two configurations agree on everything but `fan_health[]`. -/
def SameButFanHealth (cfg cfg' : Config) : Prop := cfg' = cfg.withFanHealth cfg'.fanHealth

/-- The two cores agree on everything but the monitor's state. -/
def SameButMonitor (core core' : Core) : Prop := core' = core.withFanHealth core'.fanHealthStates

/-- A core agrees with itself under another monitor state. -/
theorem Core.sameButMonitor (core : Core) (st : Vector FanHealthState maxActuators) :
    SameButMonitor core (core.withFanHealth st) := rfl

section stages

variable (cfg : Config) (fh : Vector FanHealthCfg maxActuators)
  (st : Vector FanHealthState maxActuators) (cb : Callbacks) (inp : InputSnapshot) (core : Core)
  (p : Pass)

/-! ## Stages -/

/-- The snapshot tests do not look at the monitor's block. -/
theorem preflightSnapshot_withFanHealth :
    preflightSnapshot (cfg.withFanHealth fh) inp = preflightSnapshot cfg inp := by
  have scan (seen : List Nat) (smps : List Sample) :
      scanSamples (cfg.withFanHealth fh) seen smps = scanSamples cfg seen smps := by
    induction smps generalizing seen with
    | nil => rfl
    | cons smp rest ih =>
        unfold scanSamples
        simp only [ih]
        rfl
  unfold preflightSnapshot
  rw [scan]

/-- Modifiers do not look at the monitor. -/
theorem step5ModifierEval_withFanHealth :
    step5ModifierEval (cfg.withFanHealth fh) (core.withFanHealth st) =
      (step5ModifierEval cfg core).withFanHealth st := by
  have hslot : findContextSlot (cfg.withFanHealth fh)
      ((clearModifierOutputs (core.withFanHealth st)).modifiers.slot 0).shadow.contextId =
      findContextSlot cfg ((clearModifierOutputs core).modifiers.slot 0).shadow.contextId := rfl
  unfold step5ModifierEval
  by_cases hnone : cfg.modifierCount = 0
  · rw [if_pos hnone]
    exact if_pos hnone
  · rw [if_neg hnone]
    refine (if_neg hnone).trans ?_
    dsimp only
    rw [hslot]
    cases findContextSlot cfg ((clearModifierOutputs core).modifiers.slot 0).shadow.contextId <;> rfl

/-- Nor does anything else in front of the detectors. -/
theorem senseCore_withFanHealth :
    senseCore (cfg.withFanHealth fh) inp (core.withFanHealth st) =
      (senseCore cfg inp core).withFanHealth st := by
  have hsteps : step4ContextFilters (cfg.withFanHealth fh) inp
      (step3bTach (cfg.withFanHealth fh) inp
        (step3SensorFilters (cfg.withFanHealth fh) inp (core.withFanHealth st))) =
      (step4ContextFilters cfg inp
        (step3bTach cfg inp (step3SensorFilters cfg inp core))).withFanHealth st := rfl
  unfold senseCore
  rw [hsteps, step5ModifierEval_withFanHealth]

/-- A stage that is skipped when its detector kind is disabled. -/
theorem guarded_withFanHealth {c : Prop} [Decidable c] {p q q' : Pass} (h : q' = q.withFanHealth st) :
    (if c then p.withFanHealth st else q') = (if c then p else q).withFanHealth st := by
  by_cases hc : c
  · rw [if_pos hc, if_pos hc]
  · rw [if_neg hc, if_neg hc, h]

/-- The stuck-sensor stage does not look at the monitor. -/
theorem stuckSensorPrepass_withFanHealth :
    stuckSensorPrepass (cfg.withFanHealth fh) cb inp (p.withFanHealth st) =
      (stuckSensorPrepass cfg cb inp p).withFanHealth st :=
  guarded_withFanHealth st rfl

/-- The stall stage does not look at the monitor. -/
theorem stepStall_withFanHealth :
    stepStall (cfg.withFanHealth fh) cb inp (p.withFanHealth st) =
      (stepStall cfg cb inp p).withFanHealth st :=
  guarded_withFanHealth st rfl

/-- The runaway stage does not look at the monitor. -/
theorem stepRunaway_withFanHealth :
    stepRunaway (cfg.withFanHealth fh) cb inp (p.withFanHealth st) =
      (stepRunaway cfg cb inp p).withFanHealth st :=
  guarded_withFanHealth st rfl

/-- The stale-context stage does not look at the monitor. -/
theorem stepStaleContext_withFanHealth :
    stepStaleContext (cfg.withFanHealth fh) cb inp (p.withFanHealth st) =
      (stepStaleContext cfg cb inp p).withFanHealth st :=
  guarded_withFanHealth st rfl

/-- The actions on a stuck sensor do not look at the monitor. -/
theorem stepStuckActions_withFanHealth :
    stepStuckActions (cfg.withFanHealth fh) (p.withFanHealth st) =
      (stepStuckActions cfg p).withFanHealth st :=
  guarded_withFanHealth st rfl

/-- So the pass up to the last detector does not. -/
theorem passDetectors_withFanHealth :
    passDetectors (cfg.withFanHealth fh) cb inp (core.withFanHealth st) =
      (passDetectors cfg cb inp core).withFanHealth st := by
  have hstart : Pass.start ((senseCore cfg inp core).withFanHealth st) =
      (Pass.start (senseCore cfg inp core)).withFanHealth st := rfl
  have hzones (p : Pass) : step6Zones (cfg.withFanHealth fh) cb inp (p.withFanHealth st) =
      (step6Zones cfg cb inp p).withFanHealth st := rfl
  have hrequests (p : Pass) : stepSeverity (cfg.withFanHealth fh)
      (step8PwmCap (cfg.withFanHealth fh) (step7Arbitrate (cfg.withFanHealth fh)
        (p.withFanHealth st))) =
      (stepSeverity cfg (step8PwmCap cfg (step7Arbitrate cfg p))).withFanHealth st := rfl
  unfold passDetectors passRequests passZones
  rw [senseCore_withFanHealth, hstart, stuckSensorPrepass_withFanHealth, hzones, hrequests,
    stepStall_withFanHealth, stepRunaway_withFanHealth, stepStaleContext_withFanHealth,
    stepStuckActions_withFanHealth]

/-- Once the monitor has run its new state is again the only difference. -/
theorem passDecided_withFanHealth :
    ∃ st', passDecided (cfg.withFanHealth fh) cb inp (core.withFanHealth st) =
      (passDecided cfg cb inp core).withFanHealth st' := by
  unfold passDecided
  rw [passDetectors_withFanHealth]
  exact ⟨_, rfl⟩

/-! ## Telemetry -/

/-- A sample of one of the monitor's signals. -/
def Call.isFanHealthSample : Call → Bool
  | .logEvent .. => false
  | .telemetryEmit _ sig _ => SignalFamily.fanHealth.contains sig

/-- The calls the monitor has no part in. -/
def withoutFanHealth (calls : List Call) : List Call := calls.filter fun c => !c.isFanHealthSample

/-- The callbacks outside the monitor's signals, over two lists. -/
theorem withoutFanHealth_append (xs ys : List Call) :
    withoutFanHealth (xs ++ ys) = withoutFanHealth xs ++ withoutFanHealth ys :=
  List.filter_append ..

/-- The callbacks outside the monitor's signals, over a loop. -/
theorem withoutFanHealth_emit (count : Nat) (f : Nat → List Call) :
    withoutFanHealth (Loop.emit count f) = Loop.emit count fun i => withoutFanHealth (f i) := by
  induction count with
  | zero => rfl
  | succ count ih => rw [Loop.emit_succ, Loop.emit_succ, withoutFanHealth_append, ih]

/-- Every other signal has the same value. -/
theorem dispatchSignalValue_withFanHealth {sig : Nat} (h : SignalFamily.fanHealth.contains sig = false) :
    dispatchSignalValue (cfg.withFanHealth fh) (core.withFanHealth st) sig =
      dispatchSignalValue cfg core sig := by
  unfold dispatchSignalValue
  simp only [h, Bool.false_eq_true, if_false]
  simp only [Config.withFanHealth, Core.withFanHealth]
  congr

/-- The telemetry of a step is the same outside the monitor's signals. -/
theorem telemetryCalls_withFanHealth (nowMs : Nat) :
    withoutFanHealth (telemetryCalls (cfg.withFanHealth fh) cb (core.withFanHealth st) nowMs) =
      withoutFanHealth (telemetryCalls cfg cb core nowMs) := by
  have sample (value : Int) {sig : Nat} (h : SignalFamily.fanHealth.contains sig = true) :
      withoutFanHealth [Call.telemetryEmit nowMs sig value] = withoutFanHealth [] := by
    simp [withoutFanHealth, Call.isFanHealthSample, h]
  by_cases hdue : cfg.telemetry.enable ≠ 0 ∧ cfg.telemetry.periodTicks > 0 ∧
      core.tickCount % cfg.telemetry.periodTicks = 0 ∧ cb.telemetryEmit = true
  · refine (congrArg withoutFanHealth (if_pos hdue)).trans
      (Eq.trans ?_ (congrArg withoutFanHealth (if_pos hdue)).symm)
    rw [withoutFanHealth_emit, withoutFanHealth_emit]
    apply Loop.emit_congr
    intro i _
    have hids : (cfg.withFanHealth fh).telemetry = cfg.telemetry := rfl
    dsimp only
    rw [hids]
    cases hfamily : SignalFamily.fanHealth.contains (cfg.telemetry.enabledSignalIds.slot i) with
    | true =>
        generalize dispatchSignalValue (cfg.withFanHealth fh) (core.withFanHealth st) _ = value
        generalize dispatchSignalValue cfg core _ = value'
        cases value <;> cases value' <;> simp only [sample _ hfamily]
    | false => rw [dispatchSignalValue_withFanHealth _ _ _ _ hfamily]
  · have hleft : telemetryCalls (cfg.withFanHealth fh) cb (core.withFanHealth st) nowMs = [] :=
      if_neg hdue
    have hright : telemetryCalls cfg cb core nowMs = [] := if_neg hdue
    rw [hleft, hright]

/-! ## Steps, commands, state reads -/

/-- What a call shows, less the monitor's samples. -/
def Effect.withoutFanHealth : Effect → Effect
  | .step status out calls => .step status out (ThermalCore.withoutFanHealth calls)
  | .command result calls => .command result (ThermalCore.withoutFanHealth calls)

theorem thermalCoreStep_withFanHealth (out : OutputFrame) :
    let r := thermalCoreStep cfg cb core inp out
    let r' := thermalCoreStep (cfg.withFanHealth fh) cb (core.withFanHealth st) inp out
    SameButMonitor r.core r'.core ∧ r'.status = r.status ∧ r'.out = r.out ∧
      withoutFanHealth r'.calls = withoutFanHealth r.calls := by
  intro r r'
  have hpre := preflightSnapshot_withFanHealth cfg fh inp
  cases hstatus : preflightSnapshot cfg inp with
  | error e =>
      have hr : r = ⟨e, core, out, []⟩ := by
        simp only [r, thermalCoreStep, hstatus]
      have hr' : r' = ⟨e, core.withFanHealth st, out, []⟩ := by
        simp only [r', thermalCoreStep, hpre, hstatus]
      rw [hr, hr']
      exact ⟨core.sameButMonitor st, rfl, rfl, rfl⟩
  | ok u =>
      obtain ⟨st', hdecided⟩ := passDecided_withFanHealth cfg fh st cb inp core
      have hdriven (p : Pass) : step10Drive (cfg.withFanHealth fh) (p.withFanHealth st') =
          (step10Drive cfg p).withFanHealth st' := rfl
      have hr : thermalCoreStep cfg cb core inp out = _ := thermalCoreStep_accepted hstatus
      have hr' : thermalCoreStep (cfg.withFanHealth fh) cb (core.withFanHealth st) inp out = _ :=
        thermalCoreStep_accepted (hpre.trans hstatus)
      have hdone : passDone (cfg.withFanHealth fh) cb inp (core.withFanHealth st) =
          step11Telemetry (cfg.withFanHealth fh) cb inp
            ((step10Drive cfg (passDecided cfg cb inp core)).withFanHealth st') := by
        unfold passDone
        rw [hdecided, hdriven]
      simp only [r, r', hr, hr', hdone, hdecided]
      refine ⟨rfl, trivial, rfl, ?_⟩
      unfold passDone step11Telemetry
      dsimp only
      rw [withoutFanHealth_append, withoutFanHealth_append]
      exact congrArg _ (telemetryCalls_withFanHealth cfg fh st' cb _ _)

/-- A handler's result with the monitor's state replaced. -/
def replaceMonitor (r : ThermalStatus × Core) : ThermalStatus × Core := (r.1, r.2.withFanHealth st)

/-- One test of a handler. -/
theorem ite_replaceMonitor {c : Prop} [Decidable c] {r s r' s' : ThermalStatus × Core}
    (hr : r' = replaceMonitor st r) (hs : s' = replaceMonitor st s) :
    (if c then r' else s') = replaceMonitor st (if c then r else s) := by
  by_cases hc : c
  · rw [if_pos hc, if_pos hc, hr]
  · rw [if_neg hc, if_neg hc, hs]

/-- A clear that resets its detector or leaves the core alone. -/
theorem clear_replaceMonitor (status : ThermalStatus) {b : Bool} {reset core' : Core}
    (hreset : core' = reset.withFanHealth st) :
    (status, if b then core' else core.withFanHealth st) =
      replaceMonitor st (status, if b then reset else core) := by
  cases b with
  | false => rfl
  | true => rw [if_pos rfl, if_pos rfl, hreset]; rfl

/-- Clearing a fault does not look at the monitor. -/
theorem cmdClearFault_withFanHealth (ftype tid : Nat) :
    cmdClearFault (cfg.withFanHealth fh) (core.withFanHealth st) ftype tid =
      replaceMonitor st (cmdClearFault cfg core ftype tid) := by
  have hactuator : findActuatorSlot (cfg.withFanHealth fh) tid = findActuatorSlot cfg tid := rfl
  have hsensor : findSensorSlot (cfg.withFanHealth fh) tid = findSensorSlot cfg tid := rfl
  have hcontext : findContextSlot (cfg.withFanHealth fh) tid = findContextSlot cfg tid := rfl
  unfold cmdClearFault
  rw [hactuator, hsensor, hcontext]
  refine ite_replaceMonitor st ?_ (ite_replaceMonitor st ?_ (ite_replaceMonitor st ?_
    (ite_replaceMonitor st ?_ rfl)))
  · cases findActuatorSlot cfg tid with
    | none => rfl
    | some slot => exact clear_replaceMonitor st core _ rfl
  · cases findSensorSlot cfg tid with
    | none => rfl
    | some slot => exact clear_replaceMonitor st core _ rfl
  · exact ite_replaceMonitor st rfl (clear_replaceMonitor st core _ rfl)
  · cases findContextSlot cfg tid with
    | none => rfl
    | some slot => exact clear_replaceMonitor st core _ rfl

/-- No command looks at the monitor. -/
theorem runCommand_withFanHealth (cmd : Command) :
    runCommand (cfg.withFanHealth fh) (core.withFanHealth st) cmd =
      replaceMonitor st (runCommand cfg core cmd) := by
  cases cmd with
  | setPid z kp ki kd => exact ite_replaceMonitor st rfl (ite_replaceMonitor st rfl rfl)
  | setSetpoint z sp =>
      exact ite_replaceMonitor st rfl (ite_replaceMonitor st rfl (ite_replaceMonitor st rfl rfl))
  | setTrip z t temp hyst =>
      exact ite_replaceMonitor st rfl (ite_replaceMonitor st rfl (ite_replaceMonitor st rfl rfl))
  | setCurvePoint m p x v0 v1 =>
      exact ite_replaceMonitor st rfl (ite_replaceMonitor st rfl (ite_replaceMonitor st rfl rfl))
  | clearFault ftype tid => exact cmdClearFault_withFanHealth cfg fh st core ftype tid
  | unknown id => rfl

end stages

/-- One call: the monitor's state stays the only difference, and only its
samples show it. -/
theorem call_sameButMonitor {cfg cfg' : Config} (hcfg : SameButFanHealth cfg cfg') (cb : Callbacks)
    {core core' : Core} (h : SameButMonitor core core') (i : Input) :
    SameButMonitor (call cfg cb core i).1 (call cfg' cb core' i).1 ∧
      (call cfg' cb core' i).2.withoutFanHealth = (call cfg cb core i).2.withoutFanHealth := by
  unfold SameButFanHealth at hcfg
  unfold SameButMonitor at h
  rw [hcfg, h]
  cases i with
  | step inp out =>
      obtain ⟨hcore, hstatus, hout, hcalls⟩ := thermalCoreStep_withFanHealth cfg cfg'.fanHealth
        core'.fanHealthStates cb inp core out
      refine ⟨hcore, ?_⟩
      unfold call Effect.withoutFanHealth
      dsimp only
      rw [hstatus, hout, hcalls]
  | command nowMs cmd =>
      have hcmd := runCommand_withFanHealth cfg cfg'.fanHealth core'.fanHealthStates core cmd
      unfold call thermalCoreApplyCommand
      dsimp only
      rw [hcmd]
      exact ⟨Core.sameButMonitor _ _, rfl⟩

/-- A state read does not show the monitor. -/
theorem getState_sameButMonitor {cfg cfg' : Config} (hcfg : SameButFanHealth cfg cfg')
    {core core' : Core} (h : SameButMonitor core core') :
    thermalCoreGetState cfg' core' = thermalCoreGetState cfg core := by
  unfold SameButFanHealth at hcfg
  unfold SameButMonitor at h
  rw [hcfg, h]
  rfl

/-- **Fan health is advisory**: two configurations that differ in `fan_health[]`
only run alike from init.  Every call returns the same status and frame and, the
monitor's own samples apart, makes the same calls; every state read after the
run is the same. -/
theorem fanHealth_advisory {cfg cfg' : Config} (hcfg : SameButFanHealth cfg cfg') (cb : Callbacks)
    (is : List Input) :
    (Machine.outputs (call cfg' cb) (initCore cfg') is).map Effect.withoutFanHealth =
        (Machine.outputs (call cfg cb) (initCore cfg) is).map Effect.withoutFanHealth ∧
      thermalCoreGetState cfg' (Machine.after (call cfg' cb) (initCore cfg') is) =
        thermalCoreGetState cfg (Machine.after (call cfg cb) (initCore cfg) is) := by
  have hinit : SameButMonitor (initCore cfg) (initCore cfg') := by
    unfold SameButFanHealth at hcfg
    rw [hcfg]
    rfl
  obtain ⟨hcore, hcalls⟩ := Machine.sim_map
    (R := SameButMonitor) (q := id) (f := Effect.withoutFanHealth) (g := Effect.withoutFanHealth)
    (fun _ _ i h => call_sameButMonitor hcfg cb h i) hinit is
  rw [List.map_id] at hcore hcalls
  exact ⟨hcalls, getState_sameButMonitor hcfg hcore⟩

/-- The one fan with its monitor on, against a two-point baseline. -/
def monitoredFanConfig : Config :=
  oneFanConfig.withFanHealth #v[
    { (default : FanHealthCfg) with
      enable := 1, baselineSource := FanBaselineSrc.factory.code
      baseline := (default : Vector CurvePoint maxFanHealthPoints).put 0 ⟨40, 600, 0⟩ |>.put 1 ⟨200, 3000, 0⟩
      baselineCount := 2, stablePwmTicks := 1, stableRpmTicks := 1, stableRpmTolerancePct := 10
      minPointsObserved := 1, agingPct := -10, degradedPct := -20, failingPct := -30 },
    default]

/-- The monitor switched on over a run with a hot sample and a slow fan. -/
theorem fanHealth_advisory_oneFan :
    let is : List Input :=
      [.step (snapshotOf 100 [⟨1, 0, 1, 75000⟩, ⟨5, 1, 1, 900⟩]) default, .command 150 (.clearFault 1 5),
        .step (snapshotOf 200 [⟨1, 0, 1, 75000⟩, ⟨5, 1, 1, 900⟩]) default]
    Accepted monitoredFanConfig ∧ Accepted oneFanConfig ∧
      (Machine.outputs (call monitoredFanConfig ⟨true, true⟩) (initCore monitoredFanConfig) is).map
          Effect.withoutFanHealth =
        (Machine.outputs (call oneFanConfig ⟨true, true⟩) (initCore oneFanConfig) is).map
          Effect.withoutFanHealth ∧
      thermalCoreGetState monitoredFanConfig
          (Machine.after (call monitoredFanConfig ⟨true, true⟩) (initCore monitoredFanConfig) is) =
        thermalCoreGetState oneFanConfig
          (Machine.after (call oneFanConfig ⟨true, true⟩) (initCore oneFanConfig) is) :=
  have hcfg : SameButFanHealth oneFanConfig monitoredFanConfig := rfl
  ⟨by decide +kernel, accepted_oneFanConfig, fanHealth_advisory hcfg ⟨true, true⟩ _⟩

end ThermalCore
