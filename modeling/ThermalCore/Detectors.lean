import ThermalCore.Reach

/-!
# The detectors as one family

A detector is a kind and a slot.  This module gives each detector its target id,
its configuration, its state machine inside the core and the condition a step
feeds to that machine, and says that this is all a step does to the machine.

`detectorFsm` reads the machine of a kind and a slot, `detectorCondition` what a step
feeds it.  Every later statement about faults is about these two, for all kinds at once.
-/

namespace ThermalCore

open MachineInt Check

/-! ## Kinds -/

def detectorCount (cfg : Config) : FaultType → Nat
  | .stall => cfg.actuatorCount
  | .stuckSensor => cfg.sensorCount
  | .runaway => cfg.zoneCount
  | .staleContext => cfg.contextCount

/-- The target id events and commands use: a runaway detector's is its zone's
index. -/
def detectorTarget (cfg : Config) : FaultType → Nat → Nat
  | .stall, a => (cfg.actuators.slot a).id
  | .stuckSensor, s => (cfg.sensors.slot s).id
  | .runaway, z => z
  | .staleContext, c => (cfg.contexts.slot c).id

def detectorCfg (cfg : Config) : FaultType → FaultDetectorCfg
  | .stall => cfg.faults.stallDefaults
  | .stuckSensor => cfg.faults.stuckSensorDefaults
  | .runaway => cfg.faults.runawayDefaults
  | .staleContext => cfg.faults.staleContextDefaults

def detectorFsm (core : Core) : FaultType → Nat → Fsm
  | .stall, a => (core.stallStates.slot a).fsm
  | .stuckSensor, s => (core.stuckSensorStates.slot s).fsm
  | .runaway, z => (core.runaways.slot z).detector.fsm
  | .staleContext, c => (core.staleContextStates.slot c).fsm

/-- The detectors of one kind have different targets. -/
theorem detectorTarget_inj {cfg : Config} (hr : ConfigRules cfg) {kind : FaultType} {i j : Nat}
    (hi : i < detectorCount cfg kind) (hj : j < detectorCount cfg kind)
    (h : detectorTarget cfg kind i = detectorTarget cfg kind j) : i = j := by
  cases kind with
  | stall => exact hr.actuator_ids i hi j hj h
  | stuckSensor => exact hr.sensor_ids i hi j hj h
  | runaway => exact h
  | staleContext => exact (validateContexts_ok hr.contexts).2 i hi j hj h

/-! ## What a step feeds to a machine -/

/-- A machine is ticked when its kind is enabled; the runaway detector also needs
a window. -/
def detectorTicks (cfg : Config) (kind : FaultType) : Bool :=
  decide ((detectorCfg cfg kind).enabled ≠ 0) &&
    (decide (kind ≠ .runaway) || decide ((detectorCfg cfg kind).persistTicks ≠ 0))

/-- The persist ticks a machine is ticked with. -/
def detectorPersist (cfg : Config) (kind : FaultType) : Nat :=
  if kind = .runaway then 1 else (detectorCfg cfg kind).persistTicks

/-- The condition of a detector on this step. -/
def detectorCondition (cfg : Config) (cb : Callbacks) (inp : InputSnapshot) (core : Core) :
    FaultType → Nat → Bool
  | .stall, a =>
      let p := passRequests cfg cb inp core
      let ar := p.core.actuators.slot a
      stallCondition (core.stallStates.slot a) cfg.faults.stallDefaults (p.ticks.slot a).arbPwm
        ar.tachRpm ar.tachValid (spinupTicks cfg (cfg.actuators.slot a))
  | .stuckSensor, s =>
      let fc := cfg.faults.stuckSensorDefaults
      let sensed := senseCore cfg inp core
      let f := sensed.filters.slot s
      let ctx := correlatedContext cfg sensed
      let window := (core.stuckSensorStates.slot s).window
      let w := if f.valid then window.accumulate fc f.filteredValue ctx.1 ctx.2 else window
      w.full fc && w.flat fc
  | .runaway, z =>
      let fc := cfg.faults.runawayDefaults
      let p := stepStall cfg cb inp (passRequests cfg cb inp core)
      let persist := runawayPersist fc
      ((core.runaways.slot z).detector.push persist (p.core.zones.slot z).tempMc
        (zoneRepPwm cfg p.ticks (cfg.zones.slot z))).condition fc persist
  | .staleContext, c =>
      decide (msSinceLastValid ((senseCore cfg inp core).contexts.slot c) inp.nowMs ≥
        (cfg.contexts.slot c).timeoutMs)

/-- A fault state is never NORMAL. -/
theorem actionToState_ne_normal (action severity : Nat) : actionToState action severity ≠ .normal := by
  unfold actionToState
  split
  · decide
  · split <;> decide

/-- A latched machine stays latched. -/
theorem fsmTick_stays_latched {fc : FaultDetectorCfg} {persist : Nat} {s : Fsm} {active : Bool}
    {now : Nat} (h : s.state = .latched) : (fsmTick s active fc persist now).state = .latched := by
  unfold fsmTick
  rw [h]
  grind

section fsm

variable {cfg : Config} {cb : Callbacks} {inp : InputSnapshot} {core : Core}

theorem slot_stepStall_states {p : Pass} {a : Nat} (hc : cfg.actuatorCount ≤ maxActuators)
    (ha : a < cfg.actuatorCount) :
    (stepStall cfg cb inp p).core.stallStates.slot a =
      thermalFaultStallStep (p.core.stallStates.slot a) cfg.faults.stallDefaults
        (p.ticks.slot a).arbPwm (p.core.actuators.slot a).tachRpm
        (p.core.actuators.slot a).tachValid (spinupTicks cfg (cfg.actuators.slot a)) inp.nowMs := by
  unfold stepStall
  dsimp only
  split
  · next hoff =>
      unfold thermalFaultStallStep
      rw [if_pos hoff]
  · exact Vector.slot_forSlots_lt _ _ hc ha

theorem slot_stuckSensorPrepass_states {p : Pass} {s : Nat} (hc : cfg.sensorCount ≤ maxSensors)
    (hs : s < cfg.sensorCount) :
    (stuckSensorPrepass cfg cb inp p).core.stuckSensorStates.slot s =
      thermalFaultStuckSensorStep (p.core.stuckSensorStates.slot s) cfg.faults.stuckSensorDefaults
        (p.core.filters.slot s).filteredValue (p.core.filters.slot s).valid
        (correlatedContext cfg p.core).1 (correlatedContext cfg p.core).2 inp.nowMs := by
  unfold stuckSensorPrepass
  dsimp only
  split
  · next hoff =>
      unfold thermalFaultStuckSensorStep
      rw [if_pos hoff]
  · exact Vector.slot_forSlots_lt _ _ hc hs

theorem slot_stepRunaway_detector {p : Pass} {z : Nat} (hc : cfg.zoneCount ≤ maxZones)
    (hz : z < cfg.zoneCount) :
    ((stepRunaway cfg cb inp p).core.runaways.slot z).detector =
      thermalFaultRunawayStep (p.core.runaways.slot z).detector cfg.faults.runawayDefaults
        (p.core.zones.slot z).tempMc (zoneRepPwm cfg p.ticks (cfg.zones.slot z)) inp.nowMs := by
  unfold stepRunaway
  dsimp only
  split
  · next hoff =>
      unfold thermalFaultRunawayStep
      rw [if_pos hoff]
  · rw [Vector.slot_forSlots_lt _ _ hc hz]
    rfl

theorem slot_stepStaleContext_states {p : Pass} {c : Nat} (hcc : cfg.contextCount ≤ maxContextSignals)
    (hc : c < cfg.contextCount) :
    (stepStaleContext cfg cb inp p).core.staleContextStates.slot c =
      thermalFaultStaleContextStep (p.core.staleContextStates.slot c)
        cfg.faults.staleContextDefaults (msSinceLastValid (p.core.contexts.slot c) inp.nowMs)
        (cfg.contexts.slot c).timeoutMs inp.nowMs := by
  unfold stepStaleContext
  dsimp only
  split
  · next hoff =>
      unfold thermalFaultStaleContextStep
      rw [if_pos hoff]
  · exact Vector.slot_forSlots_lt _ _ hcc hc

/-- **One step of a detector**: its machine is ticked on its condition, or left
alone. -/
theorem detectorFsm_passDone (hr : ConfigRules cfg) {kind : FaultType} {i : Nat}
    (hi : i < detectorCount cfg kind) :
    detectorFsm (passDone cfg cb inp core).core kind i =
      if detectorTicks cfg kind then
        fsmTick (detectorFsm core kind i) (detectorCondition cfg cb inp core kind i)
          (detectorCfg cfg kind) (detectorPersist cfg kind) inp.nowMs
      else detectorFsm core kind i := by
  have hcounts := (validateCounts_iff cfg).mp hr.counts
  cases kind with
  | stall =>
      have hstate : detectorFsm (passDone cfg cb inp core).core .stall i =
          ((stepStall cfg cb inp (passRequests cfg cb inp core)).core.stallStates.slot i).fsm := by
        rw [← passDone_stallStates]
        rfl
      rw [hstate, slot_stepStall_states hcounts.actuators hi, passRequests_stallStates]
      unfold thermalFaultStallStep
      by_cases hoff : cfg.faults.stallDefaults.enabled = 0
      · simp [detectorTicks, detectorCfg, detectorFsm, hoff]
      · simp [detectorTicks, detectorCfg, detectorFsm, detectorPersist, detectorCondition, hoff]
  | stuckSensor =>
      have hstate : detectorFsm (passDone cfg cb inp core).core .stuckSensor i =
          ((stuckSensorPrepass cfg cb inp
            (Pass.start (senseCore cfg inp core))).core.stuckSensorStates.slot i).fsm := by
        rw [← passDone_stuckSensorStates]
        rfl
      rw [hstate, slot_stuckSensorPrepass_states hcounts.sensors hi]
      unfold thermalFaultStuckSensorStep Pass.start
      dsimp only
      rw [senseCore_stuckSensorStates]
      by_cases hoff : cfg.faults.stuckSensorDefaults.enabled = 0
      · simp [detectorTicks, detectorCfg, detectorFsm, hoff]
      · simp [detectorTicks, detectorCfg, detectorFsm, detectorPersist, detectorCondition, hoff]
  | runaway =>
      have hstate : detectorFsm (passDone cfg cb inp core).core .runaway i =
          ((stepRunaway cfg cb inp
            (stepStall cfg cb inp (passRequests cfg cb inp core))).core.runaways.slot i).detector.fsm := by
        rw [← passDone_runaways]
        rfl
      rw [hstate, slot_stepRunaway_detector hcounts.zones hi, stepStall_runaways]
      unfold thermalFaultRunawayStep
      by_cases hoff : cfg.faults.runawayDefaults.enabled = 0
      · simp [detectorTicks, detectorCfg, detectorFsm, hoff]
      · by_cases hwindow : cfg.faults.runawayDefaults.persistTicks = 0
        · simp [detectorTicks, detectorCfg, detectorFsm, hoff, hwindow]
        · simp [detectorTicks, detectorCfg, detectorFsm, detectorPersist, detectorCondition, hoff,
            hwindow, RunawayState.push]
  | staleContext =>
      have hstate : detectorFsm (passDone cfg cb inp core).core .staleContext i =
          ((stepStaleContext cfg cb inp (stepRunaway cfg cb inp
            (stepStall cfg cb inp
              (passRequests cfg cb inp core)))).core.staleContextStates.slot i).fsm := by
        rw [← passDone_staleContextStates]
        rfl
      have hcontexts : (stepRunaway cfg cb inp
          (stepStall cfg cb inp (passRequests cfg cb inp core))).core.contexts =
          (senseCore cfg inp core).contexts := by
        rw [stepRunaway_core, stepStall_core, passRequests_core, passZones_core]
      rw [hstate, slot_stepStaleContext_states hcounts.contexts hi, stepRunaway_staleContextStates,
        hcontexts]
      unfold thermalFaultStaleContextStep
      by_cases hoff : cfg.faults.staleContextDefaults.enabled = 0
      · simp [detectorTicks, detectorCfg, detectorFsm, hoff]
      · simp [detectorTicks, detectorCfg, detectorFsm, detectorPersist, detectorCondition, hoff]

end fsm

/-- Every machine starts in NORMAL. -/
theorem initCore_detectorFsm (cfg : Config) (kind : FaultType) (i : Nat) :
    detectorFsm (initCore cfg) kind i = Fsm.reset := by
  cases kind with
  | stall => exact Vector.slot_replicate_rec (P := fun st : StallState => st.fsm = Fsm.reset) rfl rfl i
  | stuckSensor =>
      exact Vector.slot_replicate_rec (P := fun st : StuckSensorState => st.fsm = Fsm.reset) rfl rfl i
  | runaway =>
      exact Vector.slot_replicate_rec (P := fun rr : RunawayRuntime => rr.detector.fsm = Fsm.reset)
        rfl rfl i
  | staleContext =>
      exact Vector.slot_replicate_rec (P := fun st : StaleContextState => st.fsm = Fsm.reset) rfl rfl i

/-! ## What a command does to a machine -/

/-- The command clears this detector: it names it, and the machine allows it. -/
def ClearsDetector (cfg : Config) (core : Core) (cmd : Command) (kind : FaultType) (i : Nat) : Prop :=
  cmd = .clearFault kind.code (detectorTarget cfg kind i) ∧
    clearAllowed (detectorFsm core kind i) (detectorCfg cfg kind) = true

section command

variable {cfg : Config} {core : Core} {cmd : Command} {kind : FaultType} {i : Nat}

/-- A clear finds a latched machine and leaves a reset one. -/
theorem clearVerdict_of_clearAllowed {fsm : Fsm} {fc : FaultDetectorCfg}
    (h : clearAllowed fsm fc = true) : clearVerdict fsm fc = (.ok, true) := by
  have hlatched : fsm.state = .latched := by
    unfold clearAllowed at h
    simp only [Bool.and_eq_true, decide_eq_true_eq] at h
    exact h.1
  unfold clearVerdict
  simp [hlatched, h]

/-- A clear of a runaway detector resets its escalation too. -/
theorem runaways_of_clears (hr : ConfigRules cfg) {z : Nat} (hz : z < cfg.zoneCount)
    (h : ClearsDetector cfg core cmd .runaway z) :
    (runCommand cfg core cmd).2.runaways.slot z = ⟨thermalFaultRunawayReset, 0, false⟩ := by
  obtain ⟨rfl, hclear⟩ := h
  have hverdict := clearVerdict_of_clearAllowed hclear
  have hlt : z < maxZones := Nat.lt_of_lt_of_le hz hr.zoneCount_le
  have hcount : ¬z ≥ cfg.zoneCount := Nat.not_le.mpr hz
  simp only [detectorFsm, detectorCfg] at hverdict
  simp [detectorTarget, runCommand, cmdClearFault, clearRunaway, hcount, hverdict,
    Vector.slot_put_self _ _ hlt]

theorem runaways_of_not_clears {z : Nat} (h : ¬ClearsDetector cfg core cmd .runaway z) :
    (runCommand cfg core cmd).2.runaways.slot z = core.runaways.slot z := by
  obtain ⟨-, hsame⟩ | ⟨-, hwrite⟩ := runCommand_cases cfg core cmd
  · rw [hsame]
  · generalize (runCommand cfg core cmd).2 = core' at hwrite
    cases hwrite with
    | setPid | setSetpoint | setTrip | setCurvePoint | clearNothing | clearStall
    | clearStuckSensor | clearStaleContext => rfl
    | clearRunaway y hy hallowed =>
        refine Vector.slot_put_ne _ _ ?_
        intro heq
        subst heq
        exact h ⟨rfl, hallowed⟩

theorem detectorFsm_of_clears (hr : ConfigRules cfg) (hi : i < detectorCount cfg kind)
    (h : ClearsDetector cfg core cmd kind i) :
    detectorFsm (runCommand cfg core cmd).2 kind i = Fsm.reset := by
  have hcounts := (validateCounts_iff cfg).mp hr.counts
  obtain ⟨rfl, hclear⟩ := h
  have hverdict := clearVerdict_of_clearAllowed hclear
  cases kind with
  | stall =>
      have hslot : findActuatorSlot cfg (cfg.actuators.slot i).id = some i :=
        (findActuatorSlot_eq_some hr).mpr ⟨hi, rfl⟩
      have hlt : i < maxActuators := Nat.lt_of_lt_of_le hi hcounts.actuators
      simp only [detectorFsm, detectorCfg] at hverdict
      simp [detectorFsm, detectorTarget, runCommand, cmdClearFault, clearStall, hslot, hverdict,
        Vector.slot_put_self _ _ hlt, thermalFaultStallReset]
  | stuckSensor =>
      have hslot : findSensorSlot cfg (cfg.sensors.slot i).id = some i :=
        (findSensorSlot_eq_some hr).mpr ⟨hi, rfl⟩
      have hlt : i < maxSensors := Nat.lt_of_lt_of_le hi hcounts.sensors
      simp only [detectorFsm, detectorCfg] at hverdict
      simp [detectorFsm, detectorTarget, runCommand, cmdClearFault, clearStuckSensor, hslot, hverdict,
        Vector.slot_put_self _ _ hlt, thermalFaultStuckSensorReset]
  | runaway =>
      have hreset := runaways_of_clears hr hi ⟨rfl, hclear⟩
      exact congrArg (fun rr : RunawayRuntime => rr.detector.fsm) hreset
  | staleContext =>
      have hslot : findContextSlot cfg (cfg.contexts.slot i).id = some i :=
        (findContextSlot_eq_some hr).mpr ⟨hi, rfl⟩
      have hlt : i < maxContextSignals := Nat.lt_of_lt_of_le hi hcounts.contexts
      simp only [detectorFsm, detectorCfg] at hverdict
      simp [detectorFsm, detectorTarget, runCommand, cmdClearFault, clearStaleContext, hslot, hverdict,
        Vector.slot_put_self _ _ hlt, thermalFaultStaleContextReset]

/-- Every other command leaves the machine alone. -/
theorem detectorFsm_of_not_clears (hr : ConfigRules cfg) (h : ¬ClearsDetector cfg core cmd kind i) :
    detectorFsm (runCommand cfg core cmd).2 kind i = detectorFsm core kind i := by
  obtain ⟨-, hsame⟩ | ⟨-, hwrite⟩ := runCommand_cases cfg core cmd
  · rw [hsame]
  · generalize (runCommand cfg core cmd).2 = core' at hwrite
    cases hwrite with
    | setPid | setSetpoint | setTrip | setCurvePoint | clearNothing => cases kind <;> rfl
    | clearStall tid slot hslot hclear =>
        cases kind with
        | stuckSensor | runaway | staleContext => rfl
        | stall =>
            have hne : slot ≠ i := by
              intro heq
              subst heq
              exact h ⟨by rw [detectorTarget, ((findActuatorSlot_eq_some hr).mp hslot).2], hclear⟩
            exact congrArg StallState.fsm (Vector.slot_put_ne _ _ hne)
    | clearStuckSensor tid slot hslot hclear =>
        cases kind with
        | stall | runaway | staleContext => rfl
        | stuckSensor =>
            have hne : slot ≠ i := by
              intro heq
              subst heq
              exact h ⟨by rw [detectorTarget, ((findSensorSlot_eq_some hr).mp hslot).2], hclear⟩
            exact congrArg StuckSensorState.fsm (Vector.slot_put_ne _ _ hne)
    | clearRunaway z hz hclear =>
        cases kind with
        | stall | stuckSensor | staleContext => rfl
        | runaway =>
            have hne : z ≠ i := by
              intro heq
              subst heq
              exact h ⟨rfl, hclear⟩
            exact congrArg (fun rr : RunawayRuntime => rr.detector.fsm) (Vector.slot_put_ne _ _ hne)
    | clearStaleContext tid slot hslot hclear =>
        cases kind with
        | stall | stuckSensor | runaway => rfl
        | staleContext =>
            have hne : slot ≠ i := by
              intro heq
              subst heq
              exact h ⟨by rw [detectorTarget, ((findContextSlot_eq_some hr).mp hslot).2], hclear⟩
            exact congrArg StaleContextState.fsm (Vector.slot_put_ne _ _ hne)

end command

end ThermalCore
