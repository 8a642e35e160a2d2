import ThermalCore.Lib.Streak
import ThermalCore.FaultEvents

/-!
# The gate of CLEAR_FAULT

A clear on a latched detector is let through by `recovery_count`.  This module
says what that counter counts, as a statement about the verdicts of the accepted
steps of a run, and from it exactly which of the clears that succeed follow the
rule that the condition has been absent for the recovery period.

The verdicts are the conditions fed to the detector's machine, one for each accepted
step.  Behind a latch the counter counts the healthy verdicts since the last unhealthy
one, which the rule asks to be `recovery_ticks` at least; with `recovery_ticks`
zero the gate is open while the condition still holds.
-/

namespace ThermalCore

open MachineInt Check Streak

/-! ## Verdicts -/

/-- What an accepted step says about a detector: whether its condition was
evaluated, and what came out. -/
structure Verdict where
  judged : Bool
  active : Bool
deriving DecidableEq

/-- The step evaluates the condition.  The stuck-sensor detector does when a
window closes, the runaway detector once its ring is full. -/
def conditionJudged (cfg : Config) (cb : Callbacks) (inp : InputSnapshot) (core : Core)
    (kind : FaultType) (i : Nat) : Bool :=
  detectorTicks cfg kind &&
    match kind with
    | .stall | .staleContext => true
    | .stuckSensor =>
        let fc := cfg.faults.stuckSensorDefaults
        let sensed := senseCore cfg inp core
        let f := sensed.filters.slot i
        let ctx := correlatedContext cfg sensed
        let window := (core.stuckSensorStates.slot i).window
        (if f.valid then window.accumulate fc f.filteredValue ctx.1 ctx.2 else window).full fc
    | .runaway =>
        let p := stepStall cfg cb inp (passRequests cfg cb inp core)
        ((core.runaways.slot i).detector.push (runawayPersist cfg.faults.runawayDefaults)
          (p.core.zones.slot i).tempMc (zoneRepPwm cfg p.ticks (cfg.zones.slot i))).windowFilled

def stepVerdict (cfg : Config) (cb : Callbacks) (inp : InputSnapshot) (core : Core)
    (kind : FaultType) (i : Nat) : Verdict :=
  ⟨conditionJudged cfg cb inp core kind i, detectorCondition cfg cb inp core kind i⟩

/-- Rejected steps and commands say nothing. -/
def verdictOf (cfg : Config) (cb : Callbacks) (kind : FaultType) (i : Nat) (core : Core) :
    Input → Option Verdict
  | .step inp out =>
      if (thermalCoreStep cfg cb core inp out).status = .ok then
        some (stepVerdict cfg cb inp core kind i)
      else none
  | .command _ _ => none

/-- The verdicts on a detector along a run, in order. -/
def verdicts (cfg : Config) (cb : Callbacks) (kind : FaultType) (i : Nat) (core : Core)
    (is : List Input) : List Verdict :=
  Machine.observed (call cfg cb) (verdictOf cfg cb kind i) core is

/-! ## One tick of the machine -/

section tick

variable {f : Fsm} {active : Bool} {fc : FaultDetectorCfg} {persistTicks now : Nat}

/-- Only the condition moves a machine out of NORMAL. -/
theorem fsmTick_ne_normal (h : (fsmTick f active fc persistTicks now).state ≠ .normal) :
    f.state ≠ .normal ∨ active = true := by
  cases hactive : active with
  | true => exact Or.inr rfl
  | false =>
      refine Or.inl fun hnormal => h ?_
      unfold fsmTick
      simp [hnormal, hactive]

/-- A latched machine was latched by this tick, on the condition and with the
counter at zero, or has counted one more absence. -/
theorem fsmTick_latched (h : (fsmTick f active fc persistTicks now).state = .latched) :
    (active = true ∧ (fsmTick f active fc persistTicks now).recoveryCount = 0) ∨
      (active = false ∧ f.state = .latched ∧
        (fsmTick f active fc persistTicks now).recoveryCount ≤ f.recoveryCount + 1 ∧
        (fsmTick f active fc persistTicks now).recoveryCount ≠ 0) := by
  unfold fsmTick at h ⊢
  cases hs : f.state with
  | normal =>
      simp only [hs] at h ⊢
      cases active with
      | false => cases h
      | true =>
          simp only [if_true] at h ⊢
          split at h
          · next hpersist => exact Or.inl ⟨trivial, by rw [if_pos hpersist]⟩
          · cases h
  | degraded | critical =>
      simp only [hs] at h
      cases active <;> cases h
  | recovering =>
      simp only [hs] at h ⊢
      cases active with
      | true => exact Or.inl ⟨rfl, rfl⟩
      | false =>
          simp only [Bool.false_eq_true, if_false] at h
          split at h <;> cases h
  | latched =>
      cases active with
      | true => exact Or.inl ⟨rfl, rfl⟩
      | false =>
          refine Or.inr ⟨rfl, rfl, ?_⟩
          simp only [Bool.false_eq_true, if_false]
          split
          · change f.recoveryCount + 1 ≤ f.recoveryCount + 1 ∧ f.recoveryCount + 1 ≠ 0
            omega
          · omega

end tick

/-! ## What the counter counts -/

/-- The counter of a latched detector counts steps that found the condition
absent since the last step that found it present; only the stuck-sensor detector
counts steps that did not look. -/
structure RecoveryInv (cfg : Config) (kind : FaultType) (i : Nat) (core : Core) (vs : List Verdict) :
    Prop where
  ticks : (detectorFsm core kind i).state ≠ .normal → detectorTicks cfg kind = true
  filled : kind = .runaway → (detectorFsm core kind i).state ≠ .normal →
    (core.runaways.slot i).detector.windowFilled = true
  absent : (detectorFsm core kind i).state = .latched →
    Last (detectorFsm core kind i).recoveryCount
      (fun v => v.active = false ∧ (kind ≠ .stuckSensor → v.judged = true)) vs
  present : (detectorFsm core kind i).state = .latched → (detectorFsm core kind i).recoveryCount = 0 →
    Last 1 (fun v => v.active = true) vs

section counter

variable {cfg : Config} {cb : Callbacks} {inp : InputSnapshot} {core : Core} {kind : FaultType} {i : Nat}

theorem recoveryInv_of_normal {vs : List Verdict} (h : (detectorFsm core kind i).state = .normal) :
    RecoveryInv cfg kind i core vs where
  ticks hne := absurd h hne
  filled _ hne := absurd h hne
  absent hlatched := by
    rw [h] at hlatched
    cases hlatched
  present hlatched := by
    rw [h] at hlatched
    cases hlatched

theorem push_windowFilled (s : RunawayState) (persist : Nat) (tempMc : Int) (pwm : Nat)
    (h : s.windowFilled = true) : (s.push persist tempMc pwm).windowFilled = true := by
  unfold RunawayState.push
  simp [h]

theorem windowFilled_of_condition {s : RunawayState} {fc : FaultDetectorCfg} {persist : Nat}
    (h : s.condition fc persist = true) : s.windowFilled = true := by
  unfold RunawayState.condition at h
  simp only [Bool.and_eq_true] at h
  exact h.1.1

/-- A step leaves the pushed ring behind. -/
theorem windowFilled_passDone (hr : ConfigRules cfg) (hi : i < cfg.zoneCount)
    (hticks : detectorTicks cfg .runaway = true) :
    ((passDone cfg cb inp core).core.runaways.slot i).detector.windowFilled =
      conditionJudged cfg cb inp core .runaway i := by
  have hcounts := (validateCounts_iff cfg).mp hr.counts
  have hon : cfg.faults.runawayDefaults.enabled ≠ 0 ∧ cfg.faults.runawayDefaults.persistTicks ≠ 0 := by
    have hboth := hticks
    unfold detectorTicks at hboth
    rw [Bool.and_eq_true, Bool.or_eq_true, decide_eq_true_eq, decide_eq_true_eq,
      decide_eq_true_eq] at hboth
    exact ⟨hboth.1, hboth.2.resolve_left (not_not.mpr rfl)⟩
  rw [passDone_runaways, slot_stepRunaway_detector hcounts.zones hi, stepStall_runaways]
  unfold thermalFaultRunawayStep conditionJudged
  rw [if_neg hon.1, if_neg hon.2, hticks]
  rfl

/-- A detector away from NORMAL, before or by this step, was evaluated; the
stuck-sensor detector may not have been. -/
theorem conditionJudged_of_ne_normal {vs : List Verdict} (h : RecoveryInv cfg kind i core vs)
    (hticks : detectorTicks cfg kind = true)
    (hsome : (detectorFsm core kind i).state ≠ .normal ∨
      detectorCondition cfg cb inp core kind i = true) :
    kind ≠ .stuckSensor → conditionJudged cfg cb inp core kind i = true := by
  intro hkind
  unfold conditionJudged
  rw [hticks]
  cases kind with
  | stall | staleContext => rfl
  | stuckSensor => exact absurd rfl hkind
  | runaway =>
      dsimp only
      rw [Bool.true_and]
      cases hsome with
      | inl hne => exact push_windowFilled _ _ _ _ (h.filled rfl hne)
      | inr hactive => exact windowFilled_of_condition hactive

/-- **One accepted step.** -/
theorem recoveryInv_passDone (hr : ConfigRules cfg) (hi : i < detectorCount cfg kind)
    {vs : List Verdict} (h : RecoveryInv cfg kind i core vs) :
    RecoveryInv cfg kind i (passDone cfg cb inp core).core
      (vs ++ [stepVerdict cfg cb inp core kind i]) := by
  have hfsm := @detectorFsm_passDone cfg cb inp core hr kind i hi
  cases hticks : detectorTicks cfg kind with
  | false =>
      rw [hticks] at hfsm
      have hnormal : (detectorFsm core kind i).state = .normal := by
        by_contra hne
        rw [h.ticks hne] at hticks
        cases hticks
      refine recoveryInv_of_normal ?_
      rw [hfsm]
      exact hnormal
  | true =>
      rw [hticks, if_pos rfl] at hfsm
      have hjudged := @conditionJudged_of_ne_normal cfg cb inp core kind i vs h hticks
      refine ⟨fun _ => hticks, ?_, ?_, ?_⟩
      · intro hkind hne
        subst hkind
        rw [hfsm] at hne
        rw [windowFilled_passDone hr hi hticks]
        exact hjudged (fsmTick_ne_normal hne) (by decide)
      · intro hlatched
        rw [hfsm] at hlatched ⊢
        obtain ⟨-, hzero⟩ | ⟨hinactive, hold, hle, -⟩ := fsmTick_latched hlatched
        · rw [hzero]
          exact last_zero
        · refine (h.absent hold).concat ⟨hinactive, hjudged (Or.inl ?_)⟩ hle
          rw [hold]
          decide
      · intro hlatched hcount
        rw [hfsm] at hlatched hcount
        obtain ⟨hactive, -⟩ | ⟨-, -, -, hne⟩ := fsmTick_latched hlatched
        · exact last_concat.mpr ⟨hactive, last_zero⟩
        · exact absurd hcount hne

/-- **One command**: the detector is reset or left alone. -/
theorem recoveryInv_runCommand (hr : ConfigRules cfg) (hi : i < detectorCount cfg kind)
    {vs : List Verdict} (h : RecoveryInv cfg kind i core vs) (cmd : Command) :
    RecoveryInv cfg kind i (runCommand cfg core cmd).2 vs := by
  by_cases hclear : ClearsDetector cfg core cmd kind i
  · refine recoveryInv_of_normal ?_
    rw [detectorFsm_of_clears hr hi hclear]
    rfl
  · have hfsm := detectorFsm_of_not_clears hr hclear
    refine ⟨?_, ?_, ?_, ?_⟩
    · rw [hfsm]
      exact h.ticks
    · rw [hfsm]
      intro hkind hne
      have hfilled := h.filled hkind hne
      subst hkind
      rw [runaways_of_not_clears hclear]
      exact hfilled
    · rw [hfsm]
      exact h.absent
    · rw [hfsm]
      exact h.present

end counter

section run

variable {cfg : Config} {cb : Callbacks} {core : Core} {kind : FaultType} {i : Nat}

/-- Verdicts are records of accepted steps. -/
theorem verdicts_eq_acceptedTrace (is : List Input) :
    verdicts cfg cb kind i core is =
      acceptedTrace cfg cb (fun c inp _ => stepVerdict cfg cb inp c kind i) core is := by
  have hone : verdictOf cfg cb kind i =
      acceptedRecord cfg cb fun c inp _ => stepVerdict cfg cb inp c kind i := by
    funext c j
    cases j <;> rfl
  unfold verdicts acceptedTrace
  rw [hone]

/-- **Every run.** -/
theorem recoveryInv_after (hr : ConfigRules cfg) (hi : i < detectorCount cfg kind) (is : List Input) :
    RecoveryInv cfg kind i (Machine.after (call cfg cb) (initCore cfg) is)
      (verdicts cfg cb kind i (initCore cfg) is) := by
  have hinit : RecoveryInv cfg kind i (initCore cfg) [] := by
    refine recoveryInv_of_normal ?_
    rw [initCore_detectorFsm]
    rfl
  rw [verdicts_eq_acceptedTrace]
  refine acceptedTrace_invariant hinit ?_ ?_ is
  · intro c vs inp out _ hinv
    exact recoveryInv_passDone hr hi hinv
  · intro c vs cmd hinv
    exact recoveryInv_runCommand hr hi hinv cmd

/-! ## Clears that succeed -/

theorem clearFault_status (hr : ConfigRules cfg) (hi : i < detectorCount cfg kind) :
    (runCommand cfg core (.clearFault kind.code (detectorTarget cfg kind i))).1 =
      (clearVerdict (detectorFsm core kind i) (detectorCfg cfg kind)).1 := by
  cases kind with
  | stall =>
      have hslot : findActuatorSlot cfg (cfg.actuators.slot i).id = some i :=
        (findActuatorSlot_eq_some hr).mpr ⟨hi, rfl⟩
      simp [detectorFsm, detectorCfg, detectorTarget, runCommand, cmdClearFault, clearStall, hslot]
  | stuckSensor =>
      have hslot : findSensorSlot cfg (cfg.sensors.slot i).id = some i :=
        (findSensorSlot_eq_some hr).mpr ⟨hi, rfl⟩
      simp [detectorFsm, detectorCfg, detectorTarget, runCommand, cmdClearFault, clearStuckSensor, hslot]
  | runaway =>
      have hcount : ¬i ≥ cfg.zoneCount := Nat.not_le.mpr hi
      simp [detectorFsm, detectorCfg, detectorTarget, runCommand, cmdClearFault, clearRunaway, hcount]
  | staleContext =>
      have hslot : findContextSlot cfg (cfg.contexts.slot i).id = some i :=
        (findContextSlot_eq_some hr).mpr ⟨hi, rfl⟩
      simp [detectorFsm, detectorCfg, detectorTarget, runCommand, cmdClearFault, clearStaleContext,
        hslot]

/-- A clear that succeeds on a latched detector found the counter at the
recovery period. -/
theorem recoveryTicks_le_of_clear_ok (hr : ConfigRules cfg) (hi : i < detectorCount cfg kind)
    (hlatched : (detectorFsm core kind i).state = .latched)
    (hok : (runCommand cfg core (.clearFault kind.code (detectorTarget cfg kind i))).1 = .ok) :
    (detectorCfg cfg kind).recoveryTicks ≤ (detectorFsm core kind i).recoveryCount := by
  rw [clearFault_status hr hi] at hok
  by_contra hshort
  have hrefused : clearAllowed (detectorFsm core kind i) (detectorCfg cfg kind) = false := by
    unfold clearAllowed
    simp only [Bool.and_eq_false_iff, decide_eq_false_iff_not]
    exact Or.inr hshort
  unfold clearVerdict at hok
  rw [hlatched, if_neg (by decide), if_pos hrefused] at hok
  cases hok

/-- The steps a clear should rest on: the last of the run, as many as the
recovery period asks for and at least one. -/
def clearPeriod (cfg : Config) (kind : FaultType) : Nat := max 1 (detectorCfg cfg kind).recoveryTicks

/-- **The gate of CLEAR_FAULT**: when a clear succeeds on a latched detector, the
condition was evaluated and absent throughout the recovery period if and only if
the counter is not zero and, for a stuck sensor, every step of the period closed
a window. -/
theorem clearFault_ok_iff_recovered (hacc : Accepted cfg) (is : List Input)
    (hi : i < detectorCount cfg kind) (nowMs : Nat)
    (hlatched : (detectorFsm (Machine.after (call cfg cb) (initCore cfg) is) kind i).state = .latched)
    (hok : (thermalCoreApplyCommand cfg cb (Machine.after (call cfg cb) (initCore cfg) is) nowMs
      (.clearFault kind.code (detectorTarget cfg kind i))).result.status = .ok) :
    Last (clearPeriod cfg kind) (fun v => v.judged = true ∧ v.active = false)
        (verdicts cfg cb kind i (initCore cfg) is) ↔
      (detectorFsm (Machine.after (call cfg cb) (initCore cfg) is) kind i).recoveryCount ≠ 0 ∧
        (kind = .stuckSensor → Last (clearPeriod cfg kind) (fun v => v.judged = true)
          (verdicts cfg cb kind i (initCore cfg) is)) := by
  have hr : ConfigRules cfg := (accepted_iff cfg).mp hacc
  have hinv := @recoveryInv_after cfg cb kind i hr hi is
  have hcount := recoveryTicks_le_of_clear_ok hr hi hlatched hok
  have habsent := hinv.absent hlatched
  constructor
  · intro hlast
    refine ⟨fun hzero => ?_, fun _ => hlast.imp fun v hv => hv.1⟩
    have hone := (hlast.mono (Nat.le_max_left 1 _)).and (hinv.present hlatched hzero)
    generalize verdicts cfg cb kind i (initCore cfg) is = vs at hone
    induction vs using List.reverseRecOn with
    | nil => exact absurd hone.1 (by decide)
    | append_singleton vs v _ =>
        obtain ⟨⟨⟨-, hinactive⟩, hactive⟩, -⟩ := last_concat.mp hone
        rw [hinactive] at hactive
        cases hactive
  · rintro ⟨hne, hwindows⟩
    have hperiod : clearPeriod cfg kind ≤
        (detectorFsm (Machine.after (call cfg cb) (initCore cfg) is) kind i).recoveryCount := by
      unfold clearPeriod
      omega
    have hlast := habsent.mono hperiod
    by_cases hkind : kind = .stuckSensor
    · exact ((hwindows hkind).and hlast).imp fun v hv => ⟨hv.1, hv.2.1⟩
    · exact hlast.imp fun v hv => ⟨hv.2 hkind, hv.1⟩

end run

/-! ## Clears on a fault that is still there -/

/-- The one fan with its stuck-sensor detector on: four flat ticks latch it, two
ticks of absence let it be cleared. -/
def stuckFanConfig : Config :=
  { oneFanConfig with
    faults := { (default : FaultDetectionCfg) with
      stuckSensorDefaults := { (default : FaultDetectorCfg) with
        enabled := 1, severity := FaultSeverity.critical.code
        action := FaultAction.forcePwmMaxAndLatch.code, persistTicks := 1, recoveryTicks := 2
        threshold0 := 100, threshold1 := 4, correlatedContextId := 0xFFFF } } }

/-- The same reading on every tick. -/
def flatRun : List Input :=
  [.step (tempSnapshot 100 1 60000) default, .step (tempSnapshot 200 1 60000) default,
    .step (tempSnapshot 300 1 60000) default, .step (tempSnapshot 400 1 60000) default,
    .step (tempSnapshot 500 1 60000) default, .step (tempSnapshot 600 1 60000) default]

/-- A stale-context detector without a recovery period. -/
def noRecoveryConfig : Config :=
  { staleFanConfig .forcePwmMaxAndLatch with
    faults := { (default : FaultDetectionCfg) with
      staleContextDefaults := { (staleFanConfig .forcePwmMaxAndLatch).faults.staleContextDefaults with
        recoveryTicks := 0 } } }

/-- Two samples of the context, and the clear of its detector. -/
theorem clearFault_ok_iff_recovered_stale :
    let cfg := staleFanConfig .forcePwmMaxAndLatch
    let core := Machine.after (call cfg ⟨true, false⟩) (initCore cfg) (clearRun.take 3)
    let vs := verdicts cfg ⟨true, false⟩ .staleContext 0 (initCore cfg) (clearRun.take 3)
    Last (clearPeriod cfg .staleContext) (fun v => v.judged = true ∧ v.active = false) vs ↔
      (detectorFsm core .staleContext 0).recoveryCount ≠ 0 ∧
        (FaultType.staleContext = .stuckSensor →
          Last (clearPeriod cfg .staleContext) (fun v => v.judged = true) vs) :=
  clearFault_ok_iff_recovered (by decide +kernel : Accepted (staleFanConfig .forcePwmMaxAndLatch))
    (clearRun.take 3) (by decide) 300 (by decide +kernel) (by decide +kernel)

/-- **The gate lets two clears through** on detectors that are latched: at once
after the step that found the context stale, when there is no recovery period,
and two ticks into a window on a sensor that never moved. -/
theorem clearFault_ok_while_present :
    (Accepted noRecoveryConfig ∧
      (detectorFsm (Machine.after (call noRecoveryConfig ⟨true, false⟩) (initCore noRecoveryConfig)
        (clearRun.take 1)) .staleContext 0).state = .latched ∧
      (thermalCoreApplyCommand noRecoveryConfig ⟨true, false⟩
        (Machine.after (call noRecoveryConfig ⟨true, false⟩) (initCore noRecoveryConfig)
          (clearRun.take 1)) 50 (.clearFault FaultType.staleContext.code 20)).result.status = .ok ∧
      ¬Last 1 (fun v => v.judged = true ∧ v.active = false)
        (verdicts noRecoveryConfig ⟨true, false⟩ .staleContext 0 (initCore noRecoveryConfig)
          (clearRun.take 1))) ∧
    (Accepted stuckFanConfig ∧
      (detectorFsm (Machine.after (call stuckFanConfig ⟨true, false⟩) (initCore stuckFanConfig)
        flatRun) .stuckSensor 0).state = .latched ∧
      (thermalCoreApplyCommand stuckFanConfig ⟨true, false⟩
        (Machine.after (call stuckFanConfig ⟨true, false⟩) (initCore stuckFanConfig) flatRun) 650
        (.clearFault FaultType.stuckSensor.code 1)).result.status = .ok ∧
      ¬Last 2 (fun v => v.judged = true ∧ v.active = false)
        (verdicts stuckFanConfig ⟨true, false⟩ .stuckSensor 0 (initCore stuckFanConfig) flatRun)) := by
  refine ⟨⟨?_, ?_, ?_, ?_⟩, ?_, ?_, ?_, ?_⟩ <;> decide +kernel

end ThermalCore
