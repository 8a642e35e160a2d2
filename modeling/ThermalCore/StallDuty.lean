import ThermalCore.Dwell
import ThermalCore.Detectors

/-!
# Stall detection and the duty

The stall detector judges the arbitrated request, and the duty is shaped after
it.  A run is seen here from both ends, one record for each accepted step, to say
when a fan that was off can be reported as stalled.

The detector counts from the first request, before dwell and slew have let the fan turn.
So a fan at duty 0 is reported only when a tick was counted on each of the steps before,
while dwell held the fan off; one step on which that is not so is enough to exclude it.
-/

namespace ThermalCore

open MachineInt Check

/-! ## Records -/

/-- One accepted step: the stall detector before and after it, whether it counted
a stall tick, whether dwell held the start of the actuator back, and the duty. -/
structure StallRecord where
  before : Fsm
  after : Fsm
  counted : Bool
  heldOff : Bool
  duty : Nat
deriving DecidableEq, Inhabited

/-- What an accepted step shows of actuator `a`. -/
def stallRecord (cfg : Config) (cb : Callbacks) (a : Nat) (core : Core) (inp : InputSnapshot)
    (r : StepResult) : StallRecord where
  before := detectorFsm core .stall a
  after := detectorFsm r.core .stall a
  counted := detectorCondition cfg cb inp core .stall a
  heldOff := dwellHoldsOff (cfg.actuators.slot a) (core.actuators.slot a)
    (decidedTick cfg cb inp core a)
  duty := (r.out.actuatorCmds.slot a).duty

/-- The stall records of actuator `a` along a run, in order. -/
def stallTrace (cfg : Config) (cb : Callbacks) (a : Nat) (core : Core) (is : List Input) :
    List StallRecord :=
  acceptedTrace cfg cb (stallRecord cfg cb a) core is

/-! ## The machine -/

section fsm

variable {fc : FaultDetectorCfg} {s : Fsm} {condition : Bool} {persist now : Nat}

/-- A machine in NORMAL has its count at 0, or counted one tick more. -/
theorem persistCount_of_stays (hafter : (fsmTick s condition fc persist now).state = .normal) :
    (fsmTick s condition fc persist now).persistCount = 0 ∨
      condition = true ∧ s.state = .normal ∧
        (fsmTick s condition fc persist now).persistCount ≤ s.persistCount + 1 := by
  have haction := actionToState_ne_normal fc.action fc.severity
  have hwrap := u16_le (s.persistCount + 1)
  unfold fsmTick at hafter ⊢
  cases hs : s.state <;> grind

/-- A machine that leaves NORMAL had counted all ticks but one. -/
theorem persistCount_of_leaves (hbefore : s.state = .normal)
    (hafter : (fsmTick s condition fc persist now).state ≠ .normal) : persist ≤ s.persistCount + 1 := by
  have hwrap := u16_le (s.persistCount + 1)
  unfold fsmTick at hafter
  rw [hbefore] at hafter
  grind

end fsm

/-! ## One step -/

section step

variable {cfg : Config} {cb : Callbacks} {inp : InputSnapshot} {core : Core} {a : Nat}

/-- The request the detector judges is the capped one. -/
theorem stall_request (hc : cfg.actuatorCount ≤ maxActuators) (ha : a < cfg.actuatorCount)
    (h : detectorCondition cfg cb inp core .stall a = true) :
    toU8 cfg.faults.stallDefaults.threshold1 ≤ (cappedTick cfg cb inp core a).arbPwm := by
  have harb : ((passRequests cfg cb inp core).ticks.slot a).arbPwm =
      (cappedTick cfg cb inp core a).arbPwm := by
    rw [slot_passRequests_ticks hc ha]
    rfl
  unfold detectorCondition stallCondition at h
  simp only [Bool.and_eq_true, decide_eq_true_eq] at h
  rw [← harb]
  exact h.1.2

/-- **A stall tick needs a driven fan**, unless dwell holds it off or it has no range. -/
theorem duty_pos_of_counted (hr : ConfigRules cfg) (hin : Admissible cfg inp)
    (ha : a < cfg.actuatorCount) (hthr : 1 ≤ toU8 cfg.faults.stallDefaults.threshold1)
    (hmax : 0 < (cfg.actuators.slot a).pwmMax)
    (hcounted : detectorCondition cfg cb inp core .stall a = true)
    (hfree : dwellHoldsOff (cfg.actuators.slot a) (core.actuators.slot a)
      (decidedTick cfg cb inp core a) = false) (out : OutputFrame) :
    0 < ((thermalCoreStep cfg cb core inp out).out.actuatorCmds.slot a).duty := by
  have hcapped : 0 < (cappedTick cfg cb inp core a).arbPwm :=
    Nat.lt_of_lt_of_le hthr (stall_request hr.actuatorCount_le ha hcounted)
  have harb : 0 < (decidedTick cfg cb inp core a).arbPwm := by
    rw [decided_arbPwm hr.actuatorCount_le ha]
    split
    · exact hmax
    · exact hcapped
  have hreq : 0 < dwellRequest (cfg.actuators.slot a) (core.actuators.slot a)
      (decidedTick cfg cb inp core a) := by
    unfold dwellRequest
    rw [hfree, if_neg Bool.false_ne_true]
    split
    · next hon =>
        unfold dwellHoldsOn at hon
        simp only [Bool.and_eq_true, decide_eq_true_eq] at hon
        exact hon.1.2
    · exact harb
  rw [step_duty hr hin ha]
  exact finalPwm_pos hreq hmax

end step

/-! ## Runs -/

section run

variable {cfg : Config} {cb : Callbacks} {a : Nat}

/-- A machine in NORMAL counted on as many of the last accepted steps in a row as its
count says. -/
def CountsSince (a : Nat) (core : Core) (ws : List StallRecord) : Prop :=
  (detectorFsm core .stall a).state = .normal →
    ∃ back, back <:+ ws ∧ (detectorFsm core .stall a).persistCount ≤ back.length ∧ ∀ w ∈ back, w.counted = true

/-- **One step** of an enabled detector. -/
theorem stallFsm_passDone (hr : ConfigRules cfg) (hon : cfg.faults.stallDefaults.enabled ≠ 0)
    (ha : a < cfg.actuatorCount) (inp : InputSnapshot) (core : Core) :
    detectorFsm (passDone cfg cb inp core).core .stall a =
      fsmTick (detectorFsm core .stall a) (detectorCondition cfg cb inp core .stall a)
        cfg.faults.stallDefaults cfg.faults.stallDefaults.persistTicks inp.nowMs := by
  have hfsm := @detectorFsm_passDone cfg cb inp core hr .stall a ha
  have hticks : detectorTicks cfg .stall = true := by
    unfold detectorTicks detectorCfg
    simp [hon]
  rw [hticks, if_pos rfl] at hfsm
  exact hfsm

theorem countsSince_after (hr : ConfigRules cfg) (hon : cfg.faults.stallDefaults.enabled ≠ 0)
    (ha : a < cfg.actuatorCount) (is : List Input) :
    CountsSince a (Machine.after (call cfg cb) (initCore cfg) is)
      (stallTrace cfg cb a (initCore cfg) is) := by
  refine acceptedTrace_invariant ?_ ?_ ?_ is
  · intro _
    rw [initCore_detectorFsm]
    exact ⟨[], List.nil_suffix, Nat.le_refl 0, List.forall_mem_nil _⟩
  · intro c ws inp out hin hold hstate
    rw [stallFsm_passDone hr hon ha] at hstate ⊢
    obtain hzero | ⟨hcond, hbefore, hcount⟩ := persistCount_of_stays hstate
    · exact ⟨[], List.nil_suffix, hzero.le, List.forall_mem_nil _⟩
    · obtain ⟨back, ⟨front, rfl⟩, hlength, hcounted⟩ := hold hbefore
      refine ⟨back ++ [stallRecord cfg cb a c inp (thermalCoreStep cfg cb c inp out)], ⟨front, by simp⟩, ?_, ?_⟩
      · rw [List.length_append, List.length_singleton]
        omega
      · exact List.forall_mem_append.mpr ⟨hcounted, List.forall_mem_singleton.mpr hcond⟩
  · intro c ws cmd hold
    by_cases hclear : ClearsDetector cfg c cmd .stall a
    · intro _
      rw [detectorFsm_of_clears hr ha hclear]
      exact ⟨[], List.nil_suffix, Nat.le_refl 0, List.forall_mem_nil _⟩
    · unfold CountsSince
      rw [detectorFsm_of_not_clears hr hclear]
      exact hold

/-- **No stall fault on a fan that was not driven**, in every run: a detector with two
persist ticks or more stays NORMAL on a step after `persist_ticks` steps at duty
0, unless on all of these but the first a stall tick was counted while dwell held the
fan off or for a fan without a range. -/
theorem no_stall_while_undriven (hacc : Accepted cfg) (hon : cfg.faults.stallDefaults.enabled ≠ 0)
    (hthr : 1 ≤ cfg.faults.stallDefaults.threshold1 ∧ cfg.faults.stallDefaults.threshold1 ≤ 255)
    (ha : a < cfg.actuatorCount)
    (is : List Input) (pre off : List StallRecord) (r : StallRecord) (rest : List StallRecord)
    (htrace : stallTrace cfg cb a (initCore cfg) is = pre ++ off ++ r :: rest)
    (hlength : off.length = cfg.faults.stallDefaults.persistTicks) (hoff : ∀ w ∈ off, w.duty = 0)
    (hdriven : ∃ w ∈ off.drop 1, w.counted = true → w.heldOff = false ∧ 0 < (cfg.actuators.slot a).pwmMax) :
    r.before.state = .normal → r.after.state = .normal := by
  have hr : ConfigRules cfg := (accepted_iff cfg).mp hacc
  intro hbefore
  by_contra hafter
  obtain ⟨is₁, inp, out, hpre, hin, hr₁⟩ := acceptedTrace_split htrace
  -- the machine had counted all ticks but one, each on one of the steps before this one
  have hcounting : cfg.faults.stallDefaults.persistTicks ≤ r.before.persistCount + 1 := by
    have hnext : r.after = fsmTick r.before (detectorCondition cfg cb inp
        (Machine.after (call cfg cb) (initCore cfg) is₁) .stall a)
        cfg.faults.stallDefaults cfg.faults.stallDefaults.persistTicks inp.nowMs := by
      rw [hr₁]
      unfold stallRecord
      dsimp only
      rw [thermalCoreStep_accepted hin]
      exact stallFsm_passDone hr hon ha inp _
    rw [hnext] at hafter
    exact persistCount_of_leaves hbefore hafter
  have hsince := @countsSince_after cfg cb a hr hon ha is₁
  have hfsm : detectorFsm (Machine.after (call cfg cb) (initCore cfg) is₁) .stall a = r.before := by
    rw [hr₁]
    rfl
  have htrace₁ : stallTrace cfg cb a (initCore cfg) is₁ = pre ++ off := hpre
  unfold CountsSince at hsince
  rw [hfsm, htrace₁] at hsince
  obtain ⟨back, hback, hlong, hall⟩ := hsince hbefore
  obtain ⟨w, hw, hdrives⟩ := hdriven
  have hsuffix : off.drop 1 <:+ back := by
    refine List.suffix_of_suffix_length_le ((List.drop_suffix 1 off).trans (List.suffix_append pre off)) hback ?_
    rw [List.length_drop, hlength]
    omega
  have hcounted : w.counted = true := hall w (hsuffix.subset hw)
  have hmem : w ∈ off := List.mem_of_mem_drop hw
  -- a counted stall tick on a fan that is free to run drives it
  obtain ⟨hfree, hmax⟩ := hdrives hcounted
  obtain ⟨l, l', hsplit⟩ := List.append_of_mem hmem
  have htrace₂ : acceptedTrace cfg cb (stallRecord cfg cb a) (initCore cfg) is =
      (pre ++ l) ++ w :: (l' ++ r :: rest) := by
    have hcat : stallTrace cfg cb a (initCore cfg) is = (pre ++ l) ++ w :: (l' ++ r :: rest) := by
      rw [htrace, hsplit]
      simp
    exact hcat
  obtain ⟨is₂, inp₂, out₂, -, hin₂, hrec⟩ := acceptedTrace_split htrace₂
  have hthr8 : 1 ≤ toU8 cfg.faults.stallDefaults.threshold1 := by
    unfold toU8
    omega
  have hduty := hoff w hmem
  rw [hrec] at hcounted hfree hduty
  have hpos := duty_pos_of_counted hr hin₂ ha hthr8 hmax hcounted hfree out₂
  exact Nat.ne_of_gt hpos hduty

end run

/-! ## A held-off fan -/

/-- The fan with a dwell of ten ticks off and a stall detector of two persist ticks. -/
def stallFanConfig : Config :=
  { oneFanConfig with
    actuators := #v[{ fanActuator with slewPerTick := 0, spinupMs := 0, minOffTicks := 10 }, default]
    faults := { (default : FaultDetectionCfg) with
      stallDefaults := { (default : FaultDetectorCfg) with
        enabled := 1, severity := FaultSeverity.degraded.code
        action := FaultAction.markDegraded.code, persistTicks := 2, recoveryTicks := 2
        threshold0 := 500, threshold1 := 30 } } }

/-- One step with a temperature and a valid tach reading. -/
def tachStep (tempMc tachRpm : Int) : Input :=
  .step (snapshotOf 0 [⟨1, SampleKind.tempMc.code, 1, tempMc⟩, ⟨5, SampleKind.tachRpm.code, 1, tachRpm⟩])
    default

/-- On, off, and wanted again before its dwell is over. -/
def heldOffRun : List Input :=
  [tachStep 55000 1200, tachStep 40000 600, tachStep 55000 0, tachStep 55000 0]

theorem accepted_stallFanConfig : Accepted stallFanConfig := by decide +kernel

/-- The fan is written 0 on the second, third and fourth step, and reported as
stalled on the fourth. -/
theorem stall_while_held_off :
    Accepted stallFanConfig ∧ stallFanConfig.faults.stallDefaults.enabled ≠ 0 ∧
      (stallTrace stallFanConfig ⟨false, false⟩ 0 (initCore stallFanConfig) heldOffRun).map
          StallRecord.duty = [60, 0, 0, 0] ∧
      (stallTrace stallFanConfig ⟨false, false⟩ 0 (initCore stallFanConfig) heldOffRun).map
          (fun r => (r.before.state, r.after.state)) =
        [(.normal, .normal), (.normal, .normal), (.normal, .normal), (.normal, .degraded)] := by
  decide +kernel

/-- The records of a fan that runs, rests for two steps and is wanted again: the
first stall tick is counted, and nothing is reported. -/
def restRecords : List StallRecord :=
  [⟨⟨.normal, 0, 0, 0⟩, ⟨.normal, 0, 0, 0⟩, false, false, 60⟩,
    ⟨⟨.normal, 0, 0, 0⟩, ⟨.normal, 0, 0, 0⟩, false, false, 0⟩,
    ⟨⟨.normal, 0, 0, 0⟩, ⟨.normal, 0, 0, 0⟩, false, false, 0⟩,
    ⟨⟨.normal, 0, 0, 0⟩, ⟨.normal, 1, 0, 0⟩, true, true, 0⟩]

theorem no_stall_while_undriven_at_rest :
    stallTrace stallFanConfig ⟨false, false⟩ 0 (initCore stallFanConfig)
        [tachStep 55000 1200, tachStep 40000 600, tachStep 40000 0, tachStep 55000 0] = restRecords ∧
      (restRecords.getD 3 default).after.state = .normal :=
  ⟨by decide +kernel,
    @no_stall_while_undriven stallFanConfig ⟨false, false⟩ 0 accepted_stallFanConfig (by decide)
      (by decide) (by decide)
      [tachStep 55000 1200, tachStep 40000 600, tachStep 40000 0, tachStep 55000 0]
      (restRecords.take 1) (restRecords.drop 1 |>.take 2) (restRecords.getD 3 default) []
      (by decide +kernel) (by decide) (by decide) (by decide) (by decide)⟩

end ThermalCore
