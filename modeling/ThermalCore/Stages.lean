import ThermalCore.Accepted

/-!
# What the stages of a step do

For each group of stages, which fields of the core it writes; for an accepted
step, where each field of the new core comes from; and for each detector stage,
which states of the old core it starts from.  No later proof unfolds a stage for
its frame.

A frame lemma says that the core after a stage is the core before it with the
stage's own fields replaced.  The lemmas are chained along `thermal_core_step`:
from the sensing stages to the zones, the requests, the detectors, the decisions
and the actuators.  At the end an admissible snapshot gives `THERMAL_OK` and the
core so described, and any other snapshot changes nothing.
-/

namespace ThermalCore

open MachineInt Check

section frame

variable (cfg : Config) (cb : Callbacks) (inp : InputSnapshot) (core : Core)

/-! ## Frames -/

/-- The stuck-sensor pre-pass writes only the stuck-sensor detectors. -/
theorem stuckSensorPrepass_core (p : Pass) :
    (stuckSensorPrepass cfg cb inp p).core =
      { p.core with stuckSensorStates := (stuckSensorPrepass cfg cb inp p).core.stuckSensorStates } := by
  unfold stuckSensorPrepass
  dsimp only
  split <;> rfl

/-- The stall detectors' stage writes only the stall detectors. -/
theorem stepStall_core (p : Pass) :
    (stepStall cfg cb inp p).core =
      { p.core with stallStates := (stepStall cfg cb inp p).core.stallStates } := by
  unfold stepStall
  dsimp only
  split <;> rfl

/-- The runaway detectors' stage writes only the runaway detectors and their rings. -/
theorem stepRunaway_core (p : Pass) :
    (stepRunaway cfg cb inp p).core =
      { p.core with runaways := (stepRunaway cfg cb inp p).core.runaways } := by
  unfold stepRunaway
  dsimp only
  split <;> rfl

/-- The stale-context detectors' stage writes only the stale-context detectors. -/
theorem stepStaleContext_core (p : Pass) :
    (stepStaleContext cfg cb inp p).core =
      { p.core with staleContextStates := (stepStaleContext cfg cb inp p).core.staleContextStates } := by
  unfold stepStaleContext
  dsimp only
  split <;> rfl

/-- The stuck sensors' actions mark actuators and leave the core alone. -/
theorem stepStuckActions_core (p : Pass) : (stepStuckActions cfg p).core = p.core := by
  unfold stepStuckActions
  dsimp only
  split <;> rfl

/-- Up to the zones, a step writes the stuck-sensor detectors and the zones beside what sensing
wrote. -/
theorem passZones_core :
    (passZones cfg cb inp core).core =
      { senseCore cfg inp core with
        stuckSensorStates := (passZones cfg cb inp core).core.stuckSensorStates
        zones := (passZones cfg cb inp core).core.zones } := by
  have hstep (p : Pass) : (step6Zones cfg cb inp p).core =
      { p.core with zones := (step6Zones cfg cb inp p).core.zones } := rfl
  unfold passZones
  rw [hstep, stuckSensorPrepass_core]
  rfl

/-- Arbitration, cap and severity write only the actuators. -/
theorem passRequests_core :
    (passRequests cfg cb inp core).core =
      { (passZones cfg cb inp core).core with
        actuators := (passRequests cfg cb inp core).core.actuators } := rfl

/-- The three detector stages behind the requests write only their own detectors. -/
theorem passDetectors_core :
    (passDetectors cfg cb inp core).core =
      { (passRequests cfg cb inp core).core with
        stallStates := (passDetectors cfg cb inp core).core.stallStates
        runaways := (passDetectors cfg cb inp core).core.runaways
        staleContextStates := (passDetectors cfg cb inp core).core.staleContextStates } := by
  unfold passDetectors
  rw [stepStuckActions_core, stepStaleContext_core, stepRunaway_core, stepStall_core]

/-- The decisions write the shutdown latch, the zone severity of the last step and fan health. -/
theorem passDecided_core :
    (passDecided cfg cb inp core).core =
      { (passDetectors cfg cb inp core).core with
        shutdownRequestLatched := (passDecided cfg cb inp core).core.shutdownRequestLatched
        prevZoneMaxSeverity := (passDecided cfg cb inp core).core.prevZoneMaxSeverity
        fanHealthStates := (passDecided cfg cb inp core).core.fanHealthStates } := rfl

/-- The tick count goes up with the telemetry stage only. -/
theorem passDecided_tickCount : (passDecided cfg cb inp core).core.tickCount = core.tickCount := by
  rw [passDecided_core, passDetectors_core, passRequests_core, passZones_core]
  unfold senseCore step5ModifierEval
  dsimp only
  split
  · rfl
  · split <;> rfl

/-- Driving the outputs writes the actuators and the step bookkeeping. -/
theorem passDone_core :
    (passDone cfg cb inp core).core =
      { (passDecided cfg cb inp core).core with
        actuators := (passDone cfg cb inp core).core.actuators
        tickCount := u32 (core.tickCount + 1)
        lastNowMs := inp.nowMs } := by
  rw [← passDecided_tickCount cfg cb inp core]
  rfl

/-- Sensing writes the filters, the tachometer readings of the actuators, the contexts and the
modifiers. -/
theorem senseCore_core :
    senseCore cfg inp core =
      { core with
        filters := (step3SensorFilters cfg inp core).filters
        actuators := (step3bTach cfg inp core).actuators
        contexts := (senseCore cfg inp core).contexts
        modifiers := (senseCore cfg inp core).modifiers } := by
  have h5 (c : Core) : step5ModifierEval cfg c =
      { c with
        contexts := (step5ModifierEval cfg c).contexts
        modifiers := (step5ModifierEval cfg c).modifiers } := by
    unfold step5ModifierEval
    dsimp only
    split
    · rfl
    · split <;> rfl
  unfold senseCore
  rw [h5]
  rfl

/-! ## Where the fields of the new core come from -/

/-- The filters of the new core are those step 3 leaves. -/
theorem passDone_filters :
    (passDone cfg cb inp core).core.filters = (step3SensorFilters cfg inp core).filters := by
  rw [passDone_core, passDecided_core, passDetectors_core, passRequests_core, passZones_core,
    senseCore_core]

/-- The contexts of the new core are those sensing leaves. -/
theorem passDone_contexts :
    (passDone cfg cb inp core).core.contexts = (senseCore cfg inp core).contexts := by
  rw [passDone_core, passDecided_core, passDetectors_core, passRequests_core, passZones_core]

/-- The modifiers of the new core are those sensing leaves. -/
theorem passDone_modifiers :
    (passDone cfg cb inp core).core.modifiers = (senseCore cfg inp core).modifiers := by
  rw [passDone_core, passDecided_core, passDetectors_core, passRequests_core, passZones_core]

/-- The zones of the new core are those step 6 leaves. -/
theorem passDone_zones :
    (passDone cfg cb inp core).core.zones = (passZones cfg cb inp core).core.zones := by
  rw [passDone_core, passDecided_core, passDetectors_core, passRequests_core]

/-- The stuck-sensor detectors of the new core are those the pre-pass leaves. -/
theorem passDone_stuckSensorStates :
    (passDone cfg cb inp core).core.stuckSensorStates =
      (stuckSensorPrepass cfg cb inp (Pass.start (senseCore cfg inp core))).core.stuckSensorStates := by
  rw [passDone_core, passDecided_core, passDetectors_core, passRequests_core]
  rfl

/-- The stall detectors of the new core are those their stage leaves. -/
theorem passDone_stallStates :
    (passDone cfg cb inp core).core.stallStates =
      (stepStall cfg cb inp (passRequests cfg cb inp core)).core.stallStates := by
  rw [passDone_core, passDecided_core]
  unfold passDetectors
  rw [stepStuckActions_core, stepStaleContext_core, stepRunaway_core]

/-- The runaway detectors of the new core are those their stage leaves. -/
theorem passDone_runaways :
    (passDone cfg cb inp core).core.runaways =
      (stepRunaway cfg cb inp
        (stepStall cfg cb inp (passRequests cfg cb inp core))).core.runaways := by
  rw [passDone_core, passDecided_core]
  unfold passDetectors
  rw [stepStuckActions_core, stepStaleContext_core]

/-- The stale-context detectors of the new core are those their stage leaves. -/
theorem passDone_staleContextStates :
    (passDone cfg cb inp core).core.staleContextStates =
      (stepStaleContext cfg cb inp (stepRunaway cfg cb inp
        (stepStall cfg cb inp (passRequests cfg cb inp core)))).core.staleContextStates := by
  rw [passDone_core, passDecided_core]
  unfold passDetectors
  rw [stepStuckActions_core]

/-! ## What each detector stage finds

No stage before a detector's own touches its state.
-/

/-- The pre-pass starts from the old core's stuck-sensor detectors. -/
theorem senseCore_stuckSensorStates :
    (senseCore cfg inp core).stuckSensorStates = core.stuckSensorStates := by
  rw [senseCore_core]

/-- The stall stage starts from the old core's stall detectors. -/
theorem passRequests_stallStates :
    (passRequests cfg cb inp core).core.stallStates = core.stallStates := by
  rw [passRequests_core, passZones_core, senseCore_core]

/-- The runaway stage starts from the old core's runaway detectors. -/
theorem stepStall_runaways :
    (stepStall cfg cb inp (passRequests cfg cb inp core)).core.runaways = core.runaways := by
  rw [stepStall_core, passRequests_core, passZones_core, senseCore_core]

/-- The stale-context stage starts from the old core's stale-context detectors. -/
theorem stepRunaway_staleContextStates :
    (stepRunaway cfg cb inp
        (stepStall cfg cb inp (passRequests cfg cb inp core))).core.staleContextStates =
      core.staleContextStates := by
  rw [stepRunaway_core, stepStall_core, passRequests_core, passZones_core, senseCore_core]

end frame

/-! ## Accepted and rejected steps -/

/-- The preflight never refuses a snapshot with `THERMAL_OK`. -/
theorem errs_preflightSnapshot (cfg : Config) (inp : InputSnapshot) :
    ErrsNotOk (preflightSnapshot cfg inp) := by
  have scan (smps : List Sample) (seen : List Nat) : ErrsNotOk (scanSamples cfg seen smps) := by
    induction smps generalizing seen with
    | nil => exact errs_ok
    | cons smp rest ih =>
        unfold scanSamples
        split
        · intro e he
          cases he
          decide
        · split
          · intro e he
            cases he
            decide
          · exact ih _
  exact errs_bind (errs_failIf (by decide)) (errs_bind (errs_failIf (by decide)) (scan _ _))

section step

variable {cfg : Config} {cb : Callbacks} {core : Core} {inp : InputSnapshot} {out : OutputFrame}

/-- **An admissible step** runs every stage: its status, core, frame and callbacks are the stages'
own. -/
theorem thermalCoreStep_accepted (h : Admissible cfg inp) :
    thermalCoreStep cfg cb core inp out =
      ⟨.ok, (passDone cfg cb inp core).core, outputFrame cfg (passDecided cfg cb inp core) out,
        (passDone cfg cb inp core).calls⟩ := by
  unfold Admissible at h
  unfold thermalCoreStep
  rw [h]

/-- **A refused step** changes neither core nor frame and calls nobody. -/
theorem thermalCoreStep_rejected (cb : Callbacks) (core : Core) (out : OutputFrame)
    (h : ¬Admissible cfg inp) :
    ∃ e, e ≠ .ok ∧ thermalCoreStep cfg cb core inp out = ⟨e, core, out, []⟩ := by
  unfold Admissible at h
  unfold thermalCoreStep
  cases hp : preflightSnapshot cfg inp with
  | ok u => exact absurd hp h
  | error e => exact ⟨e, errs_preflightSnapshot cfg inp e hp, rfl⟩

/-- The status alone tells whether the snapshot was admissible. -/
theorem thermalCoreStep_status_iff :
    (thermalCoreStep cfg cb core inp out).status = .ok ↔ Admissible cfg inp := by
  by_cases h : Admissible cfg inp
  · simp [thermalCoreStep_accepted h, h]
  · obtain ⟨e, he, hr⟩ := thermalCoreStep_rejected cb core out h
    simp [hr, he, h]

end step

end ThermalCore
