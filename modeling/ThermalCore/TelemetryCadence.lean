import ThermalCore.FaultEvents

/-!
# Telemetry is complete

The validator and the dispatcher decode the same packed ids in two separate
trees.  They agree on every id, so a step on the cadence emits the whole list of
an accepted configuration, in order, and every other step emits nothing.

The ids go by families and slots.  Samples are filtered out of a step's callbacks: the
stages before telemetry emit none, and telemetry emits the list.
-/

namespace ThermalCore

open MachineInt Check

/-! ## Ids -/

/-- **The two trees agree**: an id has a value exactly when the validator supports
it, whatever the state of the core. -/
theorem dispatchSignalValue_isSome (cfg : Config) (core : Core) (sig : Nat) :
    (dispatchSignalValue cfg core sig).isSome = signalIdIsSupported cfg sig := by
  unfold dispatchSignalValue signalIdIsSupported
  dsimp only
  by_cases hzone : SignalFamily.zone.contains sig = true
  · rw [if_pos hzone, if_pos hzone]
    generalize signalSub .zone sig = sub
    grind
  rw [if_neg hzone, if_neg hzone]
  by_cases hactuator : SignalFamily.actuator.contains sig = true
  · rw [if_pos hactuator, if_pos hactuator]
    generalize signalSub .actuator sig = sub
    grind
  rw [if_neg hactuator, if_neg hactuator]
  by_cases hpid : SignalFamily.pid.contains sig = true
  · rw [if_pos hpid, if_pos hpid]
    generalize u8 (sig - SignalFamily.pid.base) = off
    split
    · next hslot => simp [Nat.not_lt.mpr hslot]
    · next hslot =>
        -- every remainder has a term
        split <;> simp [Nat.not_le.mp hslot]
  rw [if_neg hpid, if_neg hpid]
  by_cases hcontext : SignalFamily.context.contains sig = true
  · rw [if_pos hcontext, if_pos hcontext]
    generalize signalSub .context sig = sub
    grind
  rw [if_neg hcontext, if_neg hcontext]
  by_cases hmodifier : SignalFamily.modifier.contains sig = true
  · rw [if_pos hmodifier, if_pos hmodifier]
    generalize signalSub .modifier sig = sub
    grind
  rw [if_neg hmodifier, if_neg hmodifier]
  by_cases hfault : SignalFamily.fault.contains sig = true
  · rw [if_pos hfault, if_pos hfault]
    generalize signalSub .fault sig = sub
    grind
  rw [if_neg hfault, if_neg hfault]
  by_cases hfan : SignalFamily.fanHealth.contains sig = true
  · rw [if_pos hfan, if_pos hfan]
    generalize signalSub .fanHealth sig = sub
    grind
  rw [if_neg hfan, if_neg hfan, Option.isSome_none]

/-- Every id of the list of an accepted configuration is supported. -/
theorem signalIdIsSupported_of_accepted {cfg : Config} (hr : ConfigRules cfg) {i : Nat}
    (hi : i < cfg.telemetry.enabledSignalCount) :
    signalIdIsSupported cfg (cfg.telemetry.enabledSignalIds.slot i) = true := by
  have hv := hr.telemetry
  unfold validateTelemetry at hv
  simp only [bind_eq_ok, failIf_eq_ok, each_eq_ok, Bool.not_eq_false] at hv
  exact hv.2 i hi

/-- An enabled telemetry section has a period. -/
theorem periodTicks_pos_of_accepted {cfg : Config} (hr : ConfigRules cfg)
    (hon : cfg.telemetry.enable ≠ 0) : 0 < cfg.telemetry.periodTicks := by
  have hv := hr.telemetry
  unfold validateTelemetry at hv
  simp only [bind_eq_ok, failIf_eq_ok, each_eq_ok, not_and] at hv
  exact Nat.pos_of_ne_zero (hv.1 hon)

/-! ## Samples among the callbacks -/

/-- The id of a sample; a logged event has none. -/
def Call.sampleId : Call → Option Nat
  | .telemetryEmit _ sig _ => some sig
  | .logEvent _ _ _ _ _ _ => none

/-- The ids of the samples a step emits, in order. -/
def sampleIds (calls : List Call) : List Nat := calls.filterMap Call.sampleId

/-- The list of the configuration. -/
def enabledSignals (cfg : Config) : List Nat :=
  (List.range cfg.telemetry.enabledSignalCount).map cfg.telemetry.enabledSignalIds.slot

section samples

variable {cb : Callbacks} {xs ys : List Call}

@[simp] theorem sampleIds_append : sampleIds (xs ++ ys) = sampleIds xs ++ sampleIds ys :=
  List.filterMap_append

@[simp] theorem sampleIds_log {ts a1 a2 a3 a4 : Nat} {code : EventCode} :
    sampleIds (cb.log ts code a1 a2 a3 a4) = [] := by
  unfold Callbacks.log
  split <;> rfl

theorem sampleIds_of_plain (h : AllPlain xs) : sampleIds xs = [] := by
  refine List.filterMap_eq_nil_iff.mpr fun c hc => ?_
  cases c with
  | logEvent ts code a1 a2 a3 a4 => rfl
  | telemetryEmit ts sig value => exact (h _ hc).elim

/-- Iterations that emit no sample emit none together. -/
theorem sampleIds_emit_nil {count : Nat} {f : Nat → List Call} (h : ∀ i, sampleIds (f i) = []) :
    sampleIds (Loop.emit count f) = [] := by
  induction count with
  | zero => rfl
  | succ count ih => rw [Loop.emit_succ, sampleIds_append, ih, h, List.append_nil]

/-- Iterations that emit one sample each emit one id each. -/
theorem sampleIds_emit_singleton {count : Nat} {f : Nat → List Call} {id : Nat → Nat}
    (h : ∀ i < count, sampleIds (f i) = [id i]) :
    sampleIds (Loop.emit count f) = (List.range count).map id := by
  induction count with
  | zero => rfl
  | succ count ih =>
      rw [Loop.emit_succ, sampleIds_append, ih fun i hi => h i (Nat.lt_succ_of_lt hi),
        h count (Nat.lt_succ_self _), List.range_succ, List.map_append, List.map_singleton]

end samples

/-! ## One step -/

section step

variable {cfg : Config} {cb : Callbacks} {inp : InputSnapshot} {core : Core}

/-- A runaway detector only logs, its escalation too. -/
theorem sampleIds_runawayEvents {p : Pass} : sampleIds (runawayEvents cfg cb inp p) = [] := by
  unfold runawayEvents
  split
  · rfl
  · refine sampleIds_emit_nil fun z => ?_
    unfold runawayCalls
    rw [sampleIds_append, sampleIds_of_plain (allPlain_append (allPlain_emitFaultTransition cb _ _ _ _ _)
      (allPlain_emitShutdownRequest cb _ _ _ _ _ _)), List.nil_append]
    split
    · exact sampleIds_log
    · rfl

/-- The stages before telemetry only log. -/
theorem sampleIds_passDecided : sampleIds (passDecided cfg cb inp core).calls = [] := by
  obtain ⟨before, after, hbefore, hafter, hcalls⟩ := passDecided_calls cfg cb inp core
  rw [hcalls, sampleIds_append, sampleIds_append, sampleIds_of_plain hbefore, sampleIds_of_plain hafter,
    sampleIds_runawayEvents]
  rfl

/-- The step is on the cadence: telemetry is on, with a callback, and the tick
count is a multiple of the period. -/
def TelemetryDue (cfg : Config) (cb : Callbacks) (tickCount : Nat) : Prop :=
  cfg.telemetry.enable ≠ 0 ∧ cfg.telemetry.periodTicks > 0 ∧
    tickCount % cfg.telemetry.periodTicks = 0 ∧ cb.telemetryEmit = true

instance (cfg : Config) (cb : Callbacks) (tickCount : Nat) :
    Decidable (TelemetryDue cfg cb tickCount) := inferInstanceAs (Decidable (_ ∧ _))

/-- The telemetry stage emits the whole list or nothing. -/
theorem sampleIds_telemetryCalls (hr : ConfigRules cfg) (now : Nat) :
    sampleIds (telemetryCalls cfg cb core now) =
      if TelemetryDue cfg cb core.tickCount then enabledSignals cfg else [] := by
  by_cases hdue : TelemetryDue cfg cb core.tickCount
  · rw [if_pos hdue]
    unfold telemetryCalls
    unfold TelemetryDue at hdue
    rw [if_pos hdue]
    refine sampleIds_emit_singleton fun i hi => ?_
    have hsome : (dispatchSignalValue cfg core (cfg.telemetry.enabledSignalIds.slot i)).isSome = true := by
      rw [dispatchSignalValue_isSome]
      exact signalIdIsSupported_of_accepted hr hi
    obtain ⟨value, hvalue⟩ := Option.isSome_iff_exists.mp hsome
    dsimp only
    rw [hvalue]
    rfl
  · rw [if_neg hdue]
    unfold telemetryCalls
    unfold TelemetryDue at hdue
    rw [if_neg hdue]
    rfl

/-- The samples of an accepted step. -/
theorem sampleIds_passDone (hr : ConfigRules cfg) :
    sampleIds (passDone cfg cb inp core).calls =
      if TelemetryDue cfg cb core.tickCount then enabledSignals cfg else [] := by
  have hdone : (passDone cfg cb inp core).calls =
      (passDecided cfg cb inp core).calls ++
        telemetryCalls cfg cb (step10Drive cfg (passDecided cfg cb inp core)).core inp.nowMs := rfl
  have htick : (step10Drive cfg (passDecided cfg cb inp core)).core.tickCount = core.tickCount :=
    passDecided_tickCount cfg cb inp core
  rw [hdone, sampleIds_append, sampleIds_passDecided, List.nil_append,
    sampleIds_telemetryCalls hr, htick]

/-- **Telemetry is complete**: from any state of the core, an accepted step whose
tick count is a multiple of the period emits one sample for every id of the list,
in order, and every other step emits none; and an id has a value in any state
exactly when the validator supports it. -/
theorem telemetry_complete (hacc : Accepted cfg) (hon : cfg.telemetry.enable ≠ 0)
    (hemit : cb.telemetryEmit = true) (out : OutputFrame) :
    sampleIds (thermalCoreStep cfg cb core inp out).calls =
        (if (thermalCoreStep cfg cb core inp out).status = .ok ∧
            core.tickCount % cfg.telemetry.periodTicks = 0 then enabledSignals cfg else []) ∧
      ∀ sig, (dispatchSignalValue cfg core sig).isSome = true ↔ signalIdIsSupported cfg sig = true := by
  have hr : ConfigRules cfg := (accepted_iff cfg).mp hacc
  refine ⟨?_, fun sig => by rw [dispatchSignalValue_isSome]⟩
  by_cases hin : Admissible cfg inp
  · have hdue : TelemetryDue cfg cb core.tickCount ↔
        (thermalCoreStep cfg cb core inp out).status = .ok ∧
          core.tickCount % cfg.telemetry.periodTicks = 0 := by
      have hok : (thermalCoreStep cfg cb core inp out).status = .ok := thermalCoreStep_status_iff.mpr hin
      have hperiod := periodTicks_pos_of_accepted hr hon
      unfold TelemetryDue
      grind
    rw [← if_congr hdue rfl rfl, thermalCoreStep_accepted hin]
    exact sampleIds_passDone hr
  · obtain ⟨e, he, hrej⟩ := thermalCoreStep_rejected cb core out hin
    rw [hrej, if_neg fun h => he h.1]
    rfl

end step

/-- The fan with its zone's temperature and its duty reported on every second tick. -/
def reportingFanConfig : Config :=
  { oneFanConfig with
    telemetry :=
      { enable := 1, periodTicks := 2
        enabledSignalIds := (default : Vector Nat maxTelemetrySignals).put 0 0x0100 |>.put 1 0x0200
        enabledSignalCount := 2 } }

theorem accepted_reportingFanConfig : Accepted reportingFanConfig := by decide +kernel

theorem telemetry_complete_reportingFan :
    sampleIds (thermalCoreStep reportingFanConfig ⟨false, true⟩ (initCore reportingFanConfig)
      (tempSnapshot 0 1 55000) default).calls = [0x0100, 0x0200] := by
  rw [(telemetry_complete accepted_reportingFanConfig (by decide) rfl default).1, if_pos]
  · decide +kernel
  · decide +kernel

end ThermalCore
