import ThermalCore.Checked.Calls
import ThermalCore.Detectors

/-!
# Every access of every run is in bounds

What the accesses rest on holds after init and survives every call.  So the four
calls of the API, run with every index and every divisor tested, do what the model
does: no test fails.

`AccessInv` is the invariant: the ring heads, which steps move, and the abscissas,
which commands write.  The rest of `CoreSafe`, the cached sensor slots, the cooling
states and the period limits, are copies of the configuration that no call changes
and that the rules of an accepted configuration bound.
-/

namespace ThermalCore

open MachineInt Check Checked

/-! ## The invariant -/

/-- The abscissas of the modifier curves are values of `int32_t`. -/
def AbscissasTyped (cfg : Config) : Prop :=
  ∀ m < cfg.modifierCount, ∀ k < (cfg.modifiers.slot m).curveCount,
    IsI32 ((cfg.modifiers.slot m).curve.slot k).x

instance (cfg : Config) : Decidable (AbscissasTyped cfg) :=
  inferInstanceAs (Decidable (∀ m < _, ∀ k < _, _))

/-- The new abscissa of a curve point is a value of `int32_t`. -/
def Input.AbscissaTyped : Input → Prop
  | .command _ (.setCurvePoint _ _ x _ _) => IsI32 x
  | _ => True

/-- The parts of a core that are not copies of the configuration: the ring heads,
which steps move, and the abscissas, which commands write. -/
structure AccessInv (cfg : Config) (core : Core) : Prop where
  heads : ∀ z < cfg.zoneCount, (core.runaways.slot z).detector.windowHead < faultRunawayWindowMax
  abscissas : ∀ m < cfg.modifierCount, ∀ k < (core.modifiers.slot m).shadow.curveCount,
    IsI32 ((core.modifiers.slot m).shadow.curve.slot k).x

section invariant

variable {cfg : Config} {cb : Callbacks} {core : Core}

/-- Init establishes the invariant. -/
theorem initCore_accessInv (hr : ConfigRules cfg) (h : AbscissasTyped cfg) :
    AccessInv cfg (initCore cfg) where
  heads z hz := by
    have hslot : (initCore cfg).runaways.slot z = ⟨thermalFaultRunawayReset, 0, false⟩ :=
      Vector.slot_replicate _ (Nat.lt_of_lt_of_le hz hr.zoneCount_le)
    rw [hslot]
    decide
  abscissas m hm := by
    have hslot : (initCore cfg).modifiers.slot m = _ :=
      Vector.slot_forSlots_lt _ _ ((validateCounts_iff cfg).mp hr.counts).modifiers hm
    rw [hslot]
    exact h m hm

/-- A step keeps the invariant. -/
theorem passDone_accessInv (hr : ConfigRules cfg) (inp : InputSnapshot) (h : AccessInv cfg core) :
    AccessInv cfg (passDone cfg cb inp core).core where
  heads z hz := by
    rw [passDone_runaways, slot_stepRunaway_detector hr.zoneCount_le hz, stepStall_runaways]
    exact windowHead_thermalFaultRunawayStep_lt (h.heads z hz) _ _ _ _
  abscissas m hm := by
    rw [passDone_modifiers, senseCore_shadow]
    exact h.abscissas m hm

/-- An accepted command keeps the invariant: what it writes was tested. -/
theorem CommandWrite.accessInv {core' : Core} {nowMs : Nat} {cmd : Command}
    (hw : CommandWrite cfg core cmd core') (htyped : Input.AbscissaTyped (.command nowMs cmd))
    (h : AccessInv cfg core) : AccessInv cfg core' := by
  cases hw with
  | setPid | setSetpoint | setTrip | clearNothing | clearStall | clearStuckSensor
  | clearStaleContext => exact ⟨h.heads, h.abscissas⟩
  | setCurvePoint m p x v0 v1 =>
      refine ⟨h.heads, fun i hi k => ?_⟩
      dsimp only
      rw [Vector.slot_edit]
      split
      · next hmi =>
          obtain ⟨rfl, -⟩ := hmi
          intro hk
          unfold ModifierCfg.withPoint
          dsimp only
          rw [Vector.slot_put]
          split
          · exact htyped
          · exact h.abscissas m hi k hk
      · exact h.abscissas i hi k
  | clearRunaway z =>
      refine ⟨fun i hi => ?_, h.abscissas⟩
      dsimp only
      rw [Vector.slot_put]
      split
      · decide
      · exact h.heads i hi

/-- Every call keeps the invariant. -/
theorem call_accessInv (hr : ConfigRules cfg) (i : Input) (htyped : i.AbscissaTyped)
    (h : AccessInv cfg core) : AccessInv cfg (call cfg cb core i).1 := by
  cases i with
  | step inp out =>
      by_cases hin : Admissible cfg inp
      · rw [call_step_accepted hin]
        exact passDone_accessInv hr inp h
      · obtain ⟨e, -, hrej⟩ := call_step_rejected cb core hin out
        rw [hrej]
        exact h
  | command nowMs cmd =>
      rw [call_command_core]
      obtain ⟨-, hrej⟩ | ⟨-, hw⟩ := runCommand_cases cfg core cmd
      · rw [hrej]
        exact h
      · exact hw.accessInv htyped h

/-! ## Safe cores -/

/-- The invariants of a core give everything its accesses rest on. -/
theorem coreSafe_of_inv (hr : ConfigRules cfg) (hshadow : ShadowInv cfg core)
    (hrules : RuntimeRules cfg core) (h : AccessInv cfg core) : CoreSafe cfg core where
  sensorSlots z hz k hk := by
    have hslot := (hshadow.zones z hz).sensorSlots k hk
    exact Nat.lt_of_lt_of_le (Loop.first_eq_some hslot).1 (countRules hr).sensors
  coolingStates z hz t ht := by
    rw [(hshadow.zones z hz).trips t ht]
    exact ((hr.zone hz).trips t ht).coolingState
  pidDt z hz hops := by
    have hvalid := (hr.zone hz).governorRules .pid hops
    unfold Governor.validate ThermalCore.governorValidatePid at hvalid
    simp only [bind_eq_ok, failIf_eq_ok] at hvalid
    obtain ⟨-, -, -, -, -, hmin, hlow, hhigh, -⟩ := hvalid
    rw [(hshadow.zones z hz).pid]
    unfold PidCfg.tunedAs
    dsimp only
    omega
  curves m hm := by
    have hcount : (core.modifiers.slot m).shadow.curveCount = (cfg.modifiers.slot m).curveCount := by
      rw [(hshadow.modifiers m hm).others]
    refine ⟨?_, (hrules.curves m hm).ascending, h.abscissas m hm⟩
    rw [hcount]
    exact ((validateModifiers_iff cfg).mp hr.modifiers m hm).1.2.2.1.2
  heads := h.heads

/-- Every core that a run reaches is safe to step, to command and to read. -/
theorem coreSafe_after (hr : ConfigRules cfg) (htyped : AbscissasTyped cfg) (cb : Callbacks)
    {calls : List Input} (hcalls : ∀ i ∈ calls, i.AbscissaTyped) :
    CoreSafe cfg (Machine.after (call cfg cb) (initCore cfg) calls) := by
  have hreach : Reachable cfg cb (Machine.after (call cfg cb) (initCore cfg) calls) := ⟨calls, rfl⟩
  refine coreSafe_of_inv hr (reachable_shadowInv hr hreach) (reachable_runtimeRules hr hreach) ?_
  exact Machine.after_invariant_of (fun _ i hi h => call_accessInv hr i hi h)
    (initCore_accessInv hr htyped) hcalls

end invariant

/-! ## Main result -/

/-- **Every access is in bounds and every divisor is not zero**: the validator on any
structure, and init, steps, commands and state reads on every core that an accepted
configuration can reach. -/
theorem accesses_in_bounds (cfg : Config) :
    Checked.thermalCoreValidateConfig cfg = .ok (thermalCoreValidateConfig cfg) ∧
    (Accepted cfg → AbscissasTyped cfg →
      Checked.thermalCoreInit cfg = .ok (.ok (initCore cfg)) ∧
      ∀ (cb : Callbacks) (calls : List Input), (∀ i ∈ calls, i.AbscissaTyped) →
        let core := Machine.after (call cfg cb) (initCore cfg) calls
        (∀ inp out, Checked.thermalCoreStep cfg cb core inp out =
          .ok (thermalCoreStep cfg cb core inp out)) ∧
        (∀ nowMs cmd, Checked.thermalCoreApplyCommand cfg cb core nowMs cmd =
          .ok (thermalCoreApplyCommand cfg cb core nowMs cmd)) ∧
        Checked.thermalCoreGetState cfg core = .ok (thermalCoreGetState cfg core)) := by
  refine ⟨thermalCoreValidateConfig_eq cfg, fun hacc htyped => ?_⟩
  have hr := (accepted_iff cfg).mp hacc
  refine ⟨thermalCoreInit_eq hr, fun cb calls hcalls => ?_⟩
  have hs := coreSafe_after hr htyped cb hcalls
  exact ⟨thermalCoreStep_eq hr hs cb, thermalCoreApplyCommand_eq hr hs cb,
    thermalCoreGetState_eq (countRules hr) _⟩

/-- On the one-fan configuration, after a step and a command. -/
theorem accesses_in_bounds_oneFan :
    Checked.thermalCoreStep oneFanConfig ⟨true, true⟩
        (Machine.after (call oneFanConfig ⟨true, true⟩) (initCore oneFanConfig)
          [.step (tempSnapshot 1000 1 75000) default, .command 1500 (.setTrip 0 0 60000 2000)])
        (tempSnapshot 2000 1 95000) default =
      .ok (thermalCoreStep oneFanConfig ⟨true, true⟩
        (Machine.after (call oneFanConfig ⟨true, true⟩) (initCore oneFanConfig)
          [.step (tempSnapshot 1000 1 75000) default, .command 1500 (.setTrip 0 0 60000 2000)])
        (tempSnapshot 2000 1 95000) default) :=
  (((accesses_in_bounds oneFanConfig).2 accepted_oneFanConfig (by decide)).2 ⟨true, true⟩
    [.step (tempSnapshot 1000 1 75000) default, .command 1500 (.setTrip 0 0 60000 2000)]
    (by simp [Input.AbscissaTyped])).1 (tempSnapshot 2000 1 95000) default

end ThermalCore
