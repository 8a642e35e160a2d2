import ThermalCore.ClockShift

/-!
# Clock rollover

The rest of the API against the origin of the clock: commands, state reads, and
from one call to the next the whole run.  Moving every `now_ms` by a constant
modulo 2^32 moves the timestamps a run hands to its callbacks and to its
readers, and changes nothing else.

The relation is that of `ClockShift`, carried from init along any list of calls.  Init
stores the time zero whatever the clock, which is why state reads agree from the first
accepted step on and not before.
-/

namespace ThermalCore

open MachineInt Check

section commands

variable {k : Nat} {cfg : Config} {core core' : Core}

/-! ## Commands -/

/-- Two results of one handler. -/
structure ResultShifted (k : Nat) (r r' : ThermalStatus × Core) : Prop where
  status : r'.1 = r.1
  core : CoreShifted k r.2 r'.2

/-- A reset machine bears no time. -/
theorem fsmShifted_reset : FsmShifted k Fsm.reset Fsm.reset :=
  ⟨rfl, rfl, rfl, fun hne => absurd rfl hne⟩

/-- A result chosen by a condition that both runs share. -/
theorem ite_resultShifted {c : Prop} [Decidable c] {r s r' s' : ThermalStatus × Core}
    (hr : ResultShifted k r r') (hs : ResultShifted k s s') :
    ResultShifted k (if c then r else s) (if c then r' else s') := by
  split
  · exact hr
  · exact hs

/-- A rejection leaves both cores alone. -/
theorem CoreShifted.reject (h : CoreShifted k core core') (e : ThermalStatus) :
    ResultShifted k (e, core) (e, core') := ⟨rfl, h⟩

/-- An update of one zone that does not look at the stored time. -/
theorem CoreShifted.editZone (h : CoreShifted k core core') (z : Nat) {f : ZoneRuntime → ZoneRuntime}
    (hf : ∀ zr zr', ZoneShifted k zr zr' → ZoneShifted k (f zr) (f zr')) :
    CoreShifted k { core with zones := core.zones.edit z f }
      { core' with zones := core'.zones.edit z f } :=
  { h with zones := Vector.slot_edit_pair h.zones z (hf _ _ (h.zones z)) }

/-- The tests of the curve points do not look at the clock. -/
theorem allOffsetPoints_shifted (h : CoreShifted k core core') (p : CurvePoint → Bool) :
    allOffsetPoints cfg core' p = allOffsetPoints cfg core p := by
  unfold allOffsetPoints
  rw [h.modifiers]

/-- `cmd_set_pid` at a moved clock. -/
theorem cmdSetPid_shifted (h : CoreShifted k core core') (z : Nat) (kp ki kd : Int) :
    ResultShifted k (cmdSetPid cfg core z kp ki kd) (cmdSetPid cfg core' z kp ki kd) := by
  refine ite_resultShifted (h.reject _) (ite_resultShifted (h.reject _) ⟨rfl, h.editZone z ?_⟩)
  intro zr zr' hz
  cases hz with
  | mk pid hpid => exact .mk thermalPidReset (.mk _ fun hinit => Bool.noConfusion hinit)

/-- `cmd_set_setpoint` at a moved clock. -/
theorem cmdSetSetpoint_shifted (h : CoreShifted k core core') (z : Nat) (sp : Int) :
    ResultShifted k (cmdSetSetpoint cfg core z sp) (cmdSetSetpoint cfg core' z sp) := by
  unfold cmdSetSetpoint runtimeSetpointWithModifierOffsetsValid
  dsimp only
  rw [allOffsetPoints_shifted h]
  refine ite_resultShifted (h.reject _) (ite_resultShifted (h.reject _)
    (ite_resultShifted (h.reject _) ⟨rfl, h.editZone z ?_⟩))
  intro zr zr' hz
  cases hz with
  | mk pid hpid => exact .mk pid hpid

/-- `cmd_set_trip` at a moved clock. -/
theorem cmdSetTrip_shifted (h : CoreShifted k core core') (z t : Nat) (temp hyst : Int) :
    ResultShifted k (cmdSetTrip cfg core z t temp hyst) (cmdSetTrip cfg core' z t temp hyst) := by
  obtain ⟨pid, hzones⟩ := h.zones_eq
  have hacceptable : tripAcceptable cfg core' z t temp hyst = tripAcceptable cfg core z t temp hyst := by
    unfold tripAcceptable runtimeTripsWithModifierOffsetsValid
    simp only [hzones, allOffsetPoints_shifted h]
  unfold cmdSetTrip
  rw [hacceptable]
  refine ite_resultShifted (h.reject _) (ite_resultShifted (h.reject _)
    (ite_resultShifted (h.reject _) ⟨rfl, h.editZone z ?_⟩))
  intro zr zr' hz
  cases hz with
  | mk pid hpid => exact .mk pid hpid

/-- `cmd_set_curve_point` at a moved clock. -/
theorem cmdSetCurvePoint_shifted (h : CoreShifted k core core') (m p : Nat) (pt : CurvePoint) :
    ResultShifted k (cmdSetCurvePoint cfg core m p pt) (cmdSetCurvePoint cfg core' m p pt) := by
  obtain ⟨pid, hzones⟩ := h.zones_eq
  have hacceptable : pointAcceptable cfg core' m p pt = pointAcceptable cfg core m p pt := by
    unfold pointAcceptable modifierCurveValuesValidRuntime
    simp only [hzones, h.modifiers]
  unfold cmdSetCurvePoint
  rw [hacceptable]
  refine ite_resultShifted (h.reject _) (ite_resultShifted (h.reject _)
    (ite_resultShifted (h.reject _) ⟨rfl, { h with modifiers := ?_ }⟩))
  dsimp only
  rw [h.modifiers]

/-- Whether a fault may be cleared does not depend on the clock. -/
theorem clearVerdict_shifted {f f' : Fsm} (h : FsmShifted k f f') (fc : FaultDetectorCfg) :
    clearVerdict f' fc = clearVerdict f fc := by
  unfold clearVerdict clearAllowed
  rw [h.state, h.recoveryCount]

/-- A clear: the verdict is the same, and both detectors are reset or neither. -/
theorem clear_resultShifted (h : CoreShifted k core core') {v v' : ThermalStatus × Bool} (hv : v' = v)
    {reset reset' : Core} (hreset : CoreShifted k reset reset') :
    ResultShifted k (v.1, if v.2 then reset else core) (v'.1, if v'.2 then reset' else core') := by
  rw [hv]
  refine ⟨rfl, ?_⟩
  dsimp only
  split
  · exact hreset
  · exact h

/-- `cmd_clear_fault` at a moved clock. -/
theorem cmdClearFault_shifted (h : CoreShifted k core core') (ftype tid : Nat) :
    ResultShifted k (cmdClearFault cfg core ftype tid) (cmdClearFault cfg core' ftype tid) := by
  unfold cmdClearFault
  refine ite_resultShifted ?_ (ite_resultShifted ?_ (ite_resultShifted ?_
    (ite_resultShifted ?_ (h.reject _))))
  · cases findActuatorSlot cfg tid with
    | none => exact h.reject _
    | some slot =>
        refine clear_resultShifted h (clearVerdict_shifted (h.stallStates slot).fsm _)
          { h with stallStates := ?_ }
        exact Vector.slot_put_pair h.stallStates slot (.mk Fsm.reset fsmShifted_reset)
  · cases findSensorSlot cfg tid with
    | none => exact h.reject _
    | some slot =>
        refine clear_resultShifted h (clearVerdict_shifted (h.stuckSensorStates slot).fsm _)
          { h with stuckSensorStates := ?_ }
        exact Vector.slot_put_pair h.stuckSensorStates slot (.mk Fsm.reset fsmShifted_reset)
  · refine ite_resultShifted (h.reject _) ?_
    refine clear_resultShifted h (clearVerdict_shifted (h.runaways tid).fsm _)
      { h with runaways := ?_ }
    exact Vector.slot_put_pair h.runaways tid (.mk Fsm.reset fsmShifted_reset)
  · cases findContextSlot cfg tid with
    | none => exact h.reject _
    | some slot =>
        refine clear_resultShifted h (clearVerdict_shifted (h.staleContextStates slot).fsm _)
          { h with staleContextStates := ?_ }
        exact Vector.slot_put_pair h.staleContextStates slot (.mk Fsm.reset fsmShifted_reset)

/-- Any command at a moved clock. -/
theorem runCommand_shifted (h : CoreShifted k core core') (cmd : Command) :
    ResultShifted k (runCommand cfg core cmd) (runCommand cfg core' cmd) := by
  cases cmd with
  | setPid z kp ki kd => exact cmdSetPid_shifted h z kp ki kd
  | setSetpoint z sp => exact cmdSetSetpoint_shifted h z sp
  | setTrip z t temp hyst => exact cmdSetTrip_shifted h z t temp hyst
  | setCurvePoint m p x v0 v1 => exact cmdSetCurvePoint_shifted h m p ⟨x, v0, v1⟩
  | clearFault ftype tid => exact cmdClearFault_shifted h ftype tid
  | unknown id => exact h.reject _

end commands

/-! ## Calls -/

section calls

variable {k : Nat} {cfg : Config} {cb : Callbacks} {core core' : Core}

/-- **Step**: one call at a moved clock, with what it returns. -/
theorem call_shifted (h : CoreShifted k core core') (i : Input) :
    CoreShifted k (call cfg cb core i).1 (call cfg cb core' (i.shift k)).1 ∧
      (call cfg cb core' (i.shift k)).2 = (call cfg cb core i).2.shift k := by
  cases i with
  | step inp out =>
      have hpre := preflightSnapshot_shift k cfg inp
      unfold call Input.shift
      dsimp only
      cases hstatus : preflightSnapshot cfg inp with
      | error e =>
          simp only [thermalCoreStep, hpre, hstatus]
          exact ⟨h, rfl⟩
      | ok u =>
          obtain ⟨hcore, hout, hcalls⟩ := passDone_shifted h
          rw [thermalCoreStep_accepted hstatus, thermalCoreStep_accepted (hpre.trans hstatus)]
          refine ⟨hcore, ?_⟩
          dsimp only
          rw [hout, hcalls]
          rfl
  | command nowMs cmd =>
      have hcmd := @runCommand_shifted k cfg core core' h cmd
      unfold call Input.shift thermalCoreApplyCommand
      dsimp only
      refine ⟨hcmd.core, ?_⟩
      rw [hcmd.status, log_shiftMs]
      rfl

/-- The time of the last step is shifted too: what a state read needs. -/
def LastStepShifted (k : Nat) (core core' : Core) : Prop :=
  core'.lastNowMs = shiftMs k core.lastNowMs

/-- **Step**: the time of the last accepted step moves too. -/
theorem call_lastStepShifted (h : LastStepShifted k core core') (i : Input) :
    LastStepShifted k (call cfg cb core i).1 (call cfg cb core' (i.shift k)).1 := by
  cases i with
  | step inp out =>
      have hpre := preflightSnapshot_shift k cfg inp
      unfold call Input.shift
      dsimp only
      cases hstatus : preflightSnapshot cfg inp with
      | error e =>
          simp only [thermalCoreStep, hpre, hstatus]
          exact h
      | ok u =>
          rw [thermalCoreStep_accepted hstatus, thermalCoreStep_accepted (hpre.trans hstatus)]
          rfl
  | command nowMs cmd =>
      have hleft : (runCommand cfg core cmd).2.lastNowMs = core.lastNowMs :=
        (runCommand_untouched cfg core cmd).lastNowMs
      have hright : (runCommand cfg core' cmd).2.lastNowMs = core'.lastNowMs :=
        (runCommand_untouched cfg core' cmd).lastNowMs
      unfold LastStepShifted call Input.shift thermalCoreApplyCommand
      dsimp only
      rw [hleft, hright]
      exact h

/-- An accepted step sets the time of the last step on both sides. -/
theorem step_lastStepShifted {inp : InputSnapshot} (hin : Admissible cfg inp) (out : OutputFrame) :
    LastStepShifted k (call cfg cb core (.step inp out)).1
      (call cfg cb core' ((Input.step inp out).shift k)).1 := by
  have hin' : Admissible cfg (inp.shift k) := (preflightSnapshot_shift k cfg inp).trans hin
  unfold LastStepShifted call Input.shift
  dsimp only
  rw [thermalCoreStep_accepted hin, thermalCoreStep_accepted hin']
  rfl

/-! ## State reads -/

/-- A zone's state bears no time. -/
theorem zoneState_shifted {zc : ZoneCfg} {zr zr' : ZoneRuntime} (h : ZoneShifted k zr zr') :
    zoneState zc zr' = zoneState zc zr := by
  cases h with
  | mk pid hpid => rfl

/-- A fault is listed with its moved time. -/
theorem faultEntry_shifted (ft : FaultType) (tid : Nat) {f f' : Fsm} (h : FsmShifted k f f') :
    faultEntry ft tid f' = (faultEntry ft tid f).map (FaultSnapshot.shift k) := by
  unfold faultEntry
  rw [h.state]
  by_cases hn : f.state = .normal
  · rw [if_neg (not_not.mpr hn), if_neg (not_not.mpr hn), List.map_nil]
  · rw [if_pos hn, if_pos hn, h.entered hn]
    rfl

/-- The list of faults, each with its moved time. -/
theorem activeFaults_shifted (h : CoreShifted k core core') :
    activeFaults cfg core' = (activeFaults cfg core).map (FaultSnapshot.shift k) := by
  unfold activeFaults
  simp only [List.map_append, Loop.map_emit, faultEntry_shifted _ _ (h.stallStates _).fsm,
    faultEntry_shifted _ _ (h.stuckSensorStates _).fsm, faultEntry_shifted _ _ (h.runaways _).fsm,
    faultEntry_shifted _ _ (h.staleContextStates _).fsm]

/-- The age of a context is a difference of two times that both count. -/
theorem contextAge_shifted (hlast : LastStepShifted k core core') {cr cr' : ContextRuntime}
    (h : ContextShifted k cr cr') :
    (if cr'.everValid then subU32 core'.lastNowMs cr'.lastValidMs else 0xFFFFFFFF) =
      if cr.everValid then subU32 core.lastNowMs cr.lastValidMs else 0xFFFFFFFF := by
  unfold LastStepShifted at hlast
  cases h with
  | mk t ht =>
      dsimp only
      cases hv : cr.everValid with
      | false => rfl
      | true => rw [hlast, ht hv, subU32_shiftMs]

/-- A state read at a moved clock. -/
theorem getState_shifted (h : CoreShifted k core core') (hlast : LastStepShifted k core core') :
    thermalCoreGetState cfg core' = (thermalCoreGetState cfg core).shift k := by
  have hzones (i : Nat) : zoneState (cfg.zones.slot i) (core'.zones.slot i) =
      zoneState (cfg.zones.slot i) (core.zones.slot i) := zoneState_shifted (h.zones i)
  have hfilter (i : Nat) : (core'.contexts.slot i).filter = (core.contexts.slot i).filter := by
    obtain ⟨t, hcontexts⟩ := h.contexts_eq
    rw [hcontexts]
  have hage (i : Nat) := contextAge_shifted hlast (h.contexts i)
  have hfaults : (activeFaults cfg core').take maxFaults =
      ((activeFaults cfg core).take maxFaults).map (FaultSnapshot.shift k) := by
    rw [activeFaults_shifted h, List.map_take]
  unfold thermalCoreGetState StateSnapshot.shift
  dsimp only
  simp only [hfaults, hzones, hfilter, hage, h.actuators, h.modifiers, h.shutdownRequestLatched,
    List.any_map]
  rw [show core'.lastNowMs = shiftMs k core.lastNowMs from hlast]
  rfl

end calls

/-! ## Runs -/

section runs

variable {k : Nat} {cfg : Config} {cb : Callbacks}

/-- After init no stored time counts. -/
theorem initCore_shifted (k : Nat) (cfg : Config) : CoreShifted k (initCore cfg) (initCore cfg) where
  filters := rfl
  zones z := by
    have hpid : ((initCore cfg).zones.slot z).pid.initialized = false := by
      unfold initCore
      dsimp only
      rw [Vector.slot_forSlots]
      split
      · rfl
      · exact Vector.slot_replicate_rec (P := fun zr : ZoneRuntime => zr.pid.initialized = false)
          rfl rfl z
    exact .mk _ (.mk _ fun hinit => absurd hinit (by rw [hpid]; exact Bool.noConfusion))
  contexts := Vector.slot_replicate_rec (P := fun cr => ContextShifted k cr cr)
    (.mk _ fun hv => Bool.noConfusion hv) (.mk _ fun hv => Bool.noConfusion hv)
  actuators := rfl
  shutdownRequestLatched := rfl
  modifiers := rfl
  stallStates := Vector.slot_replicate_rec (P := fun st => StallShifted k st st)
    (.mk _ fsmShifted_reset) (.mk _ fsmShifted_reset)
  stuckSensorStates := Vector.slot_replicate_rec (P := fun st => StuckShifted k st st)
    (.mk _ fsmShifted_reset) (.mk _ fsmShifted_reset)
  runaways := Vector.slot_replicate_rec (P := fun rr => RunawayShifted k rr rr)
    (.mk _ fsmShifted_reset) (.mk _ fsmShifted_reset)
  staleContextStates := Vector.slot_replicate_rec (P := fun st => StaleShifted k st st)
    (.mk _ fsmShifted_reset) (.mk _ fsmShifted_reset)
  fanHealthStates := rfl
  prevZoneMaxSeverity := rfl
  tickCount := rfl

/-- A run and the run on the shifted clock. -/
theorem run_shifted {core core' : Core} (h : CoreShifted k core core') (is : List Input) :
    CoreShifted k (Machine.after (call cfg cb) core is)
        (Machine.after (call cfg cb) core' (is.map (Input.shift k))) ∧
      Machine.outputs (call cfg cb) core' (is.map (Input.shift k)) =
        (Machine.outputs (call cfg cb) core is).map (Effect.shift k) := by
  have hsim := Machine.sim_map (R := CoreShifted k)
    (q := Input.shift k) (f := Effect.shift k) (g := id) (fun _ _ i hr => @call_shifted k cfg cb _ _ hr i) h is
  rw [List.map_id] at hsim
  exact hsim

/-- From an accepted step on, the times of the last step match too. -/
theorem run_lastStepShifted (is₁ is₂ : List Input) {inp : InputSnapshot} {out : OutputFrame}
    (hin : Admissible cfg inp) (core core' : Core) :
    let is := is₁ ++ Input.step inp out :: is₂
    LastStepShifted k (Machine.after (call cfg cb) core is)
      (Machine.after (call cfg cb) core' (is.map (Input.shift k))) := by
  dsimp only
  rw [List.map_append, List.map_cons, Machine.after_append, Machine.after_append, Machine.after_cons,
    Machine.after_cons]
  generalize Machine.after (call cfg cb) core is₁ = c
  generalize Machine.after (call cfg cb) core' (is₁.map (Input.shift k)) = c'
  have hstep := @step_lastStepShifted k cfg cb c c' inp hin out
  exact (Machine.sim_map (R := LastStepShifted k)
    (q := Input.shift k) (f := fun _ => ()) (g := fun _ => ())
    (fun _ _ i hr => ⟨@call_lastStepShifted k cfg cb _ _ hr i, rfl⟩) hstep is₂).1

/-- **Rollover**: with every `now_ms` moved by `k`, each call of a run returns the
same status and frame and makes the same calls at the moved times; once a step
was accepted, a state read is the same at the moved times. -/
theorem run_rollover (k : Nat) (cfg : Config) (cb : Callbacks) (is : List Input) :
    Machine.outputs (call cfg cb) (initCore cfg) (is.map (Input.shift k)) =
        (Machine.outputs (call cfg cb) (initCore cfg) is).map (Effect.shift k) ∧
      ((∃ inp out, Input.step inp out ∈ is ∧ Admissible cfg inp) →
        thermalCoreGetState cfg
            (Machine.after (call cfg cb) (initCore cfg) (is.map (Input.shift k))) =
          (thermalCoreGetState cfg (Machine.after (call cfg cb) (initCore cfg) is)).shift k) := by
  obtain ⟨hcore, hout⟩ := run_shifted (initCore_shifted k cfg) is
  refine ⟨hout, ?_⟩
  rintro ⟨inp, out, hmem, hin⟩
  obtain ⟨is₁, is₂, rfl⟩ := List.append_of_mem hmem
  exact getState_shifted hcore (run_lastStepShifted is₁ is₂ hin _ _)

/-- One step and one command, moved across the wrap of the clock. -/
theorem run_rollover_oneFan :
    let is : List Input :=
      [.step (tempSnapshot 900 1 75000) default, .command 950 (.setSetpoint 0 60000)]
    Machine.outputs (call oneFanConfig ⟨true, true⟩) (initCore oneFanConfig)
          (is.map (Input.shift 4294966496)) =
        (Machine.outputs (call oneFanConfig ⟨true, true⟩) (initCore oneFanConfig) is).map
          (Effect.shift 4294966496) ∧
      thermalCoreGetState oneFanConfig (Machine.after (call oneFanConfig ⟨true, true⟩)
          (initCore oneFanConfig) (is.map (Input.shift 4294966496))) =
        (thermalCoreGetState oneFanConfig (Machine.after (call oneFanConfig ⟨true, true⟩)
          (initCore oneFanConfig) is)).shift 4294966496 := by
  have hrun := run_rollover 4294966496 oneFanConfig ⟨true, true⟩
    [.step (tempSnapshot 900 1 75000) default, .command 950 (.setSetpoint 0 60000)]
  refine ⟨hrun.1, hrun.2 ⟨_, _, List.mem_cons_self, ?_⟩⟩
  unfold Admissible
  decide +kernel

/-- A step that preflight rejects does not set `now_ms`: the read after it shows
0 on either clock. -/
theorem rejected_step_not_shifted :
    let is : List Input := [.step (tempSnapshot 900 77 75000) default]
    ¬thermalCoreGetState oneFanConfig (Machine.after (call oneFanConfig ⟨true, true⟩)
          (initCore oneFanConfig) (is.map (Input.shift 1))) =
        (thermalCoreGetState oneFanConfig (Machine.after (call oneFanConfig ⟨true, true⟩)
          (initCore oneFanConfig) is)).shift 1 := by
  decide +kernel

end runs

end ThermalCore
