import ThermalCore.Reach

/-!
# The core and the origin of its clock

Times enter the core as `now_ms` and are stored in four places: the PID state,
the context signals, the detectors and the last step.  Two runs whose clocks
differ by a constant modulo 2^32 are related entry by entry: a stored time that
counts is shifted by the constant, one that does not count may be anything, and
all else is equal.  Each stage keeps the relation, since it only takes wrapping
differences of times and asks a flag whether a stored one counts.

The module goes from the records up: what it means for two records to differ in
their stored times, what one tick does to such records, what the stages read from
them, and then one lemma for each stage of `thermal_core_step`.  That the rollover
of the clock is invisible is read off the lemma on a whole step.
-/

namespace ThermalCore

open MachineInt Check

/-! ## Shifting -/

/-- The clock reading `t` moved by `k`, in `uint32_t`. -/
def shiftMs (k t : Nat) : Nat := u32 (t + k)

/-- A difference of two times does not see the shift. -/
theorem subU32_shiftMs (k a b : Nat) : subU32 (shiftMs k a) (shiftMs k b) = subU32 a b := by
  simp only [subU32, shiftMs, u32, toU32]
  omega

/-- The snapshot taken `k` ms later, all else equal. -/
def InputSnapshot.shift (k : Nat) (inp : InputSnapshot) : InputSnapshot :=
  { inp with nowMs := shiftMs k inp.nowMs }

/-- A snapshot's samples do not depend on its time. -/
theorem find_shift (k : Nat) (inp : InputSnapshot) (kind : SampleKind) (id : Nat) :
    (inp.shift k).find kind id = inp.find kind id := by
  obtain ⟨nowMs, sampleCount, samples⟩ := inp
  cases samples <;> rfl

/-- A callback with its timestamp shifted. -/
def Call.shift (k : Nat) : Call → Call
  | .logEvent tsMs code a1 a2 a3 a4 => .logEvent (shiftMs k tsMs) code a1 a2 a3 a4
  | .telemetryEmit tsMs sig value => .telemetryEmit (shiftMs k tsMs) sig value

/-- A call of the core made `k` ms later. -/
def Input.shift (k : Nat) : Input → Input
  | .step inp out => .step (inp.shift k) out
  | .command nowMs cmd => .command (shiftMs k nowMs) cmd

/-- What a call returns, with the timestamps of its callbacks shifted. -/
def Effect.shift (k : Nat) : Effect → Effect
  | .step status out calls => .step status out (calls.map (Call.shift k))
  | .command result calls => .command result (calls.map (Call.shift k))

/-- A fault's entry in the state snapshot, with its entry time shifted. -/
def FaultSnapshot.shift (k : Nat) (f : FaultSnapshot) : FaultSnapshot :=
  { f with enteredTsMs := shiftMs k f.enteredTsMs }

/-- The state snapshot, with the times in it shifted. -/
def StateSnapshot.shift (k : Nat) (s : StateSnapshot) : StateSnapshot :=
  { s with nowMs := shiftMs k s.nowMs, faults := s.faults.map (FaultSnapshot.shift k) }

/-! ## Records that differ in their stored times -/

/-- A machine that is not NORMAL has been entered at a time that counts. -/
structure FsmShifted (k : Nat) (f f' : Fsm) : Prop where
  state : f'.state = f.state
  persistCount : f'.persistCount = f.persistCount
  recoveryCount : f'.recoveryCount = f.recoveryCount
  entered : f.state ≠ .normal → f'.enteredTsMs = shiftMs k f.enteredTsMs

/-- The time of the previous PID step counts once there was one. -/
inductive PidShifted (k : Nat) (s : PidState) : PidState → Prop where
  | mk (t : Nat) (h : s.initialized = true → t = shiftMs k s.prevNowMs) :
      PidShifted k s { s with prevNowMs := t }

/-- Two zones that differ at most in the stored time of their PID state. -/
inductive ZoneShifted (k : Nat) (zr : ZoneRuntime) : ZoneRuntime → Prop where
  | mk (pid : PidState) (h : PidShifted k zr.pid pid) : ZoneShifted k zr { zr with pid := pid }

/-- The time of the last valid sample counts once there was one. -/
inductive ContextShifted (k : Nat) (cr : ContextRuntime) : ContextRuntime → Prop where
  | mk (t : Nat) (h : cr.everValid = true → t = shiftMs k cr.lastValidMs) :
      ContextShifted k cr { cr with lastValidMs := t }

/-- Two stall detectors that differ at most in the time of their state machine. -/
inductive StallShifted (k : Nat) (st : StallState) : StallState → Prop where
  | mk (fsm : Fsm) (h : FsmShifted k st.fsm fsm) : StallShifted k st { st with fsm := fsm }

/-- Two stuck-sensor detectors that differ at most in the time of their state machine. -/
inductive StuckShifted (k : Nat) (st : StuckSensorState) : StuckSensorState → Prop where
  | mk (fsm : Fsm) (h : FsmShifted k st.fsm fsm) : StuckShifted k st { st with fsm := fsm }

/-- Two runaway detectors that differ at most in the time of their state machine. -/
inductive RunawayShifted (k : Nat) (rr : RunawayRuntime) : RunawayRuntime → Prop where
  | mk (fsm : Fsm) (h : FsmShifted k rr.detector.fsm fsm) :
      RunawayShifted k rr { rr with detector := { rr.detector with fsm := fsm } }

/-- Two stale-context detectors that differ at most in the time of their state machine. -/
inductive StaleShifted (k : Nat) (st : StaleContextState) : StaleContextState → Prop where
  | mk (fsm : Fsm) (h : FsmShifted k st.fsm fsm) : StaleShifted k st ⟨fsm⟩

/-- Two cores whose stored times differ by `k`; the time of the last step is
left to the caller. -/
structure CoreShifted (k : Nat) (core core' : Core) : Prop where
  filters : core'.filters = core.filters
  zones : ∀ z, ZoneShifted k (core.zones.slot z) (core'.zones.slot z)
  contexts : ∀ c, ContextShifted k (core.contexts.slot c) (core'.contexts.slot c)
  actuators : core'.actuators = core.actuators
  shutdownRequestLatched : core'.shutdownRequestLatched = core.shutdownRequestLatched
  modifiers : core'.modifiers = core.modifiers
  stallStates : ∀ a, StallShifted k (core.stallStates.slot a) (core'.stallStates.slot a)
  stuckSensorStates : ∀ s, StuckShifted k (core.stuckSensorStates.slot s) (core'.stuckSensorStates.slot s)
  runaways : ∀ z, RunawayShifted k (core.runaways.slot z) (core'.runaways.slot z)
  staleContextStates : ∀ c,
    StaleShifted k (core.staleContextStates.slot c) (core'.staleContextStates.slot c)
  fanHealthStates : core'.fanHealthStates = core.fanHealthStates
  prevZoneMaxSeverity : core'.prevZoneMaxSeverity = core.prevZoneMaxSeverity
  tickCount : core'.tickCount = core.tickCount

/-! ## One record over one tick -/

section records

variable {k : Nat}

/-- A tick of the fault state machine keeps the shift. -/
theorem FsmShifted.tick {f f' : Fsm} (h : FsmShifted k f f') (active : Bool) (fc : FaultDetectorCfg)
    (persistTicks now : Nat) :
    FsmShifted k (fsmTick f active fc persistTicks now)
      (fsmTick f' active fc persistTicks (shiftMs k now)) := by
  obtain ⟨state, persist, recovery, entered⟩ := f
  obtain ⟨state', persist', recovery', entered'⟩ := f'
  obtain ⟨hstate, hpersist, hrecovery, hentered⟩ := h
  dsimp only at hstate hpersist hrecovery hentered
  subst hstate hpersist hrecovery
  unfold fsmTick
  cases state' with
  | normal =>
      dsimp only
      split
      · split
        · exact ⟨rfl, rfl, rfl, fun _ => rfl⟩
        · exact ⟨rfl, rfl, rfl, fun hne => absurd rfl hne⟩
      · exact ⟨rfl, rfl, rfl, fun hne => absurd rfl hne⟩
  | degraded | critical =>
      dsimp only
      split
      · exact ⟨rfl, rfl, rfl, hentered⟩
      · exact ⟨rfl, rfl, rfl, fun _ => rfl⟩
  | recovering =>
      dsimp only
      split
      · exact ⟨rfl, rfl, rfl, fun _ => rfl⟩
      · split
        · exact ⟨rfl, rfl, rfl, fun _ => rfl⟩
        · exact ⟨rfl, rfl, rfl, hentered⟩
  | latched =>
      dsimp only
      split
      · exact ⟨rfl, rfl, rfl, hentered⟩
      · split
        · exact ⟨rfl, rfl, rfl, hentered⟩
        · exact ⟨rfl, rfl, rfl, hentered⟩

/-- A PID step takes the time since the previous one and stores its own. -/
theorem PidShifted.step {s s' : PidState} (h : PidShifted k s s') (kp ki kd alpha sp temp : Int)
    (now dtMin dtMax lo hi : Nat) :
    PidShifted k (thermalPidStepFiltered s kp ki kd alpha sp temp now dtMin dtMax lo hi).1
        (thermalPidStepFiltered s' kp ki kd alpha sp temp (shiftMs k now) dtMin dtMax lo hi).1 ∧
      (thermalPidStepFiltered s' kp ki kd alpha sp temp (shiftMs k now) dtMin dtMax lo hi).2 =
        (thermalPidStepFiltered s kp ki kd alpha sp temp now dtMin dtMax lo hi).2 := by
  cases h with
  | mk t ht =>
      have hdt : pidDt { s with prevNowMs := t } (shiftMs k now) dtMin dtMax = pidDt s now dtMin dtMax := by
        unfold pidDt
        dsimp only
        cases hinit : s.initialized with
        | false => rfl
        | true => rw [ht hinit, subU32_shiftMs]
      have hderiv (dt : Nat) : pidDerivative { s with prevNowMs := t } kd alpha temp dt =
          ((pidDerivative s kd alpha temp dt).1,
            { (pidDerivative s kd alpha temp dt).2 with prevNowMs := t }) := by
        unfold pidDerivative
        dsimp only
        split
        · split <;> rfl
        · rfl
      unfold thermalPidStepFiltered
      rw [hdt]
      dsimp only
      rw [hderiv]
      exact ⟨.mk (shiftMs k now) fun _ => rfl, rfl⟩

/-- Filtering a context sample keeps the shift. -/
theorem ContextShifted.step {cr cr' : ContextRuntime} (h : ContextShifted k cr cr') (cc : ContextCfg)
    (smp : Option Sample) (now : Nat) :
    ContextShifted k (contextFilterStep cc smp now cr) (contextFilterStep cc smp (shiftMs k now) cr') := by
  cases h with
  | mk t ht =>
      unfold contextFilterStep
      dsimp only
      cases hvalid : decide (sampleValid smp ≠ 0) with
      | true => exact .mk (shiftMs k now) fun _ => rfl
      | false => exact .mk t fun hever => ht (by simpa using hever)

/-- Related stall detectors have related state machines. -/
theorem StallShifted.fsm {st st' : StallState} (h : StallShifted k st st') :
    FsmShifted k st.fsm st'.fsm := by
  cases h with
  | mk fsm hfsm => exact hfsm

/-- A tick of the stall detector keeps the shift. -/
theorem StallShifted.step {st st' : StallState} (h : StallShifted k st st') (fc : FaultDetectorCfg)
    (pwm rpm valid spinup now : Nat) :
    StallShifted k (thermalFaultStallStep st fc pwm rpm valid spinup now)
      (thermalFaultStallStep st' fc pwm rpm valid spinup (shiftMs k now)) := by
  cases h with
  | mk fsm hfsm =>
      unfold thermalFaultStallStep
      split
      · exact .mk fsm hfsm
      · exact .mk _ (hfsm.tick _ fc fc.persistTicks now)

/-- Related stuck-sensor detectors have related state machines. -/
theorem StuckShifted.fsm {st st' : StuckSensorState} (h : StuckShifted k st st') :
    FsmShifted k st.fsm st'.fsm := by
  cases h with
  | mk fsm hfsm => exact hfsm

/-- A tick of the stuck-sensor detector keeps the shift. -/
theorem StuckShifted.step {st st' : StuckSensorState} (h : StuckShifted k st st')
    (fc : FaultDetectorCfg) (value : Int) (valid ctxValid : Bool) (ctxValue : Int) (now : Nat) :
    StuckShifted k (thermalFaultStuckSensorStep st fc value valid ctxValid ctxValue now)
      (thermalFaultStuckSensorStep st' fc value valid ctxValid ctxValue (shiftMs k now)) := by
  cases h with
  | mk fsm hfsm =>
      unfold thermalFaultStuckSensorStep
      split
      · exact .mk fsm hfsm
      · exact .mk _ (hfsm.tick _ fc fc.persistTicks now)

/-- Related runaway detectors have related state machines. -/
theorem RunawayShifted.fsm {rr rr' : RunawayRuntime} (h : RunawayShifted k rr rr') :
    FsmShifted k rr.detector.fsm rr'.detector.fsm := by
  cases h with
  | mk fsm hfsm => exact hfsm

/-- A tick of the runaway detector keeps the shift. -/
theorem RunawayShifted.step {rr rr' : RunawayRuntime} (h : RunawayShifted k rr rr') (cb : Callbacks)
    (fc : FaultDetectorCfg) (temp : Int) (pwm now : Nat) :
    RunawayShifted k (runawayZoneStep cb fc rr temp pwm now)
      (runawayZoneStep cb fc rr' temp pwm (shiftMs k now)) := by
  cases h with
  | mk fsm hfsm =>
      have hdetector : ∃ fsm', FsmShifted k (thermalFaultRunawayStep rr.detector fc temp pwm now).fsm fsm' ∧
          thermalFaultRunawayStep { rr.detector with fsm := fsm } fc temp pwm (shiftMs k now) =
            { thermalFaultRunawayStep rr.detector fc temp pwm now with fsm := fsm' } := by
        unfold thermalFaultRunawayStep
        split
        · exact ⟨fsm, hfsm, rfl⟩
        · split
          · exact ⟨fsm, hfsm, rfl⟩
          · exact ⟨_, hfsm.tick _ fc 1 now, rfl⟩
      obtain ⟨fsm', hfsm', heq⟩ := hdetector
      have hticks (n : Nat) : latchedActiveTicksNext fc fsm' n = latchedActiveTicksNext fc
          (thermalFaultRunawayStep rr.detector fc temp pwm now).fsm n := by
        unfold latchedActiveTicksNext
        rw [hfsm'.state, hfsm'.recoveryCount]
      have hescalates (n : Nat) : runawayEscalates fc fsm' n = runawayEscalates fc
          (thermalFaultRunawayStep rr.detector fc temp pwm now).fsm n := by
        unfold runawayEscalates
        rw [hfsm'.state]
      unfold runawayZoneStep
      dsimp only
      rw [heq]
      dsimp only
      rw [hticks, hescalates, hfsm'.state]
      exact .mk fsm' hfsm'

/-- Related stale-context detectors have related state machines. -/
theorem StaleShifted.fsm {st st' : StaleContextState} (h : StaleShifted k st st') :
    FsmShifted k st.fsm st'.fsm := by
  cases h with
  | mk fsm hfsm => exact hfsm

/-- The age of a context is a difference of times: the shift cancels. -/
theorem msSinceLastValid_shifted {cr cr' : ContextRuntime} (h : ContextShifted k cr cr') (now : Nat) :
    msSinceLastValid cr' (shiftMs k now) = msSinceLastValid cr now := by
  cases h with
  | mk t ht =>
      unfold msSinceLastValid
      dsimp only
      cases hever : cr.everValid with
      | false => rfl
      | true => rw [if_pos rfl, if_pos rfl, ht hever, subU32_shiftMs]

/-- A tick of the stale-context detector keeps the shift. -/
theorem StaleShifted.step {st st' : StaleContextState} (h : StaleShifted k st st')
    (fc : FaultDetectorCfg) (since timeout now : Nat) :
    StaleShifted k (thermalFaultStaleContextStep st fc since timeout now)
      (thermalFaultStaleContextStep st' fc since timeout (shiftMs k now)) := by
  cases h with
  | mk fsm hfsm =>
      unfold thermalFaultStaleContextStep
      split
      · exact .mk fsm hfsm
      · exact .mk _ (hfsm.tick _ fc fc.persistTicks now)

/-- A zone's governor takes the PID state as it is and stores it back. -/
theorem ZoneShifted.step {zr zr' : ZoneRuntime} (h : ZoneShifted k zr zr') (zc : ZoneCfg)
    (agg : ZoneAggregateResult) (offset : Int) (now : Nat) :
    ZoneShifted k (zoneStep zc agg offset now zr) (zoneStep zc agg offset (shiftMs k now) zr') := by
  cases h with
  | mk pid hpid =>
      unfold zoneStep
      dsimp only
      cases governorOpsFor zc.governor with
      | none => exact .mk pid hpid
      | some ops =>
          cases ops with
          | stepWise => exact .mk pid hpid
          | pid =>
              obtain ⟨hnext, hout⟩ := hpid.step zr.shadowPid.kpQ16 zr.shadowPid.kiQ16
                zr.shadowPid.kdQ16 zr.shadowPid.dFilterAlphaQ16
                (i32 (zr.shadowPid.setpointMc + offset)) agg.tempMc now zr.shadowPid.dtMinMs
                zr.shadowPid.dtMaxMs 0 255
              unfold Governor.evaluate governorEvalPid
              dsimp only
              rw [hout]
              exact .mk _ hnext

end records

/-! ## What the stages read -/

section reads

variable {k : Nat} {core core' : Core}

/-- The context value that the modifiers read is the same. -/
theorem effectiveContext_shifted {cr cr' : ContextRuntime} (h : ContextShifted k cr cr')
    (cc : ContextCfg) : effectiveContext cc cr' = effectiveContext cc cr := by
  cases h with
  | mk t ht => rfl

/-- A zone's severity is the same. -/
theorem zoneMaxSeverity_shifted {zr zr' : ZoneRuntime} (h : ZoneShifted k zr zr') (zc : ZoneCfg) :
    zoneMaxSeverity zr' zc = zoneMaxSeverity zr zc := by
  cases h with
  | mk pid hpid => rfl

/-- The severity that an actuator sees is the same. -/
theorem actuatorMaxSeverity_shifted (h : CoreShifted k core core') (cfg : Config) (a : Nat) :
    actuatorMaxSeverity cfg core' a = actuatorMaxSeverity cfg core a := by
  unfold actuatorMaxSeverity
  apply Loop.fold_congr
  intro z _ sev
  dsimp only
  rw [zoneMaxSeverity_shifted (h.zones z)]

/-- The demands on an actuator are the same. -/
theorem actuatorDemands_shifted (h : CoreShifted k core core') (cfg : Config) (a : Nat) :
    actuatorDemands cfg core' a = actuatorDemands cfg core a := by
  have hdemand (ops : Governor) (z : Nat) : ops.actuatorDemand (core'.zones.slot z) (cfg.actuators.slot a) =
      ops.actuatorDemand (core.zones.slot z) (cfg.actuators.slot a) := by
    have hz := h.zones z
    generalize core'.zones.slot z = zr' at hz
    cases hz with
    | mk pid hpid => cases ops <;> rfl
  unfold actuatorDemands
  simp only [hdemand]

/-- The offset on the trips is the same. -/
theorem tripOffsetMc_shifted (h : CoreShifted k core core') (cfg : Config) :
    tripOffsetMc cfg core' = tripOffsetMc cfg core := by
  unfold tripOffsetMc
  rw [h.modifiers]

/-- The context that the stuck-sensor detector correlates with is the same. -/
theorem correlatedContext_shifted (h : CoreShifted k core core') (cfg : Config) :
    correlatedContext cfg core' = correlatedContext cfg core := by
  have hfilter (c : Nat) : (core'.contexts.slot c).filter = (core.contexts.slot c).filter := by
    have hc := h.contexts c
    generalize core'.contexts.slot c = cr' at hc
    cases hc with
    | mk t ht => rfl
  unfold correlatedContext
  simp only [hfilter]

/-- A zone's aggregate is the same. -/
theorem zoneAggregate_shifted (h : CoreShifted k core core') (cfg : Config) (z : Nat) :
    zoneAggregate cfg core' z = zoneAggregate cfg core z := by
  have hmask : zoneStuckMask cfg core' z = zoneStuckMask cfg core z := by
    unfold zoneStuckMask
    simp only [(h.stuckSensorStates _).fsm.state]
  have hslots : (core'.zones.slot z).sensorSlots = (core.zones.slot z).sensorSlots := by
    have hz := h.zones z
    generalize core'.zones.slot z = zr' at hz
    cases hz with
    | mk pid hpid => rfl
  unfold zoneAggregate zoneReadings
  dsimp only
  rw [hmask, hslots, h.filters]

end reads

/-! ## Callbacks -/

section calls

variable {k : Nat} (cb : Callbacks)

/-- Logging `k` ms later is the same call with its timestamp shifted. -/
theorem log_shiftMs (ts : Nat) (code : EventCode) (a1 a2 a3 a4 : Nat) :
    cb.log (shiftMs k ts) code a1 a2 a3 a4 = (cb.log ts code a1 a2 a3 a4).map (Call.shift k) := by
  unfold Callbacks.log
  split <;> rfl

/-- The events of one detector on one step. -/
theorem detectorCalls_shifted {f f' g g' : Fsm} (hprev : FsmShifted k f f') (hnew : FsmShifted k g g')
    (kind : FaultType) (target action now : Nat) :
    emitFaultTransition cb kind target f'.state g'.state (shiftMs k now) ++
        emitShutdownRequest cb kind target f'.state g'.state action (shiftMs k now) =
      (emitFaultTransition cb kind target f.state g.state now ++
        emitShutdownRequest cb kind target f.state g.state action now).map (Call.shift k) := by
  have htransition : emitFaultTransition cb kind target f.state g.state (shiftMs k now) =
      (emitFaultTransition cb kind target f.state g.state now).map (Call.shift k) := by
    unfold emitFaultTransition
    cases faultTransitionCode f.state g.state with
    | none => rfl
    | some code => exact log_shiftMs cb now code _ _ _ _
  rw [hprev.state, hnew.state, List.map_append, htransition]
  congr 1
  unfold emitShutdownRequest
  split
  · exact log_shiftMs cb now _ _ _ _ _
  · rfl

/-- The runaway detector's calls are the same, with their timestamps shifted. -/
theorem runawayCalls_shifted {rr rr' ss ss' : RunawayRuntime} (hprev : RunawayShifted k rr rr')
    (hnew : RunawayShifted k ss ss') (fc : FaultDetectorCfg) (z now : Nat) :
    runawayCalls cb fc z rr' ss' (shiftMs k now) =
      (runawayCalls cb fc z rr ss now).map (Call.shift k) := by
  have hescalated : rr'.escalatedShutdown = rr.escalatedShutdown := by
    cases hprev with
    | mk fsm hfsm => rfl
  have hescalates : runawayEscalates fc ss'.detector.fsm ss'.latchedActiveTicks =
      runawayEscalates fc ss.detector.fsm ss.latchedActiveTicks := by
    have hticks : ss'.latchedActiveTicks = ss.latchedActiveTicks := by
      cases hnew with
      | mk fsm hfsm => rfl
    unfold runawayEscalates
    rw [hticks, hnew.fsm.state]
  unfold runawayCalls
  rw [detectorCalls_shifted cb hprev.fsm hnew.fsm, hescalated, hescalates]
  simp only [List.map_append]
  congr 1
  split
  · exact log_shiftMs cb now _ _ _ _ _
  · rfl

/-- The calls about a zone's fallback are the same, with their timestamps shifted. -/
theorem zoneFallbackCalls_shifted {zr zr' : ZoneRuntime} (h : ZoneShifted k zr zr') (z : Nat)
    (zc : ZoneCfg) (agg : ZoneAggregateResult) (now : Nat) :
    zoneFallbackCalls cb z zc zr' agg (shiftMs k now) =
      (zoneFallbackCalls cb z zc zr agg now).map (Call.shift k) := by
  cases h with
  | mk pid hpid =>
      unfold zoneFallbackCalls
      dsimp only
      split
      · exact log_shiftMs cb now _ _ _ _ _
      · rfl

end calls

/-! ## Stages -/

/-- Two passes at one point of the step. -/
structure PassShifted (k : Nat) (p p' : Pass) : Prop where
  core : CoreShifted k p.core p'.core
  ticks : p'.ticks = p.ticks
  calls : p'.calls = p.calls.map (Call.shift k)

section stages

variable {k : Nat} {cfg : Config} {cb : Callbacks} {inp : InputSnapshot}

/-- Calls appended by a loop whose bodies emit the shifted calls. -/
theorem calls_shifted {calls calls' : List Call} (h : calls' = calls.map (Call.shift k)) {count : Nat}
    {f f' : Nat → List Call} (hf : ∀ i < count, f' i = (f i).map (Call.shift k)) :
    calls' ++ Loop.emit count f' = (calls ++ Loop.emit count f).map (Call.shift k) := by
  rw [List.map_append, Loop.map_emit, h, Loop.emit_congr hf]

/-- Clearing the modifiers' outputs keeps the shift. -/
theorem clearModifierOutputs_shifted {core core' : Core} (h : CoreShifted k core core') :
    CoreShifted k (clearModifierOutputs core) (clearModifierOutputs core') := by
  refine { h with contexts := ?_, modifiers := ?_ }
  · refine Vector.slot_forSlots_pair h.contexts fun c _ => ?_
    have hc := h.contexts c
    generalize core'.contexts.slot c = cr' at hc
    cases hc with
    | mk t ht => exact .mk t ht
  · unfold clearModifierOutputs
    dsimp only
    rw [h.modifiers]

/-- Evaluating the modifiers keeps the shift. -/
theorem step5ModifierEval_shifted {core core' : Core} (h : CoreShifted k core core') :
    CoreShifted k (step5ModifierEval cfg core) (step5ModifierEval cfg core') := by
  have hclear := clearModifierOutputs_shifted h
  unfold step5ModifierEval
  dsimp only
  rw [hclear.modifiers]
  split
  · exact hclear
  · cases findContextSlot cfg ((clearModifierOutputs core).modifiers.slot 0).shadow.contextId with
    | none => exact hclear
    | some ctxSlot =>
        dsimp only
        rw [effectiveContext_shifted (hclear.contexts ctxSlot)]
        refine { hclear with contexts := ?_, modifiers := ?_ }
        · refine Vector.slot_edit_pair hclear.contexts ctxSlot ?_
          have hc := hclear.contexts ctxSlot
          generalize (clearModifierOutputs core').contexts.slot ctxSlot = cr' at hc
          cases hc with
          | mk t ht => exact .mk t ht
        · rfl

/-- The sensing stages keep the shift. -/
theorem senseCore_shifted {core core' : Core} (h : CoreShifted k core core') :
    CoreShifted k (senseCore cfg inp core) (senseCore cfg (inp.shift k) core') := by
  apply step5ModifierEval_shifted
  refine { h with filters := ?_, contexts := ?_, actuators := ?_ }
  · unfold step4ContextFilters step3bTach step3SensorFilters
    simp only [find_shift, h.filters]
  · refine Vector.slot_forSlots_pair h.contexts fun c _ => ?_
    dsimp only
    rw [find_shift]
    exact (h.contexts c).step _ _ _
  · unfold step4ContextFilters step3bTach step3SensorFilters
    simp only [find_shift, h.actuators]

/-- The stuck-sensor pre-pass keeps the shift. -/
theorem stuckSensorPrepass_shifted {p p' : Pass} (h : PassShifted k p p') :
    PassShifted k (stuckSensorPrepass cfg cb inp p) (stuckSensorPrepass cfg cb (inp.shift k) p') := by
  let step (now s : Nat) (st : StuckSensorState) : StuckSensorState :=
    thermalFaultStuckSensorStep st cfg.faults.stuckSensorDefaults (p.core.filters.slot s).filteredValue
      (p.core.filters.slot s).valid (correlatedContext cfg p.core).1 (correlatedContext cfg p.core).2 now
  have hstates (s : Nat) : StuckShifted k
      ((p.core.stuckSensorStates.forSlots cfg.sensorCount (step inp.nowMs)).slot s)
      ((p'.core.stuckSensorStates.forSlots cfg.sensorCount (step (shiftMs k inp.nowMs))).slot s) :=
    Vector.slot_forSlots_pair h.core.stuckSensorStates
      (fun s _ => (h.core.stuckSensorStates s).step _ _ _ _ _ _) s
  unfold stuckSensorPrepass
  dsimp only
  rw [correlatedContext_shifted h.core, h.core.filters]
  split
  · exact h
  · refine ⟨{ h.core with filters := rfl, stuckSensorStates := hstates }, h.ticks, calls_shifted h.calls ?_⟩
    intro s _
    exact detectorCalls_shifted cb (h.core.stuckSensorStates s).fsm (hstates s).fsm _ _ _ _

/-- The zones' stage keeps the shift. -/
theorem step6Zones_shifted {p p' : Pass} (h : PassShifted k p p') :
    PassShifted k (step6Zones cfg cb inp p) (step6Zones cfg cb (inp.shift k) p') := by
  unfold step6Zones
  refine ⟨{ h.core with zones := ?_ }, h.ticks, calls_shifted h.calls ?_⟩
  · refine Vector.slot_forSlots_pair h.core.zones fun z _ => ?_
    rw [zoneAggregate_shifted h.core, tripOffsetMc_shifted h.core]
    exact (h.core.zones z).step _ _ _ _
  · intro z _
    rw [zoneAggregate_shifted h.core]
    exact zoneFallbackCalls_shifted cb (h.core.zones z) _ _ _ _

/-- Arbitration keeps the shift. -/
theorem step7Arbitrate_shifted {p p' : Pass} (h : PassShifted k p p') :
    PassShifted k (step7Arbitrate cfg p) (step7Arbitrate cfg p') := by
  unfold step7Arbitrate
  refine ⟨{ h.core with actuators := ?_ }, ?_, h.calls⟩
  · simp only [h.core.actuators, actuatorDemands_shifted h.core]
  · simp only [h.ticks, actuatorDemands_shifted h.core]

/-- The cap keeps the shift. -/
theorem step8PwmCap_shifted {p p' : Pass} (h : PassShifted k p p') :
    PassShifted k (step8PwmCap cfg p) (step8PwmCap cfg p') := by
  have hcap (ac : ActuatorCfg) : pwmCapFor cfg p'.core ac = pwmCapFor cfg p.core ac := by
    unfold pwmCapFor
    rw [h.core.modifiers]
  unfold step8PwmCap
  refine ⟨h.core, ?_, h.calls⟩
  simp only [h.ticks, actuatorMaxSeverity_shifted h.core, hcap]

/-- Recording the severities keeps the shift. -/
theorem stepSeverity_shifted {p p' : Pass} (h : PassShifted k p p') :
    PassShifted k (stepSeverity cfg p) (stepSeverity cfg p') := by
  unfold stepSeverity
  refine ⟨h.core, ?_, h.calls⟩
  simp only [h.ticks]

/-- Everything up to the requests keeps the shift. -/
theorem passRequests_shifted {core core' : Core} (h : CoreShifted k core core') :
    PassShifted k (passRequests cfg cb inp core) (passRequests cfg cb (inp.shift k) core') := by
  have hstart : PassShifted k (Pass.start (senseCore cfg inp core))
      (Pass.start (senseCore cfg (inp.shift k) core')) := ⟨senseCore_shifted h, rfl, rfl⟩
  have hzones : PassShifted k (passZones cfg cb inp core) (passZones cfg cb (inp.shift k) core') :=
    step6Zones_shifted (stuckSensorPrepass_shifted hstart)
  exact stepSeverity_shifted (step8PwmCap_shifted (step7Arbitrate_shifted hzones))

/-- The stall detectors' stage keeps the shift. -/
theorem stepStall_shifted {p p' : Pass} (h : PassShifted k p p') :
    PassShifted k (stepStall cfg cb inp p) (stepStall cfg cb (inp.shift k) p') := by
  let step (now a : Nat) (st : StallState) : StallState :=
    thermalFaultStallStep st cfg.faults.stallDefaults (p.ticks.slot a).arbPwm
      (p.core.actuators.slot a).tachRpm (p.core.actuators.slot a).tachValid
      (spinupTicks cfg (cfg.actuators.slot a)) now
  have hstates (a : Nat) : StallShifted k
      ((p.core.stallStates.forSlots cfg.actuatorCount (step inp.nowMs)).slot a)
      ((p'.core.stallStates.forSlots cfg.actuatorCount (step (shiftMs k inp.nowMs))).slot a) :=
    Vector.slot_forSlots_pair h.core.stallStates
      (fun a _ => (h.core.stallStates a).step _ _ _ _ _ _) a
  unfold stepStall
  dsimp only
  rw [h.ticks, h.core.actuators]
  split
  · exact ⟨h.core, h.ticks, h.calls⟩
  · refine ⟨{ h.core with actuators := rfl, stallStates := hstates }, ?_, calls_shifted h.calls ?_⟩
    · dsimp only
      apply Vector.forSlots_congr
      intro a _ _
      exact congrArg (fun state => ActuatorTick.respond .stall
        (detectorResponse state cfg.faults.stallDefaults.action false) (p.ticks.slot a))
        (hstates a).fsm.state
    · intro a _
      exact detectorCalls_shifted cb (h.core.stallStates a).fsm (hstates a).fsm _ _ _ _

/-- The runaway detectors' stage keeps the shift. -/
theorem stepRunaway_shifted {p p' : Pass} (h : PassShifted k p p') :
    PassShifted k (stepRunaway cfg cb inp p) (stepRunaway cfg cb (inp.shift k) p') := by
  let fc := cfg.faults.runawayDefaults
  let step (zones : Vector ZoneRuntime maxZones) (now z : Nat) (rr : RunawayRuntime) : RunawayRuntime :=
    runawayZoneStep cb fc rr (zones.slot z).tempMc (zoneRepPwm cfg p.ticks (cfg.zones.slot z)) now
  have htemp (z : Nat) : (p'.core.zones.slot z).tempMc = (p.core.zones.slot z).tempMc := by
    have hz := h.core.zones z
    generalize p'.core.zones.slot z = zr' at hz
    cases hz with
    | mk pid hpid => rfl
  have hstates (z : Nat) : RunawayShifted k
      ((p.core.runaways.forSlots cfg.zoneCount (step p.core.zones inp.nowMs)).slot z)
      ((p'.core.runaways.forSlots cfg.zoneCount (step p'.core.zones (shiftMs k inp.nowMs))).slot z) := by
    refine Vector.slot_forSlots_pair h.core.runaways (fun z _ => ?_) z
    simp only [step, htemp]
    exact (h.core.runaways z).step _ _ _ _ _
  have hresponse (z : Nat) : runawayResponse fc
      ((p'.core.runaways.forSlots cfg.zoneCount (step p'.core.zones (shiftMs k inp.nowMs))).slot z) =
      runawayResponse fc
        ((p.core.runaways.forSlots cfg.zoneCount (step p.core.zones inp.nowMs)).slot z) := by
    have hz := hstates z
    generalize (p'.core.runaways.forSlots cfg.zoneCount
      (step p'.core.zones (shiftMs k inp.nowMs))).slot z = rr' at hz ⊢
    cases hz with
    | mk fsm hfsm =>
        unfold runawayResponse runawayEscalates
        dsimp only
        rw [hfsm.state]
  unfold stepRunaway
  dsimp only
  rw [h.ticks]
  split
  · exact ⟨h.core, h.ticks, h.calls⟩
  · refine ⟨{ h.core with runaways := hstates }, ?_, calls_shifted h.calls ?_⟩
    · dsimp only
      apply Loop.fold_congr
      intro z _ ticks
      exact congrArg (fun r => respondSlots .runaway r (zoneActuatorSlots cfg (cfg.zones.slot z)) ticks)
        (hresponse z)
    · intro z _
      exact runawayCalls_shifted cb (h.core.runaways z) (hstates z) _ _ _

/-- The stale-context detectors' stage keeps the shift. -/
theorem stepStaleContext_shifted {p p' : Pass} (h : PassShifted k p p') :
    PassShifted k (stepStaleContext cfg cb inp p) (stepStaleContext cfg cb (inp.shift k) p') := by
  let fc := cfg.faults.staleContextDefaults
  let step (contexts : Vector ContextRuntime maxContextSignals) (now c : Nat) (st : StaleContextState) :
      StaleContextState :=
    thermalFaultStaleContextStep st fc (msSinceLastValid (contexts.slot c) now)
      (cfg.contexts.slot c).timeoutMs now
  have hstates (c : Nat) : StaleShifted k
      ((p.core.staleContextStates.forSlots cfg.contextCount (step p.core.contexts inp.nowMs)).slot c)
      ((p'.core.staleContextStates.forSlots cfg.contextCount
        (step p'.core.contexts (shiftMs k inp.nowMs))).slot c) := by
    refine Vector.slot_forSlots_pair h.core.staleContextStates (fun c _ => ?_) c
    simp only [step, msSinceLastValid_shifted (h.core.contexts c)]
    exact (h.core.staleContextStates c).step _ _ _ _
  unfold stepStaleContext
  dsimp only
  rw [h.ticks]
  split
  · exact ⟨h.core, h.ticks, h.calls⟩
  · refine ⟨{ h.core with staleContextStates := hstates }, ?_, calls_shifted h.calls ?_⟩
    · dsimp only
      apply Loop.fold_congr
      intro c _ ticks
      exact congrArg (fun state => respondSlots .staleContext (detectorResponse state fc.action false)
        (List.range cfg.actuatorCount) ticks) (hstates c).fsm.state
    · intro c _
      exact detectorCalls_shifted cb (h.core.staleContextStates c).fsm (hstates c).fsm _ _ _ _

/-- The stuck sensors' actions keep the shift. -/
theorem stepStuckActions_shifted {p p' : Pass} (h : PassShifted k p p') :
    PassShifted k (stepStuckActions cfg p) (stepStuckActions cfg p') := by
  unfold stepStuckActions
  dsimp only
  split
  · exact h
  · refine ⟨h.core, ?_, h.calls⟩
    simp only [h.ticks, (h.core.stuckSensorStates _).fsm.state]

/-- The zones' shutdown requests keep the shift. -/
theorem stepZoneShutdown_shifted {p p' : Pass} (h : PassShifted k p p') :
    PassShifted k (stepZoneShutdown cfg cb inp p) (stepZoneShutdown cfg cb (inp.shift k) p') := by
  have hsev (z : Nat) : zoneMaxSeverity (p'.core.zones.slot z) (cfg.zones.slot z) =
      zoneMaxSeverity (p.core.zones.slot z) (cfg.zones.slot z) :=
    zoneMaxSeverity_shifted (h.core.zones z) _
  unfold stepZoneShutdown
  refine ⟨{ h.core with shutdownRequestLatched := ?_, prevZoneMaxSeverity := ?_ }, h.ticks,
    calls_shifted h.calls ?_⟩
  · simp only [hsev, h.core.shutdownRequestLatched]
  · simp only [hsev, h.core.prevZoneMaxSeverity]
  · intro z _
    simp only [hsev, h.core.prevZoneMaxSeverity]
    split
    · exact log_shiftMs cb inp.nowMs _ _ _ _ _
    · rfl

/-- The shutdown latch keeps the shift. -/
theorem stepShutdownLatch_shifted {p p' : Pass} (h : PassShifted k p p') :
    PassShifted k (stepShutdownLatch cfg p) (stepShutdownLatch cfg p') := by
  unfold stepShutdownLatch
  refine ⟨{ h.core with shutdownRequestLatched := ?_ }, h.ticks, h.calls⟩
  simp only [h.ticks, h.core.shutdownRequestLatched]

/-- Forcing the duties keeps the shift. -/
theorem stepForceMax_shifted {p p' : Pass} (h : PassShifted k p p') :
    PassShifted k (stepForceMax cfg cb inp p) (stepForceMax cfg cb (inp.shift k) p') := by
  unfold stepForceMax
  refine ⟨h.core, ?_, calls_shifted h.calls ?_⟩
  · simp only [h.ticks]
  · intro a _
    dsimp only
    rw [h.ticks, h.core.actuators]
    split
    · exact log_shiftMs cb inp.nowMs _ _ _ _ _
    · rfl

/-- Fan health keeps the shift: it keeps no time. -/
theorem stepFanHealth_shifted {p p' : Pass} (h : PassShifted k p p') :
    PassShifted k (stepFanHealth cfg p) (stepFanHealth cfg p') := by
  unfold stepFanHealth
  refine ⟨{ h.core with fanHealthStates := ?_ }, h.ticks, h.calls⟩
  simp only [h.ticks, h.core.actuators, h.core.fanHealthStates]

/-- Everything before the actuators keeps the shift. -/
theorem passDecided_shifted {core core' : Core} (h : CoreShifted k core core') :
    PassShifted k (passDecided cfg cb inp core) (passDecided cfg cb (inp.shift k) core') := by
  have hdetectors : PassShifted k (passDetectors cfg cb inp core)
      (passDetectors cfg cb (inp.shift k) core') :=
    stepStuckActions_shifted (stepStaleContext_shifted (stepRunaway_shifted
      (stepStall_shifted (passRequests_shifted h))))
  exact stepFanHealth_shifted (stepForceMax_shifted (stepShutdownLatch_shifted
    (stepZoneShutdown_shifted hdetectors)))

end stages

/-! ## The whole step -/

section observe

variable {k : Nat} {core core' : Core} (h : CoreShifted k core core')

include h

/-- The zones differ in their PID states only. -/
theorem CoreShifted.zones_eq : ∃ pid : Nat → PidState,
    ∀ z, core'.zones.slot z = { core.zones.slot z with pid := pid z } := by
  have hone (z : Nat) : ∃ pid, core'.zones.slot z = { core.zones.slot z with pid := pid } := by
    have hz := h.zones z
    generalize core'.zones.slot z = zr' at hz
    cases hz with
    | mk pid hpid => exact ⟨pid, rfl⟩
  choose pid hpid using hone
  exact ⟨pid, hpid⟩

/-- The contexts differ in one time only. -/
theorem CoreShifted.contexts_eq : ∃ t : Nat → Nat,
    ∀ c, core'.contexts.slot c = { core.contexts.slot c with lastValidMs := t c } := by
  have hone (c : Nat) : ∃ t, core'.contexts.slot c = { core.contexts.slot c with lastValidMs := t } := by
    have hc := h.contexts c
    generalize core'.contexts.slot c = cr' at hc
    cases hc with
    | mk t ht => exact ⟨t, rfl⟩
  choose t ht using hone
  exact ⟨t, ht⟩

/-- A telemetry sample's value is the same. -/
theorem dispatchSignalValue_shifted (cfg : Config) (sig : Nat) :
    dispatchSignalValue cfg core' sig = dispatchSignalValue cfg core sig := by
  obtain ⟨pid, hzones⟩ := h.zones_eq
  obtain ⟨t, hcontexts⟩ := h.contexts_eq
  unfold dispatchSignalValue
  simp only [hzones, hcontexts, h.actuators, h.modifiers, h.fanHealthStates,
    (h.stallStates _).fsm.state, (h.stuckSensorStates _).fsm.state, (h.runaways _).fsm.state,
    (h.staleContextStates _).fsm.state]

/-- The samples are the same, with their timestamps shifted. -/
theorem telemetryCalls_shifted (cfg : Config) (cb : Callbacks) (now : Nat) :
    telemetryCalls cfg cb core' (shiftMs k now) =
      (telemetryCalls cfg cb core now).map (Call.shift k) := by
  unfold telemetryCalls
  rw [h.tickCount]
  split
  · rw [Loop.map_emit]
    apply Loop.emit_congr
    intro i _
    dsimp only
    rw [dispatchSignalValue_shifted h]
    cases dispatchSignalValue cfg core (cfg.telemetry.enabledSignalIds.slot i) <;> rfl
  · rfl

end observe

section step

variable {k : Nat} {cfg : Config} {cb : Callbacks} {core core' : Core} {inp : InputSnapshot}

/-- Whether a snapshot is refused does not depend on its time. -/
theorem preflightSnapshot_shift (k : Nat) (cfg : Config) (inp : InputSnapshot) :
    preflightSnapshot cfg (inp.shift k) = preflightSnapshot cfg inp := by
  obtain ⟨nowMs, sampleCount, samples⟩ := inp
  cases samples <;> rfl

/-- An accepted step: the cores stay related, the frames are equal, and the calls
differ in their times. -/
theorem passDone_shifted (h : CoreShifted k core core') :
    CoreShifted k (passDone cfg cb inp core).core (passDone cfg cb (inp.shift k) core').core ∧
      (∀ out, outputFrame cfg (passDecided cfg cb (inp.shift k) core') out =
        outputFrame cfg (passDecided cfg cb inp core) out) ∧
      (passDone cfg cb (inp.shift k) core').calls =
        (passDone cfg cb inp core).calls.map (Call.shift k) := by
  have hdecided := @passDecided_shifted k cfg cb inp core core' h
  unfold passDone
  generalize passDecided cfg cb inp core = p at hdecided ⊢
  generalize passDecided cfg cb (inp.shift k) core' = p' at hdecided ⊢
  have hdriven : PassShifted k (step10Drive cfg p) (step10Drive cfg p') := by
    unfold step10Drive
    refine ⟨{ hdecided.core with actuators := ?_ }, hdecided.ticks, hdecided.calls⟩
    simp only [hdecided.ticks, hdecided.core.actuators]
  refine ⟨?_, fun out => ?_, ?_⟩
  · unfold step11Telemetry
    refine { hdriven.core with tickCount := ?_ }
    dsimp only
    rw [hdriven.core.tickCount]
  · unfold outputFrame
    rw [hdecided.ticks, hdecided.core.actuators]
  · unfold step11Telemetry
    dsimp only
    rw [List.map_append, hdriven.calls]
    exact congrArg _ (telemetryCalls_shifted hdriven.core cfg cb inp.nowMs)

end step

end ThermalCore
