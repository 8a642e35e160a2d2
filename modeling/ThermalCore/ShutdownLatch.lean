import ThermalCore.FaultEvents

/-!
# Shutdown requests and the shutdown latch

A shutdown request is an event and a latched flag.  The events are emitted where
the request arises, by a zone, a detector or the runaway escalation; the latch
is set afterwards from the zones and from the marks on actuators.  The two agree
along a run unless a detector that concerns no actuator requests a shutdown.

The first half finds, for one step, exactly when each of the two happens; the second
carries along a run that the latch is set when a request was emitted.  A detector's
request reaches the latch through the marks on the actuators of its zones, so one
whose target no zone lists emits and does not latch: the orphan of the last section.
-/

namespace ThermalCore

open MachineInt Check

/-! ## Shutdown events -/

/-- An event that asks for a shutdown. -/
def Call.requestsShutdown : Call → Bool
  | .logEvent _ code _ _ _ _ => decide (code = .shutdownRequest)
  | .telemetryEmit _ _ _ => false

/-- Some callback requests a shutdown. -/
def Requested (calls : List Call) : Prop := ∃ c ∈ calls, c.requestsShutdown = true

instance (calls : List Call) : Decidable (Requested calls) :=
  inferInstanceAs (Decidable (∃ _ ∈ _, _))

section requested

variable {cb : Callbacks} {calls xs ys : List Call}

/-- No callbacks, no request. -/
@[simp] theorem requested_nil : ¬Requested [] := by simp [Requested]

/-- A request in either part. -/
@[simp] theorem requested_append : Requested (xs ++ ys) ↔ Requested xs ∨ Requested ys := by
  unfold Requested
  simp only [List.mem_append, or_and_right, exists_or]

/-- A request in one of the rounds of a loop. -/
@[simp] theorem requested_emit {count : Nat} {f : Nat → List Call} :
    Requested (Loop.emit count f) ↔ ∃ i < count, Requested (f i) := by
  unfold Requested
  simp only [Loop.mem_emit]
  constructor
  · rintro ⟨c, ⟨i, hi, hc⟩, hreq⟩
    exact ⟨i, hi, c, hc, hreq⟩
  · rintro ⟨i, hi, c, hc, hreq⟩
    exact ⟨c, ⟨i, hi, hc⟩, hreq⟩

/-- A request behind a test. -/
@[simp] theorem requested_ite {p : Prop} [Decidable p] :
    Requested (if p then xs else []) ↔ p ∧ Requested xs := by
  by_cases hp : p <;> simp [hp]

/-- Logging asks for a shutdown when the event does and there is a callback. -/
theorem requested_log {code : EventCode} {ts a1 a2 a3 a4 : Nat} :
    Requested (cb.log ts code a1 a2 a3 a4) ↔ cb.logEvent = true ∧ code = .shutdownRequest := by
  unfold Callbacks.log
  cases cb.logEvent with
  | false => simp
  | true => simp [Requested, Call.requestsShutdown]

/-- A detector's transition is no request. -/
theorem not_requested_emitFaultTransition {kind : FaultType} {id now : Nat} {prev new : FaultState} :
    ¬Requested (emitFaultTransition cb kind id prev new now) := by
  unfold emitFaultTransition faultTransitionCode
  split
  · exact requested_nil
  · next code hcode =>
      rw [requested_log]
      rintro ⟨-, rfl⟩
      split at hcode
      · cases hcode
      · split at hcode
        · cases hcode
        · split at hcode
          · cases hcode
          · split at hcode <;> cases hcode

/-- A sample is no request. -/
theorem not_requested_telemetryCalls {cfg : Config} {core : Core} {now : Nat} :
    ¬Requested (telemetryCalls cfg cb core now) := by
  unfold telemetryCalls
  rw [requested_ite, requested_emit]
  rintro ⟨-, i, -, c, hc, hreq⟩
  dsimp only at hc
  split at hc
  · rw [List.mem_singleton] at hc
    subst hc
    cases hreq
  · cases hc

/-- A fallback is no request. -/
theorem not_requested_zoneFallbackCalls {z now : Nat} {zc : ZoneCfg} {zr : ZoneRuntime}
    {agg : ZoneAggregateResult} : ¬Requested (zoneFallbackCalls cb z zc zr agg now) := by
  unfold zoneFallbackCalls
  rw [requested_ite, requested_log]
  rintro ⟨-, -, hcode⟩
  split at hcode <;> cases hcode

end requested

/-! ## The requests of a step -/

/-- A detector of this kind asks for a shutdown as its state changes. -/
def RequestsAt (cfg : Config) (kind : FaultType) (prev new : FaultState) : Prop :=
  prev = .normal ∧ new ≠ .normal ∧ (detectorCfg cfg kind).action = FaultAction.requestShutdown.code

/-- A zone's runaway detector escalates and has not said so yet. -/
def EscalatesAt (cfg : Config) (prev new : RunawayRuntime) : Prop :=
  cfg.faults.runawayDefaults.enabled ≠ 0 ∧
    runawayEscalates cfg.faults.runawayDefaults new.detector.fsm new.latchedActiveTicks = true ∧
    prev.escalatedShutdown = false

section stages

variable {cfg : Config} {cb : Callbacks} {inp : InputSnapshot} {p : Pass}

/-- A detector that stays in its state requests nothing. -/
theorem not_requestsAt_self {kind : FaultType} {state : FaultState} : ¬RequestsAt cfg kind state state :=
  fun h => h.2.1 h.1

/-- A detector requests on entering its fault, when that is its action. -/
theorem requested_emitShutdownRequest (hlog : cb.logEvent = true) {kind : FaultType} {id now : Nat}
    {prev new : FaultState} :
    Requested (emitShutdownRequest cb kind id prev new (detectorCfg cfg kind).action now) ↔
      RequestsAt cfg kind prev new := by
  unfold emitShutdownRequest RequestsAt faultStateActive
  rw [requested_ite, requested_log]
  simp [hlog]

/-- A stage that runs the detectors of one kind, one loop entry each. -/
theorem requested_family (hlog : cb.logEvent = true) {kind : FaultType} {count now : Nat}
    {id : Nat → Nat} {prev new : Nat → FaultState} :
    Requested (Loop.emit count fun i =>
        emitFaultTransition cb kind (id i) (prev i) (new i) now ++
          emitShutdownRequest cb kind (id i) (prev i) (new i) (detectorCfg cfg kind).action now) ↔
      ∃ i < count, RequestsAt cfg kind (prev i) (new i) := by
  simp only [requested_emit, requested_append, not_requested_emitFaultTransition, false_or,
    requested_emitShutdownRequest hlog]

/-- What a stage that runs the detectors of one kind requests. -/
def StageRequests (cfg : Config) (kind : FaultType) (p p' : Pass) : Prop :=
  Requested p'.calls ↔ Requested p.calls ∨ ∃ i < detectorCount cfg kind,
    RequestsAt cfg kind (detectorFsm p.core kind i).state (detectorFsm p'.core kind i).state

/-- A stage that does nothing requests nothing. -/
theorem StageRequests.refl (kind : FaultType) (p : Pass) : StageRequests cfg kind p p := by
  unfold StageRequests
  simp only [not_requestsAt_self, and_false, exists_false, or_false]

/-- What the stuck-sensor detectors request. -/
theorem stuckSensorPrepass_requests (hlog : cb.logEvent = true) (inp : InputSnapshot) (p : Pass) :
    StageRequests cfg .stuckSensor p (stuckSensorPrepass cfg cb inp p) := by
  unfold stuckSensorPrepass
  dsimp only
  split
  · exact .refl _ _
  · exact requested_append.trans (or_congr_right (requested_family hlog))

/-- What the stall detectors request. -/
theorem stepStall_requests (hlog : cb.logEvent = true) (inp : InputSnapshot) (p : Pass) :
    StageRequests cfg .stall p (stepStall cfg cb inp p) := by
  unfold stepStall
  dsimp only
  split
  · exact .refl _ _
  · exact requested_append.trans (or_congr_right (requested_family hlog))

/-- What the stale-context detectors request. -/
theorem stepStaleContext_requests (hlog : cb.logEvent = true) (inp : InputSnapshot) (p : Pass) :
    StageRequests cfg .staleContext p (stepStaleContext cfg cb inp p) := by
  unfold stepStaleContext
  dsimp only
  split
  · exact .refl _ _
  · exact requested_append.trans (or_congr_right (requested_family hlog))

/-- A runaway detector requests on entering its fault, or when it escalates. -/
theorem requested_runawayCalls (hlog : cb.logEvent = true) {z now : Nat} {prev new : RunawayRuntime} :
    Requested (runawayCalls cb cfg.faults.runawayDefaults z prev new now) ↔
      RequestsAt cfg .runaway prev.detector.fsm.state new.detector.fsm.state ∨
        (runawayEscalates cfg.faults.runawayDefaults new.detector.fsm new.latchedActiveTicks = true ∧
          prev.escalatedShutdown = false) := by
  have hdetector : Requested (emitShutdownRequest cb .runaway z prev.detector.fsm.state
      new.detector.fsm.state cfg.faults.runawayDefaults.action now) ↔
        RequestsAt cfg .runaway prev.detector.fsm.state new.detector.fsm.state :=
    requested_emitShutdownRequest hlog
  unfold runawayCalls
  rw [requested_append, requested_append, requested_ite, requested_log]
  simp only [not_requested_emitFaultTransition, false_or, hlog, and_true]
  exact or_congr_left hdetector

/-- The runaway stage also escalates. -/
theorem stepRunaway_requests (hlog : cb.logEvent = true) (inp : InputSnapshot) (p : Pass) :
    Requested (stepRunaway cfg cb inp p).calls ↔
      Requested p.calls ∨ ∃ z < cfg.zoneCount,
        RequestsAt cfg .runaway (detectorFsm p.core .runaway z).state
            (detectorFsm (stepRunaway cfg cb inp p).core .runaway z).state ∨
          EscalatesAt cfg (p.core.runaways.slot z)
            ((stepRunaway cfg cb inp p).core.runaways.slot z) := by
  unfold stepRunaway
  dsimp only
  split
  · next hoff =>
      unfold EscalatesAt
      simp only [hoff, ne_eq, not_true_eq_false, false_and, or_false, not_requestsAt_self, and_false,
        exists_false]
  · next hon =>
      refine requested_append.trans (or_congr_right ?_)
      unfold EscalatesAt
      simp only [requested_emit, requested_runawayCalls hlog, hon, ne_eq, not_false_eq_true, true_and]
      rfl

end stages

section step

variable {cfg : Config} {cb : Callbacks} {inp : InputSnapshot} {core : Core}

/-- What requests a shutdown on a step, read from the cores before and after it. -/
inductive StepRequests (cfg : Config) (core done : Core) : Prop where
  | detector (kind : FaultType) (i : Nat) (hi : i < detectorCount cfg kind)
      (h : RequestsAt cfg kind (detectorFsm core kind i).state (detectorFsm done kind i).state) :
      StepRequests cfg core done
  | escalation (z : Nat) (hz : z < cfg.zoneCount)
      (h : EscalatesAt cfg (core.runaways.slot z) (done.runaways.slot z)) : StepRequests cfg core done
  | zone (z : Nat) (hz : z < cfg.zoneCount)
      (hnow : TripSeverity.shutdown.code ≤ zoneMaxSeverity (done.zones.slot z) (cfg.zones.slot z))
      (hprev : core.prevZoneMaxSeverity.slot z < TripSeverity.shutdown.code) :
      StepRequests cfg core done

/-- Some detector of some family, written out. -/
theorem exists_detector {Q : FaultType → Nat → Prop} :
    (∃ kind i, i < detectorCount cfg kind ∧ Q kind i) ↔
      (((∃ s < cfg.sensorCount, Q .stuckSensor s) ∨ ∃ a < cfg.actuatorCount, Q .stall a) ∨
        ∃ z < cfg.zoneCount, Q .runaway z) ∨ ∃ c < cfg.contextCount, Q .staleContext c := by
  constructor
  · rintro ⟨kind, i, hi, h⟩
    cases kind with
    | stall => exact Or.inl (Or.inl (Or.inr ⟨i, hi, h⟩))
    | stuckSensor => exact Or.inl (Or.inl (Or.inl ⟨i, hi, h⟩))
    | runaway => exact Or.inl (Or.inr ⟨i, hi, h⟩)
    | staleContext => exact Or.inr ⟨i, hi, h⟩
  · rintro (((⟨i, hi, h⟩ | ⟨i, hi, h⟩) | ⟨i, hi, h⟩) | ⟨i, hi, h⟩)
    · exact ⟨.stuckSensor, i, hi, h⟩
    · exact ⟨.stall, i, hi, h⟩
    · exact ⟨.runaway, i, hi, h⟩
    · exact ⟨.staleContext, i, hi, h⟩

/-- The zones' stage adds no request. -/
theorem requested_passZones :
    Requested (passZones cfg cb inp core).calls ↔
      Requested (stuckSensorPrepass cfg cb inp (Pass.start (senseCore cfg inp core))).calls := by
  unfold passZones step6Zones
  rw [requested_append, requested_emit]
  simp only [not_requested_zoneFallbackCalls, and_false, exists_false, or_false]

/-- What a step's detectors request. -/
theorem requested_passDetectors (hlog : cb.logEvent = true) :
    Requested (passDetectors cfg cb inp core).calls ↔
      (∃ kind i, i < detectorCount cfg kind ∧
        RequestsAt cfg kind (detectorFsm core kind i).state
          (detectorFsm (passDone cfg cb inp core).core kind i).state) ∨
      ∃ z < cfg.zoneCount, EscalatesAt cfg (core.runaways.slot z)
        ((passDone cfg cb inp core).core.runaways.slot z) := by
  let p0 := passRequests cfg cb inp core
  let p1 := stepStall cfg cb inp p0
  let p2 := stepRunaway cfg cb inp p1
  have hstuckPrev : (Pass.start (senseCore cfg inp core)).core.stuckSensorStates =
      core.stuckSensorStates := senseCore_stuckSensorStates cfg inp core
  have hstallPrev : p0.core.stallStates = core.stallStates := passRequests_stallStates cfg cb inp core
  have hrunawayPrev : p1.core.runaways = core.runaways := stepStall_runaways cfg cb inp core
  have hstalePrev : p2.core.staleContextStates = core.staleContextStates :=
    stepRunaway_staleContextStates cfg cb inp core
  have hcalls : (passDetectors cfg cb inp core).calls = (stepStaleContext cfg cb inp p2).calls :=
    stepStuckActions_calls cfg _
  have hstuck : StageRequests cfg .stuckSensor _ _ :=
    stuckSensorPrepass_requests hlog inp (Pass.start (senseCore cfg inp core))
  have hstall : StageRequests cfg .stall p0 p1 := stepStall_requests hlog inp p0
  have hrunaway : Requested p2.calls ↔ _ := stepRunaway_requests hlog inp p1
  have hstale : StageRequests cfg .staleContext p2 _ := stepStaleContext_requests hlog inp p2
  have hzones : Requested p0.calls ↔
      Requested (stuckSensorPrepass cfg cb inp (Pass.start (senseCore cfg inp core))).calls :=
    requested_passZones
  have hstart : ¬Requested (Pass.start (senseCore cfg inp core)).calls := requested_nil
  unfold StageRequests detectorFsm detectorCount at hstuck hstall hstale
  unfold detectorFsm at hrunaway
  dsimp only at hstuck hstall hrunaway hstale
  rw [hstuckPrev, ← passDone_stuckSensorStates] at hstuck
  rw [hstallPrev, show p1.core.stallStates = _ from (passDone_stallStates cfg cb inp core).symm] at hstall
  rw [hrunawayPrev, show (stepRunaway cfg cb inp p1).core.runaways = _ from
    (passDone_runaways cfg cb inp core).symm] at hrunaway
  rw [hstalePrev, show (stepStaleContext cfg cb inp p2).core.staleContextStates = _ from
    (passDone_staleContextStates cfg cb inp core).symm] at hstale
  rw [hcalls, hstale, hrunaway, hstall, hzones, hstuck, exists_detector]
  simp only [hstart, false_or, detectorFsm, and_or_left, exists_or]
  exact (or_congr_left or_assoc.symm).trans or_right_comm

/-- **The shutdown events of a step.** -/
theorem requested_passDone (hlog : cb.logEvent = true) :
    Requested (passDone cfg cb inp core).calls ↔ StepRequests cfg core (passDone cfg cb inp core).core := by
  have hprev : (passDetectors cfg cb inp core).core.prevZoneMaxSeverity = core.prevZoneMaxSeverity := by
    rw [passDetectors_core, passRequests_core, passZones_core, senseCore_core]
  have hzones : (passDetectors cfg cb inp core).core.zones = (passDone cfg cb inp core).core.zones := by
    rw [passDone_zones, passDetectors_core, passRequests_core]
  have hdone : (passDone cfg cb inp core).calls =
      (passDecided cfg cb inp core).calls ++
        telemetryCalls cfg cb (step10Drive cfg (passDecided cfg cb inp core)).core inp.nowMs := rfl
  have hdecided : Requested (passDecided cfg cb inp core).calls ↔
      Requested (passDetectors cfg cb inp core).calls ∨ ∃ z < cfg.zoneCount,
        zoneMaxSeverity ((passDone cfg cb inp core).core.zones.slot z) (cfg.zones.slot z) ≥
            TripSeverity.shutdown.code ∧
          core.prevZoneMaxSeverity.slot z < TripSeverity.shutdown.code := by
    rw [← hprev, ← hzones]
    unfold passDecided stepFanHealth stepForceMax stepShutdownLatch stepZoneShutdown
    simp only [requested_append, requested_emit, requested_ite, requested_log, hlog, and_true,
      reduceCtorEq, and_false, exists_false, or_false]
  rw [hdone, requested_append, hdecided, requested_passDetectors hlog]
  simp only [not_requested_telemetryCalls, or_false]
  constructor
  · rintro ((⟨kind, i, hi, h⟩ | ⟨z, hz, h⟩) | ⟨z, hz, hnow, hbefore⟩)
    · exact .detector kind i hi h
    · exact .escalation z hz h
    · exact .zone z hz hnow hbefore
  · intro h
    cases h with
    | detector kind i hi h => exact Or.inl (Or.inl ⟨kind, i, hi, h⟩)
    | escalation z hz h => exact Or.inl (Or.inr ⟨z, hz, h⟩)
    | zone z hz hnow hbefore => exact Or.inr ⟨z, hz, hnow, hbefore⟩

/-! ## The latch of a step -/

/-- Up to the cap no actuator is marked for shutdown. -/
theorem cappedTick_shutdownAction {a : Nat} : (cappedTick cfg cb inp core a).shutdownAction = false := by
  unfold cappedTick capTick
  dsimp only
  split
  · rfl
  · split
    · rfl
    · split <;> rfl

/-- **The latch after a step**: it was set, a zone is at SHUTDOWN severity, or a
detector that concerns some actuator answers with a shutdown. -/
theorem latched_passDone (hr : ConfigRules cfg) :
    (passDone cfg cb inp core).core.shutdownRequestLatched = true ↔
      core.shutdownRequestLatched = true ∨
      (∃ z < cfg.zoneCount, TripSeverity.shutdown.code ≤
        zoneMaxSeverity ((passDone cfg cb inp core).core.zones.slot z) (cfg.zones.slot z)) ∨
      ∃ a < cfg.actuatorCount, RespondsOn (· = .shutdown) cfg (passDone cfg cb inp core).core a := by
  have hprev : (passDetectors cfg cb inp core).core.shutdownRequestLatched =
      core.shutdownRequestLatched := by
    rw [passDetectors_core, passRequests_core, passZones_core, senseCore_core]
  have hzones : (passDetectors cfg cb inp core).core.zones = (passDone cfg cb inp core).core.zones := by
    rw [passDone_zones, passDetectors_core, passRequests_core]
  have hlatch : (passDone cfg cb inp core).core.shutdownRequestLatched =
      (core.shutdownRequestLatched ||
        (Loop.any cfg.zoneCount fun z => decide
          (zoneMaxSeverity ((passDone cfg cb inp core).core.zones.slot z) (cfg.zones.slot z) ≥
            TripSeverity.shutdown.code)) ||
        Loop.any cfg.actuatorCount fun a =>
          ((passDetectors cfg cb inp core).ticks.slot a).shutdownAction) := by
    rw [← hprev, ← hzones, passDone_core]
    rfl
  rw [hlatch, Bool.or_eq_true, Bool.or_eq_true, Loop.any_iff, Loop.any_iff, or_assoc]
  refine or_congr_right (or_congr ?_ ?_)
  · simp only [decide_eq_true_eq, ge_iff_le]
  · refine exists_congr fun a => and_congr_right fun ha => ?_
    rw [flag_passDetectors hr raisedOn_shutdownAction ha]
    unfold severityTick
    dsimp only
    rw [cappedTick_shutdownAction]
    simp

end step

/-! ## Detectors that concern no actuator -/

/-- No actuator answers for this detector: a sensor no zone lists, or a context
of a configuration without actuators. -/
def ConcernsNone (cfg : Config) : FaultType → Nat → Prop
  | .stall, _ | .runaway, _ => False
  | .stuckSensor, s => ∀ z < cfg.zoneCount, (cfg.zones.slot z).sensorIndex (cfg.sensors.slot s).id = none
  | .staleContext, _ => cfg.actuatorCount = 0

/-- The detector leaves NORMAL on this step. -/
def LeavesNormal (cfg : Config) (cb : Callbacks) (inp : InputSnapshot) (core : Core) (kind : FaultType)
    (i : Nat) : Prop :=
  (detectorFsm core kind i).state = .normal ∧ detectorTicks cfg kind = true ∧
    detectorCondition cfg cb inp core kind i = true ∧
    detectorPersist cfg kind ≤ u16 ((detectorFsm core kind i).persistCount + 1)

/-- A detector that concerns no actuator leaves NORMAL under REQUEST_SHUTDOWN
while the latch is clear. -/
def OrphanRequest (cfg : Config) (cb : Callbacks) (inp : InputSnapshot) (core : Core) : Prop :=
  core.shutdownRequestLatched = false ∧ ∃ kind i, i < detectorCount cfg kind ∧ ConcernsNone cfg kind i ∧
    (detectorCfg cfg kind).action = FaultAction.requestShutdown.code ∧
    LeavesNormal cfg cb inp core kind i

section orphans

variable {cfg : Config} {cb : Callbacks} {inp : InputSnapshot} {core : Core} {kind : FaultType} {i : Nat}

/-- A detector leaves the normal state when it was there and is not. -/
theorem leavesNormal_iff (hr : ConfigRules cfg) (hi : i < detectorCount cfg kind) :
    LeavesNormal cfg cb inp core kind i ↔
      (detectorFsm core kind i).state = .normal ∧
        (detectorFsm (passDone cfg cb inp core).core kind i).state ≠ .normal := by
  unfold LeavesNormal
  apply and_congr_right
  intro hnormal
  rw [detectorFsm_passDone hr hi]
  cases hticks : detectorTicks cfg kind with
  | false => simp [hnormal]
  | true =>
      rw [if_pos rfl]
      unfold fsmTick
      rw [hnormal]
      cases detectorCondition cfg cb inp core kind i with
      | false => simp
      | true =>
          simp only [if_true, ge_iff_le, true_and]
          split
          · next hpersist => simp [hpersist, actionToState_ne_normal]
          · next hpersist => simp [hpersist]

/-- A response is a shutdown when the action is, or when the runaway has escalated. -/
theorem enabledResponse_eq_shutdown_iff {fc : FaultDetectorCfg} {state : FaultState} {escalates : Bool} :
    enabledResponse fc state escalates = .shutdown ↔
      fc.enabled ≠ 0 ∧ state ≠ .normal ∧
        (escalates = true ∨ fc.action = FaultAction.requestShutdown.code) := by
  unfold enabledResponse detectorResponse faultResponse faultStateActive
  by_cases hoff : fc.enabled = 0
  · simp [hoff]
  · by_cases hstate : state = .normal
    · simp [hoff, hstate]
    · cases escalates with
      | true => simp [hoff, hstate]
      | false =>
          by_cases haction : fc.action = FaultAction.requestShutdown.code
          · simp [hoff, hstate, haction, actionForcesPwmMax]
          · have hother : ¬fc.action = 5 := haction
            by_cases hforce : actionForcesPwmMax fc.action = true
            · simp [hoff, hstate, hother, hforce]
            · simp [hoff, hstate, hother, hforce]

/-- A zone drives some actuator. -/
theorem exists_refsActuator (hr : ConfigRules cfg) {z : Nat} (hz : z < cfg.zoneCount) :
    ∃ a < cfg.actuatorCount, (cfg.zones.slot z).refsActuator (cfg.actuators.slot a).id = true := by
  have hzone := hr.zone hz
  obtain ⟨a, ha⟩ := Option.ne_none_iff_exists'.mp (hzone.actuatorIds 0 hzone.actuatorCount.1)
  obtain ⟨hlt, hid⟩ := (findActuatorSlot_eq_some hr).mp ha
  refine ⟨a, hlt, ?_⟩
  unfold ZoneCfg.refsActuator
  rw [Loop.any_iff]
  exact ⟨0, hzone.actuatorCount.1, by rw [hid, beq_self_eq_true]⟩

/-- A detector that concerns some actuator and asks for a shutdown marks it. -/
theorem responds_of_requests (hr : ConfigRules cfg) (hi : i < detectorCount cfg kind)
    (hsome : ¬ConcernsNone cfg kind i) (hon : (detectorCfg cfg kind).enabled ≠ 0)
    (hstate : (detectorFsm core kind i).state ≠ .normal)
    (haction : (detectorCfg cfg kind).action = FaultAction.requestShutdown.code) :
    ∃ a < cfg.actuatorCount, RespondsOn (· = .shutdown) cfg core a := by
  cases kind with
  | stall => exact ⟨i, hi, .stall (enabledResponse_eq_shutdown_iff.mpr ⟨hon, hstate, Or.inr haction⟩)⟩
  | runaway =>
      obtain ⟨a, ha, href⟩ := exists_refsActuator hr hi
      exact ⟨a, ha, .runaway i hi href (enabledResponse_eq_shutdown_iff.mpr ⟨hon, hstate, Or.inr haction⟩)⟩
  | staleContext =>
      have hpos : 0 < cfg.actuatorCount := Nat.pos_of_ne_zero hsome
      exact ⟨0, hpos,
        .staleContext i hi (enabledResponse_eq_shutdown_iff.mpr ⟨hon, hstate, Or.inr haction⟩)⟩
  | stuckSensor =>
      unfold ConcernsNone at hsome
      simp only [not_forall] at hsome
      obtain ⟨z, hz, hlist⟩ := hsome
      obtain ⟨a, ha, href⟩ := exists_refsActuator hr hz
      exact ⟨a, ha, .stuckSensor i z hi hz (Option.isSome_iff_ne_none.mpr hlist) href
        (enabledResponse_eq_shutdown_iff.mpr ⟨hon, hstate, Or.inr haction⟩)⟩

end orphans

/-! ## Runs -/

/-- Latch and events agree, and whatever would set the latch again on the next
step has had its event. -/
structure RequestInv (cfg : Config) (core : Core) (calls : List Call) : Prop where
  agree : core.shutdownRequestLatched = true ↔ Requested calls
  zone : ∀ z < cfg.zoneCount,
    TripSeverity.shutdown.code ≤ core.prevZoneMaxSeverity.slot z → Requested calls
  detector : ∀ kind i, i < detectorCount cfg kind → (detectorFsm core kind i).state ≠ .normal →
    (detectorCfg cfg kind).action = FaultAction.requestShutdown.code → Requested calls
  escalated : ∀ z < cfg.zoneCount, (core.runaways.slot z).escalatedShutdown = true → Requested calls

section run

variable {cfg : Config} {cb : Callbacks} {inp : InputSnapshot} {core : Core} {calls : List Call}

/-- A step stores each zone's severity for the next. -/
theorem slot_passDone_prevZoneMaxSeverity (hr : ConfigRules cfg) {z : Nat} (hz : z < cfg.zoneCount) :
    (passDone cfg cb inp core).core.prevZoneMaxSeverity.slot z =
      zoneMaxSeverity ((passDone cfg cb inp core).core.zones.slot z) (cfg.zones.slot z) := by
  have hzones : (passDetectors cfg cb inp core).core.zones = (passDone cfg cb inp core).core.zones := by
    rw [passDone_zones, passDetectors_core, passRequests_core]
  rw [← hzones, passDone_core]
  exact Vector.slot_forSlots_lt _ _ hr.zoneCount_le hz

/-- The escalation flag is raised together with its event. -/
theorem escalated_passDone (hr : ConfigRules cfg) {z : Nat} (hz : z < cfg.zoneCount)
    (h : ((passDone cfg cb inp core).core.runaways.slot z).escalatedShutdown = true) :
    (core.runaways.slot z).escalatedShutdown = true ∨
      EscalatesAt cfg (core.runaways.slot z) ((passDone cfg cb inp core).core.runaways.slot z) := by
  unfold EscalatesAt
  rw [passDone_runaways] at h ⊢
  unfold stepRunaway at h ⊢
  dsimp only at h ⊢
  split at h
  · next hoff =>
      rw [stepStall_runaways] at h
      exact Or.inl h
  · next hon =>
      rw [if_neg hon]
      dsimp only
      rw [Vector.slot_forSlots_lt _ _ hr.zoneCount_le hz, stepStall_runaways] at h ⊢
      unfold runawayZoneStep at h ⊢
      simp only [Bool.and_eq_true, Bool.or_eq_true] at h
      cases hold : (core.runaways.slot z).escalatedShutdown with
      | true => exact Or.inl rfl
      | false =>
          rw [hold] at h
          exact Or.inr ⟨hon, (h.2.resolve_left Bool.false_ne_true).1, rfl⟩

/-- An escalation is latched on the step that logs it. -/
theorem latched_of_escalates (hr : ConfigRules cfg) {z : Nat} (hz : z < cfg.zoneCount)
    (h : EscalatesAt cfg (core.runaways.slot z) ((passDone cfg cb inp core).core.runaways.slot z)) :
    (passDone cfg cb inp core).core.shutdownRequestLatched = true := by
  obtain ⟨hon, hesc, -⟩ := h
  obtain ⟨a, ha, href⟩ := exists_refsActuator hr hz
  have hstate : ((passDone cfg cb inp core).core.runaways.slot z).detector.fsm.state = .latched := by
    unfold runawayEscalates at hesc
    grind
  rw [latched_passDone hr]
  refine Or.inr (Or.inr ⟨a, ha, .runaway z hz href ?_⟩)
  refine enabledResponse_eq_shutdown_iff.mpr ⟨hon, ?_, Or.inl hesc⟩
  rw [hstate]
  decide

/-- **One accepted step.** -/
theorem requestInv_passDone (hr : ConfigRules cfg) (hlog : cb.logEvent = true)
    (h : RequestInv cfg core calls) (horphan : ¬OrphanRequest cfg cb inp core) :
    RequestInv cfg (passDone cfg cb inp core).core (calls ++ (passDone cfg cb inp core).calls) := by
  have hstep : Requested (passDone cfg cb inp core).calls ↔ _ := requested_passDone hlog
  have hboth : Requested (calls ++ (passDone cfg cb inp core).calls) ↔
      Requested calls ∨ StepRequests cfg core (passDone cfg cb inp core).core := by
    rw [requested_append, hstep]
  have hzone (z : Nat) (hz : z < cfg.zoneCount) (hsev : TripSeverity.shutdown.code ≤
      zoneMaxSeverity ((passDone cfg cb inp core).core.zones.slot z) (cfg.zones.slot z)) :
      Requested (calls ++ (passDone cfg cb inp core).calls) := by
    rw [hboth]
    by_cases hprev : core.prevZoneMaxSeverity.slot z < TripSeverity.shutdown.code
    · exact Or.inr (.zone z hz hsev hprev)
    · exact Or.inl (h.zone z hz (Nat.not_lt.mp hprev))
  have hdetector (kind : FaultType) (i : Nat) (hi : i < detectorCount cfg kind)
      (hstate : (detectorFsm (passDone cfg cb inp core).core kind i).state ≠ .normal)
      (haction : (detectorCfg cfg kind).action = FaultAction.requestShutdown.code) :
      Requested (calls ++ (passDone cfg cb inp core).calls) := by
    rw [hboth]
    by_cases hprev : (detectorFsm core kind i).state = .normal
    · exact Or.inr (.detector kind i hi ⟨hprev, hstate, haction⟩)
    · exact Or.inl (h.detector kind i hi hprev haction)
  have hescalated (z : Nat) (hz : z < cfg.zoneCount)
      (hesc : (core.runaways.slot z).escalatedShutdown = true ∨ EscalatesAt cfg (core.runaways.slot z)
        ((passDone cfg cb inp core).core.runaways.slot z)) :
      Requested (calls ++ (passDone cfg cb inp core).calls) := by
    rw [hboth]
    exact hesc.imp (h.escalated z hz) (.escalation z hz)
  refine ⟨⟨fun hlatched => ?_, fun hreq => ?_⟩, ?_, hdetector, ?_⟩
  · obtain hold | ⟨z, hz, hsev⟩ | ⟨a, ha, hresp⟩ := (latched_passDone hr).mp hlatched
    · exact hboth.mpr (Or.inl (h.agree.mp hold))
    · exact hzone z hz hsev
    · cases hresp with
      | stall hshut =>
          obtain ⟨-, hstate, haction⟩ := enabledResponse_eq_shutdown_iff.mp hshut
          exact hdetector .stall a ha hstate (haction.resolve_left Bool.false_ne_true)
      | runaway z hz href hshut =>
          obtain ⟨hon, hstate, hesc | haction⟩ := enabledResponse_eq_shutdown_iff.mp hshut
          · refine hescalated z hz ?_
            cases hold : (core.runaways.slot z).escalatedShutdown with
            | true => exact Or.inl rfl
            | false => exact Or.inr ⟨hon, hesc, hold⟩
          · exact hdetector .runaway z hz hstate haction
      | staleContext c hc hshut =>
          obtain ⟨-, hstate, haction⟩ := enabledResponse_eq_shutdown_iff.mp hshut
          exact hdetector .staleContext c hc hstate (haction.resolve_left Bool.false_ne_true)
      | stuckSensor s z hs hz hlist href hshut =>
          obtain ⟨-, hstate, haction⟩ := enabledResponse_eq_shutdown_iff.mp hshut
          exact hdetector .stuckSensor s hs hstate (haction.resolve_left Bool.false_ne_true)
  · rw [latched_passDone hr]
    obtain hold | hnow := hboth.mp hreq
    · exact Or.inl (h.agree.mpr hold)
    · cases hnow with
      | zone z hz hsev hprev => exact Or.inr (Or.inl ⟨z, hz, hsev⟩)
      | escalation z hz hesc => exact (latched_passDone hr).mp (latched_of_escalates hr hz hesc)
      | detector kind i hi hreqs =>
          obtain ⟨hprev, hstate, haction⟩ := hreqs
          have hleaves := (leavesNormal_iff hr hi).mpr ⟨hprev, hstate⟩
          cases hold : core.shutdownRequestLatched with
          | true => exact Or.inl rfl
          | false =>
              have hsome : ¬ConcernsNone cfg kind i :=
                fun hnone => horphan ⟨hold, kind, i, hi, hnone, haction, hleaves⟩
              have hon : (detectorCfg cfg kind).enabled ≠ 0 := by
                have hticks := hleaves.2.1
                unfold detectorTicks at hticks
                rw [Bool.and_eq_true, decide_eq_true_eq] at hticks
                exact hticks.1
              exact Or.inr (Or.inr (responds_of_requests hr hi hsome hon hstate haction))
  · intro z hz hsev
    rw [slot_passDone_prevZoneMaxSeverity hr hz] at hsev
    exact hzone z hz hsev
  · intro z hz hesc
    exact hescalated z hz (escalated_passDone hr hz hesc)

/-- A command does not raise an escalation flag. -/
theorem runCommand_escalated (hr : ConfigRules cfg) {cmd : Command} {z : Nat} (hz : z < cfg.zoneCount)
    (h : ((runCommand cfg core cmd).2.runaways.slot z).escalatedShutdown = true) :
    (core.runaways.slot z).escalatedShutdown = true := by
  by_cases hclear : ClearsDetector cfg core cmd .runaway z
  · rw [runaways_of_clears hr hz hclear] at h
    cases h
  · rw [runaways_of_not_clears hclear] at h
    exact h

/-- **One command.** -/
theorem requestInv_command (hr : ConfigRules cfg) (h : RequestInv cfg core calls) (nowMs : Nat)
    (cmd : Command) :
    RequestInv cfg (call cfg cb core (.command nowMs cmd)).1
      (calls ++ (call cfg cb core (.command nowMs cmd)).2.calls) := by
  have hquiet : ¬Requested (call cfg cb core (.command nowMs cmd)).2.calls := by
    unfold call Effect.calls thermalCoreApplyCommand
    dsimp only
    rw [requested_log]
    rintro ⟨-, hcode⟩
    split at hcode <;> cases hcode
  have hsame : Requested (calls ++ (call cfg cb core (.command nowMs cmd)).2.calls) ↔ Requested calls := by
    rw [requested_append]
    simp only [hquiet, or_false]
  have hframe := runCommand_untouched cfg core cmd
  rw [call_command_core]
  refine ⟨?_, ?_, ?_, ?_⟩
  · rw [hframe.shutdownRequestLatched, hsame]
    exact h.agree
  · rw [hframe.prevZoneMaxSeverity, hsame]
    exact h.zone
  · intro kind i hi hstate haction
    rw [hsame]
    by_cases hclear : ClearsDetector cfg core cmd kind i
    · rw [detectorFsm_of_clears hr hi hclear] at hstate
      exact absurd rfl hstate
    · rw [detectorFsm_of_not_clears hr hclear] at hstate
      exact h.detector kind i hi hstate haction
  · intro z hz hesc
    rw [hsame]
    exact h.escalated z hz (runCommand_escalated hr hz hesc)

/-- Before the first call nothing is requested and nothing latched. -/
theorem requestInv_init (cfg : Config) : RequestInv cfg (initCore cfg) [] := by
  refine ⟨?_, ?_, ?_, ?_⟩
  · simp [initCore]
  · intro z _ hsev
    have hzero : (initCore cfg).prevZoneMaxSeverity.slot z = 0 := Vector.slot_replicate_default z
    rw [hzero] at hsev
    exact absurd hsev (by decide)
  · intro kind i _ hstate
    rw [initCore_detectorFsm] at hstate
    exact absurd rfl hstate
  · intro z _ hesc
    have hclear : ((initCore cfg).runaways.slot z).escalatedShutdown = false :=
      Vector.slot_replicate_rec (P := fun rr : RunawayRuntime => rr.escalatedShutdown = false) rfl rfl z
    rw [hclear] at hesc
    cases hesc

/-- **Latch and events over every run from init**: as long as no step is an
orphan request, after every call the flag in the state read is set exactly when
a shutdown event has been emitted. -/
theorem shutdownRequested_iff_event (hacc : Accepted cfg) (hlog : cb.logEvent = true) (is : List Input)
    (horphan : ∀ is₁ inp out is₂, is = is₁ ++ .step inp out :: is₂ → Admissible cfg inp →
      ¬OrphanRequest cfg cb inp (Machine.after (call cfg cb) (initCore cfg) is₁)) :
    ∀ is₁ is₂, is = is₁ ++ is₂ →
      ((thermalCoreGetState cfg (Machine.after (call cfg cb) (initCore cfg) is₁)).flags.shutdownRequested
          = true ↔ Requested (callsOf cfg cb is₁)) := by
  have hr : ConfigRules cfg := (accepted_iff cfg).mp hacc
  have hinv (is₁ : List Input) : ∀ is₂, is = is₁ ++ is₂ →
      RequestInv cfg (Machine.after (call cfg cb) (initCore cfg) is₁) (callsOf cfg cb is₁) := by
    induction is₁ using List.reverseRecOn with
    | nil => exact fun _ _ => requestInv_init cfg
    | append_singleton is₁ i ih =>
        intro is₂ hsplit
        have hsplit' : is = is₁ ++ i :: is₂ := by
          rw [hsplit, List.append_assoc, List.singleton_append]
        have hbefore := ih (i :: is₂) hsplit'
        rw [Machine.after_concat, callsOf_concat]
        cases i with
        | command nowMs cmd => exact requestInv_command hr hbefore nowMs cmd
        | step inp out =>
            by_cases hin : Admissible cfg inp
            · have hstep := requestInv_passDone hr hlog hbefore (horphan is₁ inp out is₂ hsplit' hin)
              rw [call_step_accepted hin]
              exact hstep
            · obtain ⟨e, -, hrej⟩ := call_step_rejected cb
                (Machine.after (call cfg cb) (initCore cfg) is₁) hin out
              rw [hrej]
              dsimp only [Effect.calls]
              rw [List.append_nil]
              exact hbefore
  intro is₁ is₂ hsplit
  exact (hinv is₁ is₂ hsplit).agree

end run

/-! ## An orphan request -/

/-- The one fan with a stuck-sensor detector that requests a shutdown after two
flat ticks. -/
def stuckRequestConfig : Config :=
  { oneFanConfig with
    faults := { (default : FaultDetectionCfg) with
      stuckSensorDefaults := { (default : FaultDetectorCfg) with
        enabled := 1, severity := FaultSeverity.critical.code
        action := FaultAction.requestShutdown.code, persistTicks := 1, recoveryTicks := 2
        threshold0 := 100, threshold1 := 2, correlatedContextId := 0xFFFF } } }

/-- The same with a second sensor that no zone lists. -/
def orphanSensorConfig : Config :=
  { stuckRequestConfig with
    sensors := stuckRequestConfig.sensors.put 1
      { (default : SensorCfg) with id := 2, iirAlphaQ16 := q16One, maxStalenessMs := 1000 }
    sensorCount := 2 }

/-- The zone's sensor stands still for two ticks. -/
def stuckRun : List Input :=
  [.step (tempSnapshot 100 1 60000) default, .step (tempSnapshot 200 1 60000) default]

/-- The zone's sensor moves and the other one stands still. -/
def orphanRun : List Input :=
  [.step (snapshotOf 100 [⟨1, SampleKind.tempMc.code, 1, 60000⟩, ⟨2, SampleKind.tempMc.code, 1, 40000⟩])
      default,
    .step (snapshotOf 200 [⟨1, SampleKind.tempMc.code, 1, 61000⟩, ⟨2, SampleKind.tempMc.code, 1, 40000⟩])
      default]

/-- Every detector of the first configuration concerns the fan. -/
theorem shutdownRequested_iff_event_stuck :
    (thermalCoreGetState stuckRequestConfig (Machine.after (call stuckRequestConfig ⟨true, false⟩)
        (initCore stuckRequestConfig) stuckRun)).flags.shutdownRequested = true ↔
      Requested (callsOf stuckRequestConfig ⟨true, false⟩ stuckRun) := by
  refine shutdownRequested_iff_event (by decide +kernel) rfl stuckRun ?_ stuckRun []
    (List.append_nil _).symm
  rintro is₁ inp out is₂ - - ⟨-, kind, i, hi, hnone, -, -⟩
  cases kind with
  | stall | runaway => exact hnone
  | staleContext => exact absurd hnone (show ¬stuckRequestConfig.actuatorCount = 0 by decide)
  | stuckSensor =>
      have hzero : i = 0 := Nat.lt_one_iff.mp hi
      subst hzero
      exact absurd (hnone 0 (by decide)) (by decide +kernel)

/-- **An orphan request is emitted and not latched.** -/
theorem orphan_event_not_latched :
    Accepted orphanSensorConfig ∧
      Requested (callsOf orphanSensorConfig ⟨true, false⟩ orphanRun) ∧
      (thermalCoreGetState orphanSensorConfig (Machine.after (call orphanSensorConfig ⟨true, false⟩)
        (initCore orphanSensorConfig) orphanRun)).flags.shutdownRequested = false := by
  refine ⟨?_, ?_, ?_⟩ <;> decide +kernel

end ThermalCore
