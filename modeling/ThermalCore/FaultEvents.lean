import Mathlib.Data.List.Induction
import ThermalCore.Detectors

/-!
# The fault event stream

A listener follows one detector through FAULT_ENTER, FAULT_RECOVERING and
FAULT_CLEAR.  It knows the class of the detector's state until a call changes
that class without an event; there are two such calls, a relapse while
recovering and an operator's clear, and `listeners_agree_iff` says that there
are no others.

A stage's callbacks are its detectors' events, in the order of the loop, among entries
that no listener reads.  `detectorStage` is that shape for all four families; what the
step adds between them is plain.
-/

namespace ThermalCore

open MachineInt Check

/-! ## The listener -/

/-- The classes of detector states that have an event each. -/
inductive FaultClass where
  | normal
  | faulted
  | recovering
deriving DecidableEq

/-- The class of a state, as the events name it. -/
def FaultState.cls : FaultState → FaultClass
  | .normal => .normal
  | .degraded | .critical | .latched => .faulted
  | .recovering => .recovering

/-- The class an event announces. -/
def EventCode.announces : EventCode → Option FaultClass
  | .faultEnter => some .faulted
  | .faultRecovering => some .recovering
  | .faultClear => some .normal
  | _ => none

/-- What a listener that follows one detector concludes from a callback. -/
def listen (kind : FaultType) (target : Nat) (known : FaultClass) : Call → FaultClass
  | .logEvent _ code a1 a2 _ _ =>
      if a1 = kind.code ∧ a2 = target then code.announces.getD known else known
  | .telemetryEmit _ _ _ => known

/-- What the listener knows behind some callbacks. -/
def replay (kind : FaultType) (target : Nat) (known : FaultClass) (calls : List Call) : FaultClass :=
  calls.foldl (listen kind target) known

/-- The class a listener knows after a change of state. -/
def announced (prev new : FaultState) (known : FaultClass) : FaultClass :=
  ((faultTransitionCode prev new).bind EventCode.announces).getD known

/-- A state that stays as it is is not announced. -/
theorem announced_self (state : FaultState) (known : FaultClass) :
    announced state state known = known := by
  cases state <;> rfl

/-- A listener is right after a change of state except after a relapse. -/
theorem announced_eq_cls_iff (prev new : FaultState) :
    announced prev new prev.cls = new.cls ↔ ¬(prev = .recovering ∧ new.cls = .faulted) := by
  cases prev <;> cases new <;> decide

section replay

variable {kind : FaultType} {target : Nat} {known : FaultClass}

/-- Without callbacks the listener knows what it knew. -/
@[simp] theorem replay_nil : replay kind target known [] = known := rfl

/-- A listener hears one list after the other. -/
theorem replay_append (xs ys : List Call) :
    replay kind target known (xs ++ ys) = replay kind target (replay kind target known xs) ys :=
  List.foldl_append ..

/-! ## Quiet callbacks -/

/-- Callbacks no listener notices. -/
def Quiet (calls : List Call) : Prop :=
  ∀ kind target known, replay kind target known calls = known

/-- No callbacks are quiet. -/
theorem quiet_nil : Quiet [] := fun _ _ _ => rfl

/-- Two quiet lists. -/
theorem quiet_append {xs ys : List Call} (hx : Quiet xs) (hy : Quiet ys) : Quiet (xs ++ ys) := by
  intro kind target known
  rw [replay_append, hx, hy]

/-- Callbacks made on a condition. -/
theorem quiet_ite {p : Prop} [Decidable p] {xs : List Call} (h : Quiet xs) :
    Quiet (if p then xs else []) := by
  split
  · exact h
  · exact quiet_nil

/-- Callbacks of a loop. -/
theorem quiet_emit {count : Nat} {f : Nat → List Call} (h : ∀ i, Quiet (f i)) :
    Quiet (Loop.emit count f) :=
  fun kind target known => Loop.foldl_emit_fixed (fun i _ known => h i kind target known) known

/-- An event of another code is quiet. -/
theorem quiet_log (cb : Callbacks) {code : EventCode} (h : code.announces = none)
    (ts a1 a2 a3 a4 : Nat) : Quiet (cb.log ts code a1 a2 a3 a4) := by
  intro kind target known
  unfold Callbacks.log
  split
  · simp [replay, listen, h]
  · rfl

/-- A shutdown request tells a listener of no state. -/
theorem quiet_emitShutdownRequest (cb : Callbacks) (kind : FaultType) (target : Nat)
    (prev new : FaultState) (action now : Nat) :
    Quiet (emitShutdownRequest cb kind target prev new action now) :=
  quiet_ite (quiet_log cb rfl _ _ _ _ _)

/-- A zone's fallback tells a listener of no state. -/
theorem quiet_zoneFallbackCalls (cb : Callbacks) (z : Nat) (zc : ZoneCfg) (zr : ZoneRuntime)
    (agg : ZoneAggregateResult) (now : Nat) : Quiet (zoneFallbackCalls cb z zc zr agg now) := by
  refine quiet_ite (quiet_log cb ?_ _ _ _ _ _)
  split <;> rfl

/-- Samples tell a listener of no state. -/
theorem quiet_telemetryCalls (cfg : Config) (cb : Callbacks) (core : Core) (now : Nat) :
    Quiet (telemetryCalls cfg cb core now) := by
  refine quiet_ite (quiet_emit fun i => ?_)
  dsimp only
  split
  · exact fun _ _ _ => rfl
  · exact quiet_nil

/-! ## Plain entries -/

/-- A log entry other than a shutdown request with an action. -/
def Call.Plain : Call → Prop
  | .logEvent _ code _ _ a3 _ => code = .shutdownRequest → a3 = 0
  | .telemetryEmit _ _ _ => False

/-- Log entries only, with no shutdown request that names an action. -/
abbrev AllPlain (calls : List Call) : Prop := ∀ c ∈ calls, c.Plain

/-- Two plain lists. -/
theorem allPlain_append {xs ys : List Call} (hx : AllPlain xs) (hy : AllPlain ys) : AllPlain (xs ++ ys) :=
  List.forall_mem_append.mpr ⟨hx, hy⟩

/-- Plain callbacks made on a condition. -/
theorem allPlain_ite {p : Prop} [Decidable p] {xs : List Call} (h : AllPlain xs) :
    AllPlain (if p then xs else []) := by
  split
  · exact h
  · exact List.forall_mem_nil _

/-- Plain callbacks of a loop. -/
theorem allPlain_emit {count : Nat} {f : Nat → List Call} (h : ∀ i, AllPlain (f i)) :
    AllPlain (Loop.emit count f) := by
  intro c hc
  obtain ⟨i, -, hi⟩ := Loop.mem_emit.mp hc
  exact h i c hi

/-- An entry of another code is plain, and so is a request without an action. -/
theorem allPlain_log (cb : Callbacks) {code : EventCode} {a3 : Nat} (h : code = .shutdownRequest → a3 = 0)
    (ts a1 a2 a4 : Nat) : AllPlain (cb.log ts code a1 a2 a3 a4) :=
  allPlain_ite (List.forall_mem_singleton.mpr h)

/-- The event of a transition is plain. -/
theorem allPlain_emitFaultTransition (cb : Callbacks) (kind : FaultType) (id : Nat) (prev new : FaultState)
    (now : Nat) : AllPlain (emitFaultTransition cb kind id prev new now) := by
  unfold emitFaultTransition
  split
  · exact List.forall_mem_nil _
  · next code hcode =>
      refine allPlain_log cb (fun heq => ?_) _ _ _ _
      unfold faultTransitionCode at hcode
      grind

theorem allPlain_emitShutdownRequest (cb : Callbacks) (kind : FaultType) (id : Nat) (prev new : FaultState)
    (action now : Nat) : AllPlain (emitShutdownRequest cb kind id prev new action now) :=
  allPlain_ite (allPlain_log cb (fun _ => rfl) _ _ _ _)

/-! ## The events of a detector -/

/-- A listener of the detector hears its transition; any other does not. -/
theorem replay_emitFaultTransition {cb : Callbacks} (hlog : cb.logEvent = true) (emitter : FaultType)
    (id : Nat) (prev new : FaultState) (now : Nat) :
    replay kind target known (emitFaultTransition cb emitter id prev new now) =
      if emitter = kind ∧ id = target then announced prev new known else known := by
  have hcode : emitter.code = kind.code ↔ emitter = kind := by
    cases emitter <;> cases kind <;> decide
  unfold emitFaultTransition announced
  cases faultTransitionCode prev new with
  | none => simp
  | some code =>
      simp only [Callbacks.log, hlog, if_true, replay, List.foldl_cons, List.foldl_nil, listen, hcode,
        Option.bind_some]

/-- A loop over the detectors of one kind tells a listener of that kind about its
own detector, and no other listener anything. -/
theorem replay_family {cfg : Config} (hr : ConfigRules cfg) {cb : Callbacks}
    (hlog : cb.logEvent = true) (emitter : FaultType) {prev new : Nat → FaultState}
    {quiet : Nat → List Call} {now i : Nat} (hi : i < detectorCount cfg kind)
    (hquiet : ∀ i, Quiet (quiet i)) :
    replay kind (detectorTarget cfg kind i) known
        (Loop.emit (detectorCount cfg emitter) fun j =>
          emitFaultTransition cb emitter (detectorTarget cfg emitter j) (prev j) (new j) now ++
            quiet j) =
      if emitter = kind then announced (prev i) (new i) known else known := by
  have hone (j : Nat) (known : FaultClass) :
      replay kind (detectorTarget cfg kind i) known
          (emitFaultTransition cb emitter (detectorTarget cfg emitter j) (prev j) (new j) now ++
            quiet j) =
        if emitter = kind ∧ detectorTarget cfg emitter j = detectorTarget cfg kind i then
          announced (prev j) (new j) known
        else known := by
    rw [replay_append, hquiet j, replay_emitFaultTransition hlog]
  by_cases hkind : emitter = kind
  · subst hkind
    rw [if_pos rfl]
    have hsingle := Loop.foldl_emit_single (g := listen emitter (detectorTarget cfg emitter i))
      (f := fun j => emitFaultTransition cb emitter (detectorTarget cfg emitter j) (prev j) (new j)
        now ++ quiet j) hi (fun j hj hne b => ?_) known
    · refine hsingle.trans ((hone i known).trans ?_)
      rw [if_pos ⟨rfl, rfl⟩]
    · refine (hone j b).trans (if_neg fun h => hne ?_)
      exact detectorTarget_inj hr hj hi h.2
  · rw [if_neg hkind]
    refine Loop.foldl_emit_fixed (fun j _ b => ?_) known
    exact (hone j b).trans (if_neg fun h => hkind h.1)

end replay

/-! ## The events of a step -/

section step

variable {cfg : Config} {cb : Callbacks} {inp : InputSnapshot} {core : Core} {kind : FaultType}
  {i : Nat} {known : FaultClass}

/-- What a stage that runs the detectors of kind `emitter` tells a listener. -/
def StageTells (cfg : Config) (emitter : FaultType) (p p' : Pass) : Prop :=
  ∀ kind i known, i < detectorCount cfg kind →
    replay kind (detectorTarget cfg kind i) known p'.calls =
      if emitter = kind then
        announced (detectorFsm p.core kind i).state (detectorFsm p'.core kind i).state
          (replay kind (detectorTarget cfg kind i) known p.calls)
      else replay kind (detectorTarget cfg kind i) known p.calls

/-- A stage that does nothing tells nothing. -/
theorem StageTells.refl (emitter : FaultType) (p : Pass) : StageTells cfg emitter p p := by
  intro kind i known _
  rw [announced_self, ite_self]

/-- A stage tells its listeners the transitions its loop logs. -/
theorem StageTells.of_calls (hr : ConfigRules cfg) (hlog : cb.logEvent = true) {emitter : FaultType}
    {p p' : Pass} {quiet : Nat → List Call} {now : Nat} (hquiet : ∀ j, Quiet (quiet j))
    (hcalls : p'.calls = p.calls ++ Loop.emit (detectorCount cfg emitter) fun j =>
      emitFaultTransition cb emitter (detectorTarget cfg emitter j)
        (detectorFsm p.core emitter j).state (detectorFsm p'.core emitter j).state now ++ quiet j) :
    StageTells cfg emitter p p' := by
  intro kind i known hi
  rw [hcalls, replay_append, replay_family hr hlog emitter hi hquiet]
  by_cases hkind : emitter = kind
  · subst hkind
    rfl
  · rw [if_neg hkind, if_neg hkind]

/-- The stage that runs the detectors of a kind. -/
def detectorStage (cfg : Config) (cb : Callbacks) (inp : InputSnapshot) : FaultType → Pass → Pass
  | .stall => stepStall cfg cb inp
  | .stuckSensor => stuckSensorPrepass cfg cb inp
  | .runaway => stepRunaway cfg cb inp
  | .staleContext => stepStaleContext cfg cb inp

/-- **What a stage logs**: nothing, or the transitions of its detectors, each followed by
entries no listener minds; and these are plain but for the runaway detectors. -/
theorem detectorStage_calls (cfg : Config) (cb : Callbacks) (inp : InputSnapshot) (emitter : FaultType) (p : Pass) :
    let p' := detectorStage cfg cb inp emitter p
    p' = p ∨ ∃ quiet : Nat → List Call, (∀ j, Quiet (quiet j)) ∧
      (emitter ≠ .runaway → ∀ j, AllPlain (quiet j)) ∧
      p'.calls = p.calls ++ Loop.emit (detectorCount cfg emitter) fun j =>
        emitFaultTransition cb emitter (detectorTarget cfg emitter j)
          (detectorFsm p.core emitter j).state (detectorFsm p'.core emitter j).state inp.nowMs ++ quiet j := by
  cases emitter with
  | runaway =>
      simp only [detectorStage, stepRunaway, runawayCalls]
      split
      · exact .inl rfl
      · simp only [List.append_assoc]
        -- the escalation is logged between the transitions
        exact .inr ⟨_, fun j => quiet_append (quiet_emitShutdownRequest cb _ _ _ _ _ _)
          (quiet_ite (quiet_log cb rfl _ _ _ _ _)), fun hne => absurd rfl hne, rfl⟩
  | stall | stuckSensor | staleContext =>
      simp only [detectorStage, stepStall, stuckSensorPrepass, stepStaleContext]
      split
      · exact .inl rfl
      · exact .inr ⟨_, fun j => quiet_emitShutdownRequest cb _ _ _ _ _ _,
          fun _ j => allPlain_emitShutdownRequest cb _ _ _ _ _ _, rfl⟩

/-- **One stage**: its listeners hear of the detectors it runs, and no others. -/
theorem detectorStage_tells (hr : ConfigRules cfg) (hlog : cb.logEvent = true) (inp : InputSnapshot)
    (emitter : FaultType) (p : Pass) : StageTells cfg emitter p (detectorStage cfg cb inp emitter p) := by
  obtain hsame | ⟨quiet, hquiet, -, hcalls⟩ := detectorStage_calls cfg cb inp emitter p
  · exact hsame.symm ▸ .refl emitter p
  · exact .of_calls hr hlog hquiet hcalls

/-- The actions on a stuck sensor make no callbacks. -/
theorem stepStuckActions_calls (cfg : Config) (p : Pass) : (stepStuckActions cfg p).calls = p.calls := by
  unfold stepStuckActions
  dsimp only
  split <;> rfl

/-- Three of the four detector stages emit plain entries only. -/
theorem detectorStage_plain (cfg : Config) (cb : Callbacks) (inp : InputSnapshot) {emitter : FaultType}
    (hne : emitter ≠ .runaway) (p : Pass) :
    ∃ more, AllPlain more ∧ (detectorStage cfg cb inp emitter p).calls = p.calls ++ more := by
  obtain hsame | ⟨quiet, -, hplain, hcalls⟩ := detectorStage_calls cfg cb inp emitter p
  · exact ⟨[], List.forall_mem_nil _, by rw [hsame, List.append_nil]⟩
  · exact ⟨_, allPlain_emit fun j => allPlain_append (allPlain_emitFaultTransition cb _ _ _ _ _) (hplain hne j), hcalls⟩

/-- What the runaway detectors log. -/
def runawayEvents (cfg : Config) (cb : Callbacks) (inp : InputSnapshot) (p : Pass) : List Call :=
  if cfg.faults.runawayDefaults.enabled = 0 then []
  else
    Loop.emit cfg.zoneCount fun z =>
      runawayCalls cb cfg.faults.runawayDefaults z (p.core.runaways.slot z)
        ((stepRunaway cfg cb inp p).core.runaways.slot z) inp.nowMs

/-- The runaway stage adds its zones' entries. -/
theorem stepRunaway_calls (p : Pass) :
    (stepRunaway cfg cb inp p).calls = p.calls ++ runawayEvents cfg cb inp p := by
  unfold runawayEvents stepRunaway
  dsimp only
  split
  · exact (List.append_nil _).symm
  · rfl

/-- **What a step logs before telemetry**: what the runaway detectors do, among plain
entries. -/
theorem passDecided_calls (cfg : Config) (cb : Callbacks) (inp : InputSnapshot) (core : Core) :
    ∃ before after, AllPlain before ∧ AllPlain after ∧
      (passDecided cfg cb inp core).calls =
        before ++ runawayEvents cfg cb inp (stepStall cfg cb inp (passRequests cfg cb inp core)) ++ after := by
  obtain ⟨stuck, hstuck, hstuckCalls⟩ := detectorStage_plain cfg cb inp
    (show FaultType.stuckSensor ≠ .runaway by decide) (Pass.start (senseCore cfg inp core))
  obtain ⟨stall, hstall, hstallCalls⟩ := detectorStage_plain cfg cb inp
    (show FaultType.stall ≠ .runaway by decide) (passRequests cfg cb inp core)
  obtain ⟨stale, hstale, hstaleCalls⟩ := detectorStage_plain cfg cb inp
    (show FaultType.staleContext ≠ .runaway by decide)
    (stepRunaway cfg cb inp (stepStall cfg cb inp (passRequests cfg cb inp core)))
  unfold detectorStage at hstuckCalls hstallCalls hstaleCalls
  have hzones : ∃ zones, AllPlain zones ∧ (passRequests cfg cb inp core).calls = stuck ++ zones := by
    have hrequests : (passRequests cfg cb inp core).calls = (passZones cfg cb inp core).calls := rfl
    rw [hrequests]
    unfold passZones step6Zones
    rw [hstuckCalls]
    refine ⟨_, allPlain_emit fun z => allPlain_ite (allPlain_log cb ?_ _ _ _ _), rfl⟩
    split <;> simp
  obtain ⟨zones, hzones, hzonesCalls⟩ := hzones
  have htail : ∃ tail, AllPlain tail ∧
      (passDecided cfg cb inp core).calls = (passDetectors cfg cb inp core).calls ++ tail := by
    unfold passDecided stepFanHealth stepForceMax stepShutdownLatch stepZoneShutdown
    refine ⟨_, ?_, List.append_assoc _ _ _⟩
    exact allPlain_append (allPlain_emit fun z => allPlain_ite (allPlain_log cb (by simp) _ _ _ _))
      (allPlain_emit fun a => allPlain_ite (allPlain_log cb (by simp) _ _ _ _))
  obtain ⟨tail, htail, htailCalls⟩ := htail
  refine ⟨stuck ++ zones ++ stall, stale ++ tail, allPlain_append (allPlain_append hstuck hzones) hstall,
    allPlain_append hstale htail, ?_⟩
  rw [htailCalls]
  unfold passDetectors
  rw [stepStuckActions_calls, hstaleCalls, stepRunaway_calls, hstallCalls, hzonesCalls]
  simp only [List.append_assoc]

/-- The zones and everything from the shutdown latch on are quiet. -/
theorem replay_passZones (cfg : Config) (cb : Callbacks) (inp : InputSnapshot) (core : Core)
    (kind : FaultType) (target : Nat) (known : FaultClass) :
    replay kind target known (passZones cfg cb inp core).calls =
      replay kind target known
        (stuckSensorPrepass cfg cb inp (Pass.start (senseCore cfg inp core))).calls := by
  unfold passZones step6Zones
  rw [replay_append]
  exact quiet_emit (fun z => quiet_zoneFallbackCalls cb _ _ _ _ _) _ _ _

/-- Behind the detectors a step tells a listener nothing more. -/
theorem replay_passDone_tail (cfg : Config) (cb : Callbacks) (inp : InputSnapshot) (core : Core)
    (kind : FaultType) (target : Nat) (known : FaultClass) :
    replay kind target known (passDone cfg cb inp core).calls =
      replay kind target known (passDetectors cfg cb inp core).calls := by
  have hforce (p : Pass) : Quiet (Loop.emit cfg.actuatorCount fun a =>
      if (p.ticks.slot a).slewOverrideUp = true ∧
          (p.core.actuators.slot a).prevSafetyOverride = false then
        cb.log inp.nowMs .safetyOverride (cfg.actuators.slot a).id (p.ticks.slot a).maxZoneSev 0 0
      else []) :=
    quiet_emit fun a => quiet_ite (quiet_log cb rfl _ _ _ _ _)
  have hshutdown (sev prev : Nat → Nat) : Quiet (Loop.emit cfg.zoneCount fun z =>
      if sev z ≥ TripSeverity.shutdown.code ∧ prev z < TripSeverity.shutdown.code then
        cb.log inp.nowMs .shutdownRequest z (sev z) 0 0
      else []) :=
    quiet_emit fun z => quiet_ite (quiet_log cb rfl _ _ _ _ _)
  have hdone : (passDone cfg cb inp core).calls =
      (passDecided cfg cb inp core).calls ++
        telemetryCalls cfg cb (step10Drive cfg (passDecided cfg cb inp core)).core inp.nowMs := rfl
  rw [hdone, replay_append, quiet_telemetryCalls cfg cb _ inp.nowMs]
  unfold passDecided stepFanHealth stepForceMax stepShutdownLatch stepZoneShutdown
  dsimp only
  rw [replay_append, replay_append]
  exact (hforce _ _ _ _).trans (hshutdown _ (fun z => _) _ _ _)

/-- **The events of a step**: a listener hears of its detector exactly what the
change of the detector's state calls for. -/
theorem replay_passDone (hr : ConfigRules cfg) (hlog : cb.logEvent = true)
    (hi : i < detectorCount cfg kind) :
    replay kind (detectorTarget cfg kind i) known (passDone cfg cb inp core).calls =
      announced (detectorFsm core kind i).state
        (detectorFsm (passDone cfg cb inp core).core kind i).state known := by
  have hrequests : (passRequests cfg cb inp core).calls = (passZones cfg cb inp core).calls := rfl
  have htells (emitter : FaultType) (p : Pass) := detectorStage_tells hr hlog inp emitter p kind i known hi
  have hstuck := htells .stuckSensor (Pass.start (senseCore cfg inp core))
  have hstall := htells .stall (passRequests cfg cb inp core)
  have hrunaway := htells .runaway (stepStall cfg cb inp (passRequests cfg cb inp core))
  have hstale := htells .staleContext (stepRunaway cfg cb inp (stepStall cfg cb inp (passRequests cfg cb inp core)))
  unfold detectorStage at hstuck hstall hrunaway hstale
  rw [replay_passDone_tail]
  unfold passDetectors
  rw [stepStuckActions_calls, hstale, hrunaway, hstall, hrequests, replay_passZones, hstuck]
  have hstart : replay kind (detectorTarget cfg kind i) known
      (Pass.start (senseCore cfg inp core)).calls = known := rfl
  rw [hstart]
  cases kind with
  | stall =>
      simp only [reduceCtorEq, if_false, if_true, detectorFsm]
      rw [passRequests_stallStates, passDone_stallStates]
  | stuckSensor =>
      have hprev : (Pass.start (senseCore cfg inp core)).core.stuckSensorStates =
          core.stuckSensorStates := senseCore_stuckSensorStates cfg inp core
      simp only [reduceCtorEq, if_false, if_true, detectorFsm]
      rw [hprev, passDone_stuckSensorStates]
  | runaway =>
      simp only [reduceCtorEq, if_false, if_true, detectorFsm]
      rw [stepStall_runaways, passDone_runaways]
  | staleContext =>
      simp only [reduceCtorEq, if_false, if_true, detectorFsm]
      rw [stepRunaway_staleContextStates, passDone_staleContextStates]

/-! ## Silent calls -/

/-- The detector is recovering and its condition holds again on this step. -/
def Relapses (cfg : Config) (cb : Callbacks) (inp : InputSnapshot) (core : Core) (kind : FaultType)
    (i : Nat) : Prop :=
  (detectorFsm core kind i).state = .recovering ∧ detectorTicks cfg kind = true ∧
    detectorCondition cfg cb inp core kind i = true

/-- The calls that change a class without an event. -/
inductive SilentCall (cfg : Config) (cb : Callbacks) (core : Core) : Input → Prop where
  | relapse (inp : InputSnapshot) (out : OutputFrame) (hin : Admissible cfg inp) (kind : FaultType)
      (i : Nat) (hi : i < detectorCount cfg kind) (h : Relapses cfg cb inp core kind i) :
      SilentCall cfg cb core (.step inp out)
  | clear (nowMs : Nat) (cmd : Command) (kind : FaultType) (i : Nat) (hi : i < detectorCount cfg kind)
      (h : ClearsDetector cfg core cmd kind i) : SilentCall cfg cb core (.command nowMs cmd)

/-- The relapse in terms of the two states. -/
theorem relapses_iff (hr : ConfigRules cfg) (hi : i < detectorCount cfg kind) :
    ((detectorFsm core kind i).state = .recovering ∧
      (detectorFsm (passDone cfg cb inp core).core kind i).state.cls = .faulted) ↔
      Relapses cfg cb inp core kind i := by
  unfold Relapses
  apply and_congr_right
  intro hrec
  rw [detectorFsm_passDone hr hi]
  cases hticks : detectorTicks cfg kind with
  | false => simp [hrec, FaultState.cls]
  | true =>
      unfold fsmTick
      rw [if_pos rfl, hrec]
      cases detectorCondition cfg cb inp core kind i with
      | true =>
          have hfaulted (action severity : Nat) : (actionToState action severity).cls = .faulted := by
            unfold actionToState
            split
            · rfl
            · split <;> rfl
          simp [hfaulted]
      | false =>
          simp only [Bool.false_eq_true, if_false]
          split <;> simp [FaultState.cls]

end step

/-! ## Runs -/

/-- Every listener knows the class of its detector's state. -/
def ListenersAgree (cfg : Config) (core : Core) (calls : List Call) : Prop :=
  ∀ kind i, i < detectorCount cfg kind →
    replay kind (detectorTarget cfg kind i) .normal calls = (detectorFsm core kind i).state.cls

/-- Every callback of a run from init, in order. -/
def callsOf (cfg : Config) (cb : Callbacks) (is : List Input) : List Call :=
  (Machine.outputs (call cfg cb) (initCore cfg) is).flatMap Effect.calls

section run

variable {cfg : Config} {cb : Callbacks} {core : Core}

/-- The callbacks of a run with one call more. -/
theorem callsOf_concat (is : List Input) (i : Input) :
    callsOf cfg cb (is ++ [i]) =
      callsOf cfg cb is ++
        (call cfg cb (Machine.after (call cfg cb) (initCore cfg) is) i).2.calls := by
  unfold callsOf
  rw [Machine.outputs_concat, List.flatMap_append, List.flatMap_singleton]

/-- At init every detector is normal, as listeners believe. -/
theorem listenersAgree_init (cfg : Config) : ListenersAgree cfg (initCore cfg) [] := by
  intro kind i hi
  rw [initCore_detectorFsm]
  rfl

/-- **One call**: listeners that agree still do unless the call is silent. -/
theorem listenersAgree_call_iff (hr : ConfigRules cfg) (hlog : cb.logEvent = true) {calls : List Call}
    (h : ListenersAgree cfg core calls) (i : Input) :
    ListenersAgree cfg (call cfg cb core i).1 (calls ++ (call cfg cb core i).2.calls) ↔
      ¬SilentCall cfg cb core i := by
  cases i with
  | step inp out =>
      by_cases hin : Admissible cfg inp
      · have hcore : (call cfg cb core (.step inp out)).1 = (passDone cfg cb inp core).core := by
          rw [call_step_core, thermalCoreStep_accepted hin]
        have hcalls : (call cfg cb core (.step inp out)).2.calls = (passDone cfg cb inp core).calls := by
          unfold call
          dsimp only
          rw [thermalCoreStep_accepted hin]
          rfl
        have hone (kind : FaultType) (k : Nat) (hk : k < detectorCount cfg kind) :
            (replay kind (detectorTarget cfg kind k) .normal (calls ++ (passDone cfg cb inp core).calls) =
                (detectorFsm (passDone cfg cb inp core).core kind k).state.cls) ↔
              ¬Relapses cfg cb inp core kind k := by
          rw [replay_append, h kind k hk, replay_passDone hr hlog hk, announced_eq_cls_iff,
            relapses_iff hr hk]
        rw [hcore, hcalls]
        constructor
        · intro hagree hsilent
          cases hsilent with
          | relapse _ _ _ kind k hk hrel => exact (hone kind k hk).mp (hagree kind k hk) hrel
        · intro hloud kind k hk
          exact (hone kind k hk).mpr fun hrel => hloud (.relapse inp out hin kind k hk hrel)
      · obtain ⟨e, -, hrej⟩ := thermalCoreStep_rejected cb core out hin
        have hcall : call cfg cb core (.step inp out) = (core, .step e out []) := by
          unfold call
          dsimp only
          rw [hrej]
        have hsame : ListenersAgree cfg (call cfg cb core (.step inp out)).1
            (calls ++ (call cfg cb core (.step inp out)).2.calls) := by
          rw [hcall]
          change ListenersAgree cfg core (calls ++ [])
          rw [List.append_nil]
          exact h
        refine iff_of_true hsame fun hsilent => ?_
        cases hsilent with
        | relapse _ _ hin' => exact hin hin'
  | command nowMs cmd =>
      have hquiet : Quiet (call cfg cb core (.command nowMs cmd)).2.calls := by
        refine quiet_log cb ?_ _ _ _ _ _
        split <;> rfl
      constructor
      · intro hagree hsilent
        cases hsilent with
        | clear _ _ kind k hk hclears =>
            have hnow := hagree kind k hk
            have hlatched : (detectorFsm core kind k).state = .latched := by
              have hallowed := hclears.2
              unfold clearAllowed at hallowed
              simp only [Bool.and_eq_true, decide_eq_true_eq] at hallowed
              exact hallowed.1
            rw [replay_append, hquiet, h kind k hk, call_command_core,
              detectorFsm_of_clears hr hk hclears, hlatched] at hnow
            exact absurd hnow (by decide)
      · intro hloud kind k hk
        have hnot : ¬ClearsDetector cfg core cmd kind k :=
          fun hclears => hloud (.clear nowMs cmd kind k hk hclears)
        rw [replay_append, hquiet, call_command_core, detectorFsm_of_not_clears hr hnot]
        exact h kind k hk

/-- **The event stream, over every run from init**: the listeners agree with the
detectors after every call of the run if and only if no call of it is silent. -/
theorem listeners_agree_iff (hacc : Accepted cfg) (hlog : cb.logEvent = true) (is : List Input) :
    (∀ is₁ is₂, is = is₁ ++ is₂ →
      ListenersAgree cfg (Machine.after (call cfg cb) (initCore cfg) is₁) (callsOf cfg cb is₁)) ↔
    ∀ is₁ i is₂, is = is₁ ++ i :: is₂ →
      ¬SilentCall cfg cb (Machine.after (call cfg cb) (initCore cfg) is₁) i := by
  have hr : ConfigRules cfg := (accepted_iff cfg).mp hacc
  constructor
  · intro hagree is₁ i is₂ hsplit
    have hbefore := hagree is₁ (i :: is₂) hsplit
    have hafter := hagree (is₁ ++ [i]) is₂ (by rw [hsplit, List.append_assoc, List.singleton_append])
    rw [Machine.after_concat, callsOf_concat] at hafter
    exact (listenersAgree_call_iff hr hlog hbefore i).mp hafter
  · intro hloud is₁
    induction is₁ using List.reverseRecOn with
    | nil => exact fun _ _ => listenersAgree_init cfg
    | append_singleton is₁ i ih =>
        intro is₂ hsplit
        have hsplit' : is = is₁ ++ i :: is₂ := by
          rw [hsplit, List.append_assoc, List.singleton_append]
        have hbefore := ih (i :: is₂) hsplit'
        rw [Machine.after_concat, callsOf_concat]
        exact (listenersAgree_call_iff hr hlog hbefore i).mpr (hloud is₁ i is₂ hsplit')

end run

/-! ## Silent runs -/

/-- The one-fan configuration with a context signal of 500 ms and its
stale-context detector under a given action. -/
def staleFanConfig (action : FaultAction) : Config :=
  { oneFanConfig with
    contexts := (default : Vector ContextCfg maxContextSignals).put 0
      { (default : ContextCfg) with
        id := 20, iirAlphaQ16 := q16One, timeoutMs := 500, failSafe := ContextFailsafe.holdLast.code }
    contextCount := 1
    faults := { (default : FaultDetectionCfg) with
      staleContextDefaults := { (default : FaultDetectorCfg) with
        enabled := 1, severity := FaultSeverity.critical.code, action := action.code
        persistTicks := 1, recoveryTicks := 2 } } }

/-- No context, a context sample, and none again for longer than the timeout. -/
def relapseRun : List Input :=
  [.step (snapshotOf 0 []) default,
    .step (snapshotOf 100 [⟨20, SampleKind.contextI32.code, 1, 0⟩]) default,
    .step (snapshotOf 1000 []) default]

/-- No context, two samples of it, and the operator's clear. -/
def clearRun : List Input :=
  [.step (snapshotOf 0 []) default,
    .step (snapshotOf 100 [⟨20, SampleKind.contextI32.code, 1, 0⟩]) default,
    .step (snapshotOf 200 [⟨20, SampleKind.contextI32.code, 1, 0⟩]) default,
    .command 300 (.clearFault FaultType.staleContext.code 20)]

/-- The run up to the relapse has no silent call. -/
theorem listeners_agree_iff_before_relapse :
    (∀ is₁ is₂, relapseRun.take 2 = is₁ ++ is₂ →
      ListenersAgree (staleFanConfig .forcePwmMaxUntilRecovered)
        (Machine.after (call (staleFanConfig .forcePwmMaxUntilRecovered) ⟨true, false⟩)
          (initCore (staleFanConfig .forcePwmMaxUntilRecovered)) is₁)
        (callsOf (staleFanConfig .forcePwmMaxUntilRecovered) ⟨true, false⟩ is₁)) ↔
    ∀ is₁ i is₂, relapseRun.take 2 = is₁ ++ i :: is₂ →
      ¬SilentCall (staleFanConfig .forcePwmMaxUntilRecovered) ⟨true, false⟩
        (Machine.after (call (staleFanConfig .forcePwmMaxUntilRecovered) ⟨true, false⟩)
          (initCore (staleFanConfig .forcePwmMaxUntilRecovered)) is₁) i :=
  listeners_agree_iff (by decide +kernel) rfl (relapseRun.take 2)

/-- **Both silent calls happen.**  After the relapse the listener of the
stale-context detector still knows it as recovering, and after the clear as
faulted. -/
theorem fault_events_miss_relapse_and_clear :
    (Accepted (staleFanConfig .forcePwmMaxUntilRecovered) ∧
      ¬ListenersAgree (staleFanConfig .forcePwmMaxUntilRecovered)
        (Machine.after (call (staleFanConfig .forcePwmMaxUntilRecovered) ⟨true, false⟩)
          (initCore (staleFanConfig .forcePwmMaxUntilRecovered)) relapseRun)
        (callsOf (staleFanConfig .forcePwmMaxUntilRecovered) ⟨true, false⟩ relapseRun)) ∧
    (Accepted (staleFanConfig .forcePwmMaxAndLatch) ∧
      ¬ListenersAgree (staleFanConfig .forcePwmMaxAndLatch)
        (Machine.after (call (staleFanConfig .forcePwmMaxAndLatch) ⟨true, false⟩)
          (initCore (staleFanConfig .forcePwmMaxAndLatch)) clearRun)
        (callsOf (staleFanConfig .forcePwmMaxAndLatch) ⟨true, false⟩ clearRun)) :=
  ⟨⟨by decide +kernel, fun h => absurd (h .staleContext 0 (by decide)) (by decide +kernel)⟩,
    ⟨by decide +kernel, fun h => absurd (h .staleContext 0 (by decide)) (by decide +kernel)⟩⟩

end ThermalCore
