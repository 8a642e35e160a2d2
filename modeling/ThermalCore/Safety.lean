import ThermalCore.Shadow

/-!
# Safety overrides at the output

Once the marks are set, the duty has to come through dwell, spin-up, the slew
limiter and the clamp.  Two facts about that path carry the results: a forced
request comes out as `pwm_max`, and an overridden request comes out no lower
than it went in.

The severity of an actuator is the highest among the active trips of the zones that
list it.  Both results hold on the step that raises the mark, whatever dwell, slew and
spin-up were doing.
-/

namespace ThermalCore

open MachineInt Check

/-! ## The path from request to duty -/

section drive

variable {cfg : Config} {ac : ActuatorCfg} {ar : ActuatorRuntime} {t : ActuatorTick}

/-- Dwell does not hold an overridden request. -/
theorem dwellRequest_of_bypass (h : t.safetyBypassDwell = true) : dwellRequest ac ar t = t.arbPwm := by
  unfold dwellRequest dwellHoldsOff dwellHoldsOn
  simp [h]

theorem safetyBypassDwell_of_override (h : t.slewOverrideUp = true) : t.safetyBypassDwell = true := by
  unfold ActuatorTick.safetyBypassDwell
  simp [h]

/-- The boost only ever raises the request. -/
theorem le_driveRequest : dwellRequest ac ar t ≤ driveRequest cfg ac ar t := by
  unfold driveRequest
  dsimp only
  split
  · next h =>
      unfold spinupApplied at h
      simp only [Bool.and_eq_true, decide_eq_true_eq] at h
      omega
  · exact Nat.le_refl _

/-- The limiter never undershoots a request it may jump up to. -/
theorem le_thermalSlewStep (prev req slew : Nat) :
    req ≤ (thermalSlewStep prev req slew true).newDuty := by
  unfold thermalSlewStep
  by_cases hup : req > prev
  · rw [if_pos ⟨rfl, hup⟩]
  · rw [if_neg fun h => hup h.2]
    split
    · exact Nat.le_refl _
    · dsimp only
      split
      · exact Nat.le_trans (Nat.not_lt.mp hup) (Nat.le_add_right _ _)
      · split
        · next hdown =>
            change req ≤ prev - slew
            omega
        · exact Nat.le_refl _

/-- The clamp keeps a duty that reaches a legal level at that level. -/
theorem le_finalClamp {req duty f : Nat} (hd : f ≤ duty) (hm : f ≤ ac.pwmMax) :
    f ≤ finalClamp ac req duty := by
  unfold finalClamp
  dsimp only
  split <;> split <;> omega

/-- **An overridden request is a floor of the duty.** -/
theorem le_finalPwm_of_override (hup : t.slewOverrideUp = true) {f : Nat} (hf : f ≤ t.arbPwm)
    (hm : f ≤ ac.pwmMax) : f ≤ finalPwm cfg ac ar t := by
  have hdwell : dwellRequest ac ar t = t.arbPwm :=
    dwellRequest_of_bypass (safetyBypassDwell_of_override hup)
  have hreq : f ≤ driveRequest cfg ac ar t := by
    rw [← hdwell] at hf
    exact Nat.le_trans hf le_driveRequest
  have hslew : f ≤ (driveSlew cfg ac ar t).newDuty := by
    unfold driveSlew
    rw [hup, Bool.true_or]
    exact Nat.le_trans hreq (le_thermalSlewStep _ _ _)
  exact le_finalClamp hslew hm

/-- **A forced request is the duty.** -/
theorem finalPwm_of_force (hup : t.slewOverrideUp = true) (hreq : t.arbPwm = ac.pwmMax) :
    finalPwm cfg ac ar t = ac.pwmMax :=
  Nat.le_antisymm (finalClamp_le _ _ _) (le_finalPwm_of_override hup (by omega) (Nat.le_refl _))

end drive

/-! ## Severity of an actuator -/

/-- A zone with an active trip has at least that trip's severity. -/
theorem le_zoneMaxSeverity (zr : ZoneRuntime) (zc : ZoneCfg) {t : Nat} (ht : t < zc.tripCount)
    (hactive : zr.activeTripMask.testBit t = true) :
    (zc.trips.slot t).severity ≤ zoneMaxSeverity zr zc := by
  unfold zoneMaxSeverity
  refine Loop.fold_reaches (fun s => (zc.trips.slot t).severity ≤ s) ht (fun s => ?_) fun i s hs => ?_
  · rw [if_pos hactive]
    split <;> omega
  · split
    · split <;> omega
    · exact hs

/-- An actuator has at least the severity of every zone that references it. -/
theorem le_actuatorMaxSeverity (cfg : Config) (core : Core) {z a : Nat} (hz : z < cfg.zoneCount)
    (href : (cfg.zones.slot z).refsActuator (cfg.actuators.slot a).id = true) :
    zoneMaxSeverity (core.zones.slot z) (cfg.zones.slot z) ≤ actuatorMaxSeverity cfg core a := by
  unfold actuatorMaxSeverity
  refine Loop.fold_reaches
    (fun s => zoneMaxSeverity (core.zones.slot z) (cfg.zones.slot z) ≤ s) hz (fun s => ?_)
    fun i s hs => ?_
  · dsimp only
    rw [if_pos href]
    split <;> omega
  · dsimp only
    split
    · split <;> omega
    · exact hs

/-! ## Force to maximum -/

/-- The actions that force an actuator to its maximum. -/
def ForcingAction (action : Nat) : Prop :=
  action = FaultAction.forcePwmMaxUntilRecovered.code ∨
    action = FaultAction.forcePwmMaxAndLatch.code ∨ action = FaultAction.requestShutdown.code

/-- A detector that is enabled, away from NORMAL, and has a forcing action. -/
def DetectorForces (fc : FaultDetectorCfg) (state : FaultState) : Prop :=
  fc.enabled ≠ 0 ∧ state ≠ .normal ∧ ForcingAction fc.action

/-- What forces actuator `a` to its maximum, read from the core after the step. -/
inductive SafetyForces (cfg : Config) (core : Core) (a : Nat) : Prop where
  | shutdownTrip (z t : Nat) (hz : z < cfg.zoneCount)
      (href : (cfg.zones.slot z).refsActuator (cfg.actuators.slot a).id = true)
      (ht : t < (cfg.zones.slot z).tripCount)
      (hactive : (core.zones.slot z).activeTripMask.testBit t = true)
      (hsev : ((cfg.zones.slot z).trips.slot t).severity = TripSeverity.shutdown.code)
  | stall (h : DetectorForces cfg.faults.stallDefaults (core.stallStates.slot a).fsm.state)
  | runaway (z : Nat) (hz : z < cfg.zoneCount)
      (href : (cfg.zones.slot z).refsActuator (cfg.actuators.slot a).id = true)
      (h : DetectorForces cfg.faults.runawayDefaults (core.runaways.slot z).detector.fsm.state)
  | stuckSensor (s z : Nat) (hs : s < cfg.sensorCount) (hz : z < cfg.zoneCount)
      (hlist : ∃ k < (cfg.zones.slot z).sensorCount,
        (cfg.zones.slot z).sensorIds.slot k = (cfg.sensors.slot s).id)
      (href : (cfg.zones.slot z).refsActuator (cfg.actuators.slot a).id = true)
      (h : DetectorForces cfg.faults.stuckSensorDefaults (core.stuckSensorStates.slot s).fsm.state)
  | staleContext (c : Nat) (hc : c < cfg.contextCount)
      (h : DetectorForces cfg.faults.staleContextDefaults (core.staleContextStates.slot c).fsm.state)

/-- A forcing detector responds, escalated or not. -/
theorem enabledResponse_of_forces {fc : FaultDetectorCfg} {state : FaultState}
    (h : DetectorForces fc state) (escalates : Bool) : enabledResponse fc state escalates ≠ .none := by
  obtain ⟨hen, hstate, haction⟩ := h
  have hactive : faultStateActive state = true := by simp [faultStateActive, hstate]
  unfold enabledResponse detectorResponse
  rw [if_neg hen, if_pos hactive]
  unfold faultResponse
  cases escalates with
  | true => simp
  | false =>
      obtain h | h | h := haction <;> simp [actionForcesPwmMax, h]

theorem sensorIndex_isSome {zc : ZoneCfg} {id : Nat} :
    (zc.sensorIndex id).isSome = true ↔ ∃ k < zc.sensorCount, zc.sensorIds.slot k = id := by
  unfold ZoneCfg.sensorIndex
  rw [Loop.first_isSome]
  simp

/-- Whatever forces an actuator is either SHUTDOWN severity or a response. -/
theorem SafetyForces.marks {cfg : Config} {core : Core} {a : Nat} (h : SafetyForces cfg core a) :
    TripSeverity.shutdown.code ≤ actuatorMaxSeverity cfg core a ∨ Responds cfg core a := by
  cases h with
  | shutdownTrip z t hz href ht hactive hsev =>
      have hzone := le_zoneMaxSeverity (core.zones.slot z) (cfg.zones.slot z) ht hactive
      have hact := le_actuatorMaxSeverity cfg core hz href
      exact Or.inl (by omega)
  | stall h => exact Or.inr (.stall (enabledResponse_of_forces h _))
  | runaway z hz href h => exact Or.inr (.runaway z hz href (enabledResponse_of_forces h _))
  | stuckSensor s z hs hz hlist href h =>
      exact Or.inr (.stuckSensor s z hs hz (sensorIndex_isSome.mpr hlist) href
        (enabledResponse_of_forces h _))
  | staleContext c hc h => exact Or.inr (.staleContext c hc (enabledResponse_of_forces h _))

/-- **Safety force to maximum.**  If after an accepted step a referencing zone
has an active SHUTDOWN trip, or a detector concerning the actuator is away from
NORMAL under a forcing action, the step wrote `pwm_max`. -/
theorem duty_eq_pwmMax_of_safetyForces (cfg : Config) (cb : Callbacks) (core : Core)
    (inp : InputSnapshot) (out : OutputFrame) (a : Nat) (hcfg : Accepted cfg)
    (hin : (thermalCoreStep cfg cb core inp out).status = .ok)
    (ha : a < cfg.actuatorCount)
    (hforce : SafetyForces cfg (thermalCoreStep cfg cb core inp out).core a) :
    ((thermalCoreStep cfg cb core inp out).out.actuatorCmds.slot a).duty =
      (cfg.actuators.slot a).pwmMax := by
  have hr := (accepted_iff cfg).mp hcfg
  have hadm := thermalCoreStep_status_iff.mp hin
  rw [thermalCoreStep_accepted hadm] at hforce
  have hmarks := hforce.marks
  have hmax : (decidedTick cfg cb inp core a).forcePwmMax = true :=
    (decided_forcePwmMax hr ha).mpr hmarks
  have hup : (decidedTick cfg cb inp core a).slewOverrideUp = true := by
    refine (decided_slewOverrideUp hr ha).mpr (hmarks.imp_left fun h => ?_)
    exact Nat.le_trans (by decide) h
  have hreq : (decidedTick cfg cb inp core a).arbPwm = (cfg.actuators.slot a).pwmMax := by
    rw [decided_arbPwm hr.actuatorCount_le ha, if_pos hmax]
  rw [step_duty hr hadm ha]
  exact finalPwm_of_force hup hreq

/-- The first step of the one-fan configuration at 95 °C: from rest to `pwm_max`
against a slew limit of ten. -/
theorem duty_eq_pwmMax_at_95C :
    ((thermalCoreStep oneFanConfig ⟨false, false⟩ (initCore oneFanConfig) (tempSnapshot 0 1 95000)
      default).out.actuatorCmds.slot 0).duty = 200 :=
  duty_eq_pwmMax_of_safetyForces oneFanConfig ⟨false, false⟩ (initCore oneFanConfig)
    (tempSnapshot 0 1 95000) default 0 accepted_oneFanConfig (by decide +kernel) (by decide)
    (.shutdownTrip 0 2 (by decide) (by decide +kernel) (by decide +kernel) (by decide +kernel)
      (by decide +kernel))

/-! ## Cooling floor -/

/-- Effective trips keep the labels of the shadowed ones. -/
theorem slot_tripsEff (zr : ZoneRuntime) {tripCount : Nat} (hc : tripCount ≤ maxTripsPerZone)
    (offset : Int) {t : Nat} (ht : t < tripCount) :
    (tripsEff zr tripCount offset).slot t =
      { zr.shadowTrips.slot t with
        tempMc := if offset ≠ 0 then i32 ((zr.shadowTrips.slot t).tempMc + offset)
          else (zr.shadowTrips.slot t).tempMc } := by
  unfold tripsEff
  by_cases h : offset ≠ 0
  · rw [if_pos h, if_pos h, Vector.slot_forSlots_lt _ _ hc ht]
  · rw [if_neg h, if_neg h]

/-- What a governor leaves behind: the trips its Schmitt triggers hold, and a
cooling state that is 0 or a trip's. -/
theorem evaluate_mask (ops : Governor) (zr : ZoneRuntime) (zc : ZoneCfg)
    (trips : Vector TripCfg maxTripsPerZone) (offset : Int) (nowMs : Nat) (t : Nat) :
    (ops.evaluate zr zc trips offset nowMs).activeTripMask.testBit t = true ↔
      t < zc.tripCount ∧ tripActive zr.tempMc (trips.slot t) (zr.activeTripMask.testBit t) = true := by
  cases ops <;> exact testBit_thermalGovernorStepWise _ _ _ _ t

theorem evaluate_coolingState_cases (ops : Governor) (zr : ZoneRuntime) (zc : ZoneCfg)
    (trips : Vector TripCfg maxTripsPerZone) (offset : Int) (nowMs : Nat) :
    (ops.evaluate zr zc trips offset nowMs).coolingState = 0 ∨ ∃ t < zc.tripCount,
      (ops.evaluate zr zc trips offset nowMs).coolingState = (trips.slot t).coolingState := by
  cases ops with
  | stepWise =>
      refine (coolingState_thermalGovernorStepWise zr.tempMc trips zc.tripCount
        zr.activeTripMask).imp_right ?_
      intro ⟨t, ht, _, h⟩
      exact ⟨t, ht, h⟩
  | pid => exact pidFloorState_cases trips zc.tripCount _

/-- An active CRITICAL or SHUTDOWN trip bounds the cooling state from below under
either governor. -/
theorem le_evaluate_coolingState (ops : Governor) (zr : ZoneRuntime) (zc : ZoneCfg)
    (trips : Vector TripCfg maxTripsPerZone) (offset : Int) (nowMs : Nat) {t : Nat}
    (hbit : (ops.evaluate zr zc trips offset nowMs).activeTripMask.testBit t = true)
    (hsev : (trips.slot t).severity = TripSeverity.critical.code ∨
      (trips.slot t).severity = TripSeverity.shutdown.code) :
    (trips.slot t).coolingState ≤ (ops.evaluate zr zc trips offset nowMs).coolingState := by
  obtain ⟨ht, hactive⟩ := (evaluate_mask ops zr zc trips offset nowMs t).mp hbit
  cases ops with
  | stepWise => exact le_coolingState_thermalGovernorStepWise _ _ _ _ ht hactive
  | pid => exact le_pidFloorState trips zc.tripCount _ ht hbit hsev

/-- Both governors demand at least the duty of the zone's cooling state. -/
theorem le_actuatorDemand (ops : Governor) (zr : ZoneRuntime) (ac : ActuatorCfg) :
    ac.statePwm.slot zr.coolingState ≤ ops.actuatorDemand zr ac := by
  cases ops with
  | stepWise => exact Nat.le_refl _
  | pid =>
      change _ ≤ governorDemandPid zr ac
      unfold governorDemandPid
      dsimp only
      split <;> omega

/-- A zone after a step is what its governor made of trips with the configured
labels. -/
theorem passDone_zone_evaluate {cfg : Config} {core : Core} {z : Nat} {ops : Governor}
    (cb : Callbacks) (inp : InputSnapshot) (hr : ConfigRules cfg)
    (hshadow : ShadowInv cfg core) (hz : z < cfg.zoneCount)
    (hops : governorOpsFor (cfg.zones.slot z).governor = some ops) :
    ∃ zr trips offset,
      (passDone cfg cb inp core).core.zones.slot z =
        ops.evaluate zr (cfg.zones.slot z) trips offset inp.nowMs ∧
      ∀ i < (cfg.zones.slot z).tripCount,
        (trips.slot i).severity = ((cfg.zones.slot z).trips.slot i).severity ∧
        (trips.slot i).coolingState = ((cfg.zones.slot z).trips.slot i).coolingState := by
  have hslot : (passDone cfg cb inp core).core.zones.slot z = _ := slot_passDone_zones hr hz
  unfold zoneStep at hslot
  simp only [hops] at hslot
  refine ⟨_, _, _, hslot, fun i hi => ?_⟩
  rw [slot_tripsEff _ (hr.zone hz).tripCount _ hi, (hshadow.zones z hz).trips i hi]
  exact ⟨rfl, rfl⟩

/-- `state_pwm[]` does not decrease up to the state a zone is in: the zone cannot
exceed the highest referenced state. -/
theorem statePwm_le_of_coolingState {cfg : Config} {cb : Callbacks} {inp : InputSnapshot}
    {core : Core} {z a s : Nat} (hr : ConfigRules cfg) (hshadow : ShadowInv cfg core)
    (hz : z < cfg.zoneCount) (ha : a < cfg.actuatorCount)
    (href : (cfg.zones.slot z).refsActuator (cfg.actuators.slot a).id = true)
    (hs : s ≤ ((passDone cfg cb inp core).core.zones.slot z).coolingState) :
    (cfg.actuators.slot a).statePwm.slot s ≤ (cfg.actuators.slot a).statePwm.slot
      ((passDone cfg cb inp core).core.zones.slot z).coolingState := by
  obtain ⟨ops, hops⟩ := (hr.zone hz).ops
  obtain ⟨zr, trips, offset, hzone, hlabels⟩ :=
    passDone_zone_evaluate cb inp hr hshadow hz hops
  rw [hzone] at hs ⊢
  obtain h0 | ⟨i, hi, hcs⟩ := evaluate_coolingState_cases ops zr (cfg.zones.slot z) trips offset
    inp.nowMs
  · rw [h0] at hs ⊢
    rw [Nat.le_zero.mp hs]
  · obtain ⟨m, hm, hle⟩ := maxReferencedState_ge hr hz hi ha href
    refine statePwm_mono hr ha hm hs ?_
    rw [hcs, (hlabels i hi).2]
    exact hle

theorem le_thermalArbitratorMaxWins {demands : List Nat} {d : Nat} (h : d ∈ demands) :
    d ≤ thermalArbitratorMaxWins demands := by
  have hmono (ds : List Nat) (w : Nat) :
      w ≤ ds.foldl (fun winner d => if d > winner then d else winner) w := by
    induction ds generalizing w with
    | nil => exact Nat.le_refl _
    | cons x ds ih =>
        refine Nat.le_trans ?_ (ih _)
        dsimp only
        split <;> omega
  unfold thermalArbitratorMaxWins
  generalize 0 = w
  induction demands generalizing w with
  | nil => exact absurd h List.not_mem_nil
  | cons x ds ih =>
      cases List.mem_cons.mp h with
      | inl hx =>
          subst hx
          refine Nat.le_trans ?_ (hmono ds _)
          dsimp only
          split <;> omega
      | inr hd => exact ih hd _

/-- A zone's demand takes part in the arbitration of every actuator it
references. -/
theorem mem_actuatorDemands {cfg : Config} {core : Core} {z a : Nat} {ops : Governor}
    (hz : z < cfg.zoneCount)
    (href : (cfg.zones.slot z).refsActuator (cfg.actuators.slot a).id = true)
    (hops : governorOpsFor (cfg.zones.slot z).governor = some ops) :
    ops.actuatorDemand (core.zones.slot z) (cfg.actuators.slot a) ∈ actuatorDemands cfg core a := by
  unfold actuatorDemands
  refine List.mem_filterMap.mpr ⟨z, List.mem_range.mpr hz, ?_⟩
  simp only [href, hops, if_true]

/-- At CRITICAL severity the cap is skipped. -/
theorem cappedTick_arbPwm_of_critical {cfg : Config} {cb : Callbacks} {inp : InputSnapshot}
    {core : Core} {a : Nat}
    (h : TripSeverity.critical.code ≤ actuatorMaxSeverity cfg (passDone cfg cb inp core).core a) :
    (cappedTick cfg cb inp core a).arbPwm = arbitratedPwm cfg cb inp core a := by
  unfold cappedTick capTick
  rw [if_pos h]

/-- **Critical cooling floor.**  After an accepted step, every actuator a zone
references runs at least at the duty of each active CRITICAL or SHUTDOWN trip's
cooling state. -/
theorem statePwm_le_duty_of_critical_trip (cfg : Config) (cb : Callbacks) (core : Core)
    (inp : InputSnapshot) (out : OutputFrame) (z t a : Nat) (hcfg : Accepted cfg)
    (hcore : Reachable cfg cb core) (hin : (thermalCoreStep cfg cb core inp out).status = .ok)
    (hz : z < cfg.zoneCount) (ht : t < (cfg.zones.slot z).tripCount) (ha : a < cfg.actuatorCount)
    (href : (cfg.zones.slot z).refsActuator (cfg.actuators.slot a).id = true)
    (hsev : ((cfg.zones.slot z).trips.slot t).severity = TripSeverity.critical.code ∨
      ((cfg.zones.slot z).trips.slot t).severity = TripSeverity.shutdown.code)
    (hactive : ((thermalCoreStep cfg cb core inp out).core.zones.slot z).activeTripMask.testBit t =
      true) :
    (cfg.actuators.slot a).statePwm.slot ((cfg.zones.slot z).trips.slot t).coolingState ≤
      ((thermalCoreStep cfg cb core inp out).out.actuatorCmds.slot a).duty := by
  have hr := (accepted_iff cfg).mp hcfg
  have hadm := thermalCoreStep_status_iff.mp hin
  have hshadow := reachable_shadowInv hr hcore
  obtain ⟨ops, hops⟩ := (hr.zone hz).ops
  rw [thermalCoreStep_accepted hadm] at hactive
  let core' := (passDone cfg cb inp core).core
  let zr' := core'.zones.slot z
  let floor := (cfg.actuators.slot a).statePwm.slot ((cfg.zones.slot z).trips.slot t).coolingState
  have hstate : ((cfg.zones.slot z).trips.slot t).coolingState ≤ zr'.coolingState := by
    obtain ⟨zr, trips, offset, hzone, hlabels⟩ := passDone_zone_evaluate cb inp hr hshadow hz hops
    have hzr' : zr' = ops.evaluate zr (cfg.zones.slot z) trips offset inp.nowMs := hzone
    rw [← (hlabels t ht).2, hzr']
    apply le_evaluate_coolingState
    · rw [← hzr']
      exact hactive
    · rw [(hlabels t ht).1]
      exact hsev
  have hfloor : floor ≤ (cfg.actuators.slot a).statePwm.slot zr'.coolingState :=
    statePwm_le_of_coolingState hr hshadow hz ha href hstate
  have harb : floor ≤ arbitratedPwm cfg cb inp core a :=
    Nat.le_trans (Nat.le_trans hfloor (le_actuatorDemand ops zr' _))
      (le_thermalArbitratorMaxWins (mem_actuatorDemands hz href hops))
  have hcritical : TripSeverity.critical.code ≤ actuatorMaxSeverity cfg core' a := by
    have hzone := le_zoneMaxSeverity zr' (cfg.zones.slot z) ht hactive
    have hact := le_actuatorMaxSeverity cfg core' hz href
    have hcode : TripSeverity.critical.code ≤ ((cfg.zones.slot z).trips.slot t).severity := by
      obtain h | h := hsev
      · rw [h]
      · rw [h]
        decide
    exact Nat.le_trans hcode (Nat.le_trans hzone hact)
  have hmax : floor ≤ (cfg.actuators.slot a).pwmMax := by
    obtain h | h := statePwm_legal hr hz ht ha href
    · exact Nat.le_trans (Nat.le_of_eq h) (Nat.zero_le _)
    · exact h.2
  have hreq : floor ≤ (decidedTick cfg cb inp core a).arbPwm := by
    rw [decided_arbPwm hr.actuatorCount_le ha]
    split
    · exact hmax
    · rw [cappedTick_arbPwm_of_critical hcritical]
      exact harb
  rw [step_duty hr hadm ha]
  exact le_finalPwm_of_override ((decided_slewOverrideUp hr ha).mpr (Or.inl hcritical)) hreq hmax

/-- At 75 °C the CRITICAL trip of the one-fan configuration asks for 100. -/
theorem hundred_le_duty_at_75C :
    100 ≤ ((thermalCoreStep oneFanConfig ⟨false, false⟩ (initCore oneFanConfig)
      (tempSnapshot 0 1 75000) default).out.actuatorCmds.slot 0).duty :=
  statePwm_le_duty_of_critical_trip oneFanConfig ⟨false, false⟩ (initCore oneFanConfig)
    (tempSnapshot 0 1 75000) default 0 1 0 accepted_oneFanConfig .init (by decide +kernel) (by decide)
    (by decide +kernel) (by decide) (by decide +kernel) (by decide +kernel) (by decide +kernel)

end ThermalCore
