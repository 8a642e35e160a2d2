import ThermalCore.CurveShape
import ThermalCore.Monotone
import ThermalCore.PidArithmetic

/-!
# A hotter PID zone demands no less

Every stage between the temperature of a PID zone and the demand of its actuators is
monotone: the three terms with their truncating divisions, the filter, the
saturations, the floor, the linearization table, and the floor the trips put under it.

A call of the controller compares two temperatures from one state; the products that the
code forms in `int64_t` must not leave it, which is the condition the results carry.
-/

namespace ThermalCore

open MachineInt

/-! ## One call -/

/-- Gains that push against the temperature, and a filter factor up to one. -/
structure PidCfg.Cooling (p : PidCfg) : Prop where
  kp : 0 ≤ p.kpQ16
  ki : 0 ≤ p.kiQ16
  kd : 0 ≤ p.kdQ16
  alpha : 0 ≤ p.dFilterAlphaQ16 ∧ p.dFilterAlphaQ16 ≤ q16One

section call

variable {s : PidState} {p : PidCfg} {setpointMc : Int} {nowMs : Nat}

theorem i64_of_isI64 {x : Int} (h : IsI64 x) : i64 x = x := i64_of_mem h.1 h.2

/-- A derivative that fits is the one over the integers. -/
theorem pidDerivative_fst {tempMc : Int} (h : PidStepFits s p setpointMc tempMc nowMs) :
    (pidDerivative s p.kdQ16 p.dFilterAlphaQ16 tempMc (p.dt s nowMs)).1 =
      p.dTerm s tempMc (p.dt s nowMs) := by
  unfold pidDerivative PidCfg.dTerm PidCfg.dRaw
  cases hinit : s.initialized with
  | false => rfl
  | true =>
      simp only [if_true, i32_of_isI32 (h.dTemp hinit), i64_of_isI64 (h.dGain hinit),
        i64_of_isI64 (h.dScaled hinit)]
      split
      · rfl
      · rfl

/-- The duty of a call that fits: the floor of the saturated sum, within the bounds. -/
theorem thermalPidStepFiltered_outputPwm {tempMc : Int} (h : PidStepFits s p setpointMc tempMc nowMs)
    (pwmMin pwmMax : Nat) :
    (thermalPidStepFiltered s p.kpQ16 p.kiQ16 p.kdQ16 p.dFilterAlphaQ16 setpointMc tempMc nowMs
        p.dtMinMs p.dtMaxMs pwmMin pwmMax).2.outputPwm =
      max (pwmMin : Int)
        (min (pwmMax : Int) (satI32 (p.outputSum s setpointMc tempMc (p.dt s nowMs)) / 65536)) := by
  have hderivative := pidDerivative_fst h
  have hscaled := h.iScaled
  have htentative := h.iTentative
  have hpi := h.piSum
  have hsum := h.outputSum
  simp only [PidCfg.outputSum, PidCfg.piSum, PidCfg.iIncrement] at htentative hpi hsum ⊢
  unfold thermalPidStepFiltered
  unfold PidCfg.dt at *
  simp only [i32_of_isI32 h.error, i64_of_isI64 h.iGain, i64_of_isI64 hscaled,
    i64_of_isI64 htentative, hderivative, i64_of_isI64 hpi, i64_of_isI64 hsum, q16FloorToI32_eq,
    decide_eq_true_eq]
  split_ifs <;> omega

/-- The filter moves with its sample. -/
theorem iirQ16Step_mono {prev sample sample' alpha : Int} (h0 : 0 ≤ alpha) (h : sample ≤ sample') :
    iirQ16Step prev sample alpha ≤ iirQ16Step prev sample' alpha := by
  have hproduct : alpha * (sample - prev) ≤ alpha * (sample' - prev) :=
    Int.mul_le_mul_of_nonneg_left (by omega) h0
  have hround := roundQ16_mono hproduct
  unfold iirQ16Step
  exact satI32_mono (by omega)

variable {tempMc tempMc' : Int}

theorem iIncrement_mono (h : p.Cooling) {error error' : Int} (herror : error ≤ error') (dtMs : Nat) :
    p.iIncrement error dtMs ≤ p.iIncrement error' dtMs := by
  have hgain : p.kiQ16 * error ≤ p.kiQ16 * error' := Int.mul_le_mul_of_nonneg_left herror h.ki
  exact tdiv_mono (by decide) (Int.mul_le_mul_of_nonneg_right hgain (Int.natCast_nonneg dtMs))

theorem dRaw_mono (h : p.Cooling) {dTemp dTemp' : Int} (hdrop : dTemp ≤ dTemp') {dtMs : Nat}
    (hdt : 0 < dtMs) : p.dRaw dTemp dtMs ≤ p.dRaw dTemp' dtMs := by
  have hgain : p.kdQ16 * dTemp ≤ p.kdQ16 * dTemp' := Int.mul_le_mul_of_nonneg_left hdrop h.kd
  have hpos : (0 : Int) < dtMs := by omega
  exact tdiv_mono hpos (by omega)

/-- The derivative term, whichever way the filter goes. -/
theorem dTerm_mono (h : p.Cooling) (htemp : tempMc ≤ tempMc') {dtMs : Nat}
    (hdt : s.initialized = true → 0 < dtMs) : p.dTerm s tempMc dtMs ≤ p.dTerm s tempMc' dtMs := by
  unfold PidCfg.dTerm
  by_cases hinit : s.initialized = true
  · have hdrop : tempMc - s.prevTempMc ≤ tempMc' - s.prevTempMc := by omega
    have hraw := dRaw_mono h hdrop (hdt hinit)
    simp only [hinit, if_true]
    split
    · split
      · exact satI32_mono hraw
      · exact iirQ16Step_mono h.alpha.1 (satI32_mono hraw)
    · exact hraw
  · simp [hinit]

theorem outputSum_mono (h : p.Cooling) (htemp : tempMc ≤ tempMc') {dtMs : Nat}
    (hdt : s.initialized = true → 0 < dtMs) :
    p.outputSum s setpointMc tempMc dtMs ≤ p.outputSum s setpointMc tempMc' dtMs := by
  have herror : tempMc - setpointMc ≤ tempMc' - setpointMc := by omega
  have hp : p.kpQ16 * (tempMc - setpointMc) ≤ p.kpQ16 * (tempMc' - setpointMc) :=
    Int.mul_le_mul_of_nonneg_left herror h.kp
  have hi := iIncrement_mono h herror dtMs
  have htentative := satI32_mono (Int.add_le_add_left hi s.integralQ16)
  have hd := dTerm_mono h htemp hdt
  unfold PidCfg.outputSum PidCfg.piSum
  omega

/-- **A hotter reading** gives no lower duty. -/
theorem outputPwm_mono (h : p.Cooling) (htemp : tempMc ≤ tempMc')
    (hfits : PidStepFits s p setpointMc tempMc nowMs)
    (hfits' : PidStepFits s p setpointMc tempMc' nowMs) (pwmMin pwmMax : Nat) :
    (thermalPidStepFiltered s p.kpQ16 p.kiQ16 p.kdQ16 p.dFilterAlphaQ16 setpointMc tempMc nowMs
        p.dtMinMs p.dtMaxMs pwmMin pwmMax).2.outputPwm ≤
      (thermalPidStepFiltered s p.kpQ16 p.kiQ16 p.kdQ16 p.dFilterAlphaQ16 setpointMc tempMc' nowMs
        p.dtMinMs p.dtMaxMs pwmMin pwmMax).2.outputPwm := by
  rw [thermalPidStepFiltered_outputPwm hfits, thermalPidStepFiltered_outputPwm hfits']
  have hsum := @outputSum_mono s p setpointMc tempMc tempMc' h htemp (p.dt s nowMs) hfits.divisor
  have hfloor := Int.ediv_le_ediv (show (0 : Int) < 65536 by decide) (satI32_mono hsum)
  omega

end call

/-! ## The linearization table -/

section linearization

variable {ac : ActuatorCfg}

/-- What the validator asks of a table. -/
structure DutyTable (ac : ActuatorCfg) : Prop where
  admitted : CurveAdmitted ac.dutyLinearization ac.dutyLinearizationCount
  range : ∀ k < ac.dutyLinearizationCount,
    (0 ≤ (ac.dutyLinearization.slot k).x ∧ (ac.dutyLinearization.slot k).x ≤ 255) ∧
      0 ≤ (ac.dutyLinearization.slot k).value0 ∧ (ac.dutyLinearization.slot k).value0 ≤ 255
  rising : ∀ i, i + 1 < ac.dutyLinearizationCount →
    (ac.dutyLinearization.slot i).value0 ≤ (ac.dutyLinearization.slot (i + 1)).value0

theorem dutyTable (hv : validateDutyLinearization ac = .ok ()) (hcount : 0 < ac.dutyLinearizationCount) :
    DutyTable ac := by
  unfold validateDutyLinearization at hv
  rw [if_pos (by omega)] at hv
  simp only [Check.bind_eq_ok, Check.each_eq_ok, Check.failIf_eq_ok, Check.ite_ok_eq_ok, not_or] at hv
  obtain ⟨hsize, hpoints, -, -⟩ := hv
  have hrange : ∀ k < ac.dutyLinearizationCount,
      (0 ≤ (ac.dutyLinearization.slot k).x ∧ (ac.dutyLinearization.slot k).x ≤ 255) ∧
        0 ≤ (ac.dutyLinearization.slot k).value0 ∧ (ac.dutyLinearization.slot k).value0 ≤ 255 := by
    intro k hk
    have hpoint := (hpoints k hk).1
    omega
  have hstep : ∀ k < ac.dutyLinearizationCount, 0 < k →
      (ac.dutyLinearization.slot (k - 1)).x < (ac.dutyLinearization.slot k).x ∧
        (ac.dutyLinearization.slot (k - 1)).value0 ≤ (ac.dutyLinearization.slot k).value0 := by
    intro k hk hpos
    have hnext := (hpoints k hk).2 hpos
    omega
  constructor
  case admitted =>
    refine ⟨by omega, by omega, fun k hk hpos => (hstep k hk hpos).1, fun k hk => ?_⟩
    have hpoint := (hpoints k hk).1
    constructor
    all_goals
      unfold IsI32 i32Min i32Max
      omega
  case range => exact hrange
  case rising => exact fun i hi => (hstep (i + 1) hi (Nat.succ_pos i)).2

/-- **A table** keeps demands in order. -/
theorem linearizeDemand_mono (hv : validateDutyLinearization ac = .ok ()) {demand demand' : Nat}
    (h : demand ≤ demand') : linearizeDemand ac demand ≤ linearizeDemand ac demand' := by
  unfold linearizeDemand
  by_cases hcount : ac.dutyLinearizationCount > 0
  · obtain ⟨hadmitted, hrange, hrising⟩ := dutyTable hv hcount
    have hsegments : SegmentsFit ac.dutyLinearization ac.dutyLinearizationCount CurvePoint.value0 := by
      intro i hi _
      have h0 := hrange i (by omega)
      have h1 := hrange (i + 1) hi
      unfold IsI32 i32Min i32Max
      omega
    have hcurve := (curveFits_iff_segmentsFit hadmitted
      fun k hk => (hadmitted.points k hk).value0).mpr hsegments
    have hmapped := (curveCorrect_of_fits hadmitted hcurve).rising hrising (demand : Int) demand'
      (by omega)
    unfold thermalCurveEvalY0 toU8
    simp only [hcount, if_true]
    split_ifs <;> omega
  · simpa [hcount] using h

end linearization

/-! ## The floor of the trips -/

/-- More active trips have no lower floor. -/
theorem pidFloorState_mono {trips : Vector TripCfg n} {tripCount mask mask' : Nat}
    (h : MaskHotter mask mask') :
    pidFloorState trips tripCount mask' ≤ pidFloorState trips tripCount mask := by
  unfold pidFloorState
  refine Loop.fold_rel (fun cs' cs : Nat => cs' ≤ cs) (Nat.le_refl _) fun t cs' cs _ hcs => ?_
  have hbit := h t
  cases hb : mask'.testBit t with
  | true =>
      simp only [hbit hb, Bool.not_true, Bool.false_eq_true, if_false]
      split_ifs <;> omega
  | false =>
      simp only [Bool.not_false, if_true]
      split_ifs <;> omega

/-- `state_pwm[]` does not decrease up to the floor state of a zone. -/
theorem statePwm_le_of_pidFloor {cfg : Config} (hr : ConfigRules cfg) {z a cs : Nat} {zr : ZoneRuntime}
    (hzr : ZoneShadowInv cfg (cfg.zones.slot z) zr) (hz : z < cfg.zoneCount) (ha : a < cfg.actuatorCount)
    (href : (cfg.zones.slot z).refsActuator (cfg.actuators.slot a).id = true) (offset : Int) (mask : Nat)
    (hcs : cs ≤ pidFloorState (tripsEff zr (cfg.zones.slot z).tripCount offset)
      (cfg.zones.slot z).tripCount mask) :
    (cfg.actuators.slot a).statePwm.slot cs ≤ (cfg.actuators.slot a).statePwm.slot
      (pidFloorState (tripsEff zr (cfg.zones.slot z).tripCount offset)
        (cfg.zones.slot z).tripCount mask) := by
  obtain h0 | ⟨t, ht, heq⟩ := pidFloorState_cases (tripsEff zr (cfg.zones.slot z).tripCount offset)
    (cfg.zones.slot z).tripCount mask
  · rw [h0] at hcs ⊢
    rw [Nat.le_zero.mp hcs]
  · obtain ⟨m, hm, hle⟩ := maxReferencedState_ge hr hz ht ha href
    refine statePwm_mono hr ha hm hcs ?_
    rw [heq, slot_tripsEff zr (hr.zone hz).tripCount offset ht, hzr.trips t ht]
    exact hle

/-! ## The demand of a zone -/

/-- **A hotter zone** demands no less of an actuator it refers to. -/
theorem governorDemandPid_mono {cfg : Config} (hr : ConfigRules cfg) {z a : Nat} {zr : ZoneRuntime}
    (hzr : ZoneShadowInv cfg (cfg.zones.slot z) zr) (hz : z < cfg.zoneCount) (ha : a < cfg.actuatorCount)
    (href : (cfg.zones.slot z).refsActuator (cfg.actuators.slot a).id = true)
    (hcooling : zr.shadowPid.Cooling) {tempMc tempMc' offset : Int} {nowMs : Nat}
    (htemp : tempMc ≤ tempMc')
    (hfits : PidFits { zr with tempMc := tempMc } (cfg.zones.slot z) offset nowMs)
    (hfits' : PidFits { zr with tempMc := tempMc' } (cfg.zones.slot z) offset nowMs) :
    governorDemandPid (governorEvalPid { zr with tempMc := tempMc } (cfg.zones.slot z)
        (tripsEff zr (cfg.zones.slot z).tripCount offset) offset nowMs) (cfg.actuators.slot a) ≤
      governorDemandPid (governorEvalPid { zr with tempMc := tempMc' } (cfg.zones.slot z)
        (tripsEff zr (cfg.zones.slot z).tripCount offset) offset nowMs) (cfg.actuators.slot a) := by
  have hsetpoint : i32 (zr.shadowPid.setpointMc + offset) = zr.shadowPid.setpointMc + offset :=
    i32_of_isI32 hfits.setpoint
  have hduty := outputPwm_mono hcooling htemp hfits.step hfits'.step 0 255
  have hlow := outputPwm_mem zr.pid zr.shadowPid.kpQ16 zr.shadowPid.kiQ16 zr.shadowPid.kdQ16
    zr.shadowPid.dFilterAlphaQ16 (zr.shadowPid.setpointMc + offset) tempMc nowMs zr.shadowPid.dtMinMs
    zr.shadowPid.dtMaxMs
  have hhigh := outputPwm_mem zr.pid zr.shadowPid.kpQ16 zr.shadowPid.kiQ16 zr.shadowPid.kdQ16
    zr.shadowPid.dFilterAlphaQ16 (zr.shadowPid.setpointMc + offset) tempMc' nowMs zr.shadowPid.dtMinMs
    zr.shadowPid.dtMaxMs
  have hmask : MaskHotter
      (thermalGovernorStepWise tempMc' (tripsEff zr (cfg.zones.slot z).tripCount offset)
        (cfg.zones.slot z).tripCount zr.activeTripMask).activeTripMask
      (thermalGovernorStepWise tempMc (tripsEff zr (cfg.zones.slot z).tripCount offset)
        (cfg.zones.slot z).tripCount zr.activeTripMask).activeTripMask :=
    activeTripMask_mono htemp fun _ hbit => hbit
  have hfloor := statePwm_le_of_pidFloor hr hzr hz ha href offset _ (pidFloorState_mono hmask)
  have hlinear := ((validateActuators_iff cfg).mp hr.actuators).1 a ha |>.linearization
  unfold governorDemandPid governorEvalPid
  dsimp only at hduty hlow hhigh ⊢
  rw [hsetpoint]
  have hdemand : toU8 (thermalPidStepFiltered zr.pid zr.shadowPid.kpQ16 zr.shadowPid.kiQ16
        zr.shadowPid.kdQ16 zr.shadowPid.dFilterAlphaQ16 (zr.shadowPid.setpointMc + offset) tempMc nowMs
        zr.shadowPid.dtMinMs zr.shadowPid.dtMaxMs 0 255).2.outputPwm ≤
      toU8 (thermalPidStepFiltered zr.pid zr.shadowPid.kpQ16 zr.shadowPid.kiQ16
        zr.shadowPid.kdQ16 zr.shadowPid.dFilterAlphaQ16 (zr.shadowPid.setpointMc + offset) tempMc' nowMs
        zr.shadowPid.dtMinMs zr.shadowPid.dtMaxMs 0 255).2.outputPwm := by
    unfold toU8
    omega
  have hmapped := linearizeDemand_mono hlinear hdemand
  split_ifs <;> omega

/-- **PID demand is monotone in the temperature**, for one call from any state and for
a zone of an accepted configuration, whatever its controller and its trips hold. -/
theorem pid_demand_monotone :
    (∀ (s : PidState) (p : PidCfg) (setpointMc tempMc tempMc' : Int) (nowMs pwmMin pwmMax : Nat),
      p.Cooling → tempMc ≤ tempMc' → PidStepFits s p setpointMc tempMc nowMs →
      PidStepFits s p setpointMc tempMc' nowMs →
      (thermalPidStepFiltered s p.kpQ16 p.kiQ16 p.kdQ16 p.dFilterAlphaQ16 setpointMc tempMc nowMs
          p.dtMinMs p.dtMaxMs pwmMin pwmMax).2.outputPwm ≤
        (thermalPidStepFiltered s p.kpQ16 p.kiQ16 p.kdQ16 p.dFilterAlphaQ16 setpointMc tempMc' nowMs
          p.dtMinMs p.dtMaxMs pwmMin pwmMax).2.outputPwm) ∧
    ∀ (cfg : Config) (cb : Callbacks) (core : Core) (z a : Nat) (pid : PidState) (mask : Nat)
        (tempMc tempMc' offset : Int) (nowMs : Nat),
      Accepted cfg → Reachable cfg cb core → z < cfg.zoneCount → a < cfg.actuatorCount →
      (cfg.zones.slot z).refsActuator (cfg.actuators.slot a).id = true →
      let zr := { core.zones.slot z with pid := pid, activeTripMask := mask }
      let trips := tripsEff zr (cfg.zones.slot z).tripCount offset
      zr.shadowPid.Cooling → tempMc ≤ tempMc' →
      PidFits { zr with tempMc := tempMc } (cfg.zones.slot z) offset nowMs →
      PidFits { zr with tempMc := tempMc' } (cfg.zones.slot z) offset nowMs →
      governorDemandPid (governorEvalPid { zr with tempMc := tempMc } (cfg.zones.slot z) trips offset
          nowMs) (cfg.actuators.slot a) ≤
        governorDemandPid (governorEvalPid { zr with tempMc := tempMc' } (cfg.zones.slot z) trips offset
          nowMs) (cfg.actuators.slot a) := by
  constructor
  · intro s p setpointMc tempMc tempMc' nowMs pwmMin pwmMax hcooling htemp hfits hfits'
    exact outputPwm_mono hcooling htemp hfits hfits' pwmMin pwmMax
  · intro cfg cb core z a pid mask tempMc tempMc' offset nowMs hcfg hreach hz ha href zr trips hcooling
      htemp hfits hfits'
    have hr : ConfigRules cfg := (accepted_iff cfg).mp hcfg
    have hslot := (reachable_shadowInv hr hreach).zones z hz
    have hzr : ZoneShadowInv cfg (cfg.zones.slot z) zr := ⟨hslot.sensorSlots, hslot.pid, hslot.trips⟩
    exact governorDemandPid_mono hr hzr hz ha href hcooling htemp hfits hfits'

/-- At the setpoint of `minutePidConfig` and a little above everything fits. -/
theorem pidFits_minutePid {tempMc : Int} (h : tempMc = 60000 ∨ tempMc = 60010) :
    PidFits { (initCore minutePidConfig).zones.slot 0 with tempMc := tempMc }
      (minutePidConfig.zones.slot 0) 0 0 := by
  have htyped : PidTyped ((initCore minutePidConfig).zones.slot 0).pid
      ((initCore minutePidConfig).zones.slot 0).shadowPid := by
    constructor <;> decide +kernel
  obtain rfl | rfl := h
  all_goals
    refine ⟨by decide +kernel, by decide +kernel, (pidStepFits_iff htyped).mpr ?_, outputPwm_mem ..,
      by decide⟩
    constructor <;> decide +kernel

theorem pid_demand_monotone_minutePid :
    let p := (minutePidConfig.zones.slot 0).pid
    let zr := (initCore minutePidConfig).zones.slot 0
    (thermalPidStepFiltered thermalPidReset p.kpQ16 p.kiQ16 p.kdQ16 p.dFilterAlphaQ16 60000 60000 0
        p.dtMinMs p.dtMaxMs 0 255).2.outputPwm ≤
      (thermalPidStepFiltered thermalPidReset p.kpQ16 p.kiQ16 p.kdQ16 p.dFilterAlphaQ16 60000 60010 0
        p.dtMinMs p.dtMaxMs 0 255).2.outputPwm ∧
    governorDemandPid (governorEvalPid { zr with tempMc := 60000 } (minutePidConfig.zones.slot 0)
        (tripsEff zr 3 0) 0 0) (minutePidConfig.actuators.slot 0) ≤
      governorDemandPid (governorEvalPid { zr with tempMc := 60010 } (minutePidConfig.zones.slot 0)
        (tripsEff zr 3 0) 0 0) (minutePidConfig.actuators.slot 0) := by
  intro p zr
  have hcooling : p.Cooling := by
    constructor <;> decide +kernel
  have hlow := pidFits_minutePid (.inl rfl)
  have hhigh := pidFits_minutePid (.inr rfl)
  constructor
  · exact pid_demand_monotone.1 thermalPidReset p 60000 60000 60010 0 0 255 hcooling (by decide)
      hlow.step hhigh.step
  · exact pid_demand_monotone.2 minutePidConfig ⟨false, false⟩ (initCore minutePidConfig) 0 0 zr.pid
      zr.activeTripMask 60000 60010 0 0 accepted_minutePidConfig Reachable.init (by decide) (by decide)
      (by decide) hcooling (by decide) hlow hhigh

end ThermalCore
