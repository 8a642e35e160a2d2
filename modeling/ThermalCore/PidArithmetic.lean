import ThermalCore.EffectiveTrips

/-!
# The arithmetic of the PID governor

`thermal_pid_step_filtered` forms its products before it saturates anything.  Which
of its values can leave their types, and from which inputs: the error and the drop of
the temperature as 32-bit differences, the two products with a third factor, and the
sum of the terms on the shortest steps without the filter.

`pidFits_iff` gives the inputs from which nothing leaves its type, as bounds on error,
drop and period.  Along a run the integrator stays saturated, so the condition is on
the snapshot and the gains alone.
-/

namespace ThermalCore

open MachineInt

/-! ## The terms over the integers -/

def PidCfg.dt (p : PidCfg) (s : PidState) (nowMs : Nat) : Nat := pidDt s nowMs p.dtMinMs p.dtMaxMs

def PidCfg.iIncrement (p : PidCfg) (error : Int) (dtMs : Nat) : Int :=
  (p.kiQ16 * error * dtMs).tdiv 1000

def PidCfg.dRaw (p : PidCfg) (dTemp : Int) (dtMs : Nat) : Int := (p.kdQ16 * dTemp * 1000).tdiv dtMs

/-- The derivative term, through the filter where there is one. -/
def PidCfg.dTerm (p : PidCfg) (s : PidState) (tempMc : Int) (dtMs : Nat) : Int :=
  if s.initialized then
    if p.dFilterAlphaQ16 > 0 then
      if !s.dFilterInitialized then satI32 (p.dRaw (tempMc - s.prevTempMc) dtMs)
      else iirQ16Step s.dFilteredQ16 (satI32 (p.dRaw (tempMc - s.prevTempMc) dtMs)) p.dFilterAlphaQ16
    else p.dRaw (tempMc - s.prevTempMc) dtMs
  else 0

/-- The proportional term and the tentative integral. -/
def PidCfg.piSum (p : PidCfg) (s : PidState) (error : Int) (dtMs : Nat) : Int :=
  p.kpQ16 * error + satI32 (s.integralQ16 + p.iIncrement error dtMs)

def PidCfg.outputSum (p : PidCfg) (s : PidState) (setpointMc tempMc : Int) (dtMs : Nat) : Int :=
  p.piSum s (tempMc - setpointMc) dtMs + p.dTerm s tempMc dtMs

/-! ## What fits -/

/-- Every operation of `iir_q16_step` in `int64_t`. -/
structure IirFits (prev sample alphaQ16 : Int) : Prop where
  difference : IsI64 (sample - prev)
  product : IsI64 (alphaQ16 * (sample - prev))
  negated : IsI64 (-(alphaQ16 * (sample - prev)))
  rounded : IsI64 ((alphaQ16 * (sample - prev)).natAbs + 32768)
  sum : IsI64 (prev + roundQ16 (alphaQ16 * (sample - prev)))

/-- Every operation of `thermal_pid_step_filtered` in the type it is computed in, and
a positive divisor where it divides. -/
structure PidStepFits (s : PidState) (p : PidCfg) (setpointMc tempMc : Int) (nowMs : Nat) : Prop where
  dtMs : p.dt s nowMs < 2 ^ 16
  divisor : s.initialized = true → 0 < p.dt s nowMs
  error : IsI32 (tempMc - setpointMc)
  pTerm : IsI64 (p.kpQ16 * (tempMc - setpointMc))
  iGain : IsI64 (p.kiQ16 * (tempMc - setpointMc))
  iScaled : IsI64 (p.kiQ16 * (tempMc - setpointMc) * p.dt s nowMs)
  iTentative : IsI64 (s.integralQ16 + p.iIncrement (tempMc - setpointMc) (p.dt s nowMs))
  dTemp : s.initialized = true → IsI32 (tempMc - s.prevTempMc)
  dGain : s.initialized = true → IsI64 (p.kdQ16 * (tempMc - s.prevTempMc))
  dScaled : s.initialized = true → IsI64 (p.kdQ16 * (tempMc - s.prevTempMc) * 1000)
  filter : s.initialized = true → 0 < p.dFilterAlphaQ16 → s.dFilterInitialized = true →
    IirFits s.dFilteredQ16 (satI32 (p.dRaw (tempMc - s.prevTempMc) (p.dt s nowMs))) p.dFilterAlphaQ16
  piSum : IsI64 (p.piSum s (tempMc - setpointMc) (p.dt s nowMs))
  outputSum : IsI64 (p.outputSum s setpointMc tempMc (p.dt s nowMs))
  shift : IsI64 (-satI32 (p.outputSum s setpointMc tempMc (p.dt s nowMs)) + 65535) ∧
    IsI32 (q16FloorToI32 (satI32 (p.outputSum s setpointMc tempMc (p.dt s nowMs))))

/-- Every operation of `governor_eval_pid`, the call included. -/
structure PidFits (zr : ZoneRuntime) (zc : ZoneCfg) (tripOffsetMc : Int) (nowMs : Nat) : Prop where
  setpoint : IsI32 (zr.shadowPid.setpointMc + tripOffsetMc)
  divisor : 0 < zr.shadowPid.dt zr.pid nowMs
  step : PidStepFits zr.pid zr.shadowPid (zr.shadowPid.setpointMc + tripOffsetMc) zr.tempMc nowMs
  duty : 0 ≤ (thermalPidStepFiltered zr.pid zr.shadowPid.kpQ16 zr.shadowPid.kiQ16 zr.shadowPid.kdQ16
        zr.shadowPid.dFilterAlphaQ16 (i32 (zr.shadowPid.setpointMc + tripOffsetMc)) zr.tempMc nowMs
        zr.shadowPid.dtMinMs zr.shadowPid.dtMaxMs 0 255).2.outputPwm ∧
    (thermalPidStepFiltered zr.pid zr.shadowPid.kpQ16 zr.shadowPid.kiQ16 zr.shadowPid.kdQ16
        zr.shadowPid.dFilterAlphaQ16 (i32 (zr.shadowPid.setpointMc + tripOffsetMc)) zr.tempMc nowMs
        zr.shadowPid.dtMinMs zr.shadowPid.dtMaxMs 0 255).2.outputPwm ≤ 255
  bits : ∀ k < zc.tripCount, k < 32

/-- The inputs a call computes with: the temperature within `int32_t` of the setpoint
and of the previous one, the scaled products within `int64_t`, and on a step of 1 or
2 ms without the filter the three terms together. -/
structure PidInRange (s : PidState) (p : PidCfg) (setpointMc tempMc : Int) (nowMs : Nat) : Prop where
  error : IsI32 (tempMc - setpointMc)
  iScaled : IsI64 (p.kiQ16 * (tempMc - setpointMc) * p.dt s nowMs)
  dTemp : s.initialized = true → IsI32 (tempMc - s.prevTempMc)
  dScaled : s.initialized = true → IsI64 (p.kdQ16 * (tempMc - s.prevTempMc) * 1000)
  shortStep : s.initialized = true → p.dFilterAlphaQ16 = 0 → p.dt s nowMs ≤ 2 →
    IsI64 (p.kpQ16 * (tempMc - setpointMc) +
      satI32 (s.integralQ16 + (p.kiQ16 * (tempMc - setpointMc) * p.dt s nowMs).tdiv 1000) +
      (p.kdQ16 * (tempMc - s.prevTempMc) * 1000).tdiv (p.dt s nowMs))

section bounds

theorem q16FloorToI32_eq (v : Int) : q16FloorToI32 v = v / 65536 := by
  unfold q16FloorToI32
  split <;> omega

/-- A step of 3 ms and more divides the rate below a third of the range. -/
theorem tdiv_mem_third {x : Int} {t : Nat} (ht : 3 ≤ t) (h : IsI64 x) :
    -3074457345618258603 ≤ x.tdiv t ∧ x.tdiv t ≤ 3074457345618258603 := by
  unfold IsI64 at h
  exact tdiv_mem (by omega) (by omega) (by omega)

/-- The filter works on values of `int32_t` and a factor up to one. -/
theorem iirFits {prev sample alpha : Int} (hprev : IsI32 prev) (hsample : IsI32 sample)
    (h0 : 0 ≤ alpha) (h1 : alpha ≤ 65536) : IirFits prev sample alpha := by
  obtain ⟨hup, hdown⟩ := @roundQ16_mul_mem alpha (sample - prev) h0 h1
  unfold IsI32 i32Min i32Max at hprev hsample
  have hproduct : -(65536 * 2 ^ 32) ≤ alpha * (sample - prev) ∧
      alpha * (sample - prev) ≤ 65536 * 2 ^ 32 := by
    constructor
    · calc -(65536 * 2 ^ 32 : Int) ≤ alpha * -2 ^ 32 := by omega
        _ ≤ alpha * (sample - prev) := Int.mul_le_mul_of_nonneg_left (by omega) h0
    · calc alpha * (sample - prev) ≤ alpha * 2 ^ 32 := Int.mul_le_mul_of_nonneg_left (by omega) h0
        _ ≤ 65536 * 2 ^ 32 := by omega
  constructor
  all_goals
    unfold IsI64
    omega

end bounds

/-! ## Exactly the inputs in range fit -/

section iff

variable {s : PidState} {p : PidCfg} {setpointMc tempMc : Int} {nowMs : Nat}

/-- What a reachable state and an accepted configuration bring. -/
structure PidTyped (s : PidState) (p : PidCfg) : Prop where
  integral : IsI32 s.integralQ16
  filtered : IsI32 s.dFilteredQ16
  kp : IsI32 p.kpQ16
  ki : IsI32 p.kiQ16
  kd : IsI32 p.kdQ16
  alpha : 0 ≤ p.dFilterAlphaQ16 ∧ p.dFilterAlphaQ16 ≤ q16One
  dtMin : 0 < p.dtMinMs
  dtMax : 0 < p.dtMaxMs ∧ p.dtMaxMs < 2 ^ 16

theorem PidTyped.dt_mem (h : PidTyped s p) (nowMs : Nat) :
    0 < p.dt s nowMs ∧ p.dt s nowMs < 2 ^ 16 := by
  have hmin := h.dtMin
  have hmax := h.dtMax
  unfold PidCfg.dt pidDt
  dsimp only
  split_ifs <;> omega

/-- The integral term of a step whose scaled product fits. -/
theorem iTentative_isI64 (hintegral : IsI32 s.integralQ16) {x : Int} (h : IsI64 x) :
    IsI64 (s.integralQ16 + x.tdiv 1000) := by
  unfold IsI64 IsI32 i32Min i32Max at *
  have := @tdiv_mem (-9223372036854776) 9223372036854776 x 1000 (by omega) (by omega) (by omega)
  omega

/-- The filtered derivative is a value of `int32_t`. -/
theorem isI32_dTerm (hinit : s.initialized = true → 0 < p.dFilterAlphaQ16) (dtMs : Nat) :
    IsI32 (p.dTerm s tempMc dtMs) := by
  unfold PidCfg.dTerm
  by_cases hi : s.initialized = true
  · rw [if_pos hi, if_pos (hinit hi)]
    split
    · exact isI32_satI32 _
    · exact isI32_satI32 _
  · rw [if_neg hi]
    decide

/-- **A call computes within its types exactly when** its inputs are in range. -/
theorem pidStepFits_iff (h : PidTyped s p) :
    PidStepFits s p setpointMc tempMc nowMs ↔ PidInRange s p setpointMc tempMc nowMs := by
  have hdt := h.dt_mem nowMs
  have halpha := h.alpha
  constructor
  · intro hfits
    refine ⟨hfits.error, hfits.iScaled, hfits.dTemp, hfits.dScaled, fun hinit hoff hshort => ?_⟩
    have hsum := hfits.outputSum
    unfold PidCfg.outputSum PidCfg.piSum PidCfg.dTerm at hsum
    rw [if_pos hinit, if_neg (by omega)] at hsum
    exact hsum
  · intro hrange
    have hp := mul_mem_of_isI32 h.kp hrange.error
    have htentative := iTentative_isI64 h.integral hrange.iScaled
    have hsat := isI32_satI32 (s.integralQ16 + p.iIncrement (tempMc - setpointMc) (p.dt s nowMs))
    have hpi : -2 ^ 62 - 2 ^ 31 ≤ p.piSum s (tempMc - setpointMc) (p.dt s nowMs) ∧
        p.piSum s (tempMc - setpointMc) (p.dt s nowMs) ≤ 2 ^ 62 + 2 ^ 31 := by
      unfold PidCfg.piSum
      unfold IsI32 i32Min i32Max at hsat
      omega
    have hsum : IsI64 (p.outputSum s setpointMc tempMc (p.dt s nowMs)) := by
      unfold PidCfg.outputSum
      by_cases hoff : s.initialized = true ∧ p.dFilterAlphaQ16 = 0
      · obtain ⟨hinit, hzero⟩ := hoff
        have hraw : p.dTerm s tempMc (p.dt s nowMs) = p.dRaw (tempMc - s.prevTempMc) (p.dt s nowMs) := by
          unfold PidCfg.dTerm
          rw [if_pos hinit, if_neg (by omega)]
        rw [hraw]
        by_cases hshort : p.dt s nowMs ≤ 2
        · exact hrange.shortStep hinit hzero hshort
        · have hthird := tdiv_mem_third (show 3 ≤ p.dt s nowMs by omega) (hrange.dScaled hinit)
          unfold PidCfg.dRaw IsI64
          omega
      · have hfiltered : IsI32 (p.dTerm s tempMc (p.dt s nowMs)) :=
          isI32_dTerm (fun hinit => by
            have hne : p.dFilterAlphaQ16 ≠ 0 := fun hzero => hoff ⟨hinit, hzero⟩
            omega) _
        unfold IsI32 i32Min i32Max at hfiltered
        unfold IsI64
        omega
    have hout := isI32_satI32 (p.outputSum s setpointMc tempMc (p.dt s nowMs))
    constructor
    case dtMs => exact hdt.2
    case divisor => exact fun _ => hdt.1
    case error => exact hrange.error
    case pTerm => exact isI64_mul h.kp hrange.error
    case iGain => exact isI64_mul h.ki hrange.error
    case iScaled => exact hrange.iScaled
    case iTentative => exact htentative
    case dTemp => exact hrange.dTemp
    case dGain => exact fun hinit => isI64_mul h.kd (hrange.dTemp hinit)
    case dScaled => exact hrange.dScaled
    case filter => exact fun _ _ _ => iirFits h.filtered (isI32_satI32 _) halpha.1 halpha.2
    case piSum =>
      unfold IsI64
      omega
    case outputSum => exact hsum
    case shift =>
      rw [q16FloorToI32_eq]
      unfold IsI32 i32Min i32Max at hout ⊢
      unfold IsI64
      omega

end iff

/-! ## The controller's state along a run -/

/-- The integral and the filtered derivative are values of `int32_t`. -/
structure PidState.Typed (s : PidState) : Prop where
  integral : IsI32 s.integralQ16
  filtered : IsI32 s.dFilteredQ16

theorem pidDerivative_typed {s : PidState} (h : s.Typed) (kd alpha temp : Int) (dt : Nat) :
    (pidDerivative s kd alpha temp dt).2.Typed := by
  unfold pidDerivative
  dsimp only
  split
  · split
    · refine ⟨h.integral, ?_⟩
      dsimp only
      split
      · exact isI32_satI32 _
      · exact isI32_satI32 _
    · exact ⟨h.integral, h.filtered⟩
  · exact ⟨h.integral, h.filtered⟩

theorem thermalPidStepFiltered_typed {s : PidState} (h : s.Typed) (kp ki kd alpha setpoint temp : Int)
    (now dtMin dtMax pwmMin pwmMax : Nat) :
    (thermalPidStepFiltered s kp ki kd alpha setpoint temp now dtMin dtMax pwmMin pwmMax).1.Typed := by
  have hcommit (commit : Bool) (x : Int) : IsI32 (if commit then satI32 x else s.integralQ16) := by
    cases commit with
    | true => exact isI32_satI32 x
    | false => exact h.integral
  exact ⟨hcommit _ _, (pidDerivative_typed h kd alpha temp (pidDt s now dtMin dtMax)).filtered⟩

theorem zoneStep_pidTyped {zr : ZoneRuntime} (h : zr.pid.Typed) (zc : ZoneCfg)
    (agg : ZoneAggregateResult) (offset : Int) (nowMs : Nat) :
    (zoneStep zc agg offset nowMs zr).pid.Typed := by
  unfold zoneStep
  dsimp only
  cases governorOpsFor zc.governor with
  | none => exact h
  | some ops =>
      cases ops with
      | stepWise => exact h
      | pid => exact thermalPidStepFiltered_typed h ..

theorem reset_typed : thermalPidReset.Typed := ⟨by decide, by decide⟩

/-- An edit of one zone that keeps its controller typed. -/
theorem editZone_pidTyped {core : Core} (h : ∀ z < maxZones, (core.zones.slot z).pid.Typed) (z : Nat)
    {f : ZoneRuntime → ZoneRuntime} (hf : ∀ zr, zr.pid.Typed → (f zr).pid.Typed) :
    ∀ i < maxZones, ((core.zones.edit z f).slot i).pid.Typed := by
  intro i hi
  rw [Vector.slot_edit]
  split
  · exact hf _ (h _ (by omega))
  · exact h i hi

section run

variable {cfg : Config} {cb : Callbacks} {core : Core}

theorem CommandWrite.pidTyped {cmd : Command} {core' : Core} (hw : CommandWrite cfg core cmd core')
    (h : ∀ z < maxZones, (core.zones.slot z).pid.Typed) :
    ∀ z < maxZones, (core'.zones.slot z).pid.Typed := by
  cases hw with
  | setPid z kp ki kd => exact editZone_pidTyped h z fun _ _ => reset_typed
  | setSetpoint z sp => exact editZone_pidTyped h z fun _ hz => hz
  | setTrip z t temp hyst => exact editZone_pidTyped h z fun _ hz => hz
  | setCurvePoint | clearNothing | clearStall | clearStuckSensor | clearRunaway
  | clearStaleContext => exact h

/-- **Every reachable controller** has its accumulators in `int32_t`. -/
theorem reachable_pidTyped (hr : ConfigRules cfg) (hreach : Reachable cfg cb core) :
    ∀ z < maxZones, (core.zones.slot z).pid.Typed := by
  refine hreach.induct (P := fun c => ∀ z < maxZones, (c.zones.slot z).pid.Typed) ?_ ?_ ?_
  · intro z hz
    by_cases hcount : z < cfg.zoneCount
    · have hslot : (initCore cfg).zones.slot z = initZone cfg (cfg.zones.slot z) :=
        Vector.slot_forSlots_lt _ _ hr.zoneCount_le hcount
      rw [hslot]
      exact reset_typed
    · have hslot : (initCore cfg).zones.slot z = (default : Vector ZoneRuntime maxZones).slot z :=
        Vector.slot_forSlots_ge _ _ (Nat.le_of_not_lt hcount)
      have hdefault : (default : Vector ZoneRuntime maxZones).slot z = default :=
        Vector.slot_replicate_default z
      rw [hslot, hdefault]
      exact ⟨by decide, by decide⟩
  · intro c inp _ hc z hz
    rw [passDone_zones_eq, Vector.slot_forSlots]
    split
    · exact zoneStep_pidTyped (hc z hz) ..
    · exact hc z hz
  · intro c cmd hc
    obtain ⟨-, hrej⟩ | ⟨-, hw⟩ := runCommand_cases cfg c cmd
    · rw [hrej]
      exact hc
    · exact hw.pidTyped hc

/-- What validation promises of the gains in force, and of the bounds on the step time. -/
theorem reachable_pidRules (hr : ConfigRules cfg) (htyped : cfg.Typed) (hreach : Reachable cfg cb core)
    {z : Nat} (hz : z < cfg.zoneCount) (hpid : governorOpsFor (cfg.zones.slot z).governor = some .pid) :
    PidTyped (core.zones.slot z).pid (core.zones.slot z).shadowPid := by
  have hlt : z < maxZones := Nat.lt_of_lt_of_le hz hr.zoneCount_le
  have hstate := reachable_pidTyped hr hreach z hlt
  have hbounds := (htyped.zones z hlt).pid
  have htuned := ((reachable_shadowInv hr hreach).zones z hz).pid
  have hgains := ((reachable_runtimeRules hr hreach).zones z hz).gains hpid
  have hvalid := (hr.zone hz).governorRules .pid hpid
  unfold Governor.validate governorValidatePid at hvalid
  simp only [Check.bind_eq_ok, Check.failIf_eq_ok] at hvalid
  obtain ⟨-, -, -, halpha, -, hmin, hlow, hhigh, -⟩ := hvalid
  have hsame : (core.zones.slot z).shadowPid.dFilterAlphaQ16 = (cfg.zones.slot z).pid.dFilterAlphaQ16 ∧
      (core.zones.slot z).shadowPid.dtMinMs = (cfg.zones.slot z).pid.dtMinMs ∧
      (core.zones.slot z).shadowPid.dtMaxMs = (cfg.zones.slot z).pid.dtMaxMs := by
    rw [htuned]
    exact ⟨rfl, rfl, rfl⟩
  simp only [gainsInBounds, Bool.not_eq_true', Bool.or_eq_false_iff, decide_eq_false_iff_not] at hgains
  obtain ⟨⟨hkp, hki⟩, hkd⟩ := hgains
  obtain ⟨-, -, -, -, -, hkpMin, hkpMax, hkiMin, hkiMax, hkdMin, hkdMax, -, -, -, hdtMax⟩ := hbounds
  constructor
  case integral => exact hstate.integral
  case filtered => exact hstate.filtered
  case kp =>
    unfold IsI32 at *
    omega
  case ki =>
    unfold IsI32 at *
    omega
  case kd =>
    unfold IsI32 at *
    omega
  case alpha =>
    rw [hsame.1]
    omega
  case dtMin =>
    rw [hsame.2.1]
    omega
  case dtMax =>
    rw [hsame.2.2]
    omega

end run

/-! ## Main result -/

/-- The duty of a call is within its bounds. -/
theorem outputPwm_mem (s : PidState) (kp ki kd alpha setpoint temp : Int) (now dtMin dtMax : Nat) :
    0 ≤ (thermalPidStepFiltered s kp ki kd alpha setpoint temp now dtMin dtMax 0 255).2.outputPwm ∧
      (thermalPidStepFiltered s kp ki kd alpha setpoint temp now dtMin dtMax 0 255).2.outputPwm ≤ 255 := by
  unfold thermalPidStepFiltered
  dsimp only
  simp only [decide_eq_true_eq]
  split_ifs <;> omega

/-- **The arithmetic of a PID zone** fits exactly on inputs in range: for every
accepted configuration, reachable state, zone temperature, offset and step time. -/
theorem pidFits_iff {cfg : Config} {cb : Callbacks} {core : Core} (hcfg : Accepted cfg)
    (htyped : cfg.Typed) (hreach : Reachable cfg cb core) {z : Nat} (hz : z < cfg.zoneCount)
    (hpid : governorOpsFor (cfg.zones.slot z).governor = some .pid) (tempMc offset : Int) (nowMs : Nat) :
    let zr := { core.zones.slot z with tempMc := tempMc }
    PidFits zr (cfg.zones.slot z) offset nowMs ↔
      IsI32 (zr.shadowPid.setpointMc + offset) ∧
        PidInRange zr.pid zr.shadowPid (zr.shadowPid.setpointMc + offset) tempMc nowMs := by
  intro zr
  have hr : ConfigRules cfg := (accepted_iff cfg).mp hcfg
  have hrules : PidTyped zr.pid zr.shadowPid := reachable_pidRules hr htyped hreach hz hpid
  have htrips : (cfg.zones.slot z).tripCount ≤ 4 := (hr.zone hz).tripCount
  rw [← pidStepFits_iff hrules]
  constructor
  · intro h
    exact ⟨h.setpoint, h.step⟩
  · intro h
    exact ⟨h.1, (hrules.dt_mem nowMs).1, h.2, outputPwm_mem .., fun k hk => by omega⟩

/-- The one fan under a PID zone at 60 °C, with an integral gain of up to 2^31 - 1 and
a period of a minute. -/
def minutePidConfig : Config :=
  { oneFanConfig with
    controlPeriodMs := 60000
    zones := (default : Vector ZoneCfg maxZones).put 0
      { socZone with
        governor := 2
        pid := { (default : PidCfg) with
          kpQ16 := 655, kiQ16 := 2147483647, setpointMc := 60000
          kpMaxQ16 := 655360, kiMaxQ16 := 2147483647, setpointMinMc := 30000, setpointMaxMc := 80000
          dtMinMs := 60000, dtMaxMs := 60000 } } }

theorem accepted_minutePidConfig : Accepted minutePidConfig := by decide +kernel

/-- At the setpoint everything fits. -/
theorem pidFits_atSetpoint :
    PidFits { (initCore minutePidConfig).zones.slot 0 with tempMc := 60000 }
      (minutePidConfig.zones.slot 0) 0 0 :=
  (pidFits_iff accepted_minutePidConfig (by decide +kernel) (@Reachable.init _ ⟨false, false⟩)
    (by decide) (by decide) 60000 0 0).mpr
    ⟨by decide +kernel, by decide +kernel, by decide +kernel, by decide +kernel, by decide +kernel,
      by decide +kernel⟩

/-- **The increment of the integral wraps** 80 °C above the setpoint, on the first step. -/
theorem pid_increment_wraps :
    ¬∀ (cfg : Config) (cb : Callbacks) (core : Core) (inp : InputSnapshot) (z : Nat) (tempMc : Int)
        (nowMs : Nat), Accepted cfg → cfg.Typed → Reachable cfg cb core → z < cfg.zoneCount →
      governorOpsFor (cfg.zones.slot z).governor = some .pid → IsI32 tempMc → nowMs < 2 ^ 32 →
      PidFits { core.zones.slot z with tempMc := tempMc } (cfg.zones.slot z)
        (tripOffsetMc cfg (senseCore cfg inp core)) nowMs := by
  intro h
  have hfits := h minutePidConfig ⟨false, false⟩ (initCore minutePidConfig) (snapshotOf 0 []) 0
    140000 0
    (by decide +kernel) (by decide +kernel) Reachable.init (by decide) (by decide) (by decide) (by decide)
  have hscaled := hfits.step.iScaled
  revert hscaled
  decide +kernel

/-- What the step makes of it: no duty, where 255 is due. -/
example :
    (governorEvalPid { (initCore minutePidConfig).zones.slot 0 with tempMc := 140000 }
      (minutePidConfig.zones.slot 0) default 0 0).pwmThisTick = 0 := by decide +kernel

end ThermalCore
