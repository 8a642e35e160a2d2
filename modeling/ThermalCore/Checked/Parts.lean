import ThermalCore.Lib.Exec
import ThermalCore.Safety

/-!
# The modules under the core, with every access checked

The functions of `thermal_curve.c`, `thermal_zone.c`, `thermal_governor.c`,
`thermal_pid.c`, `thermal_fault.c` and `thermal_fan_health.c` that index an array
or divide, transcribed a second time in `Exec`: each `[i]` of the source is a
`read` or a `write`, each `/` and `%` by something other than a literal a `tdiv`,
a `div` or a `mod`.  For each, the condition under which it does what the model
does.

The lemmas end in `_eq`: under its condition the transcription returns `.ok` of the
model's own value, so no test failed on the way.  The conditions are what the
callers can give: a count within its array, abscissas that ascend, limits of the
PID period above zero, the head of a runaway ring inside the ring.
-/

namespace ThermalCore.Checked

open MachineInt Exec

/-! ## thermal_curve.c -/

/-- Abscissas of `int32_t` that ascend strictly: no segment has length 0. -/
structure CurveAscends (curve : Vector CurvePoint n) (count : Nat) : Prop where
  count_le : count ≤ n
  ascends : ∀ k < count, 0 < k → (curve.slot (k - 1)).x < (curve.slot k).x
  x_isI32 : ∀ k < count, IsI32 (curve.slot k).x

/-- The search for the segment that holds `x`: it reads the point behind the loop index. -/
def curveSegment (curve : Vector CurvePoint n) (count : Nat) (x : Int) : Exec ThermalStatus Nat := do
  let i ← first count fun i =>
    if i + 1 < count then do
      let next ← read curve (i + 1)
      .ok (!decide (x > next.x))
    else .ok true
  .ok (i.getD 0)

/-- `curve_eval_axis`: it reads both ends of the curve and of a segment, and divides by the
segment's length. -/
def curveEvalAxis (curve : Vector CurvePoint n) (count : Nat) (x : Int) (y : CurvePoint → Int) :
    Exec ThermalStatus Int :=
  if count = 0 then .ok 0
  else do
    let head ← read curve 0
    if x ≤ head.x then .ok (y head)
    else do
      let last ← read curve (count - 1)
      if x ≥ last.x then .ok (y last)
      else do
        let i ← curveSegment curve count x
        let p0 ← read curve i
        let p1 ← read curve (i + 1)
        let quot ← tdiv (i32 (x - p0.x) * i32 (y p1 - y p0)) (i32 (p1.x - p0.x))
        .ok (i32 (y p0 + i32 quot))

/-- `thermal_modifier_eval`: both axes of the modifier's curve. -/
def thermalModifierEval (cfg : ModifierCfg) (effectiveContextValue : Int) :
    Exec ThermalStatus ModifierEvalResult := do
  let cap ← curveEvalAxis cfg.curve cfg.curveCount effectiveContextValue CurvePoint.value0
  let offset ← curveEvalAxis cfg.curve cfg.curveCount effectiveContextValue CurvePoint.value1
  .ok ⟨cap, offset⟩

section curve

variable {curve : Vector CurvePoint n} {count : Nat} {x : Int}

/-- The search stays inside the curve, since it reads the next point only where there is one. -/
theorem curveSegment_eq (hc : count ≤ n) :
    curveSegment curve count x = .ok (ThermalCore.curveSegment curve count x) := by
  unfold curveSegment ThermalCore.curveSegment
  have hscan (i : Nat) (_ : i < count) :
      (if i + 1 < count then (do
          let next ← read curve (i + 1)
          .ok (!decide (x > next.x)) : Exec ThermalStatus Bool)
        else .ok true) =
      .ok (!(decide (i + 1 < count) && decide (x > (curve.slot (i + 1)).x))) := by
    by_cases hi : i + 1 < count
    · rw [if_pos hi, read_of_lt _ (Nat.lt_of_lt_of_le hi hc), ok_bind, decide_eq_true hi,
        Bool.true_and]
    · rw [if_neg hi, decide_eq_false hi, Bool.false_and, Bool.not_false]
  rw [first_eq hscan, ok_bind]

/-- Between the clamps the scan stops at a segment of the curve. -/
theorem curveSegment_lt (hcount : 0 < count) (hlo : ¬x ≤ (curve.slot 0).x)
    (hhi : ¬x ≥ (curve.slot (count - 1)).x) : ThermalCore.curveSegment curve count x + 1 < count := by
  unfold ThermalCore.curveSegment
  cases hscan : Loop.first count fun i =>
      !(decide (i + 1 < count) && decide (x > (curve.slot (i + 1)).x)) with
  | none =>
      rw [Loop.first_eq_none] at hscan
      have hlast := hscan (count - 1) (by omega)
      have hend : ¬count - 1 + 1 < count := by omega
      simp [hend] at hlast
  | some i =>
      obtain ⟨hi, -⟩ := Loop.first_eq_some hscan
      rw [Option.getD_some]
      by_contra hend
      have hlast : i = count - 1 := by omega
      rcases Nat.eq_zero_or_pos i with h0 | hpos
      · rw [← hlast, h0] at hhi
        omega
      · -- the scan passed the segment before the last point, which lies above `x`
        have hprev := Loop.first_min hscan (show i - 1 < i by omega)
        have hsub : i - 1 + 1 = i := by omega
        simp only [hsub, hi, decide_true, Bool.true_and, Bool.not_eq_false', decide_eq_true_eq]
          at hprev
        rw [hlast] at hprev
        omega

/-- On ascending abscissas no division is by zero, and every point read is one of the curve. -/
theorem curveEvalAxis_eq (h : CurveAscends curve count) (x : Int) (y : CurvePoint → Int) :
    curveEvalAxis curve count x y = .ok (ThermalCore.curveEvalAxis curve count x y) := by
  have hcn := h.count_le
  unfold curveEvalAxis ThermalCore.curveEvalAxis
  by_cases h0 : count = 0
  · rw [if_pos h0, if_pos h0]
  · rw [if_neg h0, if_neg h0, read_of_lt _ (by omega), ok_bind]
    by_cases hlo : x ≤ (curve.slot 0).x
    · rw [if_pos hlo, if_pos hlo]
    · rw [if_neg hlo, if_neg hlo, read_of_lt _ (by omega), ok_bind]
      by_cases hhi : x ≥ (curve.slot (count - 1)).x
      · rw [if_pos hhi, if_pos hhi]
      · rw [if_neg hhi, if_neg hhi, curveSegment_eq hcn, ok_bind]
        have hseg := curveSegment_lt (Nat.pos_of_ne_zero h0) hlo hhi
        generalize ThermalCore.curveSegment curve count x = i at hseg ⊢
        have hasc := h.ascends (i + 1) hseg (Nat.succ_pos i)
        rw [Nat.add_sub_cancel] at hasc
        obtain ⟨hx0, -⟩ := h.x_isI32 i (by omega)
        obtain ⟨-, hx1⟩ := h.x_isI32 (i + 1) hseg
        have hden : i32 ((curve.slot (i + 1)).x - (curve.slot i).x) ≠ 0 := by
          unfold i32Min at hx0
          unfold i32Max at hx1
          unfold i32
          omega
        rw [read_of_lt _ (by omega), ok_bind, read_of_lt _ (by omega), ok_bind, tdiv_of_ne hden,
          ok_bind]

/-- A modifier's curve is evaluated within its bounds on either axis. -/
theorem thermalModifierEval_eq {m : ModifierCfg} (h : CurveAscends m.curve m.curveCount) (v : Int) :
    thermalModifierEval m v = .ok (ThermalCore.thermalModifierEval m v) := by
  unfold thermalModifierEval
  rw [curveEvalAxis_eq h, ok_bind, curveEvalAxis_eq h, ok_bind]
  rfl

end curve

/-! ## thermal_zone.c -/

/-- The three local arrays of step 6 with `count` entries in use. -/
abbrev Readings := Vector Reading maxSensorsPerZone

/-- The greatest valid reading. -/
def aggMax (rs : Readings) (count : Nat) : Exec ThermalStatus (Option Int) :=
  fold count none fun best i => do
    let r ← read rs i
    .ok (if !r.valid then best
      else match best with
        | none => some r.value
        | some b => if r.value > b then some r.value else some b)

/-- The sum and the number of the valid readings. -/
def aggSum (rs : Readings) (count : Nat) : Exec ThermalStatus (Int × Nat) :=
  fold count (0, 0) fun acc i => do
    let r ← read rs i
    .ok (if !r.valid then acc else (acc.1 + r.value, acc.2 + 1))

/-- The weighted sum and the weights of the valid readings. -/
def aggWeighted (rs : Readings) (count : Nat) : Exec ThermalStatus (Int × Int) :=
  fold count (0, 0) fun acc i => do
    let r ← read rs i
    .ok (if !r.valid then acc else (i64 (acc.1 + r.value * r.weightQ16), acc.2 + r.weightQ16))

/-- `thermal_zone_aggregate`: the averages divide by the number of valid readings or by their
weights. -/
def thermalZoneAggregate (mode : Nat) (rs : Readings) (count : Nat) (fallbackTempMc : Int) :
    Exec ThermalStatus ZoneAggregateResult :=
  if count = 0 then .ok ⟨fallbackTempMc, false⟩
  else if mode = Aggregation.max.code then do
    let best ← aggMax rs count
    .ok (match best with
      | none => ⟨fallbackTempMc, false⟩
      | some best => ⟨best, true⟩)
  else if mode = Aggregation.avg.code then do
    let s ← aggSum rs count
    if s.2 = 0 then .ok ⟨fallbackTempMc, false⟩
    else do
      let quot ← tdiv s.1 s.2
      .ok ⟨i32 quot, true⟩
  else if mode = Aggregation.weighted.code then do
    let s ← aggWeighted rs count
    if s.2 = 0 then .ok ⟨fallbackTempMc, false⟩
    else do
      let quot ← tdiv s.1 s.2
      .ok ⟨i32 (i64 quot), true⟩
  else .ok ⟨fallbackTempMc, false⟩

section zone

variable {rs : Readings} {count : Nat}

/-- The averages are taken only when something valid was added up, so neither divisor is zero. -/
theorem thermalZoneAggregate_eq (mode : Nat) (hc : count ≤ maxSensorsPerZone) (fallback : Int) :
    thermalZoneAggregate mode rs count fallback =
      .ok (ThermalCore.thermalZoneAggregate mode ((List.range count).map rs.slot) fallback) := by
  have hmax : aggMax rs count = .ok (ThermalCore.aggMax ((List.range count).map rs.slot)) :=
    fold_read hc _
  have hsum : aggSum rs count = .ok (ThermalCore.aggSum ((List.range count).map rs.slot)) :=
    fold_read hc _
  have hweighted : aggWeighted rs count =
      .ok (ThermalCore.aggWeighted ((List.range count).map rs.slot)) := fold_read hc _
  unfold thermalZoneAggregate
  by_cases h0 : count = 0
  · rw [if_pos h0, thermalZoneAggregate_of_invalid]
    subst h0
    simp
  · rw [if_neg h0, hmax, hsum, hweighted]
    unfold ThermalCore.thermalZoneAggregate
    simp only [ok_bind]
    generalize ThermalCore.aggSum ((List.range count).map rs.slot) = s
    generalize ThermalCore.aggWeighted ((List.range count).map rs.slot) = w
    split
    · cases ThermalCore.aggMax ((List.range count).map rs.slot) <;> rfl
    · split
      · by_cases hs : s.2 = 0
        · rw [if_pos hs, if_pos hs]
        · rw [if_neg hs, if_neg hs, tdiv_of_ne (by omega), ok_bind]
      · split
        · by_cases hw : w.2 = 0
          · rw [if_pos hw, if_pos hw]
          · rw [if_neg hw, if_neg hw, tdiv_of_ne hw, ok_bind]
        · rfl

end zone

/-! ## thermal_governor.c -/

/-- `thermal_governor_step_wise`: one read for each trip. -/
def thermalGovernorStepWise (zoneTempMc : Int) (trips : Vector TripCfg n) (tripCount : Nat)
    (prevActiveMask : Nat) : Exec ThermalStatus GovernorStepResult :=
  fold tripCount ⟨0, 0⟩ fun acc i => do
    let t ← read trips i
    .ok (if tripActive zoneTempMc t (prevActiveMask.testBit i) then
        ⟨acc.activeTripMask ||| (1 <<< i),
          if t.coolingState > acc.coolingState then t.coolingState else acc.coolingState⟩
      else acc)

/-- The trips of a zone lie in its array. -/
theorem thermalGovernorStepWise_eq (temp : Int) (trips : Vector TripCfg n) {tripCount : Nat}
    (mask : Nat) (hc : tripCount ≤ n) :
    thermalGovernorStepWise temp trips tripCount mask =
      .ok (ThermalCore.thermalGovernorStepWise temp trips tripCount mask) := by
  refine fold_eq fun i acc hi => ?_
  rw [read_of_lt _ (Nat.lt_of_lt_of_le hi hc), ok_bind]

/-- An inactive trip is skipped before it is read. -/
def pidFloorState (trips : Vector TripCfg n) (tripCount mask : Nat) : Exec ThermalStatus Nat :=
  fold tripCount 0 fun cs k =>
    if !mask.testBit k then .ok cs
    else do
      let t ← read trips k
      .ok (if t.severity ≠ TripSeverity.critical.code ∧ t.severity ≠ TripSeverity.shutdown.code then cs
        else if t.coolingState > cs then t.coolingState
        else cs)

/-- The floor of a PID zone reads no trip past the count. -/
theorem pidFloorState_eq (trips : Vector TripCfg n) {tripCount : Nat} (mask : Nat)
    (hc : tripCount ≤ n) :
    pidFloorState trips tripCount mask = .ok (ThermalCore.pidFloorState trips tripCount mask) := by
  refine fold_eq fun k cs hk => ?_
  rw [read_of_lt _ (Nat.lt_of_lt_of_le hk hc), ok_bind, ite_ok]

/-! ## thermal_pid.c -/

/-- The derivative term: it divides by the elapsed time. -/
def pidDerivative (state : PidState) (kdQ16 dFilterAlphaQ16 tempMc : Int) (dtMs : Nat) :
    Exec ThermalStatus (Int × PidState) :=
  if state.initialized then do
    let dTemp := i32 (tempMc - state.prevTempMc)
    let dTerm ← tdiv (i64 (i64 (kdQ16 * dTemp) * 1000)) dtMs
    if dFilterAlphaQ16 > 0 then
      let raw := satI32 dTerm
      let filtered :=
        if !state.dFilterInitialized then raw
        else iirQ16Step state.dFilteredQ16 raw dFilterAlphaQ16
      .ok (filtered, { state with dFilteredQ16 := filtered, dFilterInitialized := true })
    else .ok (dTerm, { state with dFilterInitialized := false })
  else .ok (0, { state with dFilterInitialized := false })

/-- `thermal_pid_step_filtered`: the derivative divides by the elapsed time, clamped by its limits.
-/
def thermalPidStepFiltered (state : PidState) (kpQ16 kiQ16 kdQ16 dFilterAlphaQ16 : Int)
    (setpointMc tempMc : Int) (nowMs dtMinMs dtMaxMs pwmMin pwmMax : Nat) :
    Exec ThermalStatus (PidState × PidStepResult) := do
  let dtMs := pidDt state nowMs dtMinMs dtMaxMs
  let errorMc := i32 (tempMc - setpointMc)
  let pTerm := kpQ16 * errorMc
  let iIncrement := (i64 (i64 (kiQ16 * errorMc) * dtMs)).tdiv 1000
  let iTentative := satI32 (i64 (state.integralQ16 + iIncrement))
  let d ← pidDerivative state kdQ16 dFilterAlphaQ16 tempMc dtMs
  let outputQ16 := satI32 (i64 (i64 (pTerm + iTentative) + d.1))
  let raw := q16FloorToI32 outputQ16
  let satHi := decide (raw > pwmMax)
  let capped := if satHi then (pwmMax : Int) else raw
  let satLo := decide (capped < pwmMin)
  let outputPwm := if satLo then (pwmMin : Int) else capped
  let commitIntegral :=
    !(satHi && decide (iIncrement > 0)) && !(satLo && decide (iIncrement < 0))
  let integral := if commitIntegral then iTentative else state.integralQ16
  let state' := { d.2 with
    integralQ16 := integral, prevTempMc := tempMc, prevNowMs := nowMs, initialized := true }
  .ok (state',
    { outputPwm := outputPwm, pTermQ16 := satI32 pTerm, iTermQ16 := integral,
      dTermQ16 := satI32 d.1, effectiveDtMs := u16 dtMs, saturatedHigh := satHi,
      saturatedLow := satLo })

/-- The clamps keep the elapsed time positive. -/
theorem pidDt_pos (state : PidState) (nowMs : Nat) {dtMinMs dtMaxMs : Nat} (hmin : 0 < dtMinMs)
    (hmax : 0 < dtMaxMs) : 0 < pidDt state nowMs dtMinMs dtMaxMs := by
  unfold pidDt
  dsimp only
  split <;> split <;> split <;> omega

/-- With positive limits on the period, no division of a PID step is by zero. -/
theorem thermalPidStepFiltered_eq (state : PidState) (kp ki kd alpha setpoint temp : Int)
    (nowMs pwmMin pwmMax : Nat) {dtMinMs dtMaxMs : Nat} (hmin : 0 < dtMinMs) (hmax : 0 < dtMaxMs) :
    thermalPidStepFiltered state kp ki kd alpha setpoint temp nowMs dtMinMs dtMaxMs pwmMin pwmMax =
      .ok (ThermalCore.thermalPidStepFiltered state kp ki kd alpha setpoint temp nowMs dtMinMs
        dtMaxMs pwmMin pwmMax) := by
  have hdt := pidDt_pos state nowMs hmin hmax
  have hderiv : pidDerivative state kd alpha temp (pidDt state nowMs dtMinMs dtMaxMs) =
      .ok (ThermalCore.pidDerivative state kd alpha temp (pidDt state nowMs dtMinMs dtMaxMs)) := by
    unfold pidDerivative ThermalCore.pidDerivative
    split
    · dsimp only
      rw [tdiv_of_ne (by omega), ok_bind]
      split <;> rfl
    · rfl
  unfold thermalPidStepFiltered
  dsimp only
  rw [hderiv, ok_bind]
  rfl

/-! ## thermal_fault.c -/

/-- The writes of a tick into both rings, and the head's move. -/
def runawayPush (s : RunawayState) (persist : Nat) (tempMc : Int) (pwm : Nat) :
    Exec ThermalStatus RunawayState := do
  let temps ← write s.tempWindow s.windowHead tempMc
  let pwms ← write s.pwmWindow s.windowHead pwm
  let next ← mod (s.windowHead + 1) persist
  let head := u16 next
  .ok { s with
    tempWindow := temps
    pwmWindow := pwms
    windowHead := head
    windowFilled := s.windowFilled || decide (head = 0) }

/-- The smallest duty in the ring. -/
def runawayPwmMin (s : RunawayState) (persist : Nat) : Exec ThermalStatus Nat :=
  fold persist 255 fun m i => do
    let pwm ← read s.pwmWindow i
    .ok (if pwm < m then pwm else m)

/-- The test of a full ring: its newest and its oldest entries and the smallest duty. -/
def runawayCondition (s : RunawayState) (cfg : FaultDetectorCfg) (persist : Nat) :
    Exec ThermalStatus Bool :=
  if s.windowFilled then do
    let newest ← mod (s.windowHead + persist - 1) persist
    let tempN ← read s.tempWindow (u16 newest)
    let tempM ← read s.tempWindow s.windowHead
    let pwmMin ← runawayPwmMin s persist
    .ok (decide (i32 (tempN - tempM) ≥ cfg.threshold0) && decide (pwmMin ≥ toU8 cfg.threshold1))
  else .ok false

/-- `thermal_fault_runaway_step`: the ring in use is as long as the clamped persist count. -/
def thermalFaultRunawayStep (s : RunawayState) (cfg : FaultDetectorCfg) (zoneTempMc : Int)
    (commandedPwm nowMs : Nat) : Exec ThermalStatus RunawayState :=
  if cfg.enabled = 0 then .ok s
  else if cfg.persistTicks = 0 then .ok s
  else do
    let persist := runawayPersist cfg
    let pushed ← runawayPush s persist zoneTempMc commandedPwm
    let condition ← runawayCondition pushed cfg persist
    .ok { pushed with fsm := fsmTick s.fsm condition cfg 1 nowMs }

section runaway

variable {s : RunawayState} {persist : Nat}

/-- The clamped persist count is a valid length: it divides and stays within the ring. -/
theorem runawayPersist_mem {cfg : FaultDetectorCfg} (h : cfg.persistTicks ≠ 0) :
    0 < runawayPersist cfg ∧ runawayPersist cfg ≤ faultRunawayWindowMax := by
  unfold runawayPersist
  split
  · exact ⟨by decide, Nat.le_refl _⟩
  · next hle => exact ⟨Nat.pos_of_ne_zero h, Nat.le_of_not_lt hle⟩

/-- The head wraps inside the part of the ring in use. -/
theorem windowHead_push_lt (s : RunawayState) (hpos : 0 < persist) (tempMc : Int) (pwm : Nat) :
    (s.push persist tempMc pwm).windowHead < persist := by
  have hmod : (s.windowHead + 1) % persist < persist := Nat.mod_lt _ hpos
  exact Nat.lt_of_le_of_lt (u16_le _) hmod

/-- A head inside the ring writes inside the ring. -/
theorem runawayPush_eq (h : s.windowHead < faultRunawayWindowMax) (hpos : 0 < persist)
    (tempMc : Int) (pwm : Nat) :
    runawayPush s persist tempMc pwm = .ok (s.push persist tempMc pwm) := by
  unfold runawayPush
  rw [write_of_lt _ _ h, ok_bind, write_of_lt _ _ h, ok_bind, mod_of_pos hpos, ok_bind]
  rfl

/-- Newest and oldest entry lie in the part of the ring in use. -/
theorem runawayCondition_eq (cfg : FaultDetectorCfg) (h : s.windowHead < persist)
    (hle : persist ≤ faultRunawayWindowMax) :
    runawayCondition s cfg persist = .ok (s.condition cfg persist) := by
  have hmin : runawayPwmMin s persist = .ok (s.pwmMin persist) := by
    refine fold_eq fun i m hi => ?_
    rw [read_of_lt _ (Nat.lt_of_lt_of_le hi hle), ok_bind]
  have hnewest : u16 ((s.windowHead + persist - 1) % persist) < faultRunawayWindowMax :=
    Nat.lt_of_le_of_lt (u16_le _)
      (Nat.lt_of_lt_of_le (Nat.mod_lt _ (Nat.zero_lt_of_lt h)) hle)
  unfold runawayCondition RunawayState.condition
  cases hfilled : s.windowFilled with
  | false => rfl
  | true =>
      rw [if_pos rfl, mod_of_pos (Nat.zero_lt_of_lt h), ok_bind, read_of_lt _ hnewest, ok_bind,
        read_of_lt _ (Nat.lt_of_lt_of_le h hle), ok_bind, hmin, ok_bind]
      rfl

/-- From a head inside the ring, a tick of the detector does not leave the ring. -/
theorem thermalFaultRunawayStep_eq (h : s.windowHead < faultRunawayWindowMax)
    (cfg : FaultDetectorCfg) (temp : Int) (pwm nowMs : Nat) :
    thermalFaultRunawayStep s cfg temp pwm nowMs =
      .ok (ThermalCore.thermalFaultRunawayStep s cfg temp pwm nowMs) := by
  unfold thermalFaultRunawayStep ThermalCore.thermalFaultRunawayStep
  by_cases hen : cfg.enabled = 0
  · rw [if_pos hen, if_pos hen]
  · by_cases hp : cfg.persistTicks = 0
    · rw [if_neg hen, if_neg hen, if_pos hp, if_pos hp]
    · obtain ⟨hpos, hle⟩ := runawayPersist_mem hp
      rw [if_neg hen, if_neg hen, if_neg hp, if_neg hp]
      dsimp only
      rw [runawayPush_eq h hpos, ok_bind, runawayCondition_eq cfg (windowHead_push_lt s hpos _ _) hle,
        ok_bind]

/-- The head stays inside the ring. -/
theorem windowHead_thermalFaultRunawayStep_lt (h : s.windowHead < faultRunawayWindowMax)
    (cfg : FaultDetectorCfg) (temp : Int) (pwm nowMs : Nat) :
    (ThermalCore.thermalFaultRunawayStep s cfg temp pwm nowMs).windowHead <
      faultRunawayWindowMax := by
  unfold ThermalCore.thermalFaultRunawayStep
  split
  · exact h
  · split
    · exact h
    · next hp =>
        obtain ⟨hpos, hle⟩ := runawayPersist_mem hp
        exact Nat.lt_of_lt_of_le (windowHead_push_lt s hpos temp pwm) hle

end runaway

/-! ## thermal_fan_health.c -/

/-- `div_round_half_away`: the divisor is a parameter. -/
def divRoundHalfAway (num den : Int) : Exec ThermalStatus Int :=
  if num ≥ 0 then tdiv (2 * num + den) (2 * den) else tdiv (2 * num - den) (2 * den)

/-- The baseline point nearest to a duty. -/
def nearestPoint (cfg : FanHealthCfg) (pwm : Nat) : Exec ThermalStatus Nat := do
  let best ← fold cfg.baselineCount ((0, -1) : Nat × Int) fun acc i => do
    let pt ← read cfg.baseline i
    let d := ((pwm : Int) - pt.x).natAbs
    .ok (if acc.2 < 0 ∨ (d : Int) < acc.2 then (i, (d : Int)) else acc)
  .ok best.1

/-- The weighted sums over the baseline points that have samples. -/
def fanHealthSums (s : FanHealthState) (cfg : FanHealthCfg) : Exec ThermalStatus FanHealthSums :=
  fold cfg.baselineCount ⟨0, 0, 0⟩ fun acc p => do
    let samples ← read s.sampleCount p
    if samples = 0 then .ok acc
    else do
      let ema ← read s.emaX256 p
      let w := pointWeight cfg samples p
      .ok ⟨acc.sumWx + w * (if ema > 0 then 0 else ema), acc.sumW + w, acc.conf + 1⟩

/-- Confidence and drift from the sums: it divides by the weights' sum. -/
def fanHealthRecompute (s : FanHealthState) (cfg : FanHealthCfg) :
    Exec ThermalStatus FanHealthState := do
  let sums ← fanHealthSums s cfg
  let delta ← if sums.sumW > 0 then divRoundHalfAway sums.sumWx (sums.sumW * 256) else .ok 0
  .ok { s with
    confidence := sums.conf
    healthDeltaPct := delta
    severity := fanHealthGrade cfg sums.conf delta }

/-- One sample folded into the average of its baseline point: it divides by the expected speed. -/
def fanHealthFold (s : FanHealthState) (cfg : FanHealthCfg) (appliedPwm tachRpm : Nat) :
    Exec ThermalStatus FanHealthState := do
  let expected ← curveEvalAxis cfg.baseline cfg.baselineCount appliedPwm CurvePoint.value0
  if expected ≤ 0 then .ok s
  else do
    let delta ← divRoundHalfAway (((tachRpm : Int) - expected) * 100) expected
    let delta := if delta > 127 then 127 else delta
    let delta := if delta < -127 then -127 else delta
    let np ← nearestPoint cfg appliedPwm
    let target := delta * 256
    let ema ← read s.emaX256 np
    let count ← read s.sampleCount np
    let emas ← write s.emaX256 np (if count = 0 then target else ema + (target - ema).tdiv 8)
    let counts ← write s.sampleCount np (if count < 0xFFFF then count + 1 else count)
    fanHealthRecompute { s with emaX256 := emas, sampleCount := counts } cfg

/-- The stability window around a reference duty and speed. -/
def fanHealthTrack (s : FanHealthState) (cfg : FanHealthCfg) (appliedPwm tachRpm : Nat) :
    Exec ThermalStatus FanHealthState :=
  if !s.haveRef then .ok (s.openWindow appliedPwm tachRpm)
  else if ((appliedPwm : Int) - s.refPwm).natAbs > cfg.stablePwmTolerance then
    .ok (s.openWindow appliedPwm tachRpm)
  else
    let pwmRun := if s.pwmRun < 0xFFFF then s.pwmRun + 1 else s.pwmRun
    let rpmChange := ((tachRpm : Int) - s.prevRpm).natAbs
    let rpmRun :=
      if rpmChange * 100 ≤ cfg.stableRpmTolerancePct * s.prevRpm then
        if s.rpmRun < 0xFFFF then s.rpmRun + 1 else s.rpmRun
      else 1
    let s := { s with pwmRun := pwmRun, rpmRun := rpmRun, prevRpm := tachRpm }
    if s.pwmRun < cfg.stablePwmTicks ∨ s.rpmRun < cfg.stableRpmTicks then .ok s
    else fanHealthFold s cfg appliedPwm tachRpm

/-- `thermal_fan_health_step`: the baseline's ends are read before any window is opened. -/
def thermalFanHealthStep (s : FanHealthState) (cfg : FanHealthCfg)
    (appliedPwm tachRpm tachValid : Nat) (slewLimited faultOverride : Bool) (spinupTicks : Nat) :
    Exec ThermalStatus FanHealthState :=
  if cfg.enable = 0 ∨ cfg.baselineCount < 2 then .ok s
  else do
    let head ← read cfg.baseline 0
    let pwmLow := decide (appliedPwm < toU8 head.x)
    let armed := if s.prevPwmLow && !pwmLow then spinupTicks else s.spinupRemaining
    let inSpinup := decide (armed > 0)
    let overrideWindow := faultOverride || s.prevOverride
    let s := { s with
      prevPwmLow := pwmLow, spinupRemaining := armed - 1, prevOverride := faultOverride }
    if decide (tachValid = 0) || pwmLow || inSpinup || slewLimited || overrideWindow then
      .ok { s with haveRef := false, pwmRun := 0, rpmRun := 0 }
    else fanHealthTrack s cfg appliedPwm tachRpm

section fanHealth

variable {cfg : FanHealthCfg}

/-- A positive divisor rounds without a fault. -/
theorem divRoundHalfAway_eq (num : Int) {den : Int} (h : 0 < den) :
    divRoundHalfAway num den = .ok (ThermalCore.divRoundHalfAway num den) := by
  unfold divRoundHalfAway
  rw [tdiv_of_ne (by omega), tdiv_of_ne (by omega), ite_ok]
  rfl

/-- The search reads the counted baseline points only. -/
theorem nearestPoint_eq (hc : cfg.baselineCount ≤ maxFanHealthPoints) (pwm : Nat) :
    nearestPoint cfg pwm = .ok (ThermalCore.nearestPoint cfg pwm) := by
  have hbody (i : Nat) (acc : Nat × Int) (hi : i < cfg.baselineCount) : (do
      let pt ← read cfg.baseline i
      let d := ((pwm : Int) - pt.x).natAbs
      .ok (if acc.2 < 0 ∨ (d : Int) < acc.2 then (i, (d : Int)) else acc) :
        Exec ThermalStatus (Nat × Int)) = .ok (
      let d := ((pwm : Int) - (cfg.baseline.slot i).x).natAbs
      if acc.2 < 0 ∨ (d : Int) < acc.2 then (i, (d : Int)) else acc) := by
    rw [read_of_lt _ (Nat.lt_of_lt_of_le hi hc), ok_bind]
  unfold nearestPoint
  rw [fold_eq hbody, ok_bind]
  rfl

/-- The point found can index the arrays of averages and of sample counts. -/
theorem nearestPoint_lt (hc : cfg.baselineCount ≤ maxFanHealthPoints) (pwm : Nat) :
    ThermalCore.nearestPoint cfg pwm < maxFanHealthPoints := by
  unfold ThermalCore.nearestPoint
  refine Loop.fold_induct (fun _ (acc : Nat × Int) => acc.1 < maxFanHealthPoints) (by decide) ?_
  intro i acc hi hacc
  dsimp only
  split
  · exact Nat.lt_of_lt_of_le hi hc
  · exact hacc

/-- The sums read the counted entries of both arrays. -/
theorem fanHealthSums_eq (hc : cfg.baselineCount ≤ maxFanHealthPoints) (s : FanHealthState) :
    fanHealthSums s cfg = .ok (ThermalCore.fanHealthSums s cfg) := by
  refine fold_eq fun p acc hp => ?_
  have hlt : p < maxFanHealthPoints := Nat.lt_of_lt_of_le hp hc
  rw [read_of_lt _ hlt, ok_bind, read_of_lt _ hlt, ok_bind, ite_ok]

/-- Drift is computed only when some weight was added up. -/
theorem fanHealthRecompute_eq (hc : cfg.baselineCount ≤ maxFanHealthPoints) (s : FanHealthState) :
    fanHealthRecompute s cfg = .ok (ThermalCore.fanHealthRecompute s cfg) := by
  unfold fanHealthRecompute ThermalCore.fanHealthRecompute
  rw [fanHealthSums_eq hc, ok_bind]
  dsimp only
  by_cases hw : (ThermalCore.fanHealthSums s cfg).sumW > 0
  · rw [if_pos hw, if_pos hw, divRoundHalfAway_eq _ (by omega), ok_bind]
  · rw [if_neg hw, if_neg hw, ok_bind]

/-- A sample is folded only where the expected speed is positive. -/
theorem fanHealthFold_eq (h : CurveAscends cfg.baseline cfg.baselineCount) (s : FanHealthState)
    (appliedPwm tachRpm : Nat) :
    fanHealthFold s cfg appliedPwm tachRpm =
      .ok (ThermalCore.fanHealthFold s cfg appliedPwm tachRpm) := by
  have hnp := nearestPoint_lt h.count_le appliedPwm
  unfold fanHealthFold ThermalCore.fanHealthFold thermalCurveEvalY0
  rw [curveEvalAxis_eq h, ok_bind]
  dsimp only
  split
  · rfl
  · next hpos =>
      rw [divRoundHalfAway_eq _ (by omega), ok_bind, nearestPoint_eq h.count_le, ok_bind,
        read_of_lt _ hnp, ok_bind, read_of_lt _ hnp, ok_bind, write_of_lt _ _ hnp, ok_bind,
        write_of_lt _ _ hnp, ok_bind, fanHealthRecompute_eq h.count_le]

/-- Tracking a reference indexes nothing beyond what the fold does. -/
theorem fanHealthTrack_eq (h : CurveAscends cfg.baseline cfg.baselineCount) (s : FanHealthState)
    (appliedPwm tachRpm : Nat) :
    fanHealthTrack s cfg appliedPwm tachRpm =
      .ok (ThermalCore.fanHealthTrack s cfg appliedPwm tachRpm) := by
  unfold fanHealthTrack ThermalCore.fanHealthTrack
  simp only [fanHealthFold_eq h, ite_ok]

/-- An enabled block has an ascending baseline of two points or more, which is all a tick needs. -/
theorem thermalFanHealthStep_eq
    (h : cfg.enable ≠ 0 → CurveAscends cfg.baseline cfg.baselineCount) (s : FanHealthState)
    (appliedPwm tachRpm tachValid : Nat) (slewLimited faultOverride : Bool) (spinupTicks : Nat) :
    thermalFanHealthStep s cfg appliedPwm tachRpm tachValid slewLimited faultOverride spinupTicks =
      .ok (ThermalCore.thermalFanHealthStep s cfg appliedPwm tachRpm tachValid slewLimited
        faultOverride spinupTicks) := by
  unfold thermalFanHealthStep ThermalCore.thermalFanHealthStep
  by_cases hoff : cfg.enable = 0 ∨ cfg.baselineCount < 2
  · rw [if_pos hoff, if_pos hoff]
  · have hcurve := h fun hen => hoff (Or.inl hen)
    rw [if_neg hoff, if_neg hoff, read_of_lt _ (by decide), ok_bind]
    simp only [fanHealthTrack_eq hcurve, ite_ok]

end fanHealth

end ThermalCore.Checked
