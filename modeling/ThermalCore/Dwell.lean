import ThermalCore.Lib.Streak
import ThermalCore.DriveTrace
import ThermalCore.Safety

/-!
# Anti-short-cycle dwell

The two dwell counters count the current on or off stretch of an actuator, and
the hold decision reads them before the request passes spin-up, slew and clamp.
What comes out of it is a bound on the lengths of the stretches of every run.

The counters are tied to the stretch they are in the middle of, and a stretch ends only
where the hold decision lets it.  A safety override bypasses that decision, so the
stretches it ends are excepted.
-/

namespace ThermalCore

open MachineInt Check

/-! ## The counters -/

section counters

variable {cfg : Config} {cb : Callbacks} {core : Core} {a : Nat}

/-- `actuator_on_ticks` counts the current on stretch. -/
theorem onTicks_after (hr : ConfigRules cfg) (ha : a < cfg.actuatorCount) (is : List Input) :
    ((Machine.after (call cfg cb) core is).actuators.slot a).onTicks =
      Streak.count tickUp (fun r : DriveRecord => decide (r.duty > 0))
        (core.actuators.slot a).onTicks (driveTrace cfg cb a core is) := by
  refine actuator_after (f := ActuatorRuntime.onTicks) hr ha ?_ is
  intro ar t req rpm valid
  simp only [decide_eq_true_eq]
  rfl

/-- `actuator_off_ticks` counts the current off stretch. -/
theorem offTicks_after (hr : ConfigRules cfg) (ha : a < cfg.actuatorCount) (is : List Input) :
    ((Machine.after (call cfg cb) core is).actuators.slot a).offTicks =
      Streak.count tickUp (fun r : DriveRecord => decide (r.duty = 0))
        (core.actuators.slot a).offTicks (driveTrace cfg cb a core is) := by
  refine actuator_after (f := ActuatorRuntime.offTicks) hr ha ?_ is
  intro ar t req rpm valid
  have hdrive : (driveActuator cfg (cfg.actuators.slot a) t
      { ar with prevRequested := req, tachRpm := rpm, tachValid := valid }).offTicks =
        if finalPwm cfg (cfg.actuators.slot a) ar t > 0 then 0 else tickUp ar.offTicks := rfl
  rw [hdrive]
  by_cases h : finalPwm cfg (cfg.actuators.slot a) ar t = 0
  · simp [h]
  · have hpos : finalPwm cfg (cfg.actuators.slot a) ar t > 0 := Nat.pos_of_ne_zero h
    simp [h, hpos]

end counters

/-! ## When the output turns on or off -/

section onOff

variable {cfg : Config} {ac : ActuatorCfg} {ar : ActuatorRuntime} {t : ActuatorTick}

theorem thermalSlewStep_pos {prev req slew : Nat} {up : Bool} (h : 0 < req) :
    0 < (thermalSlewStep prev req slew up).newDuty := by
  unfold thermalSlewStep
  split
  · exact h
  · split
    · exact h
    · next hslew =>
        dsimp only
        split
        · change 0 < prev + slew
          omega
        · split
          · next hdown =>
              change 0 < prev - slew
              omega
          · exact h

/-- A request left after dwell keeps the output on. -/
theorem finalPwm_pos (hreq : 0 < dwellRequest ac ar t) (hmax : 0 < ac.pwmMax) :
    0 < finalPwm cfg ac ar t := by
  have hdrive : 0 < driveRequest cfg ac ar t := Nat.lt_of_lt_of_le hreq le_driveRequest
  have hslew : 0 < (driveSlew cfg ac ar t).newDuty := thermalSlewStep_pos hdrive
  exact le_finalClamp hslew hmax

/-- Without a request an output that is off stays off. -/
theorem finalPwm_eq_zero (hreq : dwellRequest ac ar t = 0) (hprev : ar.prevDuty = 0) :
    finalPwm cfg ac ar t = 0 := by
  have hdrive : driveRequest cfg ac ar t = 0 := by
    unfold driveRequest spinupApplied
    simp [hreq]
  have hslew : (driveSlew cfg ac ar t).newDuty = 0 := by
    unfold driveSlew thermalSlewStep
    rw [hdrive, hprev]
    by_cases hslew : ac.slewPerTick = 0
    · simp [hslew]
    · have hneg : ¬(ac.slewPerTick : Int) < 0 := by omega
      simp [hslew, hneg]
  unfold finalPwm finalClamp
  rw [hslew]
  simp

/-- **A stop is not early**: without an override the output goes off only once
`min_on_ticks` are over. -/
theorem minOnTicks_le_of_stop (hinv : ActuatorInv ac ar) (hbypass : t.safetyBypassDwell = false)
    (hprev : 0 < ar.prevDuty) (hstop : finalPwm cfg ac ar t = 0) : ac.minOnTicks ≤ ar.onTicks := by
  by_contra hearly
  have hmax : 0 < ac.pwmMax := Nat.lt_of_lt_of_le hprev hinv.duty_le
  have hreq : 0 < dwellRequest ac ar t := by
    unfold dwellRequest dwellHoldsOff dwellHoldsOn
    by_cases harb : t.arbPwm = 0
    · have hlt : ar.onTicks < ac.minOnTicks := Nat.lt_of_not_le hearly
      simp [hbypass, harb, hprev, hlt]
    · have hne : ar.prevDuty ≠ 0 := Nat.ne_of_gt hprev
      simp [hne, harb, Nat.pos_of_ne_zero harb]
  have hon : 0 < finalPwm cfg ac ar t := finalPwm_pos hreq hmax
  omega

/-- **A start is not early**: without an override the output goes on only once
`min_off_ticks` are over. -/
theorem minOffTicks_le_of_start (hbypass : t.safetyBypassDwell = false) (hprev : ar.prevDuty = 0)
    (hstart : 0 < finalPwm cfg ac ar t) : ac.minOffTicks ≤ ar.offTicks := by
  by_contra hearly
  have hreq : dwellRequest ac ar t = 0 := by
    unfold dwellRequest dwellHoldsOff dwellHoldsOn
    by_cases harb : t.arbPwm = 0
    · simp [harb, hprev]
    · have hlt : ar.offTicks < ac.minOffTicks := Nat.lt_of_not_le hearly
      simp [hbypass, hprev, hlt, Nat.pos_of_ne_zero harb]
  have hoff : finalPwm cfg ac ar t = 0 := finalPwm_eq_zero hreq hprev
  omega

/-- Once off for `min_off_ticks`, a start is not held back. -/
theorem dwellRequest_of_offTicks (hprev : ar.prevDuty = 0) (hoff : ac.minOffTicks ≤ ar.offTicks) :
    dwellRequest ac ar t = t.arbPwm := by
  have hnot : ¬ar.offTicks < ac.minOffTicks := Nat.not_lt.mpr hoff
  unfold dwellRequest dwellHoldsOff dwellHoldsOn
  simp [hprev, hnot]

end onOff

/-! ## Stretches -/

/-- What the dwell settings of an actuator promise of the records of a run. -/
structure DwellHonoured (ac : ActuatorCfg) (trace : List DriveRecord) : Prop where
  /-- A maximal on stretch that ends without an override lasts `min_on_ticks`. -/
  on_stretch : ∀ pre stretch stop rest, trace = pre ++ stretch ++ stop :: rest →
    (∀ r ∈ pre.getLast?, r.duty = 0) → stretch ≠ [] → (∀ r ∈ stretch, 0 < r.duty) →
    stop.duty = 0 → stop.tick.safetyBypassDwell = false → ac.minOnTicks ≤ stretch.length
  /-- An off stretch after a nonzero duty that ends without an override lasts
  `min_off_ticks`. -/
  off_stretch : ∀ pre last stretch start rest, trace = pre ++ last :: stretch ++ start :: rest →
    0 < last.duty → stretch ≠ [] → (∀ r ∈ stretch, r.duty = 0) →
    0 < start.duty → start.tick.safetyBypassDwell = false → ac.minOffTicks ≤ stretch.length
  /-- While the output has never been on, dwell passes every request. -/
  first_start : ∀ pre first rest, trace = pre ++ first :: rest → (∀ r ∈ pre, r.duty = 0) →
    dwellRequest ac first.before first.tick = first.tick.arbPwm

theorem tickUp_le (n : Nat) : tickUp n ≤ n + 1 := by
  unfold tickUp
  split <;> omega

theorem le_tickUp (n : Nat) : n ≤ tickUp n := by
  unfold tickUp
  split <;> omega

section run

variable {cfg : Config} {cb : Callbacks} {a : Nat}

/-- A counter whose streak begins with `stretch` is at most its length. -/
theorem streak_le_stretch {p : DriveRecord → Bool} {pre stretch : List DriveRecord}
    (hbreak : ∀ r ∈ pre.getLast?, p r = false) :
    Streak.count tickUp p 0 (pre ++ stretch) ≤ stretch.length := by
  cases hlast : pre.getLast? with
  | none =>
      rw [List.getLast?_eq_none_iff] at hlast
      have hle : Streak.count tickUp p 0 stretch ≤ 0 + stretch.length := Streak.count_le tickUp_le
      rw [hlast, List.nil_append]
      omega
  | some r =>
      obtain ⟨init, rfl⟩ := List.getLast?_eq_some_iff.mp hlast
      have hr : p r = false := hbreak r hlast
      rw [List.append_assoc, List.singleton_append]
      exact Streak.count_le_of_break tickUp_le hr init

/-- The duty kept after a nonempty list of records is that of its last. -/
theorem foldl_duty {pre stretch : List DriveRecord} {n : Nat} (h : stretch ≠ []) :
    (pre ++ stretch).foldl (fun _ r => r.duty) n = (stretch.getLast h).duty := by
  calc (pre ++ stretch).foldl (fun _ r => r.duty) n
      = (pre ++ (stretch.dropLast ++ [stretch.getLast h])).foldl (fun _ r => r.duty) n := by
        rw [List.dropLast_concat_getLast]
    _ = (stretch.getLast h).duty := by
        rw [← List.append_assoc, List.foldl_append, List.foldl_cons, List.foldl_nil]

theorem initCore_actuator (hr : ConfigRules cfg) (ha : a < cfg.actuatorCount) :
    (initCore cfg).actuators.slot a = initActuator (cfg.actuators.slot a) :=
  Vector.slot_forSlots_lt _ _ hr.actuatorCount_le ha

/-- **Anti-short-cycle dwell, over every run from init.** -/
theorem dwell_honoured (hacc : Accepted cfg) (ha : a < cfg.actuatorCount) (is : List Input) :
    DwellHonoured (cfg.actuators.slot a) (driveTrace cfg cb a (initCore cfg) is) := by
  have hr : ConfigRules cfg := (accepted_iff cfg).mp hacc
  have hinit := initCore_actuator hr ha
  constructor
  · intro pre stretch stop rest htrace hmax hne hon hstop hbypass
    obtain ⟨is₁, hpre, hbefore, hduty⟩ := driveTrace_split hr ha htrace
    have hprev : 0 < stop.before.prevDuty := by
      rw [hbefore, prevDuty_after hr ha, hpre, foldl_duty hne]
      exact hon _ (List.getLast_mem hne)
    have hinv : ActuatorInv (cfg.actuators.slot a) stop.before := by
      rw [hbefore]
      exact reachable_actuatorInv hr ⟨is₁, rfl⟩ ha
    have hticks : stop.before.onTicks ≤ stretch.length := by
      rw [hbefore, onTicks_after hr ha, hpre, hinit]
      exact streak_le_stretch fun r hlast => by simp [hmax r hlast]
    have hmin := minOnTicks_le_of_stop hinv hbypass hprev (hduty.symm.trans hstop)
    exact Nat.le_trans hmin hticks
  · intro pre last stretch start rest htrace hlast hne hoff hstart hbypass
    obtain ⟨is₁, hpre, hbefore, hduty⟩ := driveTrace_split hr ha htrace
    have hprev : start.before.prevDuty = 0 := by
      have hpre' : driveTrace cfg cb a (initCore cfg) is₁ = (pre ++ [last]) ++ stretch := by
        rw [hpre, List.append_assoc, List.singleton_append]
      rw [hbefore, prevDuty_after hr ha, hpre', foldl_duty hne]
      exact hoff _ (List.getLast_mem hne)
    have hticks : start.before.offTicks ≤ stretch.length := by
      rw [hbefore, offTicks_after hr ha, hpre]
      exact Streak.count_le_of_break tickUp_le (by simp; omega) pre
    have hmin := minOffTicks_le_of_start hbypass hprev (hduty ▸ hstart)
    exact Nat.le_trans hmin hticks
  · intro pre first rest htrace hoff
    obtain ⟨is₁, hpre, hbefore, -⟩ := driveTrace_split hr ha htrace
    have hprev : first.before.prevDuty = 0 := by
      rw [hbefore, prevDuty_after hr ha, hpre, hinit]
      by_cases hne : pre = []
      · rw [hne]
        rfl
      · have hlast := @foldl_duty [] _ (initActuator (cfg.actuators.slot a)).prevDuty hne
        rw [List.nil_append] at hlast
        rw [hlast]
        exact hoff _ (List.getLast_mem hne)
    have hticks : (cfg.actuators.slot a).minOffTicks ≤ first.before.offTicks := by
      rw [hbefore, offTicks_after hr ha, hpre, hinit]
      exact Streak.le_count le_tickUp fun r hmem => by simp [hoff r hmem]
    exact dwellRequest_of_offTicks hprev hticks

/-- The one-fan configuration with dwell times of three and two ticks, and
neither slew limit nor boost. -/
def dwellFanConfig : Config :=
  { oneFanConfig with
    actuators := #v[{ fanActuator with slewPerTick := 0, spinupMs := 0, minOnTicks := 3, minOffTicks := 2 },
      default] }

theorem accepted_dwellFanConfig : Accepted dwellFanConfig := by decide +kernel

/-- A warm tick, four cool ones and a warm one: the stop waits for the third tick
on, the restart for the second tick off. -/
def dwellRun : List Input :=
  [55000, 40000, 40000, 40000, 55000, 55000].map fun temp => .step (tempSnapshot 0 1 temp) default

theorem dwell_honoured_on_dwellRun :
    (driveTrace dwellFanConfig ⟨false, false⟩ 0 (initCore dwellFanConfig) dwellRun).map
        DriveRecord.duty = [60, 60, 60, 0, 0, 60] ∧
      DwellHonoured (dwellFanConfig.actuators.slot 0)
        (driveTrace dwellFanConfig ⟨false, false⟩ 0 (initCore dwellFanConfig) dwellRun) :=
  ⟨by decide +kernel, dwell_honoured accepted_dwellFanConfig (by decide) dwellRun⟩

end run

end ThermalCore
