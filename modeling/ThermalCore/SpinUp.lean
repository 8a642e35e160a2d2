import Mathlib.Data.List.Induction
import ThermalCore.Dwell

/-!
# Spin-up

A start from rest should reach `spinup_pwm` at once and stay there for
`spinup_ms`.  Two things stand in the way: a request at or above `spinup_pwm` is
not boosted and so is slew-limited from zero, and the tick count is cut to 16
bits.  `spinUp_window_iff` says that nothing else does.

A window is the run of ticks that a start arms.  Within it each record's duty is read
off the drive stage; the two exceptions are conditions on the first request and on the
configured time.
-/

namespace ThermalCore

open MachineInt Check

/-! ## The tick count -/

/-- `spinup_ms` in control periods, rounded up. -/
def spinupPeriods (cfg : Config) (ac : ActuatorCfg) : Nat :=
  (ac.spinupMs + cfg.controlPeriodMs - 1) / cfg.controlPeriodMs

/-- The core's count is the rounded one as long as neither type cuts it. -/
theorem spinupTicks_eq {cfg : Config} {ac : ActuatorCfg} (hperiod : 0 < cfg.controlPeriodMs)
    (hsum : ac.spinupMs + cfg.controlPeriodMs - 1 < 2 ^ 32) (hticks : spinupPeriods cfg ac < 2 ^ 16) :
    spinupTicks cfg ac = spinupPeriods cfg ac := by
  unfold spinupPeriods at hticks ⊢
  unfold spinupTicks
  rw [if_pos hperiod, u32_of_lt hsum, u16_of_lt hticks]

/-! ## One tick -/

section tick

variable {cfg : Config} {ac : ActuatorCfg} {ar : ActuatorRuntime} {t : ActuatorTick}

/-- The limiter on a request that reaches the level `s`. -/
theorem le_slew_iff_of_le {prev req slew s : Nat} {up : Bool} (h : s ≤ req) :
    s ≤ (thermalSlewStep prev req slew up).newDuty ↔ up = true ∨ slew = 0 ∨ s ≤ prev + slew := by
  cases up with
  | true =>
      have hle : req ≤ (thermalSlewStep prev req slew true).newDuty := le_thermalSlewStep prev req slew
      simp only [true_or, iff_true]
      omega
  | false =>
      unfold thermalSlewStep
      by_cases hslew : slew = 0
      · simp [hslew, h]
      · simp only [Bool.false_eq_true, false_and, if_false, false_or, hslew]
        split
        · exact Iff.rfl
        · split
          · next hdown =>
              change s ≤ prev - slew ↔ s ≤ prev + slew
              omega
          · change s ≤ req ↔ s ≤ prev + slew
            omega

/-- The limiter on a request below the level `s`: only a ramp down from above
stays there. -/
theorem le_slew_iff_of_lt {prev req slew s : Nat} {up : Bool} (h : req < s) :
    s ≤ (thermalSlewStep prev req slew up).newDuty ↔ 0 < slew ∧ s + slew ≤ prev := by
  unfold thermalSlewStep
  split
  · next hup =>
      change s ≤ req ↔ _
      omega
  · split
    · change s ≤ req ↔ _
      omega
    · dsimp only
      split
      · change s ≤ prev + slew ↔ _
        omega
      · split
        · change s ≤ prev - slew ↔ _
          omega
        · change s ≤ req ↔ _
          omega

/-- The clamp on an output that stays on. -/
theorem le_finalClamp_iff {req duty s : Nat} (hreq : 0 < req) (hduty : 0 < duty)
    (hmax : s ≤ ac.pwmMax) : s ≤ finalClamp ac req duty ↔ s ≤ duty ∨ s ≤ ac.pwmMin := by
  have hr : req ≠ 0 := Nat.ne_of_gt hreq
  have hd : duty ≠ 0 := Nat.ne_of_gt hduty
  unfold finalClamp
  simp only [ne_eq, hr, hd, not_false_eq_true, true_and]
  split <;> split <;> omega

/-- **One tick, exactly**: when the duty of a requested output reaches
`spinup_pwm`.  Below it the boost decides, at or above it the slew limiter. -/
theorem spinupPwm_le_finalPwm_iff (cfg : Config) (hrules : ActuatorRules ac) (hspin : 0 < ac.spinupMs)
    (hreq : 0 < dwellRequest ac ar t) :
    ac.spinupPwm ≤ finalPwm cfg ac ar t ↔
      if dwellRequest ac ar t < ac.spinupPwm then
        0 < spinupArmed cfg ac ar (dwellRequest ac ar t) ∨
          (0 < ac.slewPerTick ∧ ac.spinupPwm + ac.slewPerTick ≤ ar.prevDuty) ∨
          ac.spinupPwm ≤ ac.pwmMin
      else
        (t.slewOverrideUp = true ∨ ac.slewPerTick = 0 ∨
          ac.spinupPwm ≤ ar.prevDuty + ac.slewPerTick) ∨ ac.spinupPwm ≤ ac.pwmMin := by
  obtain ⟨-, -, hmax⟩ := hrules.spinup hspin
  have hdrive : 0 < driveRequest cfg ac ar t := Nat.lt_of_lt_of_le hreq le_driveRequest
  have hslew : 0 < (driveSlew cfg ac ar t).newDuty := thermalSlewStep_pos hdrive
  unfold finalPwm
  rw [le_finalClamp_iff hdrive hslew hmax]
  unfold driveSlew driveRequest driveBoosted
  dsimp only
  by_cases hlow : dwellRequest ac ar t < ac.spinupPwm
  · rw [if_pos hlow]
    by_cases harmed : 0 < spinupArmed cfg ac ar (dwellRequest ac ar t)
    · have happlied : spinupApplied ac (spinupArmed cfg ac ar (dwellRequest ac ar t))
          (dwellRequest ac ar t) = true := by
        simp [spinupApplied, hlow, harmed, Nat.ne_of_gt hreq]
      rw [happlied, if_pos rfl, Bool.or_true]
      simp [harmed, le_thermalSlewStep]
    · have hnot : spinupApplied ac (spinupArmed cfg ac ar (dwellRequest ac ar t))
          (dwellRequest ac ar t) = false := by
        simp [spinupApplied, harmed]
      rw [hnot, if_neg Bool.false_ne_true, le_slew_iff_of_lt hlow]
      simp [harmed]
  · have hnot : spinupApplied ac (spinupArmed cfg ac ar (dwellRequest ac ar t))
        (dwellRequest ac ar t) = false := by
      simp [spinupApplied, hlow]
    rw [if_neg hlow, hnot, if_neg Bool.false_ne_true, Bool.or_false,
      le_slew_iff_of_le (Nat.not_lt.mp hlow)]

end tick

/-! ## Windows -/

/-- The records the spin-up promise is about: from a start at rest, while the
request stays nonzero, for at most `spinup_ms`. -/
structure SpinUpWindow (cfg : Config) (ac : ActuatorCfg) (window : List DriveRecord) : Prop where
  from_rest : ∀ r ∈ window.head?, r.before.prevDuty = 0
  requested : ∀ r ∈ window, 0 < dwellRequest ac r.before r.tick
  length_le : window.length ≤ spinupPeriods cfg ac

/-- The two ways to miss `spinup_pwm` are avoided: the start is not held by the
slew limiter below it, and no request below it comes after the core's count of
ticks is used up. -/
structure SpinUpKept (cfg : Config) (ac : ActuatorCfg) (window : List DriveRecord) : Prop where
  start : ∀ r ∈ window.head?, dwellRequest ac r.before r.tick < ac.spinupPwm ∨
    r.tick.slewOverrideUp = true ∨ ac.slewPerTick = 0 ∨ ac.spinupPwm ≤ ac.slewPerTick ∨
    ac.spinupPwm ≤ ac.pwmMin
  late : ∀ pre r post, window = pre ++ r :: post → spinupTicks cfg ac ≤ pre.length →
    ac.spinupPwm ≤ dwellRequest ac r.before r.tick ∨
    (0 < ac.slewPerTick ∧ ac.spinupPwm + ac.slewPerTick ≤ r.before.prevDuty) ∨
    ac.spinupPwm ≤ ac.pwmMin

/-- While the count of ticks is exact no record is late. -/
theorem spinUpKept_iff_of_exact {cfg : Config} {ac : ActuatorCfg} {window : List DriveRecord}
    (hwin : SpinUpWindow cfg ac window) (hexact : spinupTicks cfg ac = spinupPeriods cfg ac) :
    SpinUpKept cfg ac window ↔
      ∀ r ∈ window.head?, dwellRequest ac r.before r.tick < ac.spinupPwm ∨
        r.tick.slewOverrideUp = true ∨ ac.slewPerTick = 0 ∨ ac.spinupPwm ≤ ac.slewPerTick ∨
        ac.spinupPwm ≤ ac.pwmMin := by
  constructor
  · exact SpinUpKept.start
  · intro hstart
    refine ⟨hstart, ?_⟩
    intro pre r post hsplit hlate
    have hlen : window.length = pre.length + (post.length + 1) := by
      rw [hsplit, List.length_append, List.length_cons]
    have hle := hwin.length_le
    omega

section window

variable {cfg : Config} {cb : Callbacks} {core : Core} {a : Nat}

/-- An actuator at rest has no boost left over. -/
theorem spinupRemaining_of_rest (hr : ConfigRules cfg) (hreach : Reachable cfg cb core)
    (ha : a < cfg.actuatorCount) (hrest : (core.actuators.slot a).prevDuty = 0) :
    (core.actuators.slot a).spinupRemaining = 0 := by
  let Rest : ActuatorRuntime → Prop := fun ar =>
    ActuatorInv (cfg.actuators.slot a) ar ∧ (ar.prevDuty = 0 → ar.spinupRemaining = 0)
  have hinit : Rest (initActuator (cfg.actuators.slot a)) :=
    ⟨⟨Nat.zero_le _, fun h => absurd h (Nat.lt_irrefl 0)⟩, fun _ => rfl⟩
  have hinv : Rest (core.actuators.slot a) := by
    refine reachable_actuator hr hreach ha hinit ?_
    intro ar t req rpm valid ⟨hinv, _⟩
    refine ⟨driveActuator_inv t ⟨hinv.duty_le, hinv.spinup⟩, fun hduty => ?_⟩
    have hoff : finalPwm cfg (cfg.actuators.slot a) ar t = 0 := hduty
    change spinupArmed cfg (cfg.actuators.slot a) ar (dwellRequest (cfg.actuators.slot a) ar t) - 1 = 0
    by_cases harmed : 0 < spinupArmed cfg (cfg.actuators.slot a) ar
        (dwellRequest (cfg.actuators.slot a) ar t)
    · -- armed: there was a request, and then the output is not off
      have hspin := spinupArmed_pos hinv harmed
      have hrules := (hr.actuator ha).spinup hspin
      have hreq : 0 < dwellRequest (cfg.actuators.slot a) ar t := by
        by_contra hzero
        rw [Nat.eq_zero_of_not_pos hzero] at harmed
        exact absurd harmed (Nat.lt_irrefl 0)
      have hon : 0 < finalPwm cfg (cfg.actuators.slot a) ar t := finalPwm_pos hreq (by omega)
      omega
    · omega
  exact hinv.2 hrest

/-- What is left of the boost counts down from the core's tick count along a
window, and the output stays on. -/
theorem spinupArmed_window (hr : ConfigRules cfg) (hreach : Reachable cfg cb core)
    (ha : a < cfg.actuatorCount) (hspin : 0 < (cfg.actuators.slot a).spinupMs) {is : List Input}
    {window rest : List DriveRecord} (htrace : driveTrace cfg cb a core is = window ++ rest)
    (hwin : SpinUpWindow cfg (cfg.actuators.slot a) window) {pre post : List DriveRecord}
    {r : DriveRecord} (hsplit : window = pre ++ r :: post) :
    spinupArmed cfg (cfg.actuators.slot a) r.before
        (dwellRequest (cfg.actuators.slot a) r.before r.tick) =
      spinupTicks cfg (cfg.actuators.slot a) - pre.length := by
  induction pre using List.reverseRecOn generalizing r post with
  | nil =>
      have hrest : r.before.prevDuty = 0 := hwin.from_rest r (by rw [hsplit]; rfl)
      have hreq : dwellRequest (cfg.actuators.slot a) r.before r.tick ≠ 0 :=
        Nat.ne_of_gt (hwin.requested r (by rw [hsplit]; exact List.mem_cons_self ..))
      have hcat : driveTrace cfg cb a core is = [] ++ r :: (post ++ rest) := by
        rw [htrace, hsplit]
        rfl
      obtain ⟨is₁, -, hbefore, -⟩ := driveTrace_split hr ha hcat
      have hzero : r.before.spinupRemaining = 0 := by
        rw [hbefore] at hrest ⊢
        exact spinupRemaining_of_rest hr (hreach.run is₁) ha hrest
      unfold spinupArmed
      rw [if_neg hreq]
      by_cases hticks : 0 < spinupTicks cfg (cfg.actuators.slot a)
      · rw [if_pos ⟨hspin, hticks, hrest, hzero⟩]
        rfl
      · rw [if_neg fun h => hticks h.2.1, hzero, List.length_nil]
        omega
  | append_singleton pre last ih =>
      have hsplit' : window = pre ++ last :: (r :: post) := by
        rw [hsplit, List.append_assoc, List.singleton_append]
      have hlast := ih hsplit'
      have hcat : driveTrace cfg cb a core is = pre ++ last :: r :: (post ++ rest) := by
        rw [htrace, hsplit', List.append_assoc]
        rfl
      obtain ⟨hprev, hremaining⟩ := driveTrace_next hr ha hcat
      obtain ⟨is₁, -, -, hduty⟩ := driveTrace_split hr ha hcat
      have hreqLast := hwin.requested last (by rw [hsplit']; simp)
      have hreq : dwellRequest (cfg.actuators.slot a) r.before r.tick ≠ 0 :=
        Nat.ne_of_gt (hwin.requested r (by rw [hsplit]; simp))
      have hmax := (hr.actuator ha).spinup hspin
      have hon : 0 < last.duty := by
        rw [hduty]
        exact finalPwm_pos hreqLast (by omega)
      have hnotRest : ¬r.before.prevDuty = 0 := by omega
      unfold spinupArmed
      rw [if_neg hreq, if_neg fun h => hnotRest h.2.2.1, hremaining, hlast, List.length_append,
        List.length_singleton]
      omega

/-- **Spin-up, exactly**: from a start at rest in any reachable state, the duty
stays at `spinup_pwm` or above for the window if and only if neither way to miss
it occurs. -/
theorem spinUp_window_iff (hacc : Accepted cfg) (hreach : Reachable cfg cb core)
    (ha : a < cfg.actuatorCount) (hspin : 0 < (cfg.actuators.slot a).spinupMs) (is : List Input)
    (window rest : List DriveRecord) (htrace : driveTrace cfg cb a core is = window ++ rest)
    (hwin : SpinUpWindow cfg (cfg.actuators.slot a) window) :
    (∀ r ∈ window, (cfg.actuators.slot a).spinupPwm ≤ r.duty) ↔
      SpinUpKept cfg (cfg.actuators.slot a) window := by
  have hr : ConfigRules cfg := (accepted_iff cfg).mp hacc
  have hrules := hr.actuator ha
  -- one record of the window, with the boost that is left for it
  have hone {pre post : List DriveRecord} {r : DriveRecord} (hsplit : window = pre ++ r :: post) :
      (cfg.actuators.slot a).spinupPwm ≤ r.duty ↔
        if dwellRequest (cfg.actuators.slot a) r.before r.tick < (cfg.actuators.slot a).spinupPwm then
          0 < spinupTicks cfg (cfg.actuators.slot a) - pre.length ∨
            (0 < (cfg.actuators.slot a).slewPerTick ∧
              (cfg.actuators.slot a).spinupPwm + (cfg.actuators.slot a).slewPerTick ≤
                r.before.prevDuty) ∨
            (cfg.actuators.slot a).spinupPwm ≤ (cfg.actuators.slot a).pwmMin
        else
          (r.tick.slewOverrideUp = true ∨ (cfg.actuators.slot a).slewPerTick = 0 ∨
            (cfg.actuators.slot a).spinupPwm ≤
              r.before.prevDuty + (cfg.actuators.slot a).slewPerTick) ∨
            (cfg.actuators.slot a).spinupPwm ≤ (cfg.actuators.slot a).pwmMin := by
    have hcat : driveTrace cfg cb a core is = pre ++ r :: (post ++ rest) := by
      rw [htrace, hsplit, List.append_assoc]
      rfl
    obtain ⟨is₁, -, -, hduty⟩ := driveTrace_split hr ha hcat
    have hreq := hwin.requested r (by rw [hsplit]; simp)
    have htick := spinupPwm_le_finalPwm_iff cfg hrules hspin hreq
    rw [spinupArmed_window hr hreach ha hspin htrace hwin hsplit, ← hduty] at htick
    exact htick
  constructor
  · intro hall
    constructor
    · intro r hhead
      obtain ⟨post, hwindow⟩ : ∃ post, window = [] ++ r :: post := by
        cases window with
        | nil => simp at hhead
        | cons x xs =>
            rw [List.head?_cons, Option.mem_some_iff] at hhead
            exact ⟨xs, by rw [hhead]; rfl⟩
      have hrest := hwin.from_rest r hhead
      have hduty := (hone hwindow).mp (hall r (by rw [hwindow]; simp))
      split at hduty
      · next hlow => exact Or.inl hlow
      · rw [hrest, Nat.zero_add] at hduty
        obtain (hup | hslew | hreach) | hmin := hduty
        · exact Or.inr (Or.inl hup)
        · exact Or.inr (Or.inr (Or.inl hslew))
        · exact Or.inr (Or.inr (Or.inr (Or.inl hreach)))
        · exact Or.inr (Or.inr (Or.inr (Or.inr hmin)))
    · intro pre r post hsplit hlate
      have hduty := (hone hsplit).mp (hall r (by rw [hsplit]; simp))
      split at hduty
      · omega
      · next hhigh => exact Or.inl (Nat.not_lt.mp hhigh)
  · intro hkept
    -- by induction on the position: the record before it kept the level
    have hall (pre post : List DriveRecord) (r : DriveRecord) (hsplit : window = pre ++ r :: post) :
        (cfg.actuators.slot a).spinupPwm ≤ r.duty := by
      induction pre using List.reverseRecOn generalizing r post with
      | nil =>
          have hhead : r ∈ window.head? := by rw [hsplit]; rfl
          have hstart := hkept.start r hhead
          have hlate := hkept.late [] r post hsplit
          rw [hone hsplit]
          rw [List.length_nil] at hlate ⊢
          split
          · by_cases hticks : spinupTicks cfg (cfg.actuators.slot a) ≤ 0
            · have := hlate hticks
              omega
            · omega
          · next hhigh =>
              obtain hlow | hup | hslew | hreach | hmin := hstart
              · exact absurd hlow hhigh
              · exact Or.inl (Or.inl hup)
              · exact Or.inl (Or.inr (Or.inl hslew))
              · exact Or.inl (Or.inr (Or.inr (Nat.le_add_left_of_le hreach)))
              · exact Or.inr hmin
      | append_singleton pre last ih =>
          have hsplit' : window = pre ++ last :: (r :: post) := by
            rw [hsplit, List.append_assoc, List.singleton_append]
          have hlast := ih (r :: post) last hsplit'
          have hcat : driveTrace cfg cb a core is = pre ++ last :: r :: (post ++ rest) := by
            rw [htrace, hsplit', List.append_assoc]
            rfl
          have hprev := (driveTrace_next hr ha hcat).1
          have hlate := hkept.late (pre ++ [last]) r post hsplit
          rw [hone hsplit]
          split
          · by_cases hticks : spinupTicks cfg (cfg.actuators.slot a) ≤ (pre ++ [last]).length
            · have := hlate hticks
              omega
            · omega
          · have hlevel : (cfg.actuators.slot a).spinupPwm ≤ r.before.prevDuty := hprev ▸ hlast
            exact Or.inl (Or.inr (Or.inr (Nat.le_add_right_of_le hlevel)))
    intro r hmem
    obtain ⟨pre, post, hsplit⟩ := List.append_of_mem hmem
    exact hall pre post r hsplit

end window

/-! ## Starts that keep the level and starts that miss it -/

/-- The window of the first warm ticks after init. -/
def warmStart (cfg : Config) (ticks : Nat) : List DriveRecord :=
  driveTrace cfg ⟨false, false⟩ 0 (initCore cfg)
    (List.replicate ticks (.step (tempSnapshot 0 1 55000) default))

/-- Three warm ticks of the one-fan configuration, all inside its boost. -/
theorem oneFan_spinUp_window :
    (∀ r ∈ warmStart oneFanConfig 3, 120 ≤ r.duty) ↔
      SpinUpKept oneFanConfig (oneFanConfig.actuators.slot 0) (warmStart oneFanConfig 3) :=
  spinUp_window_iff accepted_oneFanConfig Reachable.init (by decide) (by decide) _
    (warmStart oneFanConfig 3) [] (List.append_nil _).symm
    ⟨by decide +kernel, by decide +kernel, by decide +kernel⟩

/-- A fan whose first cooling state asks for more than its boost. -/
def strongFanConfig : Config :=
  { oneFanConfig with
    actuators := #v[{ fanActuator with statePwm := #v[0, 150, 160, 180, 200] }, default] }

/-- A fan whose boost lasts 65536 periods. -/
def longBoostConfig : Config :=
  { oneFanConfig with
    actuators := #v[{ fanActuator with spinupMs := 6553600 }, default] }

/-- **Spin-up missed.**  A request of 150 starts a fan with a boost of 120 at 40,
where the slew limiter and `pwm_min` put it; and a boost of 65536 periods is a
count of 0, so a request of 60 starts its fan at 40 too. -/
theorem spinUp_missed :
    (Accepted strongFanConfig ∧
      SpinUpWindow strongFanConfig (strongFanConfig.actuators.slot 0) (warmStart strongFanConfig 1) ∧
      (warmStart strongFanConfig 1).map DriveRecord.duty = [40] ∧
      ¬∀ r ∈ warmStart strongFanConfig 1, (strongFanConfig.actuators.slot 0).spinupPwm ≤ r.duty) ∧
    (Accepted longBoostConfig ∧
      SpinUpWindow longBoostConfig (longBoostConfig.actuators.slot 0) (warmStart longBoostConfig 1) ∧
      (warmStart longBoostConfig 1).map DriveRecord.duty = [40] ∧
      ¬∀ r ∈ warmStart longBoostConfig 1, (longBoostConfig.actuators.slot 0).spinupPwm ≤ r.duty) :=
  ⟨⟨by decide +kernel, ⟨by decide +kernel, by decide +kernel, by decide +kernel⟩,
      by decide +kernel, by decide +kernel⟩,
    ⟨by decide +kernel, ⟨by decide +kernel, by decide +kernel, by decide +kernel⟩,
      by decide +kernel, by decide +kernel⟩⟩

end ThermalCore
