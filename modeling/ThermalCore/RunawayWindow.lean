import Mathlib.Data.List.Induction
import ThermalCore.Lib.RingBuffer
import ThermalCore.Fault

/-!
# The runaway detector over its samples

`thermal_fault_runaway_step` pushes a temperature and a commanded pwm into two
rings of `persist_ticks` entries and judges them by the slots behind and at the
head.  Seen from outside the rings are the last samples of a list:

* `RunawayInv` — the rings hold the samples of the last `persist_ticks` ticks;
* `runaway_ring_is_window` — the condition is one on these samples alone, and what
  came before them leaves no trace;
* `runaway_condition_iff_window` — tick by tick, which rise and which pwm it asks for.

The document describes a window of one tick more; where the two differ stands at
the end.
-/

namespace ThermalCore

open MachineInt

/-! ## References over the list of samples -/

/-- What one tick pushes. -/
structure RunawaySample where
  tempMc : Int
  pwm : Nat
deriving DecidableEq

/-- The temperature of tick `i`, counted from reset. -/
def tempAt (samples : List RunawaySample) (i : Nat) : Int :=
  (samples[i]?.map RunawaySample.tempMc).getD 0

/-- The commanded pwm of tick `i`. -/
def pwmAt (samples : List RunawaySample) (i : Nat) : Nat :=
  (samples[i]?.map RunawaySample.pwm).getD 0

/-- The least commanded pwm. -/
def leastPwm (samples : List RunawaySample) : Nat := (samples.map RunawaySample.pwm).foldr min 255

/-- The samples of the newest tick `N` and of the `back` ticks before it. -/
def lastTicks (back : Nat) (samples : List RunawaySample) : List RunawaySample :=
  samples.drop (samples.length - 1 - back)

/-- `temp[N] - temp[N - back]`, with `N` the newest tick. -/
def riseOver (back : Nat) (samples : List RunawaySample) : Int :=
  tempAt samples (samples.length - 1) - tempAt samples (samples.length - 1 - back)

/-- The temperature rose by the threshold since `back` ticks ago, and the pwm was
high from then on. -/
def RunsAway (fc : FaultDetectorCfg) (back : Nat) (samples : List RunawaySample) : Prop :=
  back < samples.length ∧ fc.threshold0 ≤ riseOver back samples ∧
    toU8 fc.threshold1 ≤ leastPwm (lastTicks back samples)

instance (fc : FaultDetectorCfg) (back : Nat) (samples : List RunawaySample) :
    Decidable (RunsAway fc back samples) := inferInstanceAs (Decidable (_ ∧ _))

/-- All differences of temperatures fit in `int32_t`. -/
def DifferencesFit (samples : List RunawaySample) : Prop :=
  ∀ a ∈ samples, ∀ b ∈ samples, IsI32 (a.tempMc - b.tempMc)

instance (samples : List RunawaySample) : Decidable (DifferencesFit samples) :=
  inferInstanceAs (Decidable (∀ a ∈ samples, ∀ b ∈ samples, _))

/-! ## Runs -/

/-- One tick of the detector. -/
structure RunawayTick where
  sample : RunawaySample
  nowMs : Nat
deriving DecidableEq

/-- The detector after some ticks, from reset. -/
def runawayAfter (fc : FaultDetectorCfg) (ticks : List RunawayTick) : RunawayState :=
  ticks.foldl (fun s t => thermalFaultRunawayStep s fc t.sample.tempMc t.sample.pwm t.nowMs)
    thermalFaultRunawayReset

/-- `condition_active` on a tick of a detector in state `s`. -/
def runawayConditionActive (fc : FaultDetectorCfg) (s : RunawayState) (sample : RunawaySample) :
    Bool :=
  (s.push (runawayPersist fc) sample.tempMc sample.pwm).condition fc (runawayPersist fc)

/-- The samples of some ticks. -/
def samplesOf (ticks : List RunawayTick) : List RunawaySample := ticks.map RunawayTick.sample

/-! ## Least pwm -/

theorem toU8_le (x : Int) : toU8 x ≤ 255 := by
  unfold toU8
  omega

theorem le_leastPwm_iff {t : Nat} (ht : t ≤ 255) {samples : List RunawaySample} :
    t ≤ leastPwm samples ↔ ∀ x ∈ samples, t ≤ x.pwm := by
  induction samples with
  | nil => simpa [leastPwm] using ht
  | cons x xs ih =>
      have hcons : leastPwm (x :: xs) = min x.pwm (leastPwm xs) := rfl
      rw [hcons, List.forall_mem_cons, ← ih]
      exact Nat.le_min

theorem le_pwmMin_iff {t : Nat} (ht : t ≤ 255) {s : RunawayState} {persist : Nat} :
    t ≤ s.pwmMin persist ↔ ∀ i < persist, t ≤ s.pwmWindow.slot i := by
  unfold RunawayState.pwmMin
  induction persist with
  | zero => simpa using ht
  | succ persist ih =>
      rw [Loop.fold_succ, Nat.forall_lt_succ_right]
      grind

/-! ## The rings -/

section rings

variable {fc : FaultDetectorCfg} {persist : Nat} {s : RunawayState} {samples : List RunawaySample}

/-- The rings hold the samples pushed so far. -/
structure RunawayInv (persist : Nat) (s : RunawayState) (samples : List RunawaySample) : Prop where
  head : s.windowHead = samples.length % persist
  filled : s.windowFilled = true ↔ persist ≤ samples.length
  temps : RingBuffer.Holds s.tempWindow persist (samples.map RunawaySample.tempMc)
  pwms : RingBuffer.Holds s.pwmWindow persist (samples.map RunawaySample.pwm)

theorem runawayInv_reset (hp : 0 < persist) : RunawayInv persist thermalFaultRunawayReset [] where
  head := (Nat.zero_mod persist).symm
  filled := by
    have hoff : thermalFaultRunawayReset.windowFilled = false := rfl
    rw [hoff]
    grind
  temps := RingBuffer.holds_nil
  pwms := RingBuffer.holds_nil

/-- **One push.** -/
theorem RunawayInv.push (h : RunawayInv persist s samples) (hp : 0 < persist)
    (hmax : persist ≤ faultRunawayWindowMax) (x : RunawaySample) :
    RunawayInv persist (s.push persist x.tempMc x.pwm) (samples ++ [x]) := by
  have hlen : (samples ++ [x]).length = samples.length + 1 := by simp
  have hhead : u16 ((s.windowHead + 1) % persist) = (samples.length + 1) % persist := by
    have hlt : (samples.length + 1) % persist < persist := Nat.mod_lt _ hp
    have hsmall : persist ≤ 64 := hmax
    rw [h.head, Nat.mod_add_mod]
    exact u16_of_lt (by omega)
  constructor
  · rw [hlen, ← hhead]
    rfl
  · have hfilled : (s.push persist x.tempMc x.pwm).windowFilled =
        (s.windowFilled || decide ((samples.length + 1) % persist = 0)) := by
      rw [← hhead]
      rfl
    rw [hfilled, hlen, Bool.or_eq_true, h.filled, decide_eq_true_eq]
    constructor
    · rintro (hle | hzero)
      · omega
      · exact Nat.le_of_dvd (by omega) (Nat.dvd_of_mod_eq_zero hzero)
    · intro hle
      by_cases heq : persist = samples.length + 1
      · right
        rw [heq]
        exact Nat.mod_self _
      · left
        omega
  · have hpush := h.temps.push hp hmax x.tempMc
    rw [List.length_map, ← h.head] at hpush
    rw [List.map_append]
    exact hpush
  · have hpush := h.pwms.push hp hmax x.pwm
    rw [List.length_map, ← h.head] at hpush
    rw [List.map_append]
    exact hpush

/-- The temperature of one of the last `persist` ticks, where the ring has it. -/
theorem RunawayInv.slot_temp (h : RunawayInv persist s samples) {j : Nat} (hj : j < samples.length)
    (hrecent : samples.length ≤ j + persist) : s.tempWindow.slot (j % persist) = tempAt samples j := by
  have hslot := h.temps j (by rwa [List.length_map]) (by rwa [List.length_map])
  rw [List.getElem?_map] at hslot
  unfold tempAt
  rw [hslot]
  rfl

/-- The least pwm of the ring is that of the last `persist` ticks. -/
theorem RunawayInv.le_pwmMin_iff (h : RunawayInv persist s samples) (hp : 0 < persist)
    (hfull : persist ≤ samples.length) {t : Nat} (ht : t ≤ 255) :
    t ≤ s.pwmMin persist ↔ t ≤ leastPwm (lastTicks (persist - 1) samples) := by
  have hback : samples.length - 1 - (persist - 1) = samples.length - persist := by omega
  have hslots := h.pwms.forall_slot_iff (P := (t ≤ ·)) hp (by rwa [List.length_map])
  rw [ThermalCore.le_pwmMin_iff ht, le_leastPwm_iff ht, hslots]
  unfold lastTicks
  rw [hback, List.length_map, ← List.map_drop]
  simp only [List.forall_mem_map]

theorem isI32_riseOver (hfit : DifferencesFit samples) (back : Nat) (hback : back < samples.length) :
    IsI32 (riseOver back samples) := by
  have hnewest : samples.length - 1 < samples.length := by omega
  have holdest : samples.length - 1 - back < samples.length := by omega
  unfold riseOver tempAt
  rw [List.getElem?_eq_getElem hnewest, List.getElem?_eq_getElem holdest]
  exact hfit _ (List.getElem_mem hnewest) _ (List.getElem_mem holdest)

/-- **The condition read off the rings** is the reference over the last `persist`
samples. -/
theorem RunawayInv.condition_iff (h : RunawayInv persist s samples) (hp : 0 < persist)
    (hmax : persist ≤ faultRunawayWindowMax) (hfit : DifferencesFit samples) :
    s.condition fc persist = true ↔ RunsAway fc (persist - 1) samples := by
  by_cases hfull : persist ≤ samples.length
  · have hsmall : persist ≤ 64 := hmax
    have hnewest : u16 ((s.windowHead + persist - 1) % persist) = (samples.length - 1) % persist := by
      have hmod : (samples.length - 1) % persist < persist := Nat.mod_lt _ hp
      have hsum : s.windowHead + persist - 1 = samples.length % persist + (persist - 1) := by
        rw [h.head]
        omega
      have hwrap : samples.length + (persist - 1) = samples.length - 1 + persist := by omega
      rw [hsum, Nat.mod_add_mod, hwrap, Nat.add_mod_right]
      exact u16_of_lt (by omega)
    have holdest : s.windowHead = (samples.length - persist) % persist := by
      rw [h.head, ← Nat.add_mod_right (samples.length - persist) persist]
      congr 1
      omega
    have htempN := h.slot_temp (j := samples.length - 1) (by omega) (by omega)
    have htempM := h.slot_temp (j := samples.length - persist) (by omega) (by omega)
    have hback : samples.length - 1 - (persist - 1) = samples.length - persist := by omega
    have hrise : i32 (tempAt samples (samples.length - 1) -
        tempAt samples (samples.length - persist)) = riseOver (persist - 1) samples := by
      have hfits := isI32_riseOver hfit (persist - 1) (by omega)
      unfold riseOver at *
      rw [hback] at *
      exact i32_of_isI32 hfits
    have hpwm := h.le_pwmMin_iff hp hfull (toU8_le fc.threshold1)
    have hlt : persist - 1 < samples.length := by omega
    unfold RunawayState.condition RunsAway
    simp only [hnewest, htempN]
    rw [holdest, htempM, hrise]
    simp only [Bool.and_eq_true, decide_eq_true_eq, ge_iff_le, h.filled, hfull, hlt, hpwm, true_and]
  · have hempty : ¬persist - 1 < samples.length := by omega
    unfold RunawayState.condition RunsAway
    simp only [Bool.and_eq_true, h.filled, hfull, hempty, false_and]

end rings

/-! ## The detector -/

section detector

variable {fc : FaultDetectorCfg}

theorem runawayPersist_eq (hmax : fc.persistTicks ≤ faultRunawayWindowMax) :
    runawayPersist fc = fc.persistTicks := if_neg (Nat.not_lt.mpr hmax)

theorem runawayAfter_concat (ticks : List RunawayTick) (t : RunawayTick) :
    runawayAfter fc (ticks ++ [t]) =
      thermalFaultRunawayStep (runawayAfter fc ticks) fc t.sample.tempMc t.sample.pwm t.nowMs := by
  unfold runawayAfter
  rw [List.foldl_append]
  rfl

/-- What a tick of an enabled detector does to its machine. -/
theorem runawayAfter_fsm (hon : fc.enabled ≠ 0) (hp : 1 ≤ fc.persistTicks) (ticks : List RunawayTick)
    (t : RunawayTick) :
    (runawayAfter fc (ticks ++ [t])).fsm =
      fsmTick (runawayAfter fc ticks).fsm
        (runawayConditionActive fc (runawayAfter fc ticks) t.sample) fc 1 t.nowMs := by
  rw [runawayAfter_concat]
  unfold thermalFaultRunawayStep
  rw [if_neg hon, if_neg (by omega)]
  rfl

/-- **Every run** of the detector keeps its last samples in the rings. -/
theorem runawayInv_after (hon : fc.enabled ≠ 0) (hp : 1 ≤ fc.persistTicks)
    (hmax : fc.persistTicks ≤ faultRunawayWindowMax) (ticks : List RunawayTick) :
    RunawayInv fc.persistTicks (runawayAfter fc ticks) (samplesOf ticks) := by
  induction ticks using List.reverseRecOn with
  | nil => exact runawayInv_reset hp
  | append_singleton ticks t ih =>
      have hpush := ih.push hp hmax t.sample
      have hsamples : samplesOf (ticks ++ [t]) = samplesOf ticks ++ [t.sample] := List.map_append
      rw [runawayAfter_concat, hsamples]
      unfold thermalFaultRunawayStep
      rw [if_neg hon, if_neg (by omega), runawayPersist_eq hmax]
      exact ⟨hpush.head, hpush.filled, hpush.temps, hpush.pwms⟩

/-- The condition of a tick, over all the samples of the run. -/
theorem runawayConditionActive_iff (hon : fc.enabled ≠ 0) (hp : 1 ≤ fc.persistTicks)
    (hmax : fc.persistTicks ≤ faultRunawayWindowMax) {ticks : List RunawayTick} {t : RunawayTick}
    (hfit : DifferencesFit (samplesOf (ticks ++ [t]))) :
    runawayConditionActive fc (runawayAfter fc ticks) t.sample = true ↔
      RunsAway fc (fc.persistTicks - 1) (samplesOf (ticks ++ [t])) := by
  have hpush := (runawayInv_after hon hp hmax ticks).push hp hmax t.sample
  have hsamples : samplesOf (ticks ++ [t]) = samplesOf ticks ++ [t.sample] := List.map_append
  rw [hsamples] at hfit ⊢
  unfold runawayConditionActive
  rw [runawayPersist_eq hmax]
  exact hpush.condition_iff hp hmax hfit

/-- The reference looks at the last ticks only. -/
theorem runsAway_lastTicks {back : Nat} {samples : List RunawaySample} :
    RunsAway fc back (lastTicks back samples) ↔ RunsAway fc back samples := by
  have hlen : (lastTicks back samples).length = samples.length - (samples.length - 1 - back) :=
    List.length_drop
  by_cases hback : back < samples.length
  · have hlast : (lastTicks back samples).length = back + 1 := by omega
    have hall : lastTicks back (lastTicks back samples) = lastTicks back samples := by
      have hzero : (lastTicks back samples).length - 1 - back = 0 := by omega
      rw [lastTicks, hzero, List.drop_zero]
    have htemp (i : Nat) : tempAt (lastTicks back samples) i =
        tempAt samples (samples.length - 1 - back + i) := by
      unfold tempAt lastTicks
      rw [List.getElem?_drop]
    have hrise : riseOver back (lastTicks back samples) = riseOver back samples := by
      unfold riseOver
      rw [hlast, htemp, htemp]
      congr 2 <;> omega
    have hlt : back < (lastTicks back samples).length := by omega
    unfold RunsAway
    simp only [hlt, hback, hrise, hall]
  · have hshort : ¬back < (lastTicks back samples).length := by omega
    unfold RunsAway
    simp only [hshort, hback, false_and]

/-- **The ring buffer is a sliding window**: the condition of a tick is the
reference over the last `persist_ticks` samples, so two runs that agree on these
and on the machine agree after the tick, whatever came before. -/
theorem runaway_ring_is_window (hon : fc.enabled ≠ 0) (hp : 1 ≤ fc.persistTicks)
    (hmax : fc.persistTicks ≤ faultRunawayWindowMax) (ticks : List RunawayTick) (t : RunawayTick)
    (hfit : DifferencesFit (samplesOf (ticks ++ [t]))) :
    (runawayConditionActive fc (runawayAfter fc ticks) t.sample = true ↔
      RunsAway fc (fc.persistTicks - 1) (samplesOf (ticks ++ [t]))) ∧
    ∀ ticks' t', DifferencesFit (samplesOf (ticks' ++ [t'])) → t'.nowMs = t.nowMs →
      lastTicks (fc.persistTicks - 1) (samplesOf (ticks' ++ [t'])) =
        lastTicks (fc.persistTicks - 1) (samplesOf (ticks ++ [t])) →
      (runawayAfter fc ticks').fsm = (runawayAfter fc ticks).fsm →
      (runawayAfter fc (ticks' ++ [t'])).fsm = (runawayAfter fc (ticks ++ [t])).fsm := by
  have hcond := runawayConditionActive_iff hon hp hmax hfit
  refine ⟨hcond, ?_⟩
  intro ticks' t' hfit' hnow hlast hfsm
  have hcond' := runawayConditionActive_iff hon hp hmax hfit'
  have hsame : runawayConditionActive fc (runawayAfter fc ticks') t'.sample =
      runawayConditionActive fc (runawayAfter fc ticks) t.sample := by
    rw [Bool.eq_iff_iff, hcond, hcond', ← runsAway_lastTicks, hlast, runsAway_lastTicks]
  rw [runawayAfter_fsm hon hp, runawayAfter_fsm hon hp, hfsm, hsame, hnow]

/-- Two ticks of window, a rise of 1000 mC asked for. -/
def risingDetector : FaultDetectorCfg :=
  { (default : FaultDetectorCfg) with
    enabled := 1, severity := FaultSeverity.critical.code
    action := FaultAction.forcePwmMaxAndLatch.code, persistTicks := 2, threshold0 := 1000
    threshold1 := 200 }

/-- A steady rise of 600 mC a tick under full cooling. -/
def risingTicks : List RunawayTick := [⟨⟨50000, 255⟩, 0⟩, ⟨⟨50600, 255⟩, 100⟩]

/-- A run that started elsewhere ends in the same machine. -/
theorem runaway_ring_is_window_rising :
    (runawayConditionActive risingDetector (runawayAfter risingDetector risingTicks)
        ⟨53000, 255⟩ = true ↔
      RunsAway risingDetector 1 (samplesOf (risingTicks ++ [⟨⟨53000, 255⟩, 200⟩]))) ∧
    (runawayAfter risingDetector
        ([⟨⟨50100, 90⟩, 0⟩, ⟨⟨50600, 255⟩, 100⟩] ++ [⟨⟨53000, 255⟩, 200⟩])).fsm =
      (runawayAfter risingDetector (risingTicks ++ [⟨⟨53000, 255⟩, 200⟩])).fsm := by
  have h := @runaway_ring_is_window risingDetector (by decide) (by decide) (by decide) risingTicks
    ⟨⟨53000, 255⟩, 200⟩ (by decide +kernel)
  exact ⟨h.1, h.2 _ _ (by decide +kernel) rfl (by decide +kernel) (by decide +kernel)⟩

end detector

/-! ## The formula, tick by tick

The design document compares the newest tick `N` with `M = N - persist_ticks`, a
window of one sample more than the ring has.  The detector pushes the sample of tick
`N` before it judges the ring, so its oldest sample is that of tick
`N - (persist_ticks - 1)`, and the tick that fills the ring is the first that can
fire.
-/

section formula

variable {fc : FaultDetectorCfg}

/-- `condition_active` on tick `N` of a run from reset. -/
def runawayConditionAt (fc : FaultDetectorCfg) (ticks : List RunawayTick) (N : Nat) : Bool :=
  match ticks[N]? with
  | some t => runawayConditionActive fc (runawayAfter fc (ticks.take N)) t.sample
  | none => false

/-- The least pwm of the last ticks, index by index. -/
theorem le_leastPwm_lastTicks_iff {back t : Nat} (ht : t ≤ 255) {samples : List RunawaySample} :
    t ≤ leastPwm (lastTicks back samples) ↔
      ∀ i, samples.length - 1 - back ≤ i → i < samples.length → t ≤ pwmAt samples i := by
  have hpwm {i : Nat} (hi : i < samples.length) : pwmAt samples i = samples[i].pwm := by
    simp [pwmAt, hi]
  rw [le_leastPwm_iff ht, lastTicks]
  constructor
  · intro hall i hback hi
    have hmem : samples[i] ∈ samples.drop (samples.length - 1 - back) := by
      rw [List.mem_drop_iff_getElem]
      exact ⟨i - (samples.length - 1 - back), by omega, by grind⟩
    rw [hpwm hi]
    exact hall _ hmem
  · intro hall x hx
    obtain ⟨j, hj, rfl⟩ := List.mem_drop_iff_getElem.mp hx
    have hle := hall (samples.length - 1 - back + j) (by omega) (by omega)
    rwa [hpwm (by omega)] at hle

/-- The samples up to a tick are those of the run. -/
theorem tempAt_take {samples : List RunawaySample} {n i : Nat} (hi : i < n) :
    tempAt (samples.take n) i = tempAt samples i := by
  simp [tempAt, hi]

theorem pwmAt_take {samples : List RunawaySample} {n i : Nat} (hi : i < n) :
    pwmAt (samples.take n) i = pwmAt samples i := by
  simp [pwmAt, hi]

/-- The reference at the newest tick, index by index. -/
theorem runsAway_iff {back N : Nat} {samples : List RunawaySample} (hlen : samples.length = N + 1) :
    RunsAway fc back samples ↔
      back ≤ N ∧ fc.threshold0 ≤ tempAt samples N - tempAt samples (N - back) ∧
        ∀ i, N - back ≤ i → i ≤ N → toU8 fc.threshold1 ≤ pwmAt samples i := by
  have hlast : N + 1 - 1 = N := rfl
  unfold RunsAway riseOver
  rw [le_leastPwm_lastTicks_iff (toU8_le _), hlen, hlast]
  simp only [Nat.lt_succ_iff]

/-- **The runaway formula**: on every tick `N` of every run the condition holds exactly
when tick `M = N - (persist_ticks - 1)` is one of the run, the temperature rose by the
threshold since `M`, and the commanded pwm was high on all ticks from `M` to `N`. -/
theorem runaway_condition_iff_window (hon : fc.enabled ≠ 0) (hp : 1 ≤ fc.persistTicks)
    (hmax : fc.persistTicks ≤ faultRunawayWindowMax) (ticks : List RunawayTick)
    (hfit : DifferencesFit (samplesOf ticks)) {N : Nat} (hN : N < ticks.length) :
    runawayConditionAt fc ticks N = true ↔
      fc.persistTicks - 1 ≤ N ∧
        fc.threshold0 ≤
          tempAt (samplesOf ticks) N - tempAt (samplesOf ticks) (N - (fc.persistTicks - 1)) ∧
        ∀ i, N - (fc.persistTicks - 1) ≤ i → i ≤ N →
          toU8 fc.threshold1 ≤ pwmAt (samplesOf ticks) i := by
  have hfront : ticks.take N ++ [ticks[N]] = ticks.take (N + 1) := by simp
  have hsamples : samplesOf (ticks.take (N + 1)) = (samplesOf ticks).take (N + 1) := List.map_take
  have hlen : (samplesOf (ticks.take (N + 1))).length = N + 1 := by
    simp [samplesOf]
    omega
  have hat : runawayConditionAt fc ticks N =
      runawayConditionActive fc (runawayAfter fc (ticks.take N)) (ticks[N]).sample := by
    simp [runawayConditionAt, hN]
  have hfits : DifferencesFit (samplesOf (ticks.take N ++ [ticks[N]])) := by
    rw [hfront, hsamples]
    exact fun a ha b hb => hfit a (List.mem_of_mem_take ha) b (List.mem_of_mem_take hb)
  rw [hat, runawayConditionActive_iff hon hp hmax hfits, hfront, runsAway_iff hlen, hsamples,
    tempAt_take (by omega), tempAt_take (by omega)]
  refine and_congr_right fun _ => and_congr_right fun _ => ?_
  refine forall_congr' fun i => imp_congr_right fun _ => ?_
  constructor
  · intro h hi
    rw [← pwmAt_take (show i < N + 1 by omega)]
    exact h hi
  · intro h hi
    rw [pwmAt_take (by omega)]
    exact h hi

/-- A rise of 1200 mC over the two ticks of the document's window: the detector compares
neighbouring ticks and sees 600. -/
theorem runaway_documented_fails :
    risingDetector.enabled ≠ 0 ∧ 1 ≤ risingDetector.persistTicks ∧
      risingDetector.persistTicks ≤ faultRunawayWindowMax ∧
      DifferencesFit (samplesOf (risingTicks ++ [⟨⟨51200, 255⟩, 200⟩])) ∧
      RunsAway risingDetector risingDetector.persistTicks
        (samplesOf (risingTicks ++ [⟨⟨51200, 255⟩, 200⟩])) ∧
      runawayConditionActive risingDetector (runawayAfter risingDetector risingTicks)
        ⟨51200, 255⟩ = false := by
  decide +kernel

/-- After a jump between the last two ticks the condition holds. -/
theorem runaway_condition_iff_window_jump :
    runawayConditionAt risingDetector (risingTicks ++ [⟨⟨53000, 255⟩, 200⟩]) 2 = true ↔
      1 ≤ 2 ∧ 1000 ≤ tempAt (samplesOf (risingTicks ++ [⟨⟨53000, 255⟩, 200⟩])) 2 -
          tempAt (samplesOf (risingTicks ++ [⟨⟨53000, 255⟩, 200⟩])) 1 ∧
        ∀ i, 1 ≤ i → i ≤ 2 → 200 ≤ pwmAt (samplesOf (risingTicks ++ [⟨⟨53000, 255⟩, 200⟩])) i :=
  @runaway_condition_iff_window risingDetector (by decide) (by decide) (by decide)
    (risingTicks ++ [⟨⟨53000, 255⟩, 200⟩]) (by decide +kernel) 2 (by decide)

end formula

end ThermalCore
