import Mathlib.Data.Finset.Lattice.Fold
import Mathlib.Order.Lattice.Nat
import ThermalCore.Lib.Streak
import ThermalCore.EffectiveTrips

/-!
# Hysteresis over runs

The governor keeps one bit a trip and moves it by a dead band, on thresholds that
move themselves: a modifier shifts them and commands rewrite them.  Over a run the
bit is a statement about the steps alone, and because the thresholds of
neighbouring trips never overlap, the bits that are set are those of the lowest
trips.

A record keeps the thresholds in force at its step beside the temperature.  `Since`
then states the bit: raised at some step at or above its trip, and never since below
the trip less its hysteresis.
-/

namespace ThermalCore

open MachineInt Check

/-! ## Records -/

/-- The trips in force on a step, over the integers: the runtime trips shifted by
the exact offset. -/
def exactTrips (cfg : Config) (inp : InputSnapshot) (core : Core) (z : Nat) :
    Vector TripCfg maxTripsPerZone :=
  (core.zones.slot z).shadowTrips.forSlots (cfg.zones.slot z).tripCount fun _ t =>
    { t with tempMc := t.tempMc + exactOffset cfg inp core }

/-- Every operation on the thresholds of a zone fits its C type: the evaluations of
the modifier's curve, and the difference of each trip's effective temperature and
its hysteresis. -/
def ThresholdsFit (cfg : Config) (z : Nat) (core : Core) (inp : InputSnapshot) : Prop :=
  ModifierEvalFits cfg inp core ∧ ∀ t < (cfg.zones.slot z).tripCount,
    IsI32 (((exactTrips cfg inp core z).slot t).tempMc - ((exactTrips cfg inp core z).slot t).hystMc)

instance (cfg : Config) (z : Nat) (core : Core) (inp : InputSnapshot) :
    Decidable (ThresholdsFit cfg z core inp) := inferInstanceAs (Decidable (_ ∧ _))

/-- What an accepted step shows of a zone: its temperature and the trips in force. -/
structure TripRecord where
  tempMc : Int
  trips : Vector TripCfg maxTripsPerZone

def tripRecord (cfg : Config) (z : Nat) (core : Core) (inp : InputSnapshot) (r : StepResult) :
    TripRecord where
  tempMc := (r.core.zones.slot z).tempMc
  trips := exactTrips cfg inp core z

/-- The records of zone `z` along a run, in order. -/
def tripTrace (cfg : Config) (cb : Callbacks) (z : Nat) (core : Core) (is : List Input) :
    List TripRecord :=
  acceptedTrace cfg cb (tripRecord cfg z) core is

/-- The zone is at or above the effective temperature of trip `t`. -/
def TripRecord.Reaches (t : Nat) (w : TripRecord) : Prop := (w.trips.slot t).tempMc ≤ w.tempMc

/-- The zone is at or above that temperature less the hysteresis. -/
def TripRecord.Holds (t : Nat) (w : TripRecord) : Prop :=
  (w.trips.slot t).tempMc - (w.trips.slot t).hystMc ≤ w.tempMc

/-- Trip `t` was reached on some step, and held on every step after it. -/
def HeldSince (t : Nat) (ws : List TripRecord) : Prop :=
  Streak.Since (TripRecord.Reaches t) (TripRecord.Holds t) ws

/-! ## One step -/

section step

variable {cfg : Config} {cb : Callbacks} {inp : InputSnapshot} {core : Core} {z t : Nat}

theorem slot_exactTrips (hr : ConfigRules cfg) (hz : z < cfg.zoneCount)
    (ht : t < (cfg.zones.slot z).tripCount) :
    (exactTrips cfg inp core z).slot t =
      { (core.zones.slot z).shadowTrips.slot t with
        tempMc := ((core.zones.slot z).shadowTrips.slot t).tempMc + exactOffset cfg inp core } :=
  Vector.slot_forSlots_lt _ _ (hr.zone hz).tripCount ht

/-- The governor is handed the exact trips. -/
theorem slot_handedTrips_exact (hr : ConfigRules cfg) (hreach : Reachable cfg cb core)
    (hz : z < cfg.zoneCount) (hfits : ModifierEvalFits cfg inp core)
    (ht : t < (cfg.zones.slot z).tripCount) :
    (handedTrips cfg inp core z).slot t = (exactTrips cfg inp core z).slot t := by
  have hexact : tripOffsetMc cfg (senseCore cfg inp core) = exactOffset cfg inp core := by
    rw [tripOffsetMc_senseCore hr]
    exact modifierOffset_eq_exactOffset hfits
  have hshift := shift_fits hr (reachable_shadowInv hr hreach) (reachable_runtimeRules hr hreach) hz
    hexact
  rw [slot_handedTrips (hr.zone hz).tripCount hshift ht, slot_exactTrips hr hz ht, hexact]

/-- **The dead band of one step**, in the thresholds of that step. -/
theorem testBit_passDone (hr : ConfigRules cfg) (hreach : Reachable cfg cb core)
    (hz : z < cfg.zoneCount) (hfit : ThresholdsFit cfg z core inp)
    (ht : t < (cfg.zones.slot z).tripCount) :
    ((passDone cfg cb inp core).core.zones.slot z).activeTripMask.testBit t = true ↔
      TripRecord.Reaches t
          ⟨((passDone cfg cb inp core).core.zones.slot z).tempMc, exactTrips cfg inp core z⟩ ∨
        ((core.zones.slot z).activeTripMask.testBit t = true ∧ TripRecord.Holds t
          ⟨((passDone cfg cb inp core).core.zones.slot z).tempMc, exactTrips cfg inp core z⟩) := by
  rw [passDone_activeTripMask hr hz, testBit_thermalGovernorStepWise, tripActive_iff,
    slot_handedTrips_exact hr hreach hz hfit.1 ht, i32_of_isI32 (hfit.2 t ht)]
  unfold TripRecord.Reaches TripRecord.Holds
  exact and_iff_right ht

theorem lt_tripCount_of_testBit (hr : ConfigRules cfg) (hz : z < cfg.zoneCount)
    (h : ((passDone cfg cb inp core).core.zones.slot z).activeTripMask.testBit t = true) :
    t < (cfg.zones.slot z).tripCount := by
  rw [passDone_activeTripMask hr hz, testBit_thermalGovernorStepWise] at h
  exact h.1

/-- **Neighbouring dead bands do not overlap**: what sets or holds a trip reaches
the trip below it. -/
theorem reaches_of_holds_succ (hr : ConfigRules cfg) (hreach : Reachable cfg cb core)
    (hz : z < cfg.zoneCount) (ht : t + 1 < (cfg.zones.slot z).tripCount) {tempMc : Int}
    (h : TripRecord.Reaches (t + 1) ⟨tempMc, exactTrips cfg inp core z⟩ ∨
      TripRecord.Holds (t + 1) ⟨tempMc, exactTrips cfg inp core z⟩) :
    TripRecord.Reaches t ⟨tempMc, exactTrips cfg inp core z⟩ := by
  have hordered := ((reachable_runtimeRules hr hreach).zones z hz).ascending (t + 1) ht (by omega)
  have hbelow : t < (cfg.zones.slot z).tripCount := by omega
  unfold TripRecord.Reaches TripRecord.Holds at *
  dsimp only at *
  rw [slot_exactTrips hr hz ht] at h
  rw [slot_exactTrips hr hz hbelow]
  dsimp only at *
  rw [Nat.add_sub_cancel] at hordered
  omega

theorem testBit_of_testBit_succ (hr : ConfigRules cfg) (hreach : Reachable cfg cb core)
    (hz : z < cfg.zoneCount) (hfit : ThresholdsFit cfg z core inp)
    (h : ((passDone cfg cb inp core).core.zones.slot z).activeTripMask.testBit (t + 1) = true) :
    ((passDone cfg cb inp core).core.zones.slot z).activeTripMask.testBit t = true := by
  have ht := lt_tripCount_of_testBit hr hz h
  have hbelow : t < (cfg.zones.slot z).tripCount := by omega
  rw [testBit_passDone hr hreach hz hfit ht] at h
  rw [testBit_passDone hr hreach hz hfit hbelow]
  exact Or.inl (reaches_of_holds_succ hr hreach hz ht (h.imp_right And.right))

/-- The cooling state of a step-wise zone is the maximum over its active trips. -/
theorem coolingState_passDone (hr : ConfigRules cfg) (hshadow : ShadowInv cfg core)
    (hz : z < cfg.zoneCount) (hops : governorOpsFor (cfg.zones.slot z).governor = some .stepWise)
    {k : Nat} (hk : ∀ i, ((passDone cfg cb inp core).core.zones.slot z).activeTripMask.testBit i =
      true ↔ i < k) :
    ((passDone cfg cb inp core).core.zones.slot z).coolingState =
      (Finset.range k).sup fun i => ((cfg.zones.slot z).trips.slot i).coolingState := by
  have hstate : ((passDone cfg cb inp core).core.zones.slot z).coolingState =
      (thermalGovernorStepWise ((passDone cfg cb inp core).core.zones.slot z).tempMc
        (handedTrips cfg inp core z) (cfg.zones.slot z).tripCount
        (core.zones.slot z).activeTripMask).coolingState := by
    rw [slot_passDone_zones hr hz, tripOffsetMc_prepassCore]
    unfold zoneStep
    rw [hops]
    rfl
  have hlabel {i : Nat} (hi : i < (cfg.zones.slot z).tripCount) :
      ((handedTrips cfg inp core z).slot i).coolingState =
        ((cfg.zones.slot z).trips.slot i).coolingState := by
    unfold handedTrips
    rw [slot_tripsEff _ (hr.zone hz).tripCount _ hi, (hshadow.zones z hz).trips i hi]
    rfl
  have hactive (i : Nat) : i < k ↔ i < (cfg.zones.slot z).tripCount ∧
      tripActive ((passDone cfg cb inp core).core.zones.slot z).tempMc
        ((handedTrips cfg inp core z).slot i) ((core.zones.slot z).activeTripMask.testBit i) = true := by
    rw [← hk i, passDone_activeTripMask hr hz, testBit_thermalGovernorStepWise]
  rw [hstate]
  apply Nat.le_antisymm
  · obtain h0 | ⟨i, hi, hon, hcs⟩ := coolingState_thermalGovernorStepWise
      ((passDone cfg cb inp core).core.zones.slot z).tempMc (handedTrips cfg inp core z)
      (cfg.zones.slot z).tripCount (core.zones.slot z).activeTripMask
    · rw [h0]
      exact Nat.zero_le _
    · rw [hcs, hlabel hi]
      exact Finset.le_sup (f := fun i => ((cfg.zones.slot z).trips.slot i).coolingState)
        (Finset.mem_range.mpr ((hactive i).mpr ⟨hi, hon⟩))
  · refine Finset.sup_le fun i hi => ?_
    obtain ⟨hcount, hon⟩ := (hactive i).mp (Finset.mem_range.mp hi)
    rw [← hlabel hcount]
    exact le_coolingState_thermalGovernorStepWise _ _ _ _ hcount hon

end step

/-! ## Runs -/

/-- A set of indices below `n` that is closed downward is an initial segment. -/
theorem exists_lt_iff_of_downward {P : Nat → Prop} {n : Nat} (hdown : ∀ i, P (i + 1) → P i)
    (hbound : ∀ i, P i → i < n) : ∃ k ≤ n, ∀ i, P i ↔ i < k := by
  induction n with
  | zero =>
      refine ⟨0, Nat.le_refl 0, fun i => ?_⟩
      grind
  | succ n ih =>
      by_cases hn : P n
      · refine ⟨n + 1, Nat.le_refl _, fun i => ⟨hbound i, fun hi => ?_⟩⟩
        exact Nat.decreasingInduction (fun j _ hj => hdown j hj) hn (Nat.lt_succ_iff.mp hi)
      · obtain ⟨k, hk, hiff⟩ := ih fun i hi => by
          have hlt := hbound i hi
          grind
        exact ⟨k, Nat.le_succ_of_le hk, hiff⟩

/-- A zone after a run, against the records of the run: each bit of its mask is
set exactly when its trip was reached and held since, the bits that are set are
those of the `k` lowest trips, and a step-wise zone has the highest cooling state
among these. -/
structure HysteresisLaw (cfg : Config) (z : Nat) (zr : ZoneRuntime) (ws : List TripRecord) : Prop where
  active : ∀ t < (cfg.zones.slot z).tripCount, zr.activeTripMask.testBit t = true ↔ HeldSince t ws
  lowest : ∃ k ≤ (cfg.zones.slot z).tripCount,
    (∀ t, zr.activeTripMask.testBit t = true ↔ t < k) ∧
      (governorOpsFor (cfg.zones.slot z).governor = some .stepWise →
        zr.coolingState = (Finset.range k).sup fun t => ((cfg.zones.slot z).trips.slot t).coolingState)

section run

variable {cfg : Config} {cb : Callbacks} {z : Nat}

theorem hysteresisLaw_init (hr : ConfigRules cfg) (hz : z < cfg.zoneCount) :
    HysteresisLaw cfg z ((initCore cfg).zones.slot z) [] := by
  have hslot : (initCore cfg).zones.slot z = initZone cfg (cfg.zones.slot z) :=
    Vector.slot_forSlots_lt _ _ hr.zoneCount_le hz
  have hmask : ((initCore cfg).zones.slot z).activeTripMask = 0 := by
    rw [hslot]
    rfl
  have hstate : ((initCore cfg).zones.slot z).coolingState = 0 := by
    rw [hslot]
    rfl
  refine ⟨fun t _ => ?_, 0, Nat.zero_le _, fun t => ?_, fun _ => ?_⟩
  · unfold HeldSince
    rw [hmask]
    simp [Streak.not_since_nil]
  · rw [hmask]
    simp
  · rw [hstate]
    simp

/-- **One accepted step.** -/
theorem HysteresisLaw.step (hr : ConfigRules cfg) (hz : z < cfg.zoneCount) {core : Core}
    (hreach : Reachable cfg cb core) {inp : InputSnapshot} (hfit : ThresholdsFit cfg z core inp)
    {ws : List TripRecord} (h : HysteresisLaw cfg z (core.zones.slot z) ws) :
    HysteresisLaw cfg z ((passDone cfg cb inp core).core.zones.slot z)
      (ws ++ [⟨((passDone cfg cb inp core).core.zones.slot z).tempMc, exactTrips cfg inp core z⟩]) := by
  constructor
  · intro t ht
    rw [testBit_passDone hr hreach hz hfit ht, h.active t ht]
    exact Streak.since_concat.symm
  · obtain ⟨k, hle, hk⟩ := exists_lt_iff_of_downward
      (P := fun t => ((passDone cfg cb inp core).core.zones.slot z).activeTripMask.testBit t = true)
      (fun t => testBit_of_testBit_succ hr hreach hz hfit) fun t => lt_tripCount_of_testBit hr hz
    exact ⟨k, hle, hk, fun hops => coolingState_passDone hr (reachable_shadowInv hr hreach) hz hops hk⟩

/-- A command leaves masks and cooling states alone. -/
theorem runCommand_activeTrips (cfg : Config) (core : Core) (cmd : Command) (z : Nat) :
    ((runCommand cfg core cmd).2.zones.slot z).activeTripMask = (core.zones.slot z).activeTripMask ∧
      ((runCommand cfg core cmd).2.zones.slot z).coolingState = (core.zones.slot z).coolingState := by
  obtain ⟨-, hsame⟩ | ⟨-, hwrite⟩ := runCommand_cases cfg core cmd
  · rw [hsame]
    exact ⟨rfl, rfl⟩
  · generalize (runCommand cfg core cmd).2 = core' at hwrite
    cases hwrite with
    | setCurvePoint | clearNothing | clearStall | clearStuckSensor | clearRunaway
    | clearStaleContext => exact ⟨rfl, rfl⟩
    | setPid | setSetpoint | setTrip =>
        dsimp only
        rw [Vector.slot_edit]
        split <;> exact ⟨rfl, rfl⟩

/-- **Trip hysteresis over runs**: in every run from init whose threshold arithmetic
fits, a trip is active exactly when the zone reached its effective temperature on
some step and on every later step stayed within the hysteresis, each step by its
own thresholds; and the active trips are the lowest ones of the zone. -/
theorem trip_hysteresis (hacc : Accepted cfg) (hz : z < cfg.zoneCount) (is : List Input)
    (hfit : EveryAccepted cfg cb (ThresholdsFit cfg z) (initCore cfg) is) :
    HysteresisLaw cfg z ((Machine.after (call cfg cb) (initCore cfg) is).zones.slot z)
      (tripTrace cfg cb z (initCore cfg) is) := by
  have hr : ConfigRules cfg := (accepted_iff cfg).mp hacc
  let Law : Core → List TripRecord → Prop := fun c ws =>
    Reachable cfg cb c ∧ HysteresisLaw cfg z (c.zones.slot z) ws
  have hstep (c : Core) (ws : List TripRecord) (inp : InputSnapshot) (out : OutputFrame)
      (hin : Admissible cfg inp)
      (hq : AcceptedWith cfg cb (ThresholdsFit cfg z) c (.step inp out)) (hlaw : Law c ws) :
      Law (passDone cfg cb inp c).core
        (ws ++ [tripRecord cfg z c inp (thermalCoreStep cfg cb c inp out)]) := by
    have hnext := hlaw.1.call (.step inp out)
    rw [call_step_accepted hin] at hnext
    unfold tripRecord
    rw [thermalCoreStep_accepted hin]
    exact ⟨hnext, hlaw.2.step hr hz hlaw.1 (hq (thermalCoreStep_status_iff.mpr hin))⟩
  have hcmd (c : Core) (ws : List TripRecord) (nowMs : Nat) (cmd : Command)
      (_ : AcceptedWith cfg cb (ThresholdsFit cfg z) c (.command nowMs cmd)) (hlaw : Law c ws) :
      Law (runCommand cfg c cmd).2 ws := by
    obtain ⟨hmask, hstate⟩ := runCommand_activeTrips cfg c cmd z
    refine ⟨hlaw.1.call (.command 0 cmd), ?_, ?_⟩
    · rw [hmask]
      exact hlaw.2.active
    · rw [hmask, hstate]
      exact hlaw.2.lowest
  have hinit : Law (initCore cfg) [] := ⟨Reachable.init, hysteresisLaw_init hr hz⟩
  exact (acceptedTrace_invariant_of hstep hcmd hinit hfit).2

end run

/-- The vehicle starts to move while the CRITICAL trip is retuned. -/
def drivingRun : List Input :=
  [.step (drivingSnapshot 76000 0) default, .command 150 (.setTrip 0 1 69000 1500),
    .step (drivingSnapshot 71000 50) default]

/-- The trip is reached at 75 °C and held at 71 °C, where the second step would not
have set it. -/
theorem trip_hysteresis_driving :
    (tripTrace maskedFanConfig ⟨false, false⟩ 0 (initCore maskedFanConfig) drivingRun).map
        (fun w => (w.tempMc, (w.trips.slot 1).tempMc, (w.trips.slot 1).hystMc)) =
        [(76000, 75000, 2000), (71000, 71500, 1500)] ∧
      ((Machine.after (call maskedFanConfig ⟨false, false⟩) (initCore maskedFanConfig)
        drivingRun).zones.slot 0).activeTripMask = 3 ∧
      HysteresisLaw maskedFanConfig 0
        ((Machine.after (call maskedFanConfig ⟨false, false⟩) (initCore maskedFanConfig)
          drivingRun).zones.slot 0)
        (tripTrace maskedFanConfig ⟨false, false⟩ 0 (initCore maskedFanConfig) drivingRun) :=
  ⟨by decide +kernel, by decide +kernel,
    trip_hysteresis accepted_maskedFanConfig (by decide) drivingRun (by decide +kernel)⟩

end ThermalCore
