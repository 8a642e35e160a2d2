import ThermalCore.Shadow

/-!
# The substituted configuration

Put the values commands have tuned back into the configuration.  The result is
accepted in every reachable state, and the incremental tests of the command
handlers accept exactly the edits after which it still is.  `RuntimeRules` is
what the validator asks of the tunable values, read off the core.

Exactness is proved through `RuntimeRules`: the validator on the substituted
configuration asks for them and for what substitution cannot change.
-/

namespace ThermalCore

open MachineInt Check

/-! ## Substitution -/

/-- A zone's configuration with the tuned values of its record. -/
def substZone (zc : ZoneCfg) (zr : ZoneRuntime) : ZoneCfg :=
  { zc with
    pid := zc.pid.tunedAs zr.shadowPid
    trips := zc.trips.forSlots zc.tripCount fun t tc =>
      tc.withTemp (zr.shadowTrips.slot t).tempMc (zr.shadowTrips.slot t).hystMc }

/-- A modifier's configuration with the tuned curve points. -/
def substModifier (mc shadow : ModifierCfg) : ModifierCfg :=
  { mc with curve := mc.curve.forSlots mc.curveCount fun p _ => shadow.curve.slot p }

/-- The configuration with every value a command can tune taken from the core. -/
def substConfig (cfg : Config) (core : Core) : Config :=
  { cfg with
    zones := cfg.zones.forSlots cfg.zoneCount fun z zc => substZone zc (core.zones.slot z)
    modifiers := cfg.modifiers.forSlots cfg.modifierCount fun m mc =>
      substModifier mc (core.modifiers.slot m).shadow }

/-! ## What the validator asks of tunable values -/

/-- The tests on one zone's PID block and trips. -/
structure ZoneTuning (zc : ZoneCfg) (pid : PidCfg) (trips : Vector TripCfg maxTripsPerZone) :
    Prop where
  gains : governorOpsFor zc.governor = some .pid →
    gainsInBounds zc.pid pid.kpQ16 pid.kiQ16 pid.kdQ16 = true
  setpoint : governorOpsFor zc.governor = some .pid →
    zc.pid.setpointMinMc ≤ pid.setpointMc ∧ pid.setpointMc ≤ zc.pid.setpointMaxMc
  ascending : ∀ i < zc.tripCount, 0 < i →
    (trips.slot (i - 1)).tempMc < (trips.slot i).tempMc ∧
      (trips.slot (i - 1)).tempMc ≤ (trips.slot i).tempMc - (trips.slot i).hystMc
  fallback : zoneFallbackReachesSafetyFloor zc trips = true

/-- The tests on one trip offset in one zone. -/
structure OffsetFits (zc : ZoneCfg) (trips : Vector TripCfg maxTripsPerZone) (setpoint off : Int) :
    Prop where
  trips : adjustedTripsValid trips zc.tripCount off = true
  setpoint : governorOpsFor zc.governor = some .pid →
    zc.pid.setpointMinMc ≤ setpoint + off ∧ setpoint + off ≤ zc.pid.setpointMaxMc

/-- The tests on the cap of one curve point. -/
def CapFits (cfg : Config) (m : ModifierCfg) (pt : CurvePoint) : Prop :=
  (0 ≤ pt.value0 ∧ pt.value0 ≤ 255) ∧
    (m.hasStage .postGovernorPwmCap = true → ∀ a < cfg.actuatorCount,
      ¬(pt.value0 ≠ 0 ∧ pt.value0 < (cfg.actuators.slot a).pwmMin))

/-- All tests on one curve point. -/
def PointFits (cfg : Config) (trips : Nat → Vector TripCfg maxTripsPerZone) (setpoint : Nat → Int)
    (m : ModifierCfg) (pt : CurvePoint) : Prop :=
  CapFits cfg m pt ∧
    (m.hasStage .preGovernorTripOffset = true → ∀ z < cfg.zoneCount,
      OffsetFits (cfg.zones.slot z) (trips z) (setpoint z) pt.value1)

/-- The tests on one modifier's curve. -/
structure CurveFits (cfg : Config) (trips : Nat → Vector TripCfg maxTripsPerZone)
    (setpoint : Nat → Int) (m : ModifierCfg) : Prop where
  ascending : ∀ k < m.curveCount, 0 < k → (m.curve.slot (k - 1)).x < (m.curve.slot k).x
  points : ∀ p < m.curveCount, PointFits cfg trips setpoint m (m.curve.slot p)

/-- The runtime values of a core pass the tests of the validator. -/
structure RuntimeRules (cfg : Config) (core : Core) : Prop where
  zones : ∀ z < cfg.zoneCount, ZoneTuning (cfg.zones.slot z) (core.zones.slot z).shadowPid
    (core.zones.slot z).shadowTrips
  curves : ∀ m < cfg.modifierCount, CurveFits cfg (fun z => (core.zones.slot z).shadowTrips)
    (fun z => (core.zones.slot z).shadowPid.setpointMc) (core.modifiers.slot m).shadow

/-! ## The tests as the code writes them -/

/-- The test of a point, as a proposition. -/
theorem curvePointValid_iff (cfg : Config) (trips : Nat → Vector TripCfg maxTripsPerZone)
    (setpoint : Nat → Int) (m : ModifierCfg) (pt : CurvePoint) :
    curvePointValid cfg trips setpoint m pt = true ↔ PointFits cfg trips setpoint m pt := by
  unfold curvePointValid PointFits CapFits
  dsimp only
  simp only [Bool.and_eq_true, decide_eq_true_eq, Bool.or_eq_true, Bool.not_eq_true',
    Loop.any_eq_false_iff, decide_eq_false_iff_not]
  have hguard (b : Bool) {P Q : Prop} (h : P ↔ Q) : (b = false ∨ P) ↔ (b = true → Q) := by
    cases b <;> simp [h]
  refine and_congr (and_congr_right' (hguard _ Iff.rfl)) (hguard _ (forall₂_congr fun z _ => ?_))
  rw [Bool.or_eq_false_iff, Bool.not_eq_false']
  constructor
  · rintro ⟨htrips, hpid⟩
    refine ⟨htrips, fun hops => ?_⟩
    rw [hops] at hpid
    simp only [Governor.supportsPidCommands, Bool.true_and, decide_eq_false_iff_not] at hpid
    omega
  · intro h
    refine ⟨h.trips, ?_⟩
    cases hops : governorOpsFor (cfg.zones.slot z).governor with
    | none => rfl
    | some ops =>
        cases ops with
        | stepWise => rfl
        | pid =>
            have hsp := h.setpoint hops
            simp only [Governor.supportsPidCommands, Bool.true_and, decide_eq_false_iff_not]
            omega

/-- The test of a curve, as a proposition. -/
theorem curvePointsValid_iff (cfg : Config) (trips : Nat → Vector TripCfg maxTripsPerZone)
    (setpoint : Nat → Int) (m : ModifierCfg) :
    curvePointsValid cfg trips setpoint m = true ↔
      ∀ p < m.curveCount, PointFits cfg trips setpoint m (m.curve.slot p) := by
  unfold curvePointsValid
  rw [Bool.not_eq_true', Loop.any_eq_false_iff]
  simp only [Bool.not_eq_false', curvePointValid_iff]

/-- A test of all points of the trip-offset curves. -/
theorem allOffsetPoints_iff (cfg : Config) (core : Core) (p : CurvePoint → Bool) :
    allOffsetPoints cfg core p = true ↔
      ∀ m < cfg.modifierCount, (core.modifiers.slot m).shadow.hasStage .preGovernorTripOffset = true →
        ∀ i < (core.modifiers.slot m).shadow.curveCount,
          p ((core.modifiers.slot m).shadow.curve.slot i) = true := by
  unfold allOffsetPoints
  dsimp only
  rw [Bool.not_eq_true', Loop.any_eq_false_iff]
  apply forall₂_congr
  intro m _
  rw [Bool.and_eq_false_iff, Loop.any_eq_false_iff]
  cases (core.modifiers.slot m).shadow.hasStage .preGovernorTripOffset <;> simp

/-- The tests on trips read the first `tripCount` of them. -/
theorem adjustedTripsValid_congr {trips trips' : Vector TripCfg maxTripsPerZone} {tripCount : Nat}
    (h : ∀ i < tripCount, trips.slot i = trips'.slot i) (off : Int) :
    adjustedTripsValid trips tripCount off = adjustedTripsValid trips' tripCount off := by
  unfold adjustedTripsValid
  rw [Loop.any_congr fun i hi => ?_]
  rw [h i hi, h (i - 1) (by omega)]

/-- The highest trip depends on the counted trips only. -/
theorem highestTrip_congr {trips trips' : Vector TripCfg maxTripsPerZone} {tripCount : Nat}
    (h : ∀ i < tripCount, trips.slot i = trips'.slot i) (p : TripCfg → Bool) :
    highestTrip trips tripCount p = highestTrip trips' tripCount p := by
  unfold highestTrip
  exact Loop.fold_congr fun i hi s => by rw [h i hi]

/-- So does the test of the fallback. -/
theorem zoneFallbackReachesSafetyFloor_congr {zc zc' : ZoneCfg}
    {trips trips' : Vector TripCfg maxTripsPerZone} (hcount : zc.tripCount = zc'.tripCount)
    (hfallback : zc.fallbackTempMc = zc'.fallbackTempMc)
    (h : ∀ i < zc.tripCount, trips.slot i = trips'.slot i) :
    zoneFallbackReachesSafetyFloor zc trips = zoneFallbackReachesSafetyFloor zc' trips' := by
  unfold zoneFallbackReachesSafetyFloor
  rw [← hcount, ← hfallback, highestTrip_congr h, highestTrip_congr h]

/-! ## The validator on a substituted configuration -/

/-- The tests on a modifier apart from its curve, and its curve. -/
theorem validateModifiers_iff (cfg : Config) :
    validateModifiers cfg = .ok () ↔ ∀ m < cfg.modifierCount,
      (nameIsAcousticMask (cfg.modifiers.slot m).name = true ∧
        findContextSlot cfg (cfg.modifiers.slot m).contextId ≠ none ∧
        (2 ≤ (cfg.modifiers.slot m).curveCount ∧
          (cfg.modifiers.slot m).curveCount ≤ maxCurvePoints) ∧
        (cfg.modifiers.slot m).failSafe ≠ ContextFailsafe.assumeValue.code ∧
        ((cfg.modifiers.slot m).failSafe = ContextFailsafe.assumeStationary.code ∨
          (cfg.modifiers.slot m).failSafe = ContextFailsafe.holdLast.code) ∧
        validateModifierFailSafe cfg (cfg.modifiers.slot m) = .ok () ∧
        ¬((cfg.modifiers.slot m).stages = 0 ∨ (cfg.modifiers.slot m).stages / 4 ≠ 0)) ∧
      CurveFits cfg (fun z => (cfg.zones.slot z).trips)
        (fun z => (cfg.zones.slot z).pid.setpointMc) (cfg.modifiers.slot m) := by
  unfold validateModifiers
  simp only [bind_eq_ok, each_eq_ok, failIf_eq_ok, Bool.not_eq_false]
  apply forall₂_congr
  intro m _
  unfold modifierCurveValuesValid
  rw [curvePointsValid_iff]
  constructor
  · rintro ⟨h1, h2, h3, h4, h5, h6, h7, h8, h9⟩
    exact ⟨⟨h1, h2, by omega, h6, by omega, h8, h9⟩,
      ⟨fun k hk h0 => by have := h4 k hk; omega, h5⟩⟩
  · rintro ⟨⟨h1, h2, h3, h6, h7, h8, h9⟩, ⟨h4, h5⟩⟩
    exact ⟨h1, h2, by omega, fun k hk => by have := h4 k hk; omega, h5, h6, by omega, h8, h9⟩

section subst

variable {cfg : Config} {core : Core}

/-- The zone with its tuned values put back. -/
theorem substConfig_zone (hr : ConfigRules cfg) {z : Nat} (hz : z < cfg.zoneCount) :
    (substConfig cfg core).zones.slot z = substZone (cfg.zones.slot z) (core.zones.slot z) :=
  Vector.slot_forSlots_lt _ _ hr.zoneCount_le hz

/-- The substituted trips are the shadowed ones. -/
theorem substZone_trip {zc : ZoneCfg} {zr : ZoneRuntime} (h : ZoneShadowInv cfg zc zr)
    (hc : zc.tripCount ≤ maxTripsPerZone) {t : Nat} (ht : t < zc.tripCount) :
    (substZone zc zr).trips.slot t = zr.shadowTrips.slot t := by
  have hslot : (substZone zc zr).trips.slot t =
      (zc.trips.slot t).withTemp (zr.shadowTrips.slot t).tempMc (zr.shadowTrips.slot t).hystMc :=
    Vector.slot_forSlots_lt _ _ hc ht
  rw [hslot]
  exact (h.trips t ht).symm

/-- The substituted modifier is the shadowed one. -/
theorem substConfig_modifier (hr : ConfigRules cfg) (h : ShadowInv cfg core) {m : Nat}
    (hm : m < cfg.modifierCount) :
    (substConfig cfg core).modifiers.slot m = (core.modifiers.slot m).shadow := by
  have hle : cfg.modifierCount ≤ maxModifiers := ((validateCounts_iff cfg).mp hr.counts).modifiers
  have hslot : (substConfig cfg core).modifiers.slot m =
      substModifier (cfg.modifiers.slot m) (core.modifiers.slot m).shadow :=
    Vector.slot_forSlots_lt _ _ hle hm
  have hinv := h.modifiers m hm
  have hcurve : (cfg.modifiers.slot m).curve.forSlots (cfg.modifiers.slot m).curveCount
      (fun p _ => (core.modifiers.slot m).shadow.curve.slot p) =
      (core.modifiers.slot m).shadow.curve := by
    apply Vector.ext_slot
    intro p hp
    rw [Vector.slot_forSlots]
    split
    · rfl
    · next hge =>
        exact (hinv.tail p (Nat.le_of_not_lt fun hlt => hge ⟨hlt, hp⟩)).symm
  rw [hslot]
  unfold substModifier
  rw [hcurve]
  exact hinv.others.symm

/-- Of a zone the governor's validator reads the PID block and the severities. -/
theorem governorValidate_substZone {ops : Governor} {zc : ZoneCfg} {zr : ZoneRuntime}
    (hc : zc.tripCount ≤ maxTripsPerZone) (hbase : ops.validate cfg zc = .ok ()) :
    ops.validate (substConfig cfg core) (substZone zc zr) = .ok () ↔
      (ops = .pid → gainsInBounds zc.pid zr.shadowPid.kpQ16 zr.shadowPid.kiQ16 zr.shadowPid.kdQ16 = true ∧
        zc.pid.setpointMinMc ≤ zr.shadowPid.setpointMc ∧
          zr.shadowPid.setpointMc ≤ zc.pid.setpointMaxMc) := by
  cases ops with
  | stepWise => exact ⟨fun _ h => by contradiction, fun _ => rfl⟩
  | pid =>
      have hsev : (Loop.any (substZone zc zr).tripCount fun i =>
          ((substZone zc zr).trips.slot i).severity == TripSeverity.critical.code ||
            ((substZone zc zr).trips.slot i).severity == TripSeverity.shutdown.code) =
          Loop.any zc.tripCount fun i =>
            (zc.trips.slot i).severity == TripSeverity.critical.code ||
              (zc.trips.slot i).severity == TripSeverity.shutdown.code := by
        refine Loop.any_congr fun i hi => ?_
        have hslot : (substZone zc zr).trips.slot i = _ := Vector.slot_forSlots_lt _ _ hc hi
        rw [hslot]
        rfl
      unfold Governor.validate governorValidatePid at hbase ⊢
      simp only [bind_eq_ok, failIf_eq_ok, hsev] at hbase ⊢
      unfold gainsInBounds
      simp only [Bool.not_eq_true', Bool.or_eq_false_iff, decide_eq_false_iff_not, forall_const]
      obtain ⟨-, -, -, h4, -, h6, h7, h8, h9⟩ := hbase
      constructor
      · rintro ⟨h1, h2, h3, _, h5, _⟩
        exact ⟨⟨⟨h1, h2⟩, h3⟩, not_or.mp h5 |>.imp Int.not_lt.mp Int.not_lt.mp⟩
      · rintro ⟨⟨⟨h1, h2⟩, h3⟩, h5⟩
        refine ⟨h1, h2, h3, h4, ?_, h6, h7, h8, h9⟩
        exact not_or.mpr (h5.imp Int.not_lt.mpr Int.not_lt.mpr)

/-- The validator on such a zone asks for the rules of tuning. -/
theorem zoneRules_substZone_iff {zc : ZoneCfg} {zr : ZoneRuntime} (hr : ZoneRules cfg zc)
    (hinv : ZoneShadowInv cfg zc zr) :
    ZoneRules (substConfig cfg core) (substZone zc zr) ↔
      ZoneTuning zc zr.shadowPid zr.shadowTrips := by
  have hc := hr.tripCount
  have htrip {t : Nat} (ht : t < zc.tripCount) :
      (substZone zc zr).trips.slot t = zr.shadowTrips.slot t := substZone_trip hinv hc ht
  have hfallback : zoneFallbackReachesSafetyFloor (substZone zc zr) (substZone zc zr).trips =
      zoneFallbackReachesSafetyFloor zc zr.shadowTrips :=
    zoneFallbackReachesSafetyFloor_congr rfl rfl fun i hi => htrip hi
  constructor
  · intro h
    constructor
    · intro hops
      have hbase := hr.governorRules .pid hops
      exact ((governorValidate_substZone hc hbase).mp (h.governorRules .pid hops) rfl).1
    · intro hops
      have hbase := hr.governorRules .pid hops
      exact ((governorValidate_substZone hc hbase).mp (h.governorRules .pid hops) rfl).2
    · intro i hi h0
      have htrips := h.trips i hi
      have hascending := htrips.ascending h0
      have hcold := htrips.cold h0
      rw [htrip hi, htrip (by omega)] at hascending hcold
      exact ⟨hascending, hcold⟩
    · rw [← hfallback]
      exact h.fallback
  · intro h
    refine ⟨hr.sensorCount, hr.actuatorCount, hr.aggregation, hr.governor, hr.sensorIds, hr.actuatorIds,
      hr.weights, hr.tripCount, fun i hi => ?_, ?_, fun ops hops => ?_⟩
    · have hbase := hr.trips i hi
      have hslot : (substZone zc zr).trips.slot i = _ := Vector.slot_forSlots_lt _ _ hc hi
      refine ⟨?_, ?_, fun h0 => ?_, fun h0 => ?_⟩
      · rw [hslot]
        exact hbase.coolingState
      · rw [hslot]
        exact hbase.severity
      · rw [htrip hi, htrip (Nat.lt_of_le_of_lt (Nat.sub_le i 1) hi)]
        exact (h.ascending i hi h0).1
      · rw [htrip hi, htrip (Nat.lt_of_le_of_lt (Nat.sub_le i 1) hi)]
        exact (h.ascending i hi h0).2
    · rw [hfallback]
      exact h.fallback
    · refine (governorValidate_substZone hc (hr.governorRules ops hops)).mpr fun hpid => ?_
      subst hpid
      exact ⟨h.gains hops, h.setpoint hops⟩

/-- The tests on cooling states read no tunable value. -/
theorem validateStatePwmReferences_subst (hr : ConfigRules cfg) :
    validateStatePwmReferences (substConfig cfg core) = validateStatePwmReferences cfg := by
  have hstate {z t : Nat} (hz : z < cfg.zoneCount) (ht : t < (cfg.zones.slot z).tripCount) :
      (((substConfig cfg core).zones.slot z).trips.slot t).coolingState =
        ((cfg.zones.slot z).trips.slot t).coolingState := by
    rw [substConfig_zone hr hz]
    have hslot : (substZone (cfg.zones.slot z) (core.zones.slot z)).trips.slot t = _ :=
      Vector.slot_forSlots_lt _ _ (hr.zone hz).tripCount ht
    rw [hslot]
    rfl
  have hmax (a : Nat) : maxReferencedState (substConfig cfg core) a = maxReferencedState cfg a := by
    unfold maxReferencedState
    refine Loop.fold_congr fun z hz acc => ?_
    have hcount : ((substConfig cfg core).zones.slot z).tripCount = (cfg.zones.slot z).tripCount := by
      rw [substConfig_zone hr hz]
      rfl
    dsimp only
    rw [hcount]
    refine Loop.fold_congr fun t ht acc => ?_
    rw [hstate hz ht, substConfig_zone hr hz]
    rfl
  unfold validateStatePwmReferences
  congr 1
  · refine Check.each_congr fun z hz => ?_
    have hcount : ((substConfig cfg core).zones.slot z).tripCount = (cfg.zones.slot z).tripCount := by
      rw [substConfig_zone hr hz]
      rfl
    dsimp only
    rw [hcount]
    refine Check.each_congr fun t ht => ?_
    rw [hstate hz ht, substConfig_zone hr hz]
    rfl
  · funext _
    refine Check.each_congr fun a _ => ?_
    rw [hmax a]
    rfl

/-- A curve fits the substituted configuration when it fits the copies. -/
theorem curveFits_subst_iff (hr : ConfigRules cfg) (h : ShadowInv cfg core) (m : ModifierCfg) :
    CurveFits (substConfig cfg core) (fun z => ((substConfig cfg core).zones.slot z).trips)
        (fun z => ((substConfig cfg core).zones.slot z).pid.setpointMc) m ↔
      CurveFits cfg (fun z => (core.zones.slot z).shadowTrips)
        (fun z => (core.zones.slot z).shadowPid.setpointMc) m := by
  have hoffset {z : Nat} (hz : z < cfg.zoneCount) (off : Int) :
      OffsetFits ((substConfig cfg core).zones.slot z) ((substConfig cfg core).zones.slot z).trips
          ((substConfig cfg core).zones.slot z).pid.setpointMc off ↔
        OffsetFits (cfg.zones.slot z) (core.zones.slot z).shadowTrips
          (core.zones.slot z).shadowPid.setpointMc off := by
    have htrips : adjustedTripsValid (substZone (cfg.zones.slot z) (core.zones.slot z)).trips
        (cfg.zones.slot z).tripCount off =
        adjustedTripsValid (core.zones.slot z).shadowTrips (cfg.zones.slot z).tripCount off :=
      adjustedTripsValid_congr
        (fun i hi => substZone_trip (h.zones z hz) (hr.zone hz).tripCount hi) off
    rw [substConfig_zone hr hz]
    exact ⟨fun hf => ⟨htrips.symm.trans hf.trips, hf.setpoint⟩,
      fun hf => ⟨htrips.trans hf.trips, hf.setpoint⟩⟩
  have hpoint (pt : CurvePoint) :
      PointFits (substConfig cfg core) (fun z => ((substConfig cfg core).zones.slot z).trips)
          (fun z => ((substConfig cfg core).zones.slot z).pid.setpointMc) m pt ↔
        PointFits cfg (fun z => (core.zones.slot z).shadowTrips)
          (fun z => (core.zones.slot z).shadowPid.setpointMc) m pt := by
    refine and_congr Iff.rfl ?_
    exact imp_congr_right fun _ => forall₂_congr fun z hz => hoffset hz pt.value1
  exact ⟨fun hf => ⟨hf.ascending, fun p hp => (hpoint _).mp (hf.points p hp)⟩,
    fun hf => ⟨hf.ascending, fun p hp => (hpoint _).mpr (hf.points p hp)⟩⟩

/-- **The validator on a substituted configuration** asks what `RuntimeRules` asks
of the core. -/
theorem accepted_substConfig_iff (hr : ConfigRules cfg) (h : ShadowInv cfg core) :
    Accepted (substConfig cfg core) ↔ RuntimeRules cfg core := by
  have hzone {z : Nat} (hz : z < cfg.zoneCount) :
      validateZone (substConfig cfg core) ((substConfig cfg core).zones.slot z) = .ok () ↔
        ZoneTuning (cfg.zones.slot z) (core.zones.slot z).shadowPid (core.zones.slot z).shadowTrips := by
    rw [validateZone_iff, substConfig_zone hr hz]
    exact zoneRules_substZone_iff (hr.zone hz) (h.zones z hz)
  rw [accepted_iff]
  constructor
  · intro hs
    have hmods := (validateModifiers_iff _).mp hs.modifiers
    refine ⟨fun z hz => (hzone hz).mp (hs.zones z hz), fun m hm => ?_⟩
    have hcurve := (hmods m hm).2
    rw [substConfig_modifier hr h hm] at hcurve
    exact (curveFits_subst_iff hr h _).mp hcurve
  · intro hrules
    refine ⟨hr.version, hr.period, hr.periodRelative, hr.counts, hr.oneModifier, hr.runawayWindow,
      hr.sensors, hr.actuators, hr.contexts, fun z hz => (hzone hz).mpr (hrules.zones z hz), ?_,
      hr.faults, ?_, hr.telemetry, hr.fanHealth⟩
    · refine (validateModifiers_iff _).mpr fun m hm => ?_
      have hbase := ((validateModifiers_iff cfg).mp hr.modifiers m hm).1
      rw [substConfig_modifier hr h hm]
      refine ⟨?_, (curveFits_subst_iff hr h _).mpr (hrules.curves m hm)⟩
      rw [(h.modifiers m hm).others]
      exact hbase
    · rw [validateStatePwmReferences_subst hr]
      exact hr.statePwm

end subst

end ThermalCore
