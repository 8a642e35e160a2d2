import ThermalCore.Safety

/-!
# Losing every sensor of a zone

A zone without a valid sensor runs on its fallback temperature.  The validators
hold that temperature against the nominal trips; the governor compares it with
the trips the modifier has shifted.  `failsTowardCooling_iff` is what that comes
to: exactly which losses of all sensors end with the safety trips active.

The offset on the step that loses the sensors is a function of configuration, state and
input.  Where it is zero or lowers the trips, the validators' comparison is the
governor's; where it raises them, the fallback may lie below the safety trip in force.
-/

namespace ThermalCore

open MachineInt Check

/-! ## The modifier on a step -/

/-- The modifier's cap and offset on a step, from the state before it and the
snapshot: its curve at the context value this snapshot leads to.  `none` when
there is no modifier. -/
def modifierResult (cfg : Config) (inp : InputSnapshot) (core : Core) : Option ModifierEvalResult :=
  let m := (core.modifiers.slot 0).shadow
  if cfg.modifierCount = 0 then none
  else
    (findContextSlot cfg m.contextId).map fun c =>
      let cc := cfg.contexts.slot c
      let cr := contextFilterStep cc (inp.find .contextI32 cc.id) inp.nowMs (core.contexts.slot c)
      thermalModifierEval m (effectiveContext cc cr).1

/-- Step 5 leaves the modifier with that result, or cleared without one. -/
theorem slot_senseCore_modifiers {cfg : Config} (hr : ConfigRules cfg) (inp : InputSnapshot)
    (core : Core) :
    (senseCore cfg inp core).modifiers.slot 0 =
      match modifierResult cfg inp core with
      | none => { core.modifiers.slot 0 with active := false, pwmCap := 0, tripOffset := 0 }
      | some r =>
          { core.modifiers.slot 0 with
            pwmCap := r.pwmCap
            tripOffset := r.tripOffsetMc
            active := decide (r.tripOffsetMc ≠ 0) || decide (r.pwmCap < 255) } := by
  have hctx : cfg.contextCount ≤ maxContextSignals := ((validateCounts_iff cfg).mp hr.counts).contexts
  let c4 := step4ContextFilters cfg inp (step3bTach cfg inp (step3SensorFilters cfg inp core))
  have hclear : (clearModifierOutputs c4).modifiers.slot 0 =
      { core.modifiers.slot 0 with active := false, pwmCap := 0, tripOffset := 0 } :=
    Vector.slot_forSlots_lt _ _ (Nat.le_refl _) (by decide)
  have hsense : senseCore cfg inp core = step5ModifierEval cfg c4 := rfl
  rw [hsense]
  unfold modifierResult step5ModifierEval
  by_cases hcount : cfg.modifierCount = 0
  · simp only [hcount, if_true, hclear]
  · simp only [hcount, if_false, hclear]
    cases hc : findContextSlot cfg (core.modifiers.slot 0).shadow.contextId with
    | none => exact hclear
    | some c =>
        obtain ⟨hlt, -⟩ := (findContextSlot_eq_some hr).mp hc
        have hclr : (clearModifierOutputs c4).contexts.slot c =
            { c4.contexts.slot c with failSafeActive := false, effectiveValue := 0 } :=
          Vector.slot_forSlots_lt _ _ (Nat.le_refl _) (Nat.lt_of_lt_of_le hlt hctx)
        have h4 : c4.contexts.slot c = contextFilterStep (cfg.contexts.slot c)
            (inp.find .contextI32 (cfg.contexts.slot c).id) inp.nowMs (core.contexts.slot c) :=
          Vector.slot_forSlots_lt _ _ hctx hlt
        dsimp only
        rw [Vector.slot_edit_self _ _ (by decide), hclear, hclr, h4]
        rfl

/-- The trip offset in force on a step. -/
def modifierOffset (cfg : Config) (inp : InputSnapshot) (core : Core) : Int :=
  match modifierResult cfg inp core with
  | none => 0
  | some r =>
      if (core.modifiers.slot 0).shadow.hasStage .preGovernorTripOffset then r.tripOffsetMc else 0

theorem tripOffsetMc_senseCore {cfg : Config} (hr : ConfigRules cfg) (inp : InputSnapshot)
    (core : Core) : tripOffsetMc cfg (senseCore cfg inp core) = modifierOffset cfg inp core := by
  unfold tripOffsetMc modifierOffset
  rw [slot_senseCore_modifiers hr]
  cases hm : modifierResult cfg inp core with
  | none => simp
  | some r =>
      have hpos : cfg.modifierCount > 0 := by
        by_contra h0
        unfold modifierResult at hm
        simp [show cfg.modifierCount = 0 by omega] at hm
      cases hs : (core.modifiers.slot 0).shadow.hasStage .preGovernorTripOffset with
      | false => simp [hs]
      | true =>
          by_cases hoff : r.tripOffsetMc = 0
          · simp [hs, hoff]
          · simp [hs, hoff, hpos]

/-! ## The temperature of a zone without sensors -/

/-- Every sensor the zone lists is absent from the snapshot or invalid in it. -/
def SensorsLost (inp : InputSnapshot) (zc : ZoneCfg) : Prop :=
  ∀ k < zc.sensorCount, sampleValid (inp.find .tempMc (zc.sensorIds.slot k)) = 0

theorem zoneAggregate_of_sensorsLost {cfg : Config} {cb : Callbacks} {inp : InputSnapshot}
    {core : Core} {z : Nat} (hr : ConfigRules cfg) (hz : z < cfg.zoneCount)
    (hshadow : ShadowInv cfg core) (hlost : SensorsLost inp (cfg.zones.slot z)) :
    zoneAggregate cfg (prepassCore cfg cb inp core) z = ⟨(cfg.zones.slot z).fallbackTempMc, false⟩ := by
  unfold zoneAggregate
  apply thermalZoneAggregate_of_invalid
  intro r hmem
  obtain ⟨k, hk, rfl⟩ := List.mem_map.mp hmem
  have hk' := List.mem_range.mp hk
  have hzones : (prepassCore cfg cb inp core).zones = core.zones := by
    rw [prepassCore_eq, senseCore_core]
  have hfilters : (prepassCore cfg cb inp core).filters = (step3SensorFilters cfg inp core).filters := by
    rw [prepassCore_eq, senseCore_core]
  have hslot := (hshadow.zones z hz).sensorSlots k hk'
  obtain ⟨hs, hid⟩ := (findSensorSlot_eq_some hr).mp hslot
  have hcount : cfg.sensorCount ≤ maxSensors := ((validateCounts_iff cfg).mp hr.counts).sensors
  have hvalid : ((step3SensorFilters cfg inp core).filters.slot
      ((core.zones.slot z).sensorSlots.slot k)).valid = false := by
    unfold step3SensorFilters
    dsimp only
    rw [Vector.slot_forSlots_lt _ _ hcount hs, thermalFilterStep_valid_field, hid, hlost k hk']
    rfl
  rw [hzones, hfilters]
  simp only [hvalid, Bool.false_and]

/-! ## Which trips are then active -/

/-- Every CRITICAL trip is in the mask, and every trip when none is CRITICAL. -/
def FailsTowardCooling (zc : ZoneCfg) (mask : Nat) : Prop :=
  (∀ t < zc.tripCount, (zc.trips.slot t).severity = TripSeverity.critical.code →
    mask.testBit t = true) ∧
  ((∀ t < zc.tripCount, (zc.trips.slot t).severity ≠ TripSeverity.critical.code) →
    ∀ t < zc.tripCount, mask.testBit t = true)

/-- The fallback temperature is not below the shifted trip, or the trip was
active and the temperature is inside its hysteresis. -/
def FallbackHolds (zc : ZoneCfg) (zr : ZoneRuntime) (offset : Int) (t : Nat) : Prop :=
  let trip := (tripsEff zr zc.tripCount offset).slot t
  trip.tempMc ≤ zc.fallbackTempMc ∨
    (zr.activeTripMask.testBit t = true ∧ i32 (trip.tempMc - trip.hystMc) ≤ zc.fallbackTempMc)

instance (zc : ZoneCfg) (zr : ZoneRuntime) (offset : Int) (t : Nat) :
    Decidable (FallbackHolds zc zr offset t) := inferInstanceAs (Decidable (_ ∨ _))

theorem tripActive_iff (temp : Int) (t : TripCfg) (prev : Bool) :
    tripActive temp t prev = true ↔
      t.tempMc ≤ temp ∨ (prev = true ∧ i32 (t.tempMc - t.hystMc) ≤ temp) := by
  unfold tripActive
  split
  · next h => simp [show t.tempMc ≤ temp by omega]
  · next h =>
      split
      · next hc => simp [show ¬t.tempMc ≤ temp by omega, show ¬i32 (t.tempMc - t.hystMc) ≤ temp by omega]
      · next hc => simp [show ¬t.tempMc ≤ temp by omega, show i32 (t.tempMc - t.hystMc) ≤ temp by omega]

/-- **Loss of all sensors, exactly.**  When every sensor of a zone is lost, the
step ends with the zone's safety trips active if and only if the fallback
temperature holds each of them at the offset of this step. -/
theorem failsTowardCooling_iff (cfg : Config) (cb : Callbacks) (core : Core) (inp : InputSnapshot)
    (out : OutputFrame) (z : Nat) (hcfg : Accepted cfg) (hcore : Reachable cfg cb core)
    (hin : (thermalCoreStep cfg cb core inp out).status = .ok) (hz : z < cfg.zoneCount)
    (hlost : SensorsLost inp (cfg.zones.slot z)) :
    let zc := cfg.zones.slot z
    let zr := core.zones.slot z
    FailsTowardCooling zc ((thermalCoreStep cfg cb core inp out).core.zones.slot z).activeTripMask ↔
      (∀ t < zc.tripCount, (zc.trips.slot t).severity = TripSeverity.critical.code →
        FallbackHolds zc zr (modifierOffset cfg inp core) t) ∧
      ((∀ t < zc.tripCount, (zc.trips.slot t).severity ≠ TripSeverity.critical.code) →
        ∀ t < zc.tripCount, FallbackHolds zc zr (modifierOffset cfg inp core) t) := by
  intro zc zr
  have hr := (accepted_iff cfg).mp hcfg
  have hadm := thermalCoreStep_status_iff.mp hin
  obtain ⟨ops, hops⟩ := (hr.zone hz).ops
  have hoffset : tripOffsetMc cfg (prepassCore cfg cb inp core) = modifierOffset cfg inp core := by
    rw [← tripOffsetMc_senseCore hr]
    unfold tripOffsetMc
    rw [prepassCore_eq]
  have hbit (t : Nat) (ht : t < zc.tripCount) :
      ((thermalCoreStep cfg cb core inp out).core.zones.slot z).activeTripMask.testBit t = true ↔
        FallbackHolds zc zr (modifierOffset cfg inp core) t := by
    rw [thermalCoreStep_accepted hadm]
    dsimp only
    rw [slot_passDone_zones hr hz, hoffset,
      zoneAggregate_of_sensorsLost hr hz (reachable_shadowInv hr hcore) hlost]
    unfold zoneStep
    simp only [hops]
    rw [evaluate_mask, tripActive_iff]
    exact and_iff_right ht
  unfold FailsTowardCooling
  constructor
  · intro ⟨hcrit, hnone⟩
    exact ⟨fun t ht hs => (hbit t ht).mp (hcrit t ht hs),
      fun hno t ht => (hbit t ht).mp (hnone hno t ht)⟩
  · intro ⟨hcrit, hnone⟩
    exact ⟨fun t ht hs => (hbit t ht).mpr (hcrit t ht hs),
      fun hno t ht => (hbit t ht).mpr (hnone hno t ht)⟩

/-- The one-fan zone with its fallback at the CRITICAL trip, and a modifier that
raises the trips by 5 °C while the vehicle stands. -/
def maskedFanConfig : Config :=
  { oneFanConfig with
    zones := (default : Vector ZoneCfg maxZones).put 0 { socZone with fallbackTempMc := 70000 }
    contexts := (default : Vector ContextCfg maxContextSignals).put 0
      { (default : ContextCfg) with
        id := 9, unit := ContextUnit.kmh.code, iirAlphaQ16 := q16One, timeoutMs := 5000
        failSafe := ContextFailsafe.assumeStationary.code }
    contextCount := 1
    modifiers := #v[{ (default : ModifierCfg) with
      name := (default : Name).forSlots acousticMask.length fun i _ => acousticMask.getD i 0
      contextId := 9, stages := 3, failSafe := ContextFailsafe.assumeStationary.code
      curve := (default : Vector CurvePoint maxCurvePoints).put 0 ⟨0, 255, 5000⟩ |>.put 1 ⟨100, 255, 0⟩
      curveCount := 2 }, default]
    modifierCount := 1 }

theorem accepted_maskedFanConfig : Accepted maskedFanConfig := by decide +kernel

/-- An empty first snapshot leaves the CRITICAL trip off: the zone runs at its
fallback of 70 °C and the trip at 75 °C. -/
theorem critical_trip_off_without_sensors :
    Accepted maskedFanConfig ∧ SensorsLost (snapshotOf 0 []) (maskedFanConfig.zones.slot 0) ∧
      (thermalCoreStep maskedFanConfig ⟨false, false⟩ (initCore maskedFanConfig) (snapshotOf 0 [])
        default).status = .ok ∧
      ¬FailsTowardCooling (maskedFanConfig.zones.slot 0)
        ((thermalCoreStep maskedFanConfig ⟨false, false⟩ (initCore maskedFanConfig)
          (snapshotOf 0 []) default).core.zones.slot 0).activeTripMask := by
  refine ⟨accepted_maskedFanConfig, fun k _ => rfl, by decide +kernel, fun h => ?_⟩
  have hcritical := h.1 1 (by decide) (by decide)
  revert hcritical
  decide +kernel

/-- The one-fan configuration has no modifier and fails toward cooling. -/
theorem oneFan_failsTowardCooling :
    FailsTowardCooling (oneFanConfig.zones.slot 0)
      ((thermalCoreStep oneFanConfig ⟨false, false⟩ (initCore oneFanConfig) (snapshotOf 0 [])
        default).core.zones.slot 0).activeTripMask :=
  (failsTowardCooling_iff oneFanConfig ⟨false, false⟩ (initCore oneFanConfig) (snapshotOf 0 [])
    default 0 accepted_oneFanConfig .init (by decide +kernel) (by decide) fun _ _ => rfl).mpr
    (by decide +kernel)

end ThermalCore
