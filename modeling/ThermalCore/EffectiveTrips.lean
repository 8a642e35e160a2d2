import ThermalCore.Lib.Interpolation
import ThermalCore.Checked.Parts
import ThermalCore.Fallback
import ThermalCore.IncrementalChecks
import ThermalCore.Typed

/-!
# The trips in force

On a step the governor works on the runtime trips shifted by the modifier's
offset.  Commands and the validator test the shift at the points of the
modifier's curve; the step uses the value in between.  Interpolation stays
between the two points, so the shifted trips stay ordered and the setpoint in its
range, as long as the 32-bit differences of the interpolation do not wrap.

The result is exact: in every state that can be reached, the trips in force are ordered
and in range on a step if and only if the differences of that step's interpolation and
each trip's cold threshold fit in 32 bits.
-/

namespace ThermalCore

open MachineInt Check

/-! ## Evaluation of a curve -/

/-- The neighbouring points a context value lies between, `none` at or beyond an
end of the curve. -/
def curveBracket (curve : Vector CurvePoint n) (count : Nat) (x : Int) :
    Option (CurvePoint × CurvePoint) :=
  if count = 0 ∨ x ≤ (curve.slot 0).x ∨ x ≥ (curve.slot (count - 1)).x then none
  else
    let i := curveSegment curve count x
    some (curve.slot i, curve.slot (i + 1))

/-- The curve over the integers, with nothing wrapped. -/
def curveExact (curve : Vector CurvePoint n) (count : Nat) (x : Int) (y : CurvePoint → Int) : Int :=
  match curveBracket curve count x with
  | some (p0, p1) => interpolate p0.x (y p0) p1.x (y p1) x
  | none =>
      if count = 0 then 0
      else if x ≤ (curve.slot 0).x then y (curve.slot 0)
      else y (curve.slot (count - 1))

section curve

variable {curve : Vector CurvePoint n} {count : Nat} {x : Int}

/-- On an ascending curve the two points are neighbours, and `x` is past the first. -/
theorem curveBracket_past {p0 p1 : CurvePoint}
    (hasc : ∀ k < count, 0 < k → (curve.slot (k - 1)).x < (curve.slot k).x)
    (h : curveBracket curve count x = some (p0, p1)) :
    ∃ i, i + 1 < count ∧ curve.slot i = p0 ∧ curve.slot (i + 1) = p1 ∧
      p0.x < p1.x ∧ p0.x < x ∧ x ≤ p1.x ∧
      x < (curve.slot (count - 1)).x := by
  unfold curveBracket at h
  split at h
  · cases h
  · next hinside =>
      simp only [not_or] at hinside
      obtain ⟨hcount, hlo, hhi⟩ := hinside
      have hseg := Checked.curveSegment_lt (Nat.pos_of_ne_zero hcount) hlo hhi
      simp only [Option.some.injEq, Prod.mk.injEq] at h
      obtain ⟨rfl, rfl⟩ := h
      refine ⟨_, hseg, rfl, rfl, ?_, ?_, ?_, Int.not_le.mp hhi⟩
      · have := hasc _ hseg (Nat.succ_pos _)
        rwa [Nat.add_sub_cancel] at this
      · -- the scan went past the segment before, or this is the first one
        unfold curveSegment at hseg ⊢
        cases hscan : Loop.first count fun i =>
            !(decide (i + 1 < count) && decide (x > (curve.slot (i + 1)).x)) with
        | none => exact Int.not_le.mp hlo
        | some i =>
            rw [hscan] at hseg
            rw [Option.getD_some] at hseg ⊢
            rcases Nat.eq_zero_or_pos i with rfl | hpos
            · exact Int.not_le.mp hlo
            · have hprev := Loop.first_min hscan (show i - 1 < i by omega)
              have hsub : i - 1 + 1 = i := by omega
              have hlt : i < count := by omega
              simp only [hsub, hlt, decide_true, Bool.true_and, Bool.not_eq_false',
                decide_eq_true_eq] at hprev
              exact hprev
      · unfold curveSegment at hseg ⊢
        cases hscan : Loop.first count fun i =>
            !(decide (i + 1 < count) && decide (x > (curve.slot (i + 1)).x)) with
        | none =>
            rw [Loop.first_eq_none] at hscan
            have := hscan (count - 1) (by omega)
            simp [show ¬count - 1 + 1 < count by omega] at this
        | some i =>
            rw [hscan] at hseg
            rw [Option.getD_some] at hseg ⊢
            have hstop := (Loop.first_eq_some hscan).2
            simpa [hseg] using hstop

/-- On an ascending curve the two points are neighbours with `x` between them. -/
theorem curveBracket_spec {p0 p1 : CurvePoint}
    (hasc : ∀ k < count, 0 < k → (curve.slot (k - 1)).x < (curve.slot k).x)
    (h : curveBracket curve count x = some (p0, p1)) :
    ∃ i, i + 1 < count ∧ curve.slot i = p0 ∧ curve.slot (i + 1) = p1 ∧
      p0.x < p1.x ∧ p0.x ≤ x ∧ x ≤ p1.x := by
  obtain ⟨i, hi, h0, h1, hx, hpast, hle, -⟩ := curveBracket_past hasc h
  exact ⟨i, hi, h0, h1, hx, Int.le_of_lt hpast, hle⟩

/-- An evaluation whose operations fit is exact. -/
theorem curveEvalAxis_eq_curveExact (y : CurvePoint → Int)
    (h : ∀ p0 p1, curveBracket curve count x = some (p0, p1) →
      InterpolationFits p0.x (y p0) p1.x (y p1) x) :
    curveEvalAxis curve count x y = curveExact curve count x y := by
  unfold curveExact
  cases hbracket : curveBracket curve count x with
  | none =>
      unfold curveBracket at hbracket
      unfold curveEvalAxis
      grind
  | some pair =>
      obtain ⟨p0, p1⟩ := pair
      have hfits := h p0 p1 hbracket
      unfold curveBracket at hbracket
      split at hbracket
      · cases hbracket
      · next hinside =>
          simp only [not_or] at hinside
          simp only [Option.some.injEq, Prod.mk.injEq] at hbracket
          obtain ⟨rfl, rfl⟩ := hbracket
          unfold curveEvalAxis
          rw [if_neg hinside.1, if_neg hinside.2.1, if_neg hinside.2.2]
          dsimp only
          rw [i32_of_isI32 hfits.run, i32_of_isI32 hfits.rise, i32_of_isI32 hfits.width,
            i32_of_isI32 hfits.quotient]
          exact i32_of_isI32 hfits.sum

/-- The exact value lies in every interval that holds the ordinates of the curve. -/
theorem curveExact_mem (lo hi : Int) {y : CurvePoint → Int} (hcount : 0 < count)
    (hasc : ∀ k < count, 0 < k → (curve.slot (k - 1)).x < (curve.slot k).x)
    (h : ∀ k < count, lo ≤ y (curve.slot k) ∧ y (curve.slot k) ≤ hi) :
    lo ≤ curveExact curve count x y ∧ curveExact curve count x y ≤ hi := by
  unfold curveExact
  cases hbracket : curveBracket curve count x with
  | some pair =>
      obtain ⟨p0, p1⟩ := pair
      obtain ⟨i, hi, rfl, rfl, hx, h0, h1⟩ := curveBracket_spec hasc hbracket
      exact interpolate_mem hx h0 h1 (h i (by omega)) (h (i + 1) hi)
  | none =>
      dsimp only
      rw [if_neg (Nat.ne_of_gt hcount)]
      split
      · exact h 0 hcount
      · exact h (count - 1) (by omega)

end curve

/-! ## The offset in force -/

/-- The context value the modifier is evaluated at on a step, from the state before
it and the snapshot.  `none` when there is no modifier. -/
def modifierContext (cfg : Config) (inp : InputSnapshot) (core : Core) : Option Int :=
  if cfg.modifierCount = 0 then none
  else
    (findContextSlot cfg (core.modifiers.slot 0).shadow.contextId).map fun c =>
      let cc := cfg.contexts.slot c
      let cr := contextFilterStep cc (inp.find .contextI32 cc.id) inp.nowMs (core.contexts.slot c)
      (effectiveContext cc cr).1

theorem modifierResult_eq (cfg : Config) (inp : InputSnapshot) (core : Core) :
    modifierResult cfg inp core =
      (modifierContext cfg inp core).map (thermalModifierEval (core.modifiers.slot 0).shadow) := by
  unfold modifierResult modifierContext
  dsimp only
  split
  · rfl
  · rw [Option.map_map]
    rfl

/-- The offset of a step over the integers, 0 without the trip-offset stage. -/
def exactOffset (cfg : Config) (inp : InputSnapshot) (core : Core) : Int :=
  let m := (core.modifiers.slot 0).shadow
  match modifierContext cfg inp core with
  | none => 0
  | some x =>
      if m.hasStage .preGovernorTripOffset then curveExact m.curve m.curveCount x CurvePoint.value1
      else 0

/-- Every operation of the two evaluations of a step in its C type. -/
def ModifierEvalFits (cfg : Config) (inp : InputSnapshot) (core : Core) : Prop :=
  let m := (core.modifiers.slot 0).shadow
  ∀ x p0 p1, modifierContext cfg inp core = some x →
    curveBracket m.curve m.curveCount x = some (p0, p1) →
    InterpolationFits p0.x p0.value0 p1.x p1.value0 x ∧
      InterpolationFits p0.x p0.value1 p1.x p1.value1 x

instance (cfg : Config) (inp : InputSnapshot) (core : Core) :
    Decidable (ModifierEvalFits cfg inp core) :=
  let m := (core.modifiers.slot 0).shadow
  decidable_of_iff
    (∀ x ∈ modifierContext cfg inp core, ∀ p ∈ curveBracket m.curve m.curveCount x,
      InterpolationFits p.1.x p.1.value0 p.2.x p.2.value0 x ∧
        InterpolationFits p.1.x p.1.value1 p.2.x p.2.value1 x)
    ⟨fun h x p0 p1 hctx hbracket => h x hctx (p0, p1) hbracket,
      fun h x hctx p hbracket => h x p.1 p.2 hctx hbracket⟩

/-- The context value lies at or beyond an end of the curve, or between two points
whose distance and whose difference in offset are values of `int32_t`. -/
def BracketFits (cfg : Config) (inp : InputSnapshot) (core : Core) : Prop :=
  let m := (core.modifiers.slot 0).shadow
  ∀ x p0 p1, modifierContext cfg inp core = some x →
    curveBracket m.curve m.curveCount x = some (p0, p1) →
    IsI32 (p1.x - p0.x) ∧ IsI32 (p1.value1 - p0.value1)

section offset

variable {cfg : Config} {inp : InputSnapshot} {core : Core}

/-- A context value comes with a modifier. -/
theorem modifierCount_pos {x : Int} (h : modifierContext cfg inp core = some x) :
    0 < cfg.modifierCount := by
  unfold modifierContext at h
  grind

theorem modifierOffset_eq_exactOffset (h : ModifierEvalFits cfg inp core) :
    modifierOffset cfg inp core = exactOffset cfg inp core := by
  unfold modifierOffset exactOffset
  rw [modifierResult_eq]
  cases hctx : modifierContext cfg inp core with
  | none => rfl
  | some x =>
      have hexact := curveEvalAxis_eq_curveExact CurvePoint.value1
        fun p0 p1 hbracket => (h x p0 p1 hctx hbracket).2
      show (if _ then thermalCurveEvalY1 _ _ x else 0) = _
      unfold thermalCurveEvalY1
      rw [hexact]

/-- Differences that fit are enough for the two evaluations. -/
theorem modifierEvalFits_iff (hrules : RuntimeRules cfg core)
    (hpoints : ∀ m < cfg.modifierCount, ∀ k < (core.modifiers.slot m).shadow.curveCount,
      ((core.modifiers.slot m).shadow.curve.slot k).Typed) :
    ModifierEvalFits cfg inp core ↔ BracketFits cfg inp core := by
  unfold ModifierEvalFits BracketFits
  dsimp only
  refine forall₃_congr fun x p0 p1 => forall₂_congr fun hctx hbracket => ?_
  have hm := modifierCount_pos hctx
  have hcurve := hrules.curves 0 hm
  obtain ⟨i, hi, rfl, rfl, hx, h0, h1⟩ := curveBracket_spec hcurve.ascending hbracket
  have ht0 := hpoints 0 hm i (by omega)
  have ht1 := hpoints 0 hm (i + 1) hi
  have hcap0 := (hcurve.points i (by omega)).1.1
  have hcap1 := (hcurve.points (i + 1) hi).1.1
  rw [interpolationFits_iff hx h0 h1 ht0.value0 ht1.value0,
    interpolationFits_iff hx h0 h1 ht0.value1 ht1.value1]
  have hrise : IsI32 (((core.modifiers.slot 0).shadow.curve.slot (i + 1)).value0 -
      ((core.modifiers.slot 0).shadow.curve.slot i).value0) := by
    unfold IsI32 i32Min i32Max
    omega
  tauto

end offset

/-! ## What one offset does to a zone -/

theorem adjustedTripsValid_iff (trips : Vector TripCfg n) (tripCount : Nat) (off : Int) :
    adjustedTripsValid trips tripCount off = true ↔
      ∀ t < tripCount, IsI32 ((trips.slot t).tempMc + off) ∧
        (0 < t → (trips.slot (t - 1)).tempMc < (trips.slot t).tempMc ∧
          (trips.slot (t - 1)).tempMc ≤ (trips.slot t).tempMc - (trips.slot t).hystMc) := by
  unfold adjustedTripsValid
  rw [Bool.not_eq_true', Loop.any_eq_false_iff]
  refine forall₂_congr fun t _ => ?_
  unfold IsI32
  simp only [Bool.or_eq_false_iff, Bool.and_eq_false_iff, decide_eq_false_iff_not]
  omega

/-- The tests pass for an offset between offsets for which they pass. -/
theorem offsetFits_curveExact {cfg : Config} {core : Core} (hrules : RuntimeRules cfg core)
    (hm : 0 < cfg.modifierCount) (hcount : 0 < (core.modifiers.slot 0).shadow.curveCount)
    (hstage : (core.modifiers.slot 0).shadow.hasStage .preGovernorTripOffset = true) {z : Nat}
    (hz : z < cfg.zoneCount) (x : Int) :
    OffsetFits (cfg.zones.slot z) (core.zones.slot z).shadowTrips
      (core.zones.slot z).shadowPid.setpointMc
      (curveExact (core.modifiers.slot 0).shadow.curve (core.modifiers.slot 0).shadow.curveCount x
        CurvePoint.value1) := by
  have hcurve := hrules.curves 0 hm
  have hfits (k : Nat) (hk : k < (core.modifiers.slot 0).shadow.curveCount) :
      OffsetFits (cfg.zones.slot z) (core.zones.slot z).shadowTrips
        (core.zones.slot z).shadowPid.setpointMc
        ((core.modifiers.slot 0).shadow.curve.slot k).value1 :=
    (hcurve.points k hk).2 hstage z hz
  constructor
  · rw [adjustedTripsValid_iff]
    intro t ht
    have hordered := ((adjustedTripsValid_iff _ _ _).mp (hfits 0 hcount).trips t ht).2
    refine ⟨?_, hordered⟩
    have hmem := curveExact_mem (x := x) (y := CurvePoint.value1)
      (i32Min - ((core.zones.slot z).shadowTrips.slot t).tempMc)
      (i32Max - ((core.zones.slot z).shadowTrips.slot t).tempMc) hcount hcurve.ascending
      fun k hk => by
        have hshift := ((adjustedTripsValid_iff _ _ _).mp (hfits k hk).trips t ht).1
        unfold IsI32 at hshift
        omega
    unfold IsI32
    omega
  · intro hpid
    have hmem := curveExact_mem (x := x) (y := CurvePoint.value1)
      ((cfg.zones.slot z).pid.setpointMinMc - (core.zones.slot z).shadowPid.setpointMc)
      ((cfg.zones.slot z).pid.setpointMaxMc - (core.zones.slot z).shadowPid.setpointMc)
      hcount hcurve.ascending fun k hk => by
        have := (hfits k hk).setpoint hpid
        omega
    omega

/-! ## What the governor gets -/

/-- The trip list step 6 hands to the governor of a zone. -/
def handedTrips (cfg : Config) (inp : InputSnapshot) (core : Core) (z : Nat) :
    Vector TripCfg maxTripsPerZone :=
  tripsEff (core.zones.slot z) (cfg.zones.slot z).tripCount (tripOffsetMc cfg (senseCore cfg inp core))

/-- The trips and the setpoint of a zone on a step: ordered, in range, and
computed without leaving a C type.  `after` is the zone's record after the step. -/
structure EffectiveTripsOk (cfg : Config) (inp : InputSnapshot) (core : Core) (z : Nat)
    (after : ZoneRuntime) : Prop where
  handed : after.activeTripMask =
    (thermalGovernorStepWise after.tempMc (handedTrips cfg inp core z) (cfg.zones.slot z).tripCount
      (core.zones.slot z).activeTripMask).activeTripMask
  shift : tripOffsetMc cfg (senseCore cfg inp core) ≠ 0 → ∀ t < (cfg.zones.slot z).tripCount,
    IsI32 (((core.zones.slot z).shadowTrips.slot t).tempMc + tripOffsetMc cfg (senseCore cfg inp core))
  ascending : ∀ t < (cfg.zones.slot z).tripCount, 0 < t →
    ((handedTrips cfg inp core z).slot (t - 1)).tempMc < ((handedTrips cfg inp core z).slot t).tempMc
  cold : ∀ t < (cfg.zones.slot z).tripCount, 0 < t →
    ((handedTrips cfg inp core z).slot (t - 1)).tempMc ≤
      ((handedTrips cfg inp core z).slot t).tempMc - ((handedTrips cfg inp core z).slot t).hystMc
  difference : ∀ t < (cfg.zones.slot z).tripCount,
    IsI32 (((handedTrips cfg inp core z).slot t).tempMc - ((handedTrips cfg inp core z).slot t).hystMc)
  setpoint : governorOpsFor (cfg.zones.slot z).governor = some .pid →
    IsI32 ((core.zones.slot z).shadowPid.setpointMc + tripOffsetMc cfg (senseCore cfg inp core)) ∧
      (cfg.zones.slot z).pid.setpointMinMc ≤ after.effectiveSetpointMc ∧
      after.effectiveSetpointMc ≤ (cfg.zones.slot z).pid.setpointMaxMc

section step

variable {cfg : Config} {cb : Callbacks} {inp : InputSnapshot} {core : Core} {z : Nat}

theorem tripOffsetMc_prepassCore :
    tripOffsetMc cfg (prepassCore cfg cb inp core) = tripOffsetMc cfg (senseCore cfg inp core) := by
  rw [prepassCore_eq]
  rfl

/-- Both governors run the step-wise one on the list. -/
theorem passDone_activeTripMask (hr : ConfigRules cfg) (hz : z < cfg.zoneCount) :
    ((passDone cfg cb inp core).core.zones.slot z).activeTripMask =
      (thermalGovernorStepWise ((passDone cfg cb inp core).core.zones.slot z).tempMc
        (handedTrips cfg inp core z) (cfg.zones.slot z).tripCount
        (core.zones.slot z).activeTripMask).activeTripMask := by
  obtain ⟨ops, hops⟩ := (hr.zone hz).ops
  rw [slot_passDone_zones hr hz, tripOffsetMc_prepassCore]
  unfold zoneStep
  rw [hops]
  cases ops <;> rfl

theorem passDone_effectiveSetpoint (hr : ConfigRules cfg) (hz : z < cfg.zoneCount)
    (hpid : governorOpsFor (cfg.zones.slot z).governor = some .pid) :
    ((passDone cfg cb inp core).core.zones.slot z).effectiveSetpointMc =
      i32 ((core.zones.slot z).shadowPid.setpointMc + tripOffsetMc cfg (senseCore cfg inp core)) := by
  rw [slot_passDone_zones hr hz, tripOffsetMc_prepassCore]
  unfold zoneStep
  rw [hpid]
  rfl

/-- A shift that does not wrap adds the offset to each temperature. -/
theorem slot_handedTrips (hcount : (cfg.zones.slot z).tripCount ≤ maxTripsPerZone)
    (hshift : tripOffsetMc cfg (senseCore cfg inp core) ≠ 0 → ∀ t < (cfg.zones.slot z).tripCount,
      IsI32 (((core.zones.slot z).shadowTrips.slot t).tempMc +
        tripOffsetMc cfg (senseCore cfg inp core)))
    {t : Nat} (ht : t < (cfg.zones.slot z).tripCount) :
    (handedTrips cfg inp core z).slot t =
      { (core.zones.slot z).shadowTrips.slot t with
        tempMc := ((core.zones.slot z).shadowTrips.slot t).tempMc +
          tripOffsetMc cfg (senseCore cfg inp core) } := by
  unfold handedTrips tripsEff
  split
  · next hoff =>
      rw [Vector.slot_forSlots_lt _ _ hcount ht, i32_of_isI32 (hshift hoff t ht)]
  · next hoff => rw [not_not.mp hoff, Int.add_zero]

/-- The exact offset is none, or passes the tests of the points. -/
theorem offsetFits_exactOffset (hr : ConfigRules cfg) (hshadow : ShadowInv cfg core)
    (hrules : RuntimeRules cfg core) (hz : z < cfg.zoneCount) :
    exactOffset cfg inp core = 0 ∨ OffsetFits (cfg.zones.slot z) (core.zones.slot z).shadowTrips
      (core.zones.slot z).shadowPid.setpointMc (exactOffset cfg inp core) := by
  unfold exactOffset
  cases hctx : modifierContext cfg inp core with
  | none => exact Or.inl rfl
  | some x =>
      dsimp only
      split
      · next hstage =>
          have hm := modifierCount_pos hctx
          have hpos : 0 < (core.modifiers.slot 0).shadow.curveCount := by
            rw [(hshadow.modifiers 0 hm).others]
            have := ((validateModifiers_iff cfg).mp hr.modifiers 0 hm).1.2.2.1.1
            dsimp only
            omega
          exact Or.inr (offsetFits_curveExact hrules hm hpos hstage hz x)
      · exact Or.inl rfl

/-- So the shift by it does not wrap. -/
theorem shift_fits (hr : ConfigRules cfg) (hshadow : ShadowInv cfg core) (hrules : RuntimeRules cfg core)
    (hz : z < cfg.zoneCount)
    (hexact : tripOffsetMc cfg (senseCore cfg inp core) = exactOffset cfg inp core) :
    tripOffsetMc cfg (senseCore cfg inp core) ≠ 0 → ∀ t < (cfg.zones.slot z).tripCount,
      IsI32 (((core.zones.slot z).shadowTrips.slot t).tempMc +
        tripOffsetMc cfg (senseCore cfg inp core)) := by
  rw [hexact]
  intro hoff t ht
  have hfits := (@offsetFits_exactOffset cfg inp core z hr hshadow hrules hz).resolve_left hoff
  exact ((adjustedTripsValid_iff _ _ _).mp hfits.trips t ht).1

/-- **One zone**, given that the offset is computed exactly. -/
theorem effectiveTripsOk_iff (hr : ConfigRules cfg) (htyped : cfg.Typed)
    (hshadow : ShadowInv cfg core) (hrules : RuntimeRules cfg core) (hz : z < cfg.zoneCount)
    (hexact : tripOffsetMc cfg (senseCore cfg inp core) = exactOffset cfg inp core) :
    EffectiveTripsOk cfg inp core z ((passDone cfg cb inp core).core.zones.slot z) ↔
      ∀ t < (cfg.zones.slot z).tripCount, IsI32 (((core.zones.slot z).shadowTrips.slot t).tempMc +
        exactOffset cfg inp core - ((core.zones.slot z).shadowTrips.slot t).hystMc) := by
  have hcount := (hr.zone hz).tripCount
  constructor
  · intro h t ht
    have hdiff := h.difference t ht
    rw [slot_handedTrips hcount h.shift ht] at hdiff
    rw [← hexact]
    exact hdiff
  · intro hcold
    have hzone := hrules.zones z hz
    have hfits := @offsetFits_exactOffset cfg inp core z hr hshadow hrules hz
    have hshift := @shift_fits cfg inp core z hr hshadow hrules hz hexact
    have hslot {t : Nat} (ht : t < (cfg.zones.slot z).tripCount) :
        (handedTrips cfg inp core z).slot t = _ := slot_handedTrips hcount hshift ht
    refine ⟨passDone_activeTripMask hr hz, hshift, ?_, ?_, ?_, ?_⟩
    · intro t ht h0
      have := (hzone.ascending t ht h0).1
      rw [hslot ht, hslot (show t - 1 < _ by omega)]
      dsimp only
      omega
    · intro t ht h0
      have := (hzone.ascending t ht h0).2
      rw [hslot ht, hslot (show t - 1 < _ by omega)]
      dsimp only
      omega
    · intro t ht
      rw [hslot ht, hexact]
      exact hcold t ht
    · intro hpid
      have hbounds := (htyped.zones z (Nat.lt_of_lt_of_le hz hr.zoneCount_le)).pid
      have hmin := hbounds.setpointMinMc
      have hmax := hbounds.setpointMaxMc
      have hrange : (cfg.zones.slot z).pid.setpointMinMc ≤
            (core.zones.slot z).shadowPid.setpointMc + tripOffsetMc cfg (senseCore cfg inp core) ∧
          (core.zones.slot z).shadowPid.setpointMc + tripOffsetMc cfg (senseCore cfg inp core) ≤
            (cfg.zones.slot z).pid.setpointMaxMc := by
        rw [hexact]
        rcases hfits with h0 | hfit
        · rw [h0, Int.add_zero]
          exact hzone.setpoint hpid
        · exact hfit.setpoint hpid
      have hfit : IsI32 ((core.zones.slot z).shadowPid.setpointMc +
          tripOffsetMc cfg (senseCore cfg inp core)) := by
        unfold IsI32 at hmin hmax ⊢
        omega
      rw [passDone_effectiveSetpoint hr hz hpid, i32_of_isI32 hfit]
      exact ⟨hfit, hrange⟩

end step

/-! ## Curve points of `int32_t` along a run -/

/-- The new curve point of a command holds values of `int32_t`. -/
def Input.PointTyped : Input → Prop
  | .command _ (.setCurvePoint _ _ x value0 value1) => (⟨x, value0, value1⟩ : CurvePoint).Typed
  | _ => True

/-- The points in use of the runtime curves hold values of `int32_t`. -/
def CurvesTyped (cfg : Config) (core : Core) : Prop :=
  ∀ m < cfg.modifierCount, ∀ k < (core.modifiers.slot m).shadow.curveCount,
    ((core.modifiers.slot m).shadow.curve.slot k).Typed

theorem call_curvesTyped {cfg : Config} (cb : Callbacks) {core : Core} (i : Input)
    (hi : i.PointTyped) (h : CurvesTyped cfg core) : CurvesTyped cfg (call cfg cb core i).1 := by
  cases i with
  | step inp out =>
      by_cases hin : Admissible cfg inp
      · rw [call_step_accepted hin]
        intro m hm
        dsimp only
        rw [passDone_modifiers, senseCore_shadow]
        exact h m hm
      · obtain ⟨e, -, hrej⟩ := call_step_rejected cb core hin out
        rw [hrej]
        exact h
  | command nowMs cmd =>
      rw [call_command_core]
      obtain ⟨-, hrej⟩ | ⟨-, hw⟩ := runCommand_cases cfg core cmd
      · rw [hrej]
        exact h
      · generalize (runCommand cfg core cmd).2 = core' at hw
        cases hw with
        | setPid | setSetpoint | setTrip | clearNothing | clearStall | clearStuckSensor
        | clearRunaway | clearStaleContext => exact h
        | setCurvePoint m p x v0 v1 =>
            intro j hj k
            dsimp only
            rw [Vector.slot_edit]
            split
            · next hmj =>
                obtain ⟨rfl, -⟩ := hmj
                intro hk
                unfold ModifierCfg.withPoint
                dsimp only
                rw [Vector.slot_put]
                split
                · exact hi
                · exact h m hj k hk
            · exact h j hj k

theorem initCore_curvesTyped {cfg : Config} (hr : ConfigRules cfg) (htyped : cfg.Typed) :
    CurvesTyped cfg (initCore cfg) := by
  intro m hm k hk
  have hcount : cfg.modifierCount ≤ maxModifiers := ((validateCounts_iff cfg).mp hr.counts).modifiers
  have hslot : (initCore cfg).modifiers.slot m = _ := Vector.slot_forSlots_lt _ _ hcount hm
  rw [hslot] at hk ⊢
  have hpoints := ((validateModifiers_iff cfg).mp hr.modifiers m hm).1.2.2.1.2
  exact (htyped.modifiers m (Nat.lt_of_lt_of_le hm hcount)).curve k (Nat.lt_of_lt_of_le hk hpoints)

/-! ## Main result -/

/-- **The trips in force are ordered and in range exactly when** the differences of
the interpolation fit in 32 bits and so does every trip's cold threshold at the
exact offset. -/
theorem effective_trips_iff (cfg : Config) (cb : Callbacks) (hcfg : Accepted cfg)
    (htyped : cfg.Typed) (calls : List Input) (hcalls : ∀ i ∈ calls, i.PointTyped)
    (inp : InputSnapshot) (out : OutputFrame) (hin : Admissible cfg inp) :
    let core := Machine.after (call cfg cb) (initCore cfg) calls
    let after := (thermalCoreStep cfg cb core inp out).core
    (ModifierEvalFits cfg inp core ∧
        ∀ z < cfg.zoneCount, EffectiveTripsOk cfg inp core z (after.zones.slot z)) ↔
      BracketFits cfg inp core ∧
        ∀ z < cfg.zoneCount, ∀ t < (cfg.zones.slot z).tripCount,
          let trip := (core.zones.slot z).shadowTrips.slot t
          IsI32 (trip.tempMc + exactOffset cfg inp core - trip.hystMc) := by
  intro core after
  have hr : ConfigRules cfg := (accepted_iff cfg).mp hcfg
  have hreach : Reachable cfg cb core := ⟨calls, rfl⟩
  have hshadow := reachable_shadowInv hr hreach
  have hrules := reachable_runtimeRules hr hreach
  have hpoints : CurvesTyped cfg core :=
    Machine.after_invariant_of (fun _ i hi h => call_curvesTyped cb i hi h)
      (initCore_curvesTyped hr htyped) hcalls
  have hafter : after = (passDone cfg cb inp core).core := by
    show (thermalCoreStep cfg cb core inp out).core = _
    rw [thermalCoreStep_accepted hin]
  rw [hafter, modifierEvalFits_iff hrules hpoints]
  apply and_congr_right
  intro hbracket
  have hexact : tripOffsetMc cfg (senseCore cfg inp core) = exactOffset cfg inp core := by
    rw [tripOffsetMc_senseCore hr]
    exact modifierOffset_eq_exactOffset ((modifierEvalFits_iff hrules hpoints).mpr hbracket)
  exact forall₂_congr fun z hz => effectiveTripsOk_iff hr htyped hshadow hrules hz hexact

/-- A sensor sample and a sample of the context. -/
def drivingSnapshot (tempMc speed : Int) : InputSnapshot :=
  snapshotOf 100 [⟨1, SampleKind.tempMc.code, 1, tempMc⟩, ⟨9, SampleKind.contextI32.code, 1, speed⟩]

/-- Half way down its curve the modifier of `maskedFanConfig` raises the trips by
2.5 °C, one of them moved by a command before. -/
theorem effective_trips_maskedFan :
    let core := Machine.after (call maskedFanConfig ⟨false, false⟩) (initCore maskedFanConfig)
      [.command 50 (.setTrip 0 0 45000 1000)]
    let after := (thermalCoreStep maskedFanConfig ⟨false, false⟩ core (drivingSnapshot 60000 50)
      default).core
    EffectiveTripsOk maskedFanConfig (drivingSnapshot 60000 50) core 0 (after.zones.slot 0) := by
  refine ((effective_trips_iff maskedFanConfig ⟨false, false⟩ accepted_maskedFanConfig
    (by decide +kernel) [.command 50 (.setTrip 0 0 45000 1000)] (by simp [Input.PointTyped])
    (drivingSnapshot 60000 50) default
    (thermalCoreStep_status_iff.mp (by decide +kernel :
      (thermalCoreStep maskedFanConfig ⟨false, false⟩ (initCore maskedFanConfig)
        (drivingSnapshot 60000 50) default).status = .ok))).mpr ⟨?_, ?_⟩).2 0 (by decide)
  · intro x p0 p1 hctx hbracket
    have hx : modifierContext maskedFanConfig (drivingSnapshot 60000 50)
        (Machine.after (call maskedFanConfig ⟨false, false⟩) (initCore maskedFanConfig)
          [.command 50 (.setTrip 0 0 45000 1000)]) = some 50 := by decide +kernel
    rw [hx, Option.some.injEq] at hctx
    subst hctx
    have hpair : curveBracket
        ((Machine.after (call maskedFanConfig ⟨false, false⟩) (initCore maskedFanConfig)
          [.command 50 (.setTrip 0 0 45000 1000)]).modifiers.slot 0).shadow.curve
        ((Machine.after (call maskedFanConfig ⟨false, false⟩) (initCore maskedFanConfig)
          [.command 50 (.setTrip 0 0 45000 1000)]).modifiers.slot 0).shadow.curveCount 50 =
        some (⟨0, 255, 5000⟩, ⟨100, 255, 0⟩) := by decide +kernel
    rw [hpair, Option.some.injEq, Prod.mk.injEq] at hbracket
    obtain ⟨rfl, rfl⟩ := hbracket
    decide
  · decide +kernel

/-- A lowest trip close to the least `int32_t`, and a modifier whose two points are
4 · 10⁹ apart. -/
def wideCurveConfig : Config :=
  { maskedFanConfig with
    zones := (default : Vector ZoneCfg maxZones).put 0
      { socZone with trips := socZone.trips.put 0 ⟨-2147480000, 0, TripSeverity.warn.code, 1⟩ }
    modifiers := maskedFanConfig.modifiers.edit 0 fun m =>
      { m with
        curve := m.curve.put 0 ⟨-2000000000, 255, 0⟩ |>.put 1 ⟨2000000000, 255, 1000⟩ } }

/-- **The difference of two abscissas wraps**: at context 0 the offset is -6.78 °C
where the points say 0 to 1 °C, and the lowest trip wraps above the others. -/
theorem wide_curve_trips_unordered :
    let core := initCore wideCurveConfig
    let after := (thermalCoreStep wideCurveConfig ⟨false, false⟩ core (drivingSnapshot 60000 0)
      default).core
    Accepted wideCurveConfig ∧ wideCurveConfig.Typed ∧
      (thermalCoreStep wideCurveConfig ⟨false, false⟩ core (drivingSnapshot 60000 0)
        default).status = .ok ∧
      tripOffsetMc wideCurveConfig (senseCore wideCurveConfig (drivingSnapshot 60000 0) core) = -6780 ∧
      ((handedTrips wideCurveConfig (drivingSnapshot 60000 0) core 0).slot 0).tempMc = 2147480516 ∧
      ((handedTrips wideCurveConfig (drivingSnapshot 60000 0) core 0).slot 1).tempMc = 63220 ∧
      ¬EffectiveTripsOk wideCurveConfig (drivingSnapshot 60000 0) core 0 (after.zones.slot 0) := by
  refine ⟨by decide +kernel, by decide +kernel, by decide +kernel, by decide +kernel,
    by decide +kernel, by decide +kernel, fun h => ?_⟩
  have hascending := h.ascending 1 (by decide) (by decide)
  revert hascending
  decide +kernel

end ThermalCore
