import ThermalCore.EffectiveTrips

/-!
# The shape of a curve

`curve_eval_axis` over a whole curve: it is the piecewise linear function through
the points, with the values, the bounds and the direction of its points, as far as
the 32-bit differences of neighbouring points do not wrap.

The difference of two neighbouring ordinates is taken in `int32_t` before it is widened.
Where one does not fit, the curve takes values outside its points.
-/

namespace ThermalCore

open MachineInt

/-- What the validator asks of a modifier's curve, its fields in their C types. -/
structure CurveAdmitted (curve : Vector CurvePoint maxCurvePoints) (count : Nat) : Prop where
  two_le : 2 ≤ count
  le_max : count ≤ maxCurvePoints
  ascending : ∀ k < count, 0 < k → (curve.slot (k - 1)).x < (curve.slot k).x
  points : ∀ k < count, (curve.slot k).Typed

theorem curveAdmitted_of_accepted {cfg : Config} (hr : Accepted cfg) (ht : cfg.Typed) {m : Nat}
    (hm : m < cfg.modifierCount) :
    CurveAdmitted (cfg.modifiers.slot m).curve (cfg.modifiers.slot m).curveCount := by
  have hrules := (accepted_iff cfg).mp hr
  obtain ⟨⟨-, -, ⟨htwo, hmax⟩, -⟩, hcurve⟩ := (validateModifiers_iff cfg).mp hrules.modifiers m hm
  have hcount := ((validateCounts_iff cfg).mp hrules.counts).modifiers
  exact ⟨htwo, hmax, hcurve.ascending,
    fun k hk => (ht.modifiers m (Nat.lt_of_lt_of_le hm hcount)).curve k (Nat.lt_of_lt_of_le hk hmax)⟩

/-- Every pair of neighbours a context value can fall between is a value of `int32_t`
apart, on the axis as well.  Nothing falls between the last two where they are
adjacent: the clamp takes both. -/
def SegmentsFit (curve : Vector CurvePoint maxCurvePoints) (count : Nat) (y : CurvePoint → Int) :
    Prop :=
  ∀ i, i + 1 < count →
    i + 2 < count ∨ 2 ≤ (curve.slot (i + 1)).x - (curve.slot i).x →
    IsI32 ((curve.slot (i + 1)).x - (curve.slot i).x) ∧
      IsI32 (y (curve.slot (i + 1)) - y (curve.slot i))

/-- The evaluation is the piecewise linear interpolation of the points, and computes
it without leaving a C type. -/
structure CurveCorrect (curve : Vector CurvePoint maxCurvePoints) (count : Nat)
    (y : CurvePoint → Int) : Prop where
  below : ∀ x, x < (curve.slot 0).x → curveEvalAxis curve count x y = y (curve.slot 0)
  above : ∀ x, (curve.slot (count - 1)).x < x →
    curveEvalAxis curve count x y = y (curve.slot (count - 1))
  atPoint : ∀ k < count, curveEvalAxis curve count (curve.slot k).x y = y (curve.slot k)
  between : ∀ i, i + 1 < count → ∀ x, (curve.slot i).x ≤ x → x ≤ (curve.slot (i + 1)).x →
    min (y (curve.slot i)) (y (curve.slot (i + 1))) ≤ curveEvalAxis curve count x y ∧
      curveEvalAxis curve count x y ≤ max (y (curve.slot i)) (y (curve.slot (i + 1)))
  rising : (∀ i, i + 1 < count → y (curve.slot i) ≤ y (curve.slot (i + 1))) →
    ∀ x x', x ≤ x' → curveEvalAxis curve count x y ≤ curveEvalAxis curve count x' y
  falling : (∀ i, i + 1 < count → y (curve.slot (i + 1)) ≤ y (curve.slot i)) →
    ∀ x x', x ≤ x' → curveEvalAxis curve count x' y ≤ curveEvalAxis curve count x y
  fits : ∀ x p0 p1, curveBracket curve count x = some (p0, p1) →
    InterpolationFits p0.x (y p0) p1.x (y p1) x

section curve

variable {curve : Vector CurvePoint maxCurvePoints} {count : Nat} {y : CurvePoint → Int}

theorem CurveAdmitted.step (h : CurveAdmitted curve count) (i : Nat) (hi : i + 1 < count) :
    (curve.slot i).x < (curve.slot (i + 1)).x :=
  h.ascending (i + 1) hi (Nat.succ_pos i)

/-- Points in order have abscissas in order. -/
theorem CurveAdmitted.le_of_le (h : CurveAdmitted curve count) {j k : Nat} (hjk : j ≤ k)
    (hk : k < count) : (curve.slot j).x ≤ (curve.slot k).x :=
  @le_of_neighbours (fun i => (curve.slot i).x) count (fun i hi => Int.le_of_lt (h.step i hi)) j k
    hjk hk

/-- Points apart have abscissas apart. -/
theorem CurveAdmitted.lt_of_lt (h : CurveAdmitted curve count) {j k : Nat} (hjk : j < k)
    (hk : k < count) : (curve.slot j).x < (curve.slot k).x :=
  Int.lt_of_lt_of_le (h.step j (by omega)) (h.le_of_le hjk hk)

/-- Beyond an end the exact curve is constant. -/
theorem curveExact_below (h : CurveAdmitted curve count) {x : Int} (hx : x ≤ (curve.slot 0).x) :
    curveExact curve count x y = y (curve.slot 0) := by
  have hpos := h.two_le
  have hbracket : curveBracket curve count x = none := if_pos (.inr (.inl hx))
  rw [curveExact, hbracket]
  dsimp only
  rw [if_neg (by omega), if_pos hx]

theorem curveExact_above (h : CurveAdmitted curve count) {x : Int}
    (hx : (curve.slot (count - 1)).x ≤ x) :
    curveExact curve count x y = y (curve.slot (count - 1)) := by
  have hpos := h.two_le
  have hends := @CurveAdmitted.lt_of_lt _ _ h 0 (count - 1) (by omega) (by omega)
  have hbracket : curveBracket curve count x = none := if_pos (.inr (.inr hx))
  rw [curveExact, hbracket]
  dsimp only
  rw [if_neg (by omega), if_neg (by omega)]

/-- The exact curve on a segment, its ends included. -/
theorem curveExact_segment (h : CurveAdmitted curve count) {i : Nat} (hi : i + 1 < count) {x : Int}
    (h0 : (curve.slot i).x ≤ x) (h1 : x ≤ (curve.slot (i + 1)).x) :
    curveExact curve count x y =
      interpolate (curve.slot i).x (y (curve.slot i)) (curve.slot (i + 1)).x
        (y (curve.slot (i + 1))) x := by
  cases hbracket : curveBracket curve count x with
  | some pair =>
      obtain ⟨p0, p1⟩ := pair
      obtain ⟨j, hj, rfl, rfl, hx, hpast, hle, -⟩ := curveBracket_past h.ascending hbracket
      rw [curveExact, hbracket]
      dsimp only
      obtain hlt | rfl | hgt := Nat.lt_trichotomy j i
      · -- `x` is the point two segments share
        obtain rfl : j + 1 = i := by
          by_contra hne
          have hfar := @CurveAdmitted.lt_of_lt _ _ h (j + 1) i (by omega) (by omega)
          omega
        obtain rfl : x = (curve.slot (j + 1)).x := Int.le_antisymm hle h0
        rw [interpolate_left, interpolate_right _ _ hx]
      · rfl
      · have hback := @CurveAdmitted.le_of_le _ _ h (i + 1) j hgt (by omega)
        omega
  | none =>
      have hpos := h.two_le
      rw [curveBracket] at hbracket
      split at hbracket
      · next hend =>
          obtain hzero | hlow | hhigh := hend
          · omega
          · obtain rfl : i = 0 := by
              by_contra hne
              have hfar := @CurveAdmitted.lt_of_lt _ _ h 0 i (by omega) (by omega)
              omega
            obtain rfl : x = (curve.slot 0).x := Int.le_antisymm hlow h0
            rw [curveExact_below h (Int.le_refl _), interpolate_left]
          · obtain hlast : i + 1 = count - 1 := by
              by_contra hne
              have hfar := @CurveAdmitted.lt_of_lt _ _ h (i + 1) (count - 1) (by omega) (by omega)
              omega
            rw [← hlast] at hhigh
            obtain rfl : x = (curve.slot (i + 1)).x := Int.le_antisymm h1 hhigh
            rw [curveExact_above h (by rw [← hlast]), interpolate_right _ _ (h.step i hi), hlast]
      · cases hbracket

/-- **The exact curve** is piecewise linear. -/
theorem curveExact_piecewise (h : CurveAdmitted curve count) (y : CurvePoint → Int) :
    Piecewise (fun i => (curve.slot i).x) (fun i => y (curve.slot i)) count
      (fun x => curveExact curve count x y) where
  pos := Nat.lt_of_lt_of_le (by decide) h.two_le
  ascending := h.step
  below _ hx := curveExact_below h hx
  above _ hx := curveExact_above h hx
  segment _ hi _ h0 h1 := curveExact_segment h hi h0 h1

/-- The context value next to a point is between it and the next. -/
theorem curveBracket_next (h : CurveAdmitted curve count) {i : Nat} (hi : i + 1 < count)
    (hreached : i + 2 < count ∨ 2 ≤ (curve.slot (i + 1)).x - (curve.slot i).x) :
    curveBracket curve count ((curve.slot i).x + 1) = some (curve.slot i, curve.slot (i + 1)) := by
  have hfirst := @CurveAdmitted.le_of_le _ _ h 0 i (Nat.zero_le i) (by omega)
  have hstep := h.step i hi
  have hlast : (curve.slot i).x + 1 < (curve.slot (count - 1)).x := by
    obtain hmore | hwide := hreached
    · have hfar := @CurveAdmitted.lt_of_lt _ _ h (i + 1) (count - 1) (by omega) (by omega)
      omega
    · have hfar := @CurveAdmitted.le_of_le _ _ h (i + 1) (count - 1) (by omega) (by omega)
      omega
  cases hbracket : curveBracket curve count ((curve.slot i).x + 1) with
  | none =>
      rw [curveBracket] at hbracket
      split at hbracket
      · omega
      · cases hbracket
  | some pair =>
      obtain ⟨p0, p1⟩ := pair
      obtain ⟨j, hj, rfl, rfl, -, hpast, hle, -⟩ := curveBracket_past h.ascending hbracket
      obtain rfl : j = i := by
        by_contra hne
        obtain hlt | hgt := Nat.lt_or_gt_of_ne hne
        · have hback := @CurveAdmitted.le_of_le _ _ h (j + 1) i hlt (by omega)
          omega
        · have hforth := @CurveAdmitted.lt_of_lt _ _ h i j hgt (by omega)
          omega
      rfl

/-- **Every evaluation fits** exactly when the segments do. -/
theorem curveFits_iff_segmentsFit (h : CurveAdmitted curve count)
    (hy : ∀ k < count, IsI32 (y (curve.slot k))) :
    (∀ x p0 p1, curveBracket curve count x = some (p0, p1) →
      InterpolationFits p0.x (y p0) p1.x (y p1) x) ↔ SegmentsFit curve count y := by
  constructor
  · intro hfits i hi hreached
    have hfit := hfits _ _ _ (curveBracket_next h hi hreached)
    exact ⟨hfit.width, hfit.rise⟩
  · intro hsegments x p0 p1 hbracket
    obtain ⟨i, hi, rfl, rfl, hx, hpast, hle, hlast⟩ := curveBracket_past h.ascending hbracket
    refine (interpolationFits_iff hx (Int.le_of_lt hpast) hle (hy i (by omega)) (hy (i + 1) hi)).mpr
      (hsegments i hi ?_)
    by_cases hend : i + 2 < count
    · exact .inl hend
    · have hend : count - 1 = i + 1 := by omega
      rw [hend] at hlast
      exact .inr (by omega)

/-- What fits is exact, and an exact curve has the shape of its points. -/
theorem curveCorrect_of_fits (h : CurveAdmitted curve count)
    (hfits : ∀ x p0 p1, curveBracket curve count x = some (p0, p1) →
      InterpolationFits p0.x (y p0) p1.x (y p1) x) : CurveCorrect curve count y := by
  have hexact : ∀ x, curveEvalAxis curve count x y = curveExact curve count x y :=
    fun x => curveEvalAxis_eq_curveExact y (hfits x)
  have hpiecewise := curveExact_piecewise h y
  constructor
  case below => exact fun x hx => (hexact x).trans (hpiecewise.below x (Int.le_of_lt hx))
  case above => exact fun x hx => (hexact x).trans (hpiecewise.above x (Int.le_of_lt hx))
  case atPoint => exact fun k hk => (hexact _).trans (hpiecewise.eq_at hk)
  case between =>
    intro i hi x h0 h1
    rw [hexact]
    exact hpiecewise.mem_segment hi h0 h1
  case rising =>
    intro hrise x x' hxx'
    rw [hexact, hexact]
    exact hpiecewise.monotone hrise hxx'
  case falling =>
    intro hfall x x' hxx'
    rw [hexact, hexact]
    exact hpiecewise.antitone hfall hxx'
  case fits => exact hfits

end curve

/-- **Curve evaluation is piecewise linear interpolation** on each axis of an admitted
curve, exactly when neighbouring points it interpolates between are no more than
2147483647 apart. -/
theorem curveCorrect_iff {curve : Vector CurvePoint maxCurvePoints} {count : Nat}
    (h : CurveAdmitted curve count) {y : CurvePoint → Int}
    (hy : y = CurvePoint.value0 ∨ y = CurvePoint.value1) :
    CurveCorrect curve count y ↔ SegmentsFit curve count y := by
  have hordinates : ∀ k < count, IsI32 (y (curve.slot k)) := by
    intro k hk
    obtain rfl | rfl := hy
    · exact (h.points k hk).value0
    · exact (h.points k hk).value1
  rw [← curveFits_iff_segmentsFit h hordinates]
  exact ⟨fun hcorrect => hcorrect.fits, curveCorrect_of_fits h⟩

/-- The trip offset from 0 to 100 km/h. -/
theorem curveCorrect_speed :
    CurveCorrect ((default : Vector CurvePoint maxCurvePoints).put 0 ⟨0, 255, 5000⟩ |>.put 1 ⟨100, 128, 0⟩)
      2 CurvePoint.value1 :=
  (curveCorrect_iff ⟨by decide, by decide, by decide, by decide⟩ (.inr rfl)).mpr (by
    intro i hi _
    obtain rfl : i = 0 := by omega
    decide)

/-- **A wide segment wraps**: at context 0 the offset is below both its points. -/
theorem wide_curve_incorrect :
    ¬∀ cfg : Config, Accepted cfg → cfg.Typed → ∀ m < cfg.modifierCount,
      CurveCorrect (cfg.modifiers.slot m).curve (cfg.modifiers.slot m).curveCount
        CurvePoint.value1 := by
  intro h
  have hcorrect := h wideCurveConfig (by decide +kernel) (by decide +kernel) 0 (by decide)
  have hbetween := hcorrect.between 0 (by decide) 0 (by decide) (by decide)
  revert hbetween
  decide +kernel

end ThermalCore
