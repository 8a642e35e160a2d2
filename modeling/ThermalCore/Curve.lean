import ThermalCore.Config

/-!
# Curves and the policy modifier

`core/thermal_curve.c` and `core/thermal_modifier.c`: integer linear
interpolation with endpoint clamps, on either value axis of the points.

The loop of the source finds the first segment whose right end is not below `x`.  The
value is computed in `int64_t` from differences that are taken in `int32_t`.  A curve
without points is 0.  A modifier is its curve on both axes, the cap and the offset.
-/

namespace ThermalCore

open MachineInt

/-- `while (i + 1 < count && x > curve[i + 1].x) i++`, from index 0. -/
def curveSegment (curve : Vector CurvePoint n) (count : Nat) (x : Int) : Nat :=
  (Loop.first count fun i => !(decide (i + 1 < count) && decide (x > (curve.slot (i + 1)).x))).getD 0

/-- Shared evaluation; `y` selects `value0` or `value1`.  Differences are taken
in `int32_t`, their product and the quotient in `int64_t`. -/
def curveEvalAxis (curve : Vector CurvePoint n) (count : Nat) (x : Int) (y : CurvePoint → Int) :
    Int :=
  if count = 0 then 0
  else if x ≤ (curve.slot 0).x then y (curve.slot 0)
  else if x ≥ (curve.slot (count - 1)).x then y (curve.slot (count - 1))
  else
    let i := curveSegment curve count x
    let p0 := curve.slot i
    let p1 := curve.slot (i + 1)
    let num := i32 (x - p0.x) * i32 (y p1 - y p0)
    let den := i32 (p1.x - p0.x)
    let delta := i32 (num.tdiv den)
    i32 (y p0 + delta)

/-- `thermal_curve_eval_y0`. -/
def thermalCurveEvalY0 (curve : Vector CurvePoint n) (count : Nat) (x : Int) : Int :=
  curveEvalAxis curve count x CurvePoint.value0

/-- `thermal_curve_eval_y1`. -/
def thermalCurveEvalY1 (curve : Vector CurvePoint n) (count : Nat) (x : Int) : Int :=
  curveEvalAxis curve count x CurvePoint.value1

/-- `thermal_modifier_eval_result_t`. -/
structure ModifierEvalResult where
  pwmCap : Int
  tripOffsetMc : Int

/-- `thermal_modifier_eval`. -/
def thermalModifierEval (cfg : ModifierCfg) (effectiveContextValue : Int) : ModifierEvalResult :=
  ⟨thermalCurveEvalY0 cfg.curve cfg.curveCount effectiveContextValue,
    thermalCurveEvalY1 cfg.curve cfg.curveCount effectiveContextValue⟩

end ThermalCore
