import ThermalCore.Config

/-!
# Sensor filters and zone aggregation

`core/thermal_filter.c` and `core/thermal_zone.c`: the Q16.16 low-pass with its
validity lifecycle, and the reduction of a zone's filtered sensors to one
temperature.

The low-pass rounds half away from zero and starts from the first valid sample.  The
reduction takes the valid readings only; when there is none it gives the fallback
temperature and says so.
-/

namespace ThermalCore

open MachineInt

/-! ## thermal_filter.c -/

structure FilterState where
  filteredValue : Int
  valid : Bool
  initialized : Bool
deriving DecidableEq, Inhabited

def thermalFilterReset : FilterState := ⟨0, false, false⟩

/-- One filter update.  The difference is taken in `int32_t` before it is
widened; the sum is saturated back. -/
def thermalFilterStep (state : FilterState) (alphaQ16 sample : Int) (sampleValid : Bool) :
    FilterState :=
  if !sampleValid then
    { state with valid := false }
  else if !state.initialized then
    ⟨sample, true, true⟩
  else
    let product := alphaQ16 * i32 (sample - state.filteredValue)
    let next := state.filteredValue + roundQ16 product
    { state with filteredValue := satI32 next, valid := true }

theorem thermalFilterStep_valid_field (state : FilterState) (alpha sample : Int) (b : Bool) :
    (thermalFilterStep state alpha sample b).valid = b := by
  cases b
  · rfl
  · cases h : state.initialized <;> simp [thermalFilterStep, h]

/-- `next` lies on the way from `f` to `s`: it moved toward `s` without overshooting
it, or did not move. -/
def Toward (f s next : Int) : Prop :=
  (f ≤ s → f ≤ next ∧ next ≤ s) ∧ (s ≤ f → s ≤ next ∧ next ≤ f)

/-- The update in plain integers, where nothing wraps and nothing saturates. -/
def approach (alphaQ16 s f : Int) : Int := f + roundQ16 (alphaQ16 * (s - f))

theorem approach_toward {alpha s f : Int} (h0 : 0 ≤ alpha) (h1 : alpha ≤ 65536) :
    Toward f s (approach alpha s f) := by
  obtain ⟨hup, hdown⟩ := roundQ16_mul_mem (d := s - f) h0 h1
  unfold Toward approach
  constructor
  · intro hle
    have h := hup (by omega)
    omega
  · intro hle
    have h := hdown (by omega)
    omega

theorem Toward.isI32 {f s next : Int} (h : Toward f s next) (hf : IsI32 f) (hs : IsI32 s) :
    IsI32 next := by
  unfold Toward at h
  unfold IsI32 at *
  omega

/-- When the difference fits in `int32_t` the update is the plain one. -/
theorem thermalFilterStep_of_fits {f : FilterState} {alpha s : Int} (h0 : 0 ≤ alpha)
    (h1 : alpha ≤ 65536) (hinit : f.initialized = true) (hf : IsI32 f.filteredValue) (hs : IsI32 s)
    (hfit : IsI32 (s - f.filteredValue)) :
    thermalFilterStep f alpha s true =
      { f with filteredValue := approach alpha s f.filteredValue, valid := true } := by
  have hnext := (approach_toward h0 h1).isI32 hf hs
  have hsat := satI32_of_isI32 hnext
  unfold approach at hsat ⊢
  simp only [thermalFilterStep, hinit, Bool.not_true, Bool.false_eq_true, if_false,
    i32_of_isI32 hfit, hsat]

/-! ## thermal_zone.c -/

/-- One sensor as aggregation sees it: a column of the parallel arrays
`filter_values`, `filter_valid` and `weights_q16`. -/
structure Reading where
  value : Int
  valid : Bool
  weightQ16 : Int
deriving DecidableEq, Inhabited

structure ZoneAggregateResult where
  tempMc : Int
  valid : Bool
deriving DecidableEq, Inhabited

/-- The running maximum over valid readings, `none` while there was none. -/
def aggMax (readings : List Reading) : Option Int :=
  readings.foldl (fun best r =>
    if !r.valid then best
    else match best with
      | none => some r.value
      | some b => if r.value > b then some r.value else some b) none

/-- Sum and count over valid readings. -/
def aggSum (readings : List Reading) : Int × Nat :=
  readings.foldl (fun acc r => if !r.valid then acc else (acc.1 + r.value, acc.2 + 1)) (0, 0)

/-- Weighted sum and total weight over valid readings, accumulated in `int64_t`. -/
def aggWeighted (readings : List Reading) : Int × Int :=
  readings.foldl (fun acc r =>
    if !r.valid then acc else (i64 (acc.1 + r.value * r.weightQ16), acc.2 + r.weightQ16)) (0, 0)

def thermalZoneAggregate (mode : Nat) (readings : List Reading) (fallbackTempMc : Int) :
    ZoneAggregateResult :=
  if mode = Aggregation.max.code then
    match aggMax readings with
    | none => ⟨fallbackTempMc, false⟩
    | some best => ⟨best, true⟩
  else if mode = Aggregation.avg.code then
    let s := aggSum readings
    if s.2 = 0 then ⟨fallbackTempMc, false⟩
    else ⟨i32 (s.1.tdiv s.2), true⟩
  else if mode = Aggregation.weighted.code then
    let s := aggWeighted readings
    if s.2 = 0 then ⟨fallbackTempMc, false⟩
    else ⟨i32 (i64 (s.1.tdiv s.2)), true⟩
  else
    ⟨fallbackTempMc, false⟩

/-! ### No valid reading -/

/-- A fold that passes over the invalid readings sees none of these. -/
theorem foldl_of_invalid {α : Type*} (step : α → Reading → α) (acc : α) {readings : List Reading}
    (h : ∀ r ∈ readings, r.valid = false) :
    readings.foldl (fun acc r => if !r.valid then acc else step acc r) acc = acc := by
  induction readings with
  | nil => rfl
  | cons r rs ih =>
      have hr := h r List.mem_cons_self
      simp only [List.foldl_cons, hr, Bool.not_false, if_true]
      exact ih fun x hx => h x (List.mem_cons_of_mem _ hx)

/-- A zone whose readings are all invalid takes its fallback temperature, in
every aggregation mode. -/
theorem thermalZoneAggregate_of_invalid (mode : Nat) {readings : List Reading} (fallback : Int)
    (h : ∀ r ∈ readings, r.valid = false) :
    thermalZoneAggregate mode readings fallback = ⟨fallback, false⟩ := by
  have hmax : aggMax readings = none := foldl_of_invalid _ none h
  have hsum : aggSum readings = (0, 0) := foldl_of_invalid _ (0, 0) h
  have hweighted : aggWeighted readings = (0, 0) := foldl_of_invalid _ (0, 0) h
  unfold thermalZoneAggregate
  rw [hmax, hsum, hweighted]
  simp

end ThermalCore
