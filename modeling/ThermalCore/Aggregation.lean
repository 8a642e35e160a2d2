import Mathlib.Algebra.BigOperators.Intervals
import Mathlib.Algebra.BigOperators.Ring.Finset
import Mathlib.Algebra.Order.BigOperators.Group.Finset
import ThermalCore.Accepted

/-!
# Zone aggregation as a mean

What `thermal_zone_aggregate` returns for every assignment of readings to the
sensors of an accepted zone.  MAX and AVG stay between the coldest and the
hottest valid sensor.  WEIGHTED does so for every subset of valid sensors
exactly when no weight is zero or negative and the weighted sum cannot leave
`int64_t`; the validator only looks at the sum of all weights.

A mean is stated as membership between two of the valid readings.  MAX and AVG are
such means without a condition.  For WEIGHTED the condition is on the weights of the
zone alone, and for every zone that misses it there are readings whose aggregate lies
outside.
-/

namespace ThermalCore

open MachineInt Check Finset

/-! ## The result the aggregation is for -/

/-- Valid exactly when some reading is, then between the extremes of the valid
readings, else the fallback temperature. -/
structure AggregateOk (readings : List Reading) (fallback : Int) (r : ZoneAggregateResult) : Prop where
  valid : r.valid = true ↔ ∃ x ∈ readings, x.valid = true
  lower : r.valid = true → ∃ x ∈ readings, x.valid = true ∧ x.value ≤ r.tempMc
  upper : r.valid = true → ∃ x ∈ readings, x.valid = true ∧ r.tempMc ≤ x.value
  fallback : r.valid = false → r.tempMc = fallback

/-- Every valid reading lies in a range. -/
def ReadingsIn (lo hi : Int) (readings : List Reading) : Prop :=
  ∀ x ∈ readings, x.valid = true → lo ≤ x.value ∧ x.value ≤ hi

/-- A temperature that is in every range the readings are in lies between two of them. -/
theorem aggregateOk_of_ranges {readings : List Reading} {fallback temp : Int}
    (hsome : ∃ x ∈ readings, x.valid = true)
    (h : ∀ lo hi, ReadingsIn lo hi readings → lo ≤ temp ∧ temp ≤ hi)
    (hi32 : ∀ x ∈ readings, IsI32 x.value) : AggregateOk readings fallback ⟨temp, true⟩ where
  valid := iff_of_true rfl hsome
  lower _ := by
    by_contra hnone
    push Not at hnone
    have hin : ReadingsIn (temp + 1) i32Max readings :=
      fun x hx hv => ⟨hnone x hx hv, (hi32 x hx).2⟩
    have := (h _ _ hin).1
    omega
  upper _ := by
    by_contra hnone
    push Not at hnone
    have hin : ReadingsIn i32Min (temp - 1) readings :=
      fun x hx hv => ⟨(hi32 x hx).1, Int.le_sub_one_of_lt (hnone x hx hv)⟩
    have := (h _ _ hin).2
    omega
  fallback h := by cases h

/-- A reading added at the end is the valid one, or another is. -/
theorem exists_valid_concat {rs : List Reading} {r : Reading} :
    (∃ x ∈ rs ++ [r], x.valid = true) ↔ (∃ x ∈ rs, x.valid = true) ∨ r.valid = true := by
  simp [or_and_right, exists_or]

/-- Without a valid reading every mode falls back. -/
theorem aggregateOk_of_invalid (mode : Nat) {readings : List Reading} (fallback : Int)
    (h : ¬∃ x ∈ readings, x.valid = true) :
    AggregateOk readings fallback (thermalZoneAggregate mode readings fallback) := by
  have hnone : ∀ x ∈ readings, x.valid = false := by simpa using h
  rw [thermalZoneAggregate_of_invalid mode fallback hnone]
  exact ⟨iff_of_false Bool.false_ne_true h, fun hv => absurd hv Bool.false_ne_true,
    fun hv => absurd hv Bool.false_ne_true, fun _ => rfl⟩

/-! ## MAX -/

/-- An invalid reading does not count for MAX. -/
theorem aggMax_concat_invalid (rs : List Reading) {r : Reading} (h : r.valid = false) :
    aggMax (rs ++ [r]) = aggMax rs := by
  simp [aggMax, h]

/-- A valid reading is the new maximum, or leaves the old one. -/
theorem aggMax_concat_valid (rs : List Reading) {r : Reading} (h : r.valid = true) :
    aggMax (rs ++ [r]) = some ((aggMax rs).elim r.value fun b => max b r.value) := by
  unfold aggMax
  rw [List.foldl_append, List.foldl_cons, List.foldl_nil, h]
  cases hm : List.foldl _ (none : Option Int) rs with
  | none => rfl
  | some b =>
      simp only [Bool.not_true, Bool.false_eq_true, if_false, Option.elim_some]
      split
      · next hgt => rw [max_eq_right (Int.le_of_lt hgt)]
      · next hle => rw [max_eq_left (Int.not_lt.mp hle)]

/-- The maximum is the value of a valid reading. -/
theorem aggMax_mem {rs : List Reading} {b : Int} (h : aggMax rs = some b) :
    ∃ x ∈ rs, x.valid = true ∧ x.value = b := by
  induction rs using List.reverseRecOn generalizing b with
  | nil => cases h
  | append_singleton rs r ih =>
      have hself : r ∈ rs ++ [r] := by simp
      cases hr : r.valid with
      | false =>
          rw [aggMax_concat_invalid rs hr] at h
          obtain ⟨x, hx, hv⟩ := ih h
          exact ⟨x, List.mem_append_left _ hx, hv⟩
      | true =>
          rw [aggMax_concat_valid rs hr, Option.some.injEq] at h
          cases hm : aggMax rs with
          | none => exact ⟨r, hself, hr, by simpa [hm] using h⟩
          | some c =>
              rw [hm, Option.elim_some] at h
              rcases max_choice c r.value with hc | hc
              · obtain ⟨x, hx, hv, hval⟩ := ih hm
                exact ⟨x, List.mem_append_left _ hx, hv, by rw [hval, ← h, hc]⟩
              · exact ⟨r, hself, hr, by rw [← h, hc]⟩

/-- With a valid reading there is a maximum. -/
theorem aggMax_ne_none {rs : List Reading} (h : ∃ x ∈ rs, x.valid = true) : aggMax rs ≠ none := by
  induction rs using List.reverseRecOn with
  | nil => simp at h
  | append_singleton rs r ih =>
      cases hr : r.valid with
      | false =>
          rw [exists_valid_concat, hr] at h
          rw [aggMax_concat_invalid rs hr]
          exact ih (h.resolve_right Bool.false_ne_true)
      | true =>
          rw [aggMax_concat_valid rs hr]
          exact Option.some_ne_none _

/-! ## AVG -/

/-- What one reading adds to the sum and to the count of AVG. -/
theorem aggSum_concat (rs : List Reading) (r : Reading) :
    aggSum (rs ++ [r]) =
      if !r.valid then aggSum rs else ((aggSum rs).1 + r.value, (aggSum rs).2 + 1) := by
  simp [aggSum]

/-- The sum of `n` values in a range lies in `n` times the range. -/
theorem aggSum_mem {lo hi : Int} {rs : List Reading} (h : ReadingsIn lo hi rs) :
    lo * (aggSum rs).2 ≤ (aggSum rs).1 ∧ (aggSum rs).1 ≤ hi * (aggSum rs).2 := by
  induction rs using List.reverseRecOn with
  | nil => simp [aggSum]
  | append_singleton rs r ih =>
      obtain ⟨hlo, hhi⟩ := ih fun x hx => h x (List.mem_append_left _ hx)
      rw [aggSum_concat]
      cases hr : r.valid with
      | false => exact ⟨hlo, hhi⟩
      | true =>
          have hmem := h r (by simp) hr
          simp only [Bool.not_true, Bool.false_eq_true, if_false]
          push_cast
          rw [Int.mul_add, Int.mul_add]
          omega

/-- With a valid reading AVG does not divide by zero. -/
theorem aggSum_count_pos {rs : List Reading} (h : ∃ x ∈ rs, x.valid = true) : 0 < (aggSum rs).2 := by
  induction rs using List.reverseRecOn with
  | nil => simp at h
  | append_singleton rs r ih =>
      rw [aggSum_concat]
      cases hr : r.valid with
      | false =>
          rw [exists_valid_concat, hr] at h
          exact ih (h.resolve_right Bool.false_ne_true)
      | true => simp

/-! ## WEIGHTED -/

/-- Sum of value times weight over the valid readings. -/
def weightedSum (rs : List Reading) : Int :=
  (rs.map fun r => if r.valid then r.value * r.weightQ16 else 0).sum

/-- Sum of the weights of the valid readings. -/
def validWeight (rs : List Reading) : Int :=
  (rs.map fun r => if r.valid then r.weightQ16 else 0).sum

/-- What one reading adds to the weighted sum. -/
theorem weightedSum_concat (rs : List Reading) (r : Reading) :
    weightedSum (rs ++ [r]) = weightedSum rs + if r.valid then r.value * r.weightQ16 else 0 := by
  simp [weightedSum]

/-- What one reading adds to the weight. -/
theorem validWeight_concat (rs : List Reading) (r : Reading) :
    validWeight (rs ++ [r]) = validWeight rs + if r.valid then r.weightQ16 else 0 := by
  simp [validWeight]

/-- The loop computes both sums, the first one wrapped to `int64_t`. -/
theorem aggWeighted_eq (rs : List Reading) : aggWeighted rs = (i64 (weightedSum rs), validWeight rs) := by
  induction rs using List.reverseRecOn with
  | nil => rfl
  | append_singleton rs r ih =>
      have hstep : aggWeighted (rs ++ [r]) =
          if !r.valid then aggWeighted rs
          else (i64 ((aggWeighted rs).1 + r.value * r.weightQ16), (aggWeighted rs).2 + r.weightQ16) := by
        simp [aggWeighted]
      rw [hstep, ih, weightedSum_concat, validWeight_concat]
      cases r.valid with
      | false => simp
      | true => simp [i64_add_i64]

/-- WEIGHTED is the truncated quotient of the two sums, wrapped as the code wraps them. -/
theorem thermalZoneAggregate_weighted (rs : List Reading) (fallback : Int) :
    thermalZoneAggregate Aggregation.weighted.code rs fallback =
      if validWeight rs = 0 then ⟨fallback, false⟩
      else ⟨i32 (i64 ((i64 (weightedSum rs)).tdiv (validWeight rs))), true⟩ := by
  unfold thermalZoneAggregate
  rw [aggWeighted_eq]
  rfl

/-- Every valid reading has a positive weight. -/
def WeightsPos (rs : List Reading) : Prop := ∀ x ∈ rs, x.valid = true → 0 < x.weightQ16

/-- Positive weights do not sum below zero. -/
theorem validWeight_nonneg {rs : List Reading} (hpos : WeightsPos rs) : 0 ≤ validWeight rs := by
  induction rs using List.reverseRecOn with
  | nil => rfl
  | append_singleton rs r ih =>
      have hrest := ih fun x hx => hpos x (List.mem_append_left _ hx)
      rw [validWeight_concat]
      split
      · next hv =>
          have hw := hpos r (by simp) hv
          omega
      · omega

/-- Positive weights sum above zero when one of them counts. -/
theorem validWeight_pos {rs : List Reading} (hpos : WeightsPos rs) (h : ∃ x ∈ rs, x.valid = true) :
    0 < validWeight rs := by
  induction rs using List.reverseRecOn with
  | nil => simp at h
  | append_singleton rs r ih =>
      have hinit : WeightsPos rs := fun x hx => hpos x (List.mem_append_left _ hx)
      rw [validWeight_concat]
      cases hr : r.valid with
      | false =>
          rw [exists_valid_concat, hr] at h
          have := ih hinit (h.resolve_right Bool.false_ne_true)
          simpa using this
      | true =>
          have hw := hpos r (by simp) hr
          have hrest := validWeight_nonneg hinit
          simp only [if_true]
          omega

/-- Positive weights make the weighted sum a multiple of the total weight that
lies in the range of the values. -/
theorem weightedSum_mem {lo hi : Int} {rs : List Reading} (hpos : WeightsPos rs)
    (h : ReadingsIn lo hi rs) :
    lo * validWeight rs ≤ weightedSum rs ∧ weightedSum rs ≤ hi * validWeight rs := by
  induction rs using List.reverseRecOn with
  | nil => simp [weightedSum, validWeight]
  | append_singleton rs r ih =>
      obtain ⟨hlo, hhi⟩ := ih (fun x hx => hpos x (List.mem_append_left _ hx))
        fun x hx => h x (List.mem_append_left _ hx)
      rw [weightedSum_concat, validWeight_concat, Int.mul_add, Int.mul_add]
      cases hr : r.valid with
      | false => simpa using ⟨hlo, hhi⟩
      | true =>
          have hmem := h r (by simp) hr
          have hw := Int.le_of_lt (hpos r (by simp) hr)
          have h1 := Int.mul_le_mul_of_nonneg_right hmem.1 hw
          have h2 := Int.mul_le_mul_of_nonneg_right hmem.2 hw
          simp only [if_true]
          omega

/-! ## The readings of a zone -/

/-- The columns of the zone's sensors, for an assignment of temperatures and
valid flags. -/
def zoneColumns (zc : ZoneCfg) (value : Nat → Int) (valid : Nat → Bool) : List Reading :=
  (List.range zc.sensorCount).map fun k => ⟨value k, valid k, zc.sensorWeightsQ16.slot k⟩

section zone

variable {cfg : Config} {zc : ZoneCfg} {value : Nat → Int} {valid : Nat → Bool}

/-- What holds of every reading of a zone, by the sensor's place in the list. -/
theorem forall_mem_zoneColumns {P : Reading → Prop} :
    (∀ x ∈ zoneColumns zc value valid, P x) ↔
      ∀ k < zc.sensorCount, P ⟨value k, valid k, zc.sensorWeightsQ16.slot k⟩ := by
  simp [zoneColumns]

/-- What holds of some reading of a zone. -/
theorem exists_mem_zoneColumns {P : Reading → Prop} :
    (∃ x ∈ zoneColumns zc value valid, P x) ↔
      ∃ k < zc.sensorCount, P ⟨value k, valid k, zc.sensorWeightsQ16.slot k⟩ := by
  simp [zoneColumns]

/-- The weighted sum over a zone's sensors. -/
theorem weightedSum_zoneColumns :
    weightedSum (zoneColumns zc value valid) =
      ∑ k ∈ range zc.sensorCount, if valid k then value k * zc.sensorWeightsQ16.slot k else 0 := by
  unfold weightedSum zoneColumns
  rw [List.map_map]
  rfl

/-- The weight of a zone's valid sensors. -/
theorem validWeight_zoneColumns :
    validWeight (zoneColumns zc value valid) =
      ∑ k ∈ range zc.sensorCount, if valid k then zc.sensorWeightsQ16.slot k else 0 := by
  unfold validWeight zoneColumns
  rw [List.map_map]
  rfl

/-- The sum of weights that the validator looks at. -/
theorem weightSum_eq (zc : ZoneCfg) :
    weightSum zc = ∑ k ∈ range zc.sensorCount, zc.sensorWeightsQ16.slot k := by
  unfold weightSum
  generalize zc.sensorCount = n
  induction n with
  | zero => rfl
  | succ n ih => rw [Loop.fold_succ, ih, sum_range_succ]

/-- The valid weight never exceeds the sum of all weights when none is negative. -/
theorem validWeight_le_weightSum (hpos : ∀ k < zc.sensorCount, 0 < zc.sensorWeightsQ16.slot k) :
    validWeight (zoneColumns zc value valid) ≤ weightSum zc := by
  rw [validWeight_zoneColumns, weightSum_eq]
  refine sum_le_sum fun k hk => ?_
  have := hpos k (mem_range.mp hk)
  split <;> omega

/-! ### The weights with which WEIGHTED is a mean -/

/-- The condition on a zone: in WEIGHTED mode each weight is positive, and their
sum keeps the weighted sum inside `int64_t`. -/
def WeightsMean (zc : ZoneCfg) : Prop :=
  zc.aggregation = Aggregation.weighted.code →
    (∀ k < zc.sensorCount, 0 < zc.sensorWeightsQ16.slot k) ∧ weightSum zc ≤ 2 ^ 32

/-- Every assignment of readings gives a result between the valid ones. -/
def AggregatesWithin (zc : ZoneCfg) : Prop :=
  ∀ (value : Nat → Int) (valid : Nat → Bool), (∀ k < zc.sensorCount, IsI32 (value k)) →
    AggregateOk (zoneColumns zc value valid) zc.fallbackTempMc
      (thermalZoneAggregate zc.aggregation (zoneColumns zc value valid) zc.fallbackTempMc)

/-- **One half**: with such weights the aggregate stays between the valid readings. -/
theorem aggregatesWithin_of_weightsMean (hknown : aggregationKnown zc.aggregation = true)
    (hw : WeightsMean zc) : AggregatesWithin zc := by
  intro value valid hvalue
  have hi32 : ∀ x ∈ zoneColumns zc value valid, IsI32 x.value := forall_mem_zoneColumns.mpr hvalue
  have hrange : ReadingsIn i32Min i32Max (zoneColumns zc value valid) := fun x hx _ => hi32 x hx
  by_cases hsome : ∃ x ∈ zoneColumns zc value valid, x.valid = true
  · simp only [aggregationKnown, Bool.or_eq_true, beq_iff_eq] at hknown
    rcases hknown with (hmode | hmode) | hmode
    · obtain ⟨b, hb⟩ := Option.ne_none_iff_exists'.mp (aggMax_ne_none hsome)
      have hresult : thermalZoneAggregate zc.aggregation (zoneColumns zc value valid)
          zc.fallbackTempMc = ⟨b, true⟩ := by
        unfold thermalZoneAggregate
        rw [if_pos hmode, hb]
      rw [hresult]
      obtain ⟨x, hx, hv, rfl⟩ := aggMax_mem hb
      exact aggregateOk_of_ranges hsome (fun lo hi h => h x hx hv) hi32
    · have hcount := aggSum_count_pos hsome
      have hpos : (0 : Int) < (aggSum (zoneColumns zc value valid)).2 := Int.natCast_pos.mpr hcount
      have hresult : thermalZoneAggregate zc.aggregation (zoneColumns zc value valid)
          zc.fallbackTempMc = ⟨i32 ((aggSum (zoneColumns zc value valid)).1.tdiv
            (aggSum (zoneColumns zc value valid)).2), true⟩ := by
        unfold thermalZoneAggregate
        rw [if_neg (by rw [hmode]; decide), if_pos hmode]
        exact if_neg (Nat.ne_of_gt hcount)
      have hmem (lo hi : Int) (h : ReadingsIn lo hi (zoneColumns zc value valid)) :=
        tdiv_mem hpos (aggSum_mem h).1 (aggSum_mem h).2
      rw [hresult, i32_of_isI32 (hmem _ _ hrange)]
      exact aggregateOk_of_ranges hsome hmem hi32
    · obtain ⟨hwpos, hsum⟩ := hw hmode
      have hweights : WeightsPos (zoneColumns zc value valid) :=
        forall_mem_zoneColumns.mpr fun k hk _ => hwpos k hk
      have hpos := validWeight_pos hweights hsome
      have hle : validWeight (zoneColumns zc value valid) ≤ 2 ^ 32 :=
        Int.le_trans (validWeight_le_weightSum hwpos) hsum
      have hmem (lo hi : Int) (h : ReadingsIn lo hi (zoneColumns zc value valid)) :=
        tdiv_mem hpos (weightedSum_mem hweights h).1 (weightedSum_mem hweights h).2
      -- the weighted sum itself stays in `int64_t`, so neither wrap changes it
      have hbounds := weightedSum_mem hweights hrange
      have hquot := hmem _ _ hrange
      have hexact : i64 (weightedSum (zoneColumns zc value valid)) =
          weightedSum (zoneColumns zc value valid) := by
        unfold i32Min i32Max at hbounds
        exact i64_of_mem (by omega) (by omega)
      rw [hmode, thermalZoneAggregate_weighted, if_neg (Int.ne_of_gt hpos), hexact,
        i64_of_mem (by unfold i32Min at hquot; omega) (by unfold i32Max at hquot; omega),
        i32_of_isI32 hquot]
      exact aggregateOk_of_ranges hsome hmem hi32
  · exact aggregateOk_of_invalid _ _ hsome

/-! ### The other weights -/

/-- One valid sensor of weight zero makes the zone fall back. -/
theorem weight_ne_zero (h : AggregatesWithin zc) (hmode : zc.aggregation = Aggregation.weighted.code)
    {k : Nat} (hk : k < zc.sensorCount) : zc.sensorWeightsQ16.slot k ≠ 0 := by
  intro hzero
  have hweight : validWeight (zoneColumns zc (fun _ => 0) fun i => decide (i = k)) = 0 := by
    rw [validWeight_zoneColumns]
    refine sum_eq_zero fun i _ => ?_
    split
    · next hi => rw [of_decide_eq_true hi, hzero]
    · rfl
  have hok := h (fun _ => 0) (fun i => decide (i = k)) fun _ _ => by decide
  rw [hmode, thermalZoneAggregate_weighted, if_pos hweight] at hok
  have hvalid := hok.valid.mpr (exists_mem_zoneColumns.mpr ⟨k, hk, by simp⟩)
  cases hvalid

/-- Two valid sensors, `j` at temperature `m` and `i` at zero. -/
theorem sums_pair (zc : ZoneCfg) {i j : Nat} (hij : i ≠ j) (hi : i < zc.sensorCount) (hj : j < zc.sensorCount) (m : Int) :
    validWeight (zoneColumns zc (fun k => if k = j then m else 0) fun k => decide (k = i ∨ k = j)) =
        zc.sensorWeightsQ16.slot i + zc.sensorWeightsQ16.slot j ∧
      weightedSum (zoneColumns zc (fun k => if k = j then m else 0) fun k => decide (k = i ∨ k = j)) =
        m * zc.sensorWeightsQ16.slot j := by
  rw [validWeight_zoneColumns, weightedSum_zoneColumns]
  constructor
  · rw [sum_eq_add_of_mem i j (mem_range.mpr hi) (mem_range.mpr hj) hij]
    · simp
    · rintro k - ⟨hki, hkj⟩
      simp [hki, hkj]
  · rw [sum_eq_single_of_mem j (mem_range.mpr hj)]
    · simp
    · intro k _ hkj
      simp [hkj]

/-- A negative weight beside a positive one throws the mean of the two out of
their range. -/
theorem weight_nonneg (h : AggregatesWithin zc) (hmode : zc.aggregation = Aggregation.weighted.code)
    (hi32 : ∀ k < zc.sensorCount, IsI32 (zc.sensorWeightsQ16.slot k)) {i j : Nat}
    (hi : i < zc.sensorCount) (hj : j < zc.sensorCount) (hjpos : 0 < zc.sensorWeightsQ16.slot j) :
    0 ≤ zc.sensorWeightsQ16.slot i := by
  by_contra hneg
  rw [Int.not_le] at hneg
  have hij : i ≠ j := by
    rintro rfl
    omega
  obtain ⟨hilo, -⟩ := hi32 i hi
  obtain ⟨-, hjhi⟩ := hi32 j hj
  unfold i32Min at hilo
  unfold i32Max at hjhi
  generalize hwi : zc.sensorWeightsQ16.slot i = wi at *
  generalize hwj : zc.sensorWeightsQ16.slot j = wj at *
  -- `j` is set to the absolute value of the total weight, so the quotient is `± wj`
  obtain ⟨m, hm0, hm1, hquot⟩ : ∃ m : Int, 0 ≤ m ∧ m < 2 ^ 31 ∧
      (wi + wj ≠ 0 → (m * wj).tdiv (wi + wj) = wj ∧ m < wj ∨
        (m * wj).tdiv (wi + wj) = -wj) := by
    rcases Int.le_total 0 (wi + wj) with hpos | hnonpos
    · refine ⟨wi + wj, hpos, by omega, fun hne => Or.inl ⟨?_, by omega⟩⟩
      exact Int.mul_tdiv_cancel_left _ hne
    · refine ⟨-(wi + wj), by omega, by omega, fun hne => Or.inr ?_⟩
      rw [Int.neg_mul, Int.neg_tdiv, Int.mul_tdiv_cancel_left _ hne]
  obtain ⟨hweight, hsum⟩ := sums_pair zc hij hi hj m
  rw [hwi, hwj] at hweight
  rw [hwj] at hsum
  have hok := h (fun k => if k = j then m else 0) (fun k => decide (k = i ∨ k = j)) fun k _ => by
    unfold IsI32 i32Min i32Max
    split <;> omega
  have hsome : ∃ x ∈ zoneColumns zc (fun k => if k = j then m else 0) (fun k => decide (k = i ∨ k = j)),
      x.valid = true := exists_mem_zoneColumns.mpr ⟨i, hi, by simp⟩
  have hmul : m * wj < 2 ^ 62 := by
    have hm : m ≤ 2 ^ 31 - 1 := by omega
    have := Int.mul_le_mul hm hjhi (Int.le_of_lt hjpos) (by decide)
    omega
  have hmul0 : 0 ≤ m * wj := Int.mul_nonneg hm0 (Int.le_of_lt hjpos)
  have hexact : i64 (m * wj) = m * wj := i64_of_mem (by omega) (by omega)
  rw [hmode, thermalZoneAggregate_weighted, hweight, hsum, hexact] at hok
  by_cases hzero : wi + wj = 0
  · rw [if_pos hzero] at hok
    cases hok.valid.mpr hsome
  · rw [if_neg hzero] at hok
    rcases hquot hzero with ⟨hq, hlt⟩ | hq
    · rw [hq, i64_of_mem (by omega) (by omega), i32_of_isI32 ⟨by unfold i32Min; omega, hjhi⟩] at hok
      obtain ⟨k, _, -, hle⟩ := exists_mem_zoneColumns.mp (hok.upper rfl)
      dsimp only at hle
      split at hle <;> omega
    · rw [hq, i64_of_mem (by omega) (by omega),
        i32_of_isI32 ⟨by unfold i32Min; omega, by unfold i32Max; omega⟩] at hok
      obtain ⟨k, _, -, hle⟩ := exists_mem_zoneColumns.mp (hok.lower rfl)
      dsimp only at hle
      split at hle <;> omega

/-- A weight sum above `2^32` overflows `int64_t` with every sensor at its
lowest reading. -/
theorem weightSum_le (h : AggregatesWithin zc) (hmode : zc.aggregation = Aggregation.weighted.code)
    (hcount : 0 < zc.sensorCount ∧ zc.sensorCount ≤ maxSensorsPerZone)
    (hi32 : ∀ k < zc.sensorCount, IsI32 (zc.sensorWeightsQ16.slot k)) : weightSum zc ≤ 2 ^ 32 := by
  by_contra hbig
  rw [Int.not_le] at hbig
  have hmax : weightSum zc ≤ 4 * (2 ^ 31 - 1) := by
    have hcard : weightSum zc ≤ ∑ _k ∈ range zc.sensorCount, i32Max := by
      rw [weightSum_eq]
      exact sum_le_sum fun k hk => (hi32 k (mem_range.mp hk)).2
    have hfour : (zc.sensorCount : Int) ≤ 4 := Int.ofNat_le.mpr hcount.2
    rw [sum_const, card_range, nsmul_eq_mul] at hcard
    unfold i32Max at hcard
    omega
  have hweight : validWeight (zoneColumns zc (fun _ => i32Min) fun _ => true) = weightSum zc := by
    rw [validWeight_zoneColumns, weightSum_eq]
    rfl
  have hsum : weightedSum (zoneColumns zc (fun _ => i32Min) fun _ => true) = i32Min * weightSum zc := by
    rw [weightedSum_zoneColumns, weightSum_eq, mul_sum]
    rfl
  have hok := h (fun _ => i32Min) (fun _ => true) fun _ _ => by decide
  rw [hmode, thermalZoneAggregate_weighted, hweight, hsum, if_neg (by omega)] at hok
  -- the wrapped sum is positive, and so is the quotient
  have hwrap : i64 (i32Min * weightSum zc) = 2 ^ 64 - 2 ^ 31 * weightSum zc := by
    unfold i64 i32Min
    omega
  have hquot : 0 ≤ (2 ^ 64 - 2 ^ 31 * weightSum zc).tdiv (weightSum zc) ∧
      (2 ^ 64 - 2 ^ 31 * weightSum zc).tdiv (weightSum zc) ≤ i32Max := by
    have hlt : 2 ^ 64 - 2 ^ 31 * weightSum zc < 2 ^ 31 * weightSum zc := by omega
    rw [Int.tdiv_eq_ediv_of_nonneg (by omega)]
    have := Int.ediv_lt_of_lt_mul (by omega) hlt
    exact ⟨Int.ediv_nonneg (by omega) (by omega), by unfold i32Max; omega⟩
  rw [hwrap, i64_of_mem (by omega) (by unfold i32Max at hquot; omega),
    i32_of_isI32 ⟨by unfold i32Min; omega, hquot.2⟩] at hok
  obtain ⟨k, _, -, hle⟩ := exists_mem_zoneColumns.mp (hok.upper rfl)
  unfold i32Min at hle
  dsimp only at hle
  omega

/-- **The other half**: any other weights have readings that drive the aggregate outside. -/
theorem weightsMean_of_aggregatesWithin (hz : ZoneRules cfg zc)
    (hi32 : ∀ k < zc.sensorCount, IsI32 (zc.sensorWeightsQ16.slot k)) (h : AggregatesWithin zc) :
    WeightsMean zc := by
  intro hmode
  obtain ⟨j, hj, hjpos⟩ : ∃ j < zc.sensorCount, 0 < zc.sensorWeightsQ16.slot j := by
    by_contra hnone
    push Not at hnone
    have htotal := hz.weights hmode
    rw [weightSum_eq] at htotal
    have := sum_nonpos fun k hk => hnone k (mem_range.mp hk)
    omega
  refine ⟨fun k hk => ?_, weightSum_le h hmode hz.sensorCount hi32⟩
  have hne := weight_ne_zero h hmode hk
  have hnonneg := weight_nonneg h hmode hi32 hk hj hjpos
  omega

end zone

/-- **Aggregation stays within its valid sensors** exactly when the weights of a
WEIGHTED zone are all positive and sum to at most `2^32`. -/
theorem aggregation_within_iff {cfg : Config} {zc : ZoneCfg} (hz : validateZone cfg zc = .ok ())
    (hi32 : ∀ k < zc.sensorCount, IsI32 (zc.sensorWeightsQ16.slot k)) :
    AggregatesWithin zc ↔ WeightsMean zc := by
  have hrules := (validateZone_iff cfg zc).mp hz
  exact ⟨weightsMean_of_aggregatesWithin hrules hi32,
    aggregatesWithin_of_weightsMean hrules.aggregation⟩

/-- A second sensor on the zone of `oneFanConfig`, counted negatively. -/
def differenceZone : ZoneCfg :=
  { socZone with
    sensorIds := #v[1, 2, 0, 0], sensorCount := 2
    sensorWeightsQ16 := #v[131072, -65536, 0, 0], aggregation := Aggregation.weighted.code }

def differenceConfig : Config :=
  { oneFanConfig with
    sensors := oneFanConfig.sensors.put 1 { oneFanConfig.sensors.slot 0 with id := 2 }
    sensorCount := 2
    zones := oneFanConfig.zones.put 0 differenceZone }

/-- Sensors at 40 and 60 °C make a zone of 20 °C. -/
theorem not_aggregatesWithin_differenceZone :
    Accepted differenceConfig ∧
      thermalZoneAggregate differenceZone.aggregation
          [⟨40000, true, 131072⟩, ⟨60000, true, -65536⟩] differenceZone.fallbackTempMc = ⟨20000, true⟩ ∧
      ¬AggregatesWithin differenceZone := by
  refine ⟨by decide +kernel, by decide, fun h => ?_⟩
  have hok := h (fun k => if k = 0 then 40000 else 60000) (fun _ => true) fun k _ => by
    unfold IsI32 i32Min i32Max
    split <;> omega
  obtain ⟨x, hx, -, hle⟩ := hok.lower (by decide)
  revert x
  decide

/-- The same zone with both sensors counted positively. -/
theorem aggregatesWithin_meanZone :
    AggregatesWithin { differenceZone with sensorWeightsQ16 := #v[131072, 65536, 0, 0] } :=
  (@aggregation_within_iff differenceConfig _ (by decide +kernel)
    (fun k hk => by
      revert k
      decide)).mpr fun _ => by decide

end ThermalCore
