import Mathlib.Algebra.Order.Ring.Abs
import ThermalCore.Lib.MachineInt

/-!
# Linear interpolation over the integers

The line through two points, with a quotient that truncates toward zero.  Its
value stays between the two ordinates, so whatever interval holds both of them
holds it too.  When the differences fit in 32 bits, so does everything on the way.

Truncation keeps the sign, so it moves a value toward the left ordinate and never past
it.
-/

namespace MachineInt

/-- The values of `int64_t`. -/
def IsI64 (x : Int) : Prop := -2 ^ 63 ≤ x ∧ x < 2 ^ 63

instance (x : Int) : Decidable (IsI64 x) := inferInstanceAs (Decidable (_ ∧ _))

/-- The line through `(x0, y0)` and `(x1, y1)` at `x`. -/
def interpolate (x0 y0 x1 y1 x : Int) : Int := y0 + ((x - x0) * (y1 - y0)).tdiv (x1 - x0)

section

variable {x0 x1 x : Int}

/-- The step from the first ordinate goes toward the second, and not past it. -/
theorem interpolate_step (y0 y1 : Int) (hx : x0 < x1) (h0 : x0 ≤ x) (h1 : x ≤ x1) :
    (y0 ≤ y1 → y0 ≤ interpolate x0 y0 x1 y1 x ∧ interpolate x0 y0 x1 y1 x ≤ y1) ∧
    (y1 ≤ y0 → y1 ≤ interpolate x0 y0 x1 y1 x ∧ interpolate x0 y0 x1 y1 x ≤ y0) := by
  have hwidth : 0 < x1 - x0 := by omega
  have hrun : 0 ≤ x - x0 := by omega
  have hle : x - x0 ≤ x1 - x0 := by omega
  unfold interpolate
  constructor
  · intro hy
    have hlo : 0 * (x1 - x0) ≤ (x - x0) * (y1 - y0) := by
      rw [Int.zero_mul]
      exact Int.mul_nonneg hrun (by omega)
    have hhi : (x - x0) * (y1 - y0) ≤ (y1 - y0) * (x1 - x0) := by
      rw [Int.mul_comm (y1 - y0)]
      exact Int.mul_le_mul_of_nonneg_right hle (by omega)
    have := tdiv_mem hwidth hlo hhi
    omega
  · intro hy
    have hlo : (y1 - y0) * (x1 - x0) ≤ (x - x0) * (y1 - y0) := by
      rw [Int.mul_comm (y1 - y0)]
      exact Int.mul_le_mul_of_nonpos_right hle (by omega)
    have hhi : (x - x0) * (y1 - y0) ≤ 0 * (x1 - x0) := by
      rw [Int.zero_mul]
      exact Int.mul_nonpos_of_nonneg_of_nonpos hrun (by omega)
    have := tdiv_mem hwidth hlo hhi
    omega

/-- An interval with both ordinates has the interpolated value. -/
theorem interpolate_mem {y0 y1 lo hi : Int} (hx : x0 < x1) (h0 : x0 ≤ x) (h1 : x ≤ x1)
    (hy0 : lo ≤ y0 ∧ y0 ≤ hi) (hy1 : lo ≤ y1 ∧ y1 ≤ hi) :
    lo ≤ interpolate x0 y0 x1 y1 x ∧ interpolate x0 y0 x1 y1 x ≤ hi := by
  obtain ⟨hup, hdown⟩ := interpolate_step y0 y1 hx h0 h1
  rcases Int.le_total y0 y1 with hy | hy
  · have := hup hy
    omega
  · have := hdown hy
    omega

@[simp] theorem interpolate_left (x0 y0 x1 y1 : Int) : interpolate x0 y0 x1 y1 x0 = y0 := by
  simp [interpolate]

theorem interpolate_right (y0 y1 : Int) (hx : x0 < x1) : interpolate x0 y0 x1 y1 x1 = y1 := by
  have hwidth : x1 - x0 ≠ 0 := by omega
  rw [interpolate, Int.mul_tdiv_cancel_left _ hwidth]
  omega

theorem interpolate_neg (x0 y0 x1 y1 x : Int) :
    interpolate x0 (-y0) x1 (-y1) x = -interpolate x0 y0 x1 y1 x := by
  have hrise : (x - x0) * (-y1 - -y0) = -((x - x0) * (y1 - y0)) := by ring
  rw [interpolate, interpolate, hrise, Int.neg_tdiv]
  omega

/-- A rising line rises. -/
theorem interpolate_mono {y0 y1 x' : Int} (hx : x0 < x1) (hy : y0 ≤ y1) (h : x ≤ x') :
    interpolate x0 y0 x1 y1 x ≤ interpolate x0 y0 x1 y1 x' := by
  have hproduct : (x - x0) * (y1 - y0) ≤ (x' - x0) * (y1 - y0) :=
    Int.mul_le_mul_of_nonneg_right (by omega) (by omega)
  have hquotient := tdiv_mono (show 0 < x1 - x0 by omega) hproduct
  unfold interpolate
  omega

/-- Factors of `int32_t` have a product of 63 bits. -/
theorem mul_mem_of_isI32 {a b : Int} (ha : IsI32 a) (hb : IsI32 b) :
    -2 ^ 62 ≤ a * b ∧ a * b ≤ 2 ^ 62 := by
  unfold IsI32 i32Min i32Max at ha hb
  have habs : |a * b| ≤ 2 ^ 31 * 2 ^ 31 := by
    rw [abs_mul]
    exact mul_le_mul (abs_le.mpr (by omega)) (abs_le.mpr (by omega)) (abs_nonneg b) (by omega)
  have := abs_le.mp habs
  omega

/-- So it fits in `int64_t`. -/
theorem isI64_mul {a b : Int} (ha : IsI32 a) (hb : IsI32 b) : IsI64 (a * b) := by
  have := mul_mem_of_isI32 ha hb
  unfold IsI64
  omega

end

/-- Every operation of an interpolation in the type it is computed in: the
differences, the quotient and the sum in 32 bits, the product in 64. -/
structure InterpolationFits (x0 y0 x1 y1 x : Int) : Prop where
  run : IsI32 (x - x0)
  rise : IsI32 (y1 - y0)
  width : IsI32 (x1 - x0)
  product : IsI64 ((x - x0) * (y1 - y0))
  quotient : IsI32 (((x - x0) * (y1 - y0)).tdiv (x1 - x0))
  sum : IsI32 (interpolate x0 y0 x1 y1 x)

theorem interpolationFits_iff_and {x0 y0 x1 y1 x : Int} :
    InterpolationFits x0 y0 x1 y1 x ↔
      IsI32 (x - x0) ∧ IsI32 (y1 - y0) ∧ IsI32 (x1 - x0) ∧ IsI64 ((x - x0) * (y1 - y0)) ∧
        IsI32 (((x - x0) * (y1 - y0)).tdiv (x1 - x0)) ∧ IsI32 (interpolate x0 y0 x1 y1 x) := by
  constructor
  · intro h
    exact ⟨h.run, h.rise, h.width, h.product, h.quotient, h.sum⟩
  · rintro ⟨hrun, hrise, hwidth, hproduct, hquotient, hsum⟩
    exact ⟨hrun, hrise, hwidth, hproduct, hquotient, hsum⟩

instance (x0 y0 x1 y1 x : Int) : Decidable (InterpolationFits x0 y0 x1 y1 x) :=
  decidable_of_iff' _ interpolationFits_iff_and

/-- Width and rise decide it: the rest follows for ordinates of 32 bits. -/
theorem interpolationFits_iff {x0 y0 x1 y1 x : Int} (hx : x0 < x1) (h0 : x0 ≤ x) (h1 : x ≤ x1)
    (hy0 : IsI32 y0) (hy1 : IsI32 y1) :
    InterpolationFits x0 y0 x1 y1 x ↔ IsI32 (x1 - x0) ∧ IsI32 (y1 - y0) := by
  constructor
  · intro h
    exact ⟨h.width, h.rise⟩
  · rintro ⟨hwidth, hrise⟩
    have hrun : IsI32 (x - x0) := by
      unfold IsI32 i32Min i32Max at hwidth ⊢
      omega
    have hquotient : IsI32 (((x - x0) * (y1 - y0)).tdiv (x1 - x0)) := by
      obtain ⟨hup, hdown⟩ := interpolate_step y0 y1 hx h0 h1
      unfold interpolate at hup hdown
      unfold IsI32 i32Min i32Max at hrise ⊢
      rcases Int.le_total y0 y1 with hy | hy
      · have := hup hy
        omega
      · have := hdown hy
        omega
    exact ⟨hrun, hrise, hwidth, isI64_mul hrun hrise, hquotient, interpolate_mem hx h0 h1 hy0 hy1⟩

/-! ## Piecewise linear functions -/

/-- `f` interpolates between neighbouring points and is constant beyond the ends. -/
structure Piecewise (xs ys : Nat → Int) (count : Nat) (f : Int → Int) : Prop where
  pos : 0 < count
  ascending : ∀ i, i + 1 < count → xs i < xs (i + 1)
  below : ∀ x, x ≤ xs 0 → f x = ys 0
  above : ∀ x, xs (count - 1) ≤ x → f x = ys (count - 1)
  segment : ∀ i, i + 1 < count → ∀ x, xs i ≤ x → x ≤ xs (i + 1) →
    f x = interpolate (xs i) (ys i) (xs (i + 1)) (ys (i + 1)) x

/-- Neighbours in order, so all in order. -/
theorem le_of_neighbours {zs : Nat → Int} {count : Nat} (h : ∀ i, i + 1 < count → zs i ≤ zs (i + 1))
    {j k : Nat} (hjk : j ≤ k) (hk : k < count) : zs j ≤ zs k := by
  induction hjk with
  | refl => exact Int.le_refl _
  | step _ ih => exact Int.le_trans (ih (by omega)) (h _ hk)

/-- A value between the first point and a later one is between two neighbours. -/
theorem exists_neighbours {xs : Nat → Int} {x : Int} (h0 : xs 0 ≤ x) {k : Nat} (hk : x ≤ xs k) :
    x = xs 0 ∨ ∃ i < k, xs i ≤ x ∧ x ≤ xs (i + 1) := by
  induction k with
  | zero => exact .inl (Int.le_antisymm hk h0)
  | succ k ih =>
      by_cases hlast : xs k ≤ x
      · exact .inr ⟨k, Nat.lt_succ_self k, hlast, hk⟩
      · refine (ih (by omega)).imp_right ?_
        rintro ⟨i, hi, hbetween⟩
        exact ⟨i, Nat.lt_succ_of_lt hi, hbetween⟩

/-- A value is beyond an end, or between two neighbours. -/
theorem exists_segment (xs : Nat → Int) (count : Nat) (x : Int) :
    x ≤ xs 0 ∨ xs (count - 1) ≤ x ∨ ∃ i, i + 1 < count ∧ xs i ≤ x ∧ x ≤ xs (i + 1) := by
  by_cases h0 : x ≤ xs 0
  · exact .inl h0
  · by_cases h1 : xs (count - 1) ≤ x
    · exact .inr (.inl h1)
    · obtain heq | ⟨i, hi, hbetween⟩ := exists_neighbours (Int.le_of_not_le h0) (Int.le_of_not_le h1)
      · exact .inl (Int.le_of_eq heq)
      · exact .inr (.inr ⟨i, by omega, hbetween⟩)

namespace Piecewise

variable {xs ys : Nat → Int} {count : Nat} {f : Int → Int}

/-- **At a point** the value of the point. -/
theorem eq_at (h : Piecewise xs ys count f) {k : Nat} (hk : k < count) : f (xs k) = ys k := by
  by_cases hlast : k + 1 < count
  · have hx := h.ascending k hlast
    rw [h.segment k hlast _ (Int.le_refl _) (Int.le_of_lt hx), interpolate_left]
  · obtain rfl : k = count - 1 := by omega
    exact h.above _ (Int.le_refl _)

/-- **Between two points** a value between theirs. -/
theorem mem_segment (h : Piecewise xs ys count f) {i : Nat} (hi : i + 1 < count) {x : Int}
    (h0 : xs i ≤ x) (h1 : x ≤ xs (i + 1)) :
    min (ys i) (ys (i + 1)) ≤ f x ∧ f x ≤ max (ys i) (ys (i + 1)) := by
  rw [h.segment i hi x h0 h1]
  exact interpolate_mem (h.ascending i hi) h0 h1 ⟨by omega, by omega⟩ ⟨by omega, by omega⟩

section rising

variable (hrise : ∀ i, i + 1 < count → ys i ≤ ys (i + 1))
include hrise

/-- Every value is between those of the ends. -/
theorem mem_ends (h : Piecewise xs ys count f) (x : Int) : ys 0 ≤ f x ∧ f x ≤ ys (count - 1) := by
  have hpos := h.pos
  obtain h0 | h1 | ⟨i, hi, h0, h1⟩ := exists_segment xs count x
  · rw [h.below x h0]
    exact ⟨Int.le_refl _, le_of_neighbours hrise (Nat.zero_le _) (by omega)⟩
  · rw [h.above x h1]
    exact ⟨le_of_neighbours hrise (Nat.zero_le _) (by omega), Int.le_refl _⟩
  · have hmem := h.mem_segment hi h0 h1
    have hstep := hrise i hi
    have hfirst := le_of_neighbours hrise (Nat.zero_le i) (by omega)
    have hlast := @le_of_neighbours ys count hrise (i + 1) (count - 1) (by omega) (by omega)
    omega

/-- **Rising points** make a rising function. -/
theorem monotone (h : Piecewise xs ys count f) {x x' : Int} (hxx' : x ≤ x') : f x ≤ f x' := by
  have hends := h.mem_ends hrise
  obtain h0 | h1 | ⟨i, hi, h0, h1⟩ := exists_segment xs count x
  · rw [h.below x h0]
    exact (hends x').1
  · rw [h.above x h1, h.above x' (Int.le_trans h1 hxx')]
  · obtain h0' | h1' | ⟨i', hi', h0', h1'⟩ := exists_segment xs count x'
    · rw [h.below x (Int.le_trans hxx' h0')]
      exact (hends x').1
    · rw [h.above x' h1']
      exact (hends x).2
    · have hxs := fun j k hjk hk =>
        @le_of_neighbours xs count (fun i hi => Int.le_of_lt (h.ascending i hi)) j k hjk hk
      obtain hlt | heq | hgt := Nat.lt_trichotomy i i'
      · have hmem := h.mem_segment hi h0 h1
        have hmem' := h.mem_segment hi' h0' h1'
        have hstep := hrise i hi
        have hstep' := hrise i' hi'
        have hbetween := @le_of_neighbours ys count hrise (i + 1) i' hlt (by omega)
        omega
      · subst heq
        rw [h.segment i hi x h0 h1, h.segment i hi x' h0' h1']
        exact interpolate_mono (h.ascending i hi) (hrise i hi) hxx'
      · have hback := hxs (i' + 1) i hgt (by omega)
        obtain rfl : x = x' := by omega
        exact Int.le_refl _

end rising

theorem neg (h : Piecewise xs ys count f) : Piecewise xs (fun i => -ys i) count (fun x => -f x) where
  pos := h.pos
  ascending := h.ascending
  below x hx := by rw [h.below x hx]
  above x hx := by rw [h.above x hx]
  segment i hi x h0 h1 := by rw [h.segment i hi x h0 h1, interpolate_neg]

/-- **Falling points** make a falling function. -/
theorem antitone (h : Piecewise xs ys count f) (hfall : ∀ i, i + 1 < count → ys (i + 1) ≤ ys i)
    {x x' : Int} (hxx' : x ≤ x') : f x' ≤ f x := by
  have hneg := h.neg.monotone (fun i hi => Int.neg_le_neg (hfall i hi)) hxx'
  exact Int.neg_le_neg_iff.mp hneg

end Piecewise

end MachineInt
