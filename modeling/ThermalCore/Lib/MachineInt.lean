import Mathlib.Tactic.Ring
import Mathlib.Tactic.SplitIfs
import Mathlib.Algebra.Order.Group.Unbundled.Int

/-!
# Fixed-width C arithmetic over `Nat` and `Int`

Values of the C types `uint8_t`, `uint16_t`, `uint32_t`, `uint64_t` are naturals,
values of `int32_t` and `int64_t` integers.  A conversion or an operation whose
result may leave its type is wrapped where the program performs it: `u8` to `u64`
for unsigned naturals, `toU8`, `toU16`, `toU32` for integers converted to
unsigned, `i32` and `i64` for two's complement.  Integer division is C99's,
truncating toward zero (`Int.tdiv`).
-/

namespace MachineInt

/-! ## Conversions -/

/-- Conversion to `uint8_t`. -/
def u8 (n : Nat) : Nat := n % 2 ^ 8

/-- Conversion to `uint16_t`. -/
def u16 (n : Nat) : Nat := n % 2 ^ 16

/-- Conversion to `uint32_t`. -/
def u32 (n : Nat) : Nat := n % 2 ^ 32

/-- Conversion to `uint64_t`. -/
def u64 (n : Nat) : Nat := n % 2 ^ 64

/-- Conversion of a signed value to `uint8_t`. -/
def toU8 (x : Int) : Nat := (x % 2 ^ 8).toNat

/-- Conversion of a signed value to `uint16_t`. -/
def toU16 (x : Int) : Nat := (x % 2 ^ 16).toNat

/-- Conversion of a signed value to `uint32_t`. -/
def toU32 (x : Int) : Nat := (x % 2 ^ 32).toNat

/-- `(uint32_t)(a - b)`. -/
def subU32 (a b : Nat) : Nat := toU32 ((a : Int) - b)

/-- `a - b` in `uint64_t`. -/
def subU64 (a b : Nat) : Nat := (((a : Int) - b) % 2 ^ 64).toNat

/-- Two's complement wrap to 32 bits. -/
def i32 (x : Int) : Int := (x + 2 ^ 31) % 2 ^ 32 - 2 ^ 31

/-- Two's complement wrap to 64 bits. -/
def i64 (x : Int) : Int := (x + 2 ^ 63) % 2 ^ 64 - 2 ^ 63

/-- `INT32_MIN`. -/
def i32Min : Int := -2 ^ 31

/-- `INT32_MAX`. -/
def i32Max : Int := 2 ^ 31 - 1

/-- The values of `int32_t`. -/
def IsI32 (x : Int) : Prop := i32Min ≤ x ∧ x ≤ i32Max

instance (x : Int) : Decidable (IsI32 x) := inferInstanceAs (Decidable (_ ∧ _))

/-- Saturate to the range of `int32_t`. -/
def satI32 (x : Int) : Int := if x > i32Max then i32Max else if x < i32Min then i32Min else x

/-- A value that fits is kept. -/
theorem u16_of_lt {n : Nat} (h : n < 2 ^ 16) : u16 n = n := Nat.mod_eq_of_lt h

/-- A value that fits is kept. -/
theorem u32_of_lt {n : Nat} (h : n < 2 ^ 32) : u32 n = n := Nat.mod_eq_of_lt h

/-- A value that fits is kept. -/
theorem u64_of_lt {n : Nat} (h : n < 2 ^ 64) : u64 n = n := Nat.mod_eq_of_lt h

/-- What was added is left. -/
theorem subU64_add_left {a b : Nat} (h : a + b < 2 ^ 64) : subU64 (a + b) a = b := by
  unfold subU64
  omega

/-- A conversion fits its type. -/
theorem u16_lt (n : Nat) : u16 n < 2 ^ 16 := Nat.mod_lt _ (by decide)

/-- A conversion fits its type. -/
theorem u32_lt (n : Nat) : u32 n < 2 ^ 32 := Nat.mod_lt _ (by decide)

/-- A sum may be converted at its end. -/
theorem u16_add_u16 (a b : Nat) : u16 (u16 a + b) = u16 (a + b) := Nat.mod_add_mod ..

/-- A conversion does not make a value larger. -/
theorem u16_le (n : Nat) : u16 n ≤ n := Nat.mod_le _ _

/-- A wrapping difference fits its type. -/
theorem subU32_lt (a b : Nat) : subU32 a b < 2 ^ 32 := by
  unfold subU32 toU32
  omega

/-- A value that fits is kept. -/
theorem i32_of_isI32 {x : Int} (h : IsI32 x) : i32 x = x := by
  simp only [IsI32, i32Min, i32Max] at h
  simp only [i32]
  omega

/-- A conversion fits its type. -/
theorem isI32_i32 (x : Int) : IsI32 (i32 x) := by
  simp only [IsI32, i32Min, i32Max, i32]
  omega

/-- A value that fits is kept. -/
theorem i64_of_mem {x : Int} (hlo : -2 ^ 63 ≤ x) (hhi : x < 2 ^ 63) : i64 x = x := by
  simp only [i64]
  omega

/-- Wrapping after each addition is wrapping once. -/
theorem i64_add_i64 (x y : Int) : i64 (i64 x + y) = i64 (x + y) := by
  simp only [i64]
  omega

/-- A value that fits is not saturated. -/
theorem satI32_of_isI32 {x : Int} (h : IsI32 x) : satI32 x = x := by
  simp only [IsI32] at h
  simp only [satI32, if_neg (Int.not_lt.mpr h.2), if_neg (Int.not_lt.mpr h.1)]

/-- Saturation fits its type. -/
theorem isI32_satI32 (x : Int) : IsI32 (satI32 x) := by
  simp only [IsI32, satI32, i32Min, i32Max]
  split_ifs <;> omega

/-- Saturation is monotone. -/
theorem satI32_mono {x y : Int} (h : x ≤ y) : satI32 x ≤ satI32 y := by
  simp only [satI32, i32Min, i32Max]
  split_ifs <;> omega

/-! ## Q16.16 rounding -/

/-- `product / 2^16` rounded to nearest, halves away from zero, the way the
sign-aware double shift computes it. -/
def roundQ16 (product : Int) : Int :=
  if product ≥ 0 then (product + 32768) / 65536 else -((-product + 32768) / 65536)

/-- Rounding is monotone. -/
theorem roundQ16_mono {p q : Int} (h : p ≤ q) : roundQ16 p ≤ roundQ16 q := by
  simp only [roundQ16]
  split <;> split <;> omega

/-- Rounding halves away from zero treats the two signs alike. -/
theorem roundQ16_neg (p : Int) : roundQ16 (-p) = -roundQ16 p := by
  simp only [roundQ16]
  split <;> split <;> omega

/-- Less than a half rounds to zero. -/
theorem roundQ16_eq_zero_iff {p : Int} : roundQ16 p = 0 ↔ p.natAbs < 32768 := by
  simp only [roundQ16]
  split <;> omega

/-- A factor of at most one moves at most the whole difference. -/
theorem roundQ16_mul_mem {a d : Int} (h0 : 0 ≤ a) (h1 : a ≤ 65536) :
    (0 ≤ d → 0 ≤ roundQ16 (a * d) ∧ roundQ16 (a * d) ≤ d) ∧
    (d ≤ 0 → d ≤ roundQ16 (a * d) ∧ roundQ16 (a * d) ≤ 0) := by
  constructor
  · intro hd
    have hlo : 0 ≤ a * d := Int.mul_nonneg h0 hd
    have hhi : a * d ≤ 65536 * d := Int.mul_le_mul_of_nonneg_right h1 hd
    simp only [roundQ16, if_pos hlo]
    omega
  · intro hd
    have hlo : a * d ≤ 0 := Int.mul_nonpos_of_nonneg_of_nonpos h0 hd
    have hhi : 65536 * d ≤ a * d := Int.mul_le_mul_of_nonpos_right h1 hd
    simp only [roundQ16]
    split <;> omega

/-- One filter update is monotone in the previous value as well: raising it by
`k` lowers the rounded correction by at most `k`, for every factor up to one.
Rounding halves away from zero can lose one unit at a sign change, and only a
factor below one reaches a half. -/
theorem add_roundQ16_mono {a s f g : Int} (h0 : 0 ≤ a) (h1 : a ≤ 65536) (hfg : f ≤ g) :
    f + roundQ16 (a * (s - f)) ≤ g + roundQ16 (a * (s - g)) := by
  have hsplit : a * (s - f) = a * (s - g) + a * (g - f) := by ring
  have hk0 : 0 ≤ a * (g - f) := Int.mul_nonneg h0 (by omega)
  have hk1 : a * (g - f) ≤ 65536 * (g - f) := Int.mul_le_mul_of_nonneg_right h1 (by omega)
  rcases Int.lt_or_eq_of_le h1 with hlt | rfl
  · rcases Int.lt_or_eq_of_le hfg with hfg' | rfl
    · have hk2 : a * (g - f) < 65536 * (g - f) := Int.mul_lt_mul_of_pos_right hlt (by omega)
      rw [hsplit]
      simp only [roundQ16]
      split <;> split <;> omega
    · exact Int.le_refl _
  · simp only [roundQ16]
    split <;> split <;> omega

/-! ## Truncating division -/

/-- Truncating division is monotone. -/
theorem tdiv_mono {a b c : Int} (hc : 0 < c) (h : a ≤ b) : a.tdiv c ≤ b.tdiv c := by
  rcases Int.le_total 0 a with ha | ha
  · rw [Int.tdiv_eq_ediv_of_nonneg ha, Int.tdiv_eq_ediv_of_nonneg (Int.le_trans ha h)]
    exact Int.ediv_le_ediv hc h
  · rcases Int.le_total 0 b with hb | hb
    · have h1 : 0 ≤ (-a).tdiv c := Int.tdiv_nonneg (by omega) (Int.le_of_lt hc)
      have h2 : 0 ≤ b.tdiv c := Int.tdiv_nonneg hb (Int.le_of_lt hc)
      rw [Int.neg_tdiv] at h1
      omega
    · have h1 : (-b).tdiv c ≤ (-a).tdiv c := by
        rw [Int.tdiv_eq_ediv_of_nonneg (by omega), Int.tdiv_eq_ediv_of_nonneg (by omega)]
        exact Int.ediv_le_ediv hc (by omega)
      rw [Int.neg_tdiv, Int.neg_tdiv] at h1
      omega

/-- A quotient lies where its dividend lies between multiples of the divisor. -/
theorem tdiv_mem {lo hi s t : Int} (ht : 0 < t) (hlo : lo * t ≤ s) (hhi : s ≤ hi * t) :
    lo ≤ s.tdiv t ∧ s.tdiv t ≤ hi := by
  have hl := tdiv_mono ht hlo
  have hh := tdiv_mono ht hhi
  rw [Int.mul_tdiv_cancel _ (Int.ne_of_gt ht)] at hl hh
  exact ⟨hl, hh⟩

end MachineInt
