import Mathlib.Tactic.Common
import Mathlib.Logic.Function.Iterate
import Mathlib.Algebra.Ring.Parity

/-!
# Cyclic redundancy checks

A register of `w` bits takes a message most significant bit first.  The register
is linear in the message and the initial value, so two messages with the same
check differ by a pattern that leaves a zero register at zero.  No nonzero burst
of at most `w` bits is such a pattern, and where the polynomial has the factor
`x + 1` no pattern with an odd number of bits is.
-/

namespace Crc

variable {w : Nat}

/-- One shift of the register; `p` is the polynomial without its leading term. -/
def step (p r : BitVec w) : BitVec w := if r.msb = true then r <<< 1 ^^^ p else r <<< 1

/-- A bit at the top of the register. -/
def top (w : Nat) (b : Bool) : BitVec w := if b then BitVec.twoPow w (w - 1) else 0#w

/-- One bit of the message: into the top of the register, then a shift. -/
def feedBit (p r : BitVec w) (b : Bool) : BitVec w := step p (r ^^^ top w b)

/-- The register after a message. -/
def feed (p r : BitVec w) (bs : List Bool) : BitVec w := bs.foldl (feedBit p) r

/-- The bits of a message at the top of a register. -/
def align (w : Nat) : List Bool → BitVec w
  | [] => 0#w
  | b :: bs => top w b ^^^ align w bs >>> 1

/-! ## Linearity -/

/-- A shift is linear. -/
theorem step_xor (p r s : BitVec w) : step p (r ^^^ s) = step p r ^^^ step p s := by
  unfold step
  rw [BitVec.msb_xor, BitVec.shiftLeft_xor_distrib]
  cases r.msb <;> cases s.msb
  · simp
  · simp [BitVec.xor_assoc]
  · simp only [Bool.xor_false, if_true, Bool.false_eq_true, if_false]
    rw [BitVec.xor_assoc, BitVec.xor_comm (s <<< 1) p, ← BitVec.xor_assoc]
  · simp only [Bool.xor_self, Bool.false_eq_true, if_false, if_true]
    rw [BitVec.xor_assoc (r <<< 1) p, BitVec.xor_comm (s <<< 1) p, ← BitVec.xor_assoc p p, BitVec.xor_self,
      BitVec.zero_xor]

/-- A shift leaves zero at zero. -/
@[simp] theorem step_zero (p : BitVec w) : step p 0#w = 0#w := by
  unfold step
  simp

/-- Two bits at the top. -/
theorem top_xor (a b : Bool) : top w (a ^^ b) = top w a ^^^ top w b := by
  cases a <;> cases b <;> simp [top]

/-- Feeding a bit is linear. -/
theorem feedBit_xor (p r s : BitVec w) (a b : Bool) :
    feedBit p (r ^^^ s) (a ^^ b) = feedBit p r a ^^^ feedBit p s b := by
  unfold feedBit
  rw [top_xor, ← step_xor]
  congr 1
  rw [BitVec.xor_assoc, BitVec.xor_assoc, ← BitVec.xor_assoc s, BitVec.xor_comm s (top w a),
    BitVec.xor_assoc]

/-- Nothing fed. -/
@[simp] theorem feed_nil (p r : BitVec w) : feed p r [] = r := rfl

/-- The first bit is fed first. -/
@[simp] theorem feed_cons (p r : BitVec w) (b : Bool) (bs : List Bool) :
    feed p r (b :: bs) = feed p (feedBit p r b) bs := rfl

/-- A message in two parts. -/
theorem feed_append (p r : BitVec w) (xs ys : List Bool) :
    feed p r (xs ++ ys) = feed p (feed p r xs) ys := List.foldl_append

/-- Feeding is linear in the message and the register. -/
theorem feed_xor (p : BitVec w) {xs ys : List Bool} (h : xs.length = ys.length) (r s : BitVec w) :
    feed p (r ^^^ s) (List.zipWith xor xs ys) = feed p r xs ^^^ feed p s ys := by
  induction xs generalizing ys r s with
  | nil =>
      cases ys with
      | nil => rfl
      | cons y ys => cases h
  | cons x xs ih =>
      cases ys with
      | nil => cases h
      | cons y ys =>
          have htail : xs.length = ys.length := Nat.succ.inj h
          rw [List.zipWith_cons_cons, feed_cons, feed_cons, feed_cons, ← ih htail, feedBit_xor]

/-- Two messages of one length with the same check differ by a pattern that leaves
a zero register at zero. -/
theorem feed_difference {p r : BitVec w} {xs ys : List Bool} (h : xs.length = ys.length)
    (heq : feed p r xs = feed p r ys) : feed p 0#w (List.zipWith xor xs ys) = 0#w := by
  have hzero : r ^^^ r = 0#w := BitVec.xor_self
  rw [← hzero, feed_xor p h, heq]
  simp

/-! ## Alignment -/

/-- The bits of a register with one bit at its top. -/
theorem getMsbD_top (b : Bool) {i : Nat} (h : i < w) :
    (top w b).getMsbD i = (b && decide (i = 0)) := by
  unfold top
  cases b
  · simp
  · simp only [if_true, BitVec.getMsbD_eq_getLsbD, BitVec.getLsbD_twoPow, Bool.true_and]
    by_cases hi : i = 0
    · subst hi
      simp [Nat.sub_one_lt_of_lt h, h]
    · have hne : w - 1 ≠ w - 1 - i := by omega
      simp [hi, hne]

/-- The register holds the message bits from the top down, then zeros. -/
theorem getMsbD_align (bs : List Bool) {i : Nat} (h : i < w) :
    (align w bs).getMsbD i = bs.getD i false := by
  induction bs generalizing i with
  | nil => simp [align]
  | cons b bs ih =>
      have hshift : (align w bs >>> 1).getMsbD i = (decide (0 < i) && bs.getD (i - 1) false) := by
        rw [BitVec.getMsbD_ushiftRight, ih (by omega)]
        by_cases hi : i < 1
        · simp [Nat.lt_one_iff.mp hi]
        · have hpos : 0 < i := Nat.not_lt.mp hi
          simp [hi, h, hpos]
      simp only [align, BitVec.getMsbD_xor, getMsbD_top b h, hshift]
      cases i with
      | zero => simp
      | succ i => simp

/-- There is room for one more bit below a message shorter than the register. -/
theorem align_ushiftRight_shiftLeft {bs : List Bool} (h : bs.length < w) :
    align w bs >>> 1 <<< 1 = align w bs := by
  apply BitVec.eq_of_getMsbD_eq
  intro i hi
  rw [BitVec.getMsbD_shiftLeft, BitVec.getMsbD_ushiftRight, Nat.add_sub_cancel]
  by_cases hlast : i + 1 < w
  · simp [hlast]
  · have hzero : (align w bs).getMsbD i = false := by
      rw [getMsbD_align bs hi, List.getD_eq_getElem?_getD, List.getElem?_eq_none (by omega)]
      rfl
    simp [hlast, hzero]

/-- A register shifted right has its top bit clear. -/
theorem msb_ushiftRight_one (r : BitVec w) : (r >>> 1).msb = false := by
  simp [BitVec.msb_ushiftRight]

/-- A pattern moved down by a place comes back up. -/
theorem step_align {p : BitVec w} {bs : List Bool} (h : bs.length < w) :
    step p (align w bs >>> 1) = align w bs := by
  unfold step
  rw [msb_ushiftRight_one, if_neg (by decide)]
  exact align_ushiftRight_shiftLeft h

/-- A message that fits into the register can be put there at once. -/
theorem feed_eq_iterate_step {p : BitVec w} {bs : List Bool} (h : bs.length ≤ w) (r : BitVec w) :
    feed p r bs = (step p)^[bs.length] (r ^^^ align w bs) := by
  induction bs generalizing r with
  | nil => simp [align]
  | cons b bs ih =>
      have hlt : bs.length < w := h
      have hstep : step p (r ^^^ align w (b :: bs)) = feedBit p r b ^^^ align w bs := by
        unfold feedBit
        rw [align, ← BitVec.xor_assoc, step_xor, step_align hlt]
      rw [feed_cons, ih (Nat.le_of_lt hlt), List.length_cons, Function.iterate_succ_apply, hstep]

/-! ## Bursts -/

/-- A difference pattern whose changed bits lie among `n` consecutive ones. -/
def IsBurst (n : Nat) (d : List Bool) : Prop :=
  ∃ before burst after, d = List.replicate before false ++ burst ++ List.replicate after false ∧
    burst.length ≤ n ∧ true ∈ burst

/-- With a constant term in the polynomial no register but zero shifts to zero. -/
theorem step_eq_zero_iff {p : BitVec w} (hp : p.getLsbD 0 = true) (r : BitVec w) :
    step p r = 0#w ↔ r = 0#w := by
  constructor
  · intro h
    unfold step at h
    by_cases hmsb : r.msb = true
    · rw [if_pos hmsb, BitVec.xor_eq_zero_iff] at h
      have hbit : (r <<< 1).getLsbD 0 = true := by rw [h, hp]
      simp at hbit
    · rw [if_neg hmsb] at h
      apply BitVec.eq_of_getMsbD_eq
      intro i hi
      cases i with
      | zero => simpa [BitVec.msb_eq_getMsbD_zero] using hmsb
      | succ i =>
          have hbit : (r <<< 1).getMsbD i = false := by rw [h, BitVec.getMsbD_zero]
          rw [BitVec.getMsbD_shiftLeft] at hbit
          rw [hbit, BitVec.getMsbD_zero]
  · rintro rfl
    exact step_zero p

/-- With a constant term shifts do not make a register zero. -/
theorem iterate_step_eq_zero_iff {p : BitVec w} (hp : p.getLsbD 0 = true) (n : Nat) (r : BitVec w) :
    (step p)^[n] r = 0#w ↔ r = 0#w := by
  induction n generalizing r with
  | zero => rfl
  | succ n ih => rw [Function.iterate_succ_apply, ih, step_eq_zero_iff hp]

/-- Nor do zeros behind a pattern. -/
theorem feed_replicate_false {p : BitVec w} (hp : p.getLsbD 0 = true) (n : Nat) (r : BitVec w) :
    feed p r (List.replicate n false) = 0#w ↔ r = 0#w := by
  induction n generalizing r with
  | zero => rfl
  | succ n ih =>
      rw [List.replicate_succ, feed_cons, ih]
      unfold feedBit top
      simpa using step_eq_zero_iff hp r

/-- A short nonzero message does not bring the register back to zero. -/
theorem feed_ne_zero_of_length_le {p : BitVec w} (hp : p.getLsbD 0 = true) {bs : List Bool}
    (hlen : bs.length ≤ w) (hbs : true ∈ bs) : feed p 0#w bs ≠ 0#w := by
  intro h
  rw [feed_eq_iterate_step hlen, iterate_step_eq_zero_iff hp, BitVec.zero_xor] at h
  obtain ⟨i, hi, hbit⟩ := List.mem_iff_getElem.mp hbs
  have hget := getMsbD_align (w := w) bs (Nat.lt_of_lt_of_le hi hlen)
  rw [h, BitVec.getMsbD_zero, List.getD_eq_getElem?_getD, List.getElem?_eq_getElem hi, hbit] at hget
  cases hget

/-- A check of `w` bits sees every burst of at most `w` bits. -/
theorem feed_ne_zero_of_isBurst {p : BitVec w} (hp : p.getLsbD 0 = true) {d : List Bool}
    (hd : IsBurst w d) : feed p 0#w d ≠ 0#w := by
  obtain ⟨before, burst, after, rfl, hlen, hburst⟩ := hd
  rw [feed_append, feed_append, Ne, feed_replicate_false hp, (feed_replicate_false hp before 0#w).mpr rfl]
  exact feed_ne_zero_of_length_le hp hlen hburst

/-! ## Parity -/

/-- The parity of a message. -/
def parity (bs : List Bool) : Bool := bs.foldr xor false

/-- The parity of the low `n` bits of a register. -/
def parityBelow (r : BitVec w) : Nat → Bool
  | 0 => false
  | n + 1 => parityBelow r n ^^ r.getLsbD n

/-- The parity of a register. -/
def regParity (r : BitVec w) : Bool := parityBelow r w

/-- The parity of nothing. -/
@[simp] theorem parity_nil : parity [] = false := rfl

/-- The parity of one bit more. -/
@[simp] theorem parity_cons (b : Bool) (bs : List Bool) : parity (b :: bs) = (b ^^ parity bs) := rfl

/-- The parity of two parts. -/
theorem parity_append (xs ys : List Bool) : parity (xs ++ ys) = (parity xs ^^ parity ys) := by
  induction xs with
  | nil => simp
  | cons x xs ih => simp [ih]

/-- The parity of a difference. -/
theorem parity_zipWith_xor {xs ys : List Bool} (h : xs.length = ys.length) :
    parity (List.zipWith xor xs ys) = (parity xs ^^ parity ys) := by
  induction xs generalizing ys with
  | nil =>
      cases ys with
      | nil => rfl
      | cons y ys => cases h
  | cons x xs ih =>
      cases ys with
      | nil => cases h
      | cons y ys =>
          simp only [List.zipWith_cons_cons, parity_cons, ih (Nat.succ.inj h)]
          cases x <;> cases y <;> simp

/-- A pattern has odd parity when an odd number of its bits are set. -/
theorem parity_iff_odd_count (bs : List Bool) : parity bs = true ↔ Odd (bs.count true) := by
  induction bs with
  | nil => simp
  | cons b bs ih =>
      cases b
      · simpa using ih
      · rw [parity_cons, List.count_cons_self, Nat.odd_add_one, ← ih]
        simp

/-- The parity of a prefix is linear. -/
theorem parityBelow_xor (r s : BitVec w) (n : Nat) :
    parityBelow (r ^^^ s) n = (parityBelow r n ^^ parityBelow s n) := by
  induction n with
  | zero => rfl
  | succ n ih =>
      simp only [parityBelow, ih, BitVec.getLsbD_xor]
      cases parityBelow r n <;> cases r.getLsbD n <;> simp

/-- The parity of a register is linear. -/
theorem regParity_xor (r s : BitVec w) : regParity (r ^^^ s) = (regParity r ^^ regParity s) :=
  parityBelow_xor r s w

/-- The parity of zero. -/
theorem parityBelow_zero (n : Nat) : parityBelow 0#w n = false := by
  induction n with
  | zero => rfl
  | succ n ih => simp [parityBelow, ih]

/-- Shifting moves every bit one place up. -/
theorem parityBelow_shiftLeft (r : BitVec w) {n : Nat} (h : n < w) :
    parityBelow (r <<< 1) (n + 1) = parityBelow r n := by
  induction n with
  | zero => simp [parityBelow]
  | succ n ih =>
      have hbit : (r <<< 1).getLsbD (n + 1) = r.getLsbD n := by
        rw [BitVec.getLsbD_shiftLeft]
        simp only [h, decide_true, Bool.true_and, Nat.add_sub_cancel]
        simp
      rw [parityBelow, ih (by omega), hbit]
      rfl

/-- The bit a shift pushes out is what the parity loses. -/
theorem regParity_shiftLeft (r : BitVec w) : regParity (r <<< 1) = (regParity r ^^ r.msb) := by
  unfold regParity
  cases w with
  | zero => simp [parityBelow, BitVec.eq_nil r]
  | succ n =>
      rw [parityBelow_shiftLeft r (Nat.lt_succ_self n), parityBelow, BitVec.msb_eq_getLsbD_last]
      simp

/-- A polynomial with the factor `x + 1` keeps the parity of the register. -/
theorem regParity_step {p : BitVec w} (hp : regParity p = true) (r : BitVec w) :
    regParity (step p r) = regParity r := by
  unfold step
  cases hmsb : r.msb
  · simp [regParity_shiftLeft, hmsb]
  · simp [regParity_xor, regParity_shiftLeft, hmsb, hp]

/-- The parity of a register with one bit at its top. -/
theorem regParity_top (hw : 0 < w) (b : Bool) : regParity (top w b) = b := by
  have hshift := regParity_shiftLeft (top w b)
  have hmsb : (top w b).msb = b := by
    rw [BitVec.msb_eq_getMsbD_zero, getMsbD_top b hw]
    simp
  have hzero : top w b <<< 1 = 0#w := by
    apply BitVec.eq_of_getMsbD_eq
    intro i hi
    rw [BitVec.getMsbD_shiftLeft, BitVec.getMsbD_zero]
    by_cases hlast : i + 1 < w
    · simp [getMsbD_top b hlast]
    · simp [BitVec.getMsbD, hlast]
  have hparity : regParity 0#w = false := parityBelow_zero w
  rw [hzero, hparity, hmsb] at hshift
  exact bne_eq_false_iff_eq.mp hshift.symm

/-- The parity of the register is the parity of what it started from and took in. -/
theorem regParity_feed {p : BitVec w} (hw : 0 < w) (hp : regParity p = true) (r : BitVec w)
    (bs : List Bool) : regParity (feed p r bs) = (regParity r ^^ parity bs) := by
  induction bs generalizing r with
  | nil => simp
  | cons b bs ih =>
      have hbit : regParity (feedBit p r b) = (regParity r ^^ b) := by
        unfold feedBit
        rw [regParity_step hp, regParity_xor, regParity_top hw]
      rw [feed_cons, ih, hbit, parity_cons, Bool.xor_assoc]

/-- The parity of a pattern in a register. -/
theorem regParity_align {bs : List Bool} (h : bs.length ≤ w) : regParity (align w bs) = parity bs := by
  induction bs with
  | nil => exact parityBelow_zero w
  | cons b bs ih =>
      have hlt : bs.length < w := h
      have hshift := regParity_shiftLeft (align w bs >>> 1)
      rw [align_ushiftRight_shiftLeft hlt, ih (Nat.le_of_lt hlt), msb_ushiftRight_one, Bool.xor_false]
        at hshift
      rw [align, regParity_xor, regParity_top (Nat.lt_of_le_of_lt (Nat.zero_le _) hlt), ← hshift, parity_cons]

end Crc
