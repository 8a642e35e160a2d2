import Mathlib.Tactic.Ring

/-!
# Little-endian numbers

The value of a list of bytes, least significant first, and the bytes of a number
in a given width.  The two are inverse to each other, also at the front of a
longer buffer.

A field of a buffer is thus read and written without regard to what stands behind it.
-/

namespace LittleEndian

/-- The value of a list of bytes. -/
def get : List UInt8 → Nat
  | [] => 0
  | b :: bs => b.toNat + 256 * get bs

/-- The low `n` bytes of a number. -/
def put : Nat → Nat → List UInt8
  | 0, _ => []
  | n + 1, v => UInt8.ofNat v :: put n (v / 256)

@[simp] theorem length_put (n v : Nat) : (put n v).length = n := by
  induction n generalizing v with
  | zero => rfl
  | succ n ih => simp [put, ih]

theorem get_lt (bs : List UInt8) : get bs < 256 ^ bs.length := by
  induction bs with
  | nil => simp [get]
  | cons b bs ih =>
      have hb : b.toNat < 256 := b.toNat_lt
      rw [List.length_cons, Nat.pow_succ]
      simp only [get]
      omega

/-- Reading back what was written. -/
theorem get_put {n v : Nat} (h : v < 256 ^ n) : get (put n v) = v := by
  induction n generalizing v with
  | zero =>
      rw [Nat.pow_zero, Nat.lt_one_iff] at h
      rw [h]
      rfl
  | succ n ih =>
      have hv : v / 256 < 256 ^ n := by
        rw [Nat.pow_succ] at h
        omega
      simp only [put, get, ih hv, UInt8.toNat_ofNat']
      omega

/-- Writing back what was read. -/
theorem put_get (bs : List UInt8) : put bs.length (get bs) = bs := by
  induction bs with
  | nil => rfl
  | cons b bs ih =>
      have hb : b.toNat < 256 := b.toNat_lt
      have hdiv : (b.toNat + 256 * get bs) / 256 = get bs := by omega
      have hmod : UInt8.ofNat (b.toNat + 256 * get bs) = b := by
        apply UInt8.toNat_inj.mp
        rw [UInt8.toNat_ofNat']
        omega
      simp only [List.length_cons, put, get, hdiv, hmod, ih]

/-- A number is written modulo its width. -/
theorem put_mod (n v : Nat) : put n (v % 256 ^ n) = put n v := by
  induction n generalizing v with
  | zero => rfl
  | succ n ih =>
      have hlow : UInt8.ofNat (v % 256 ^ (n + 1)) = UInt8.ofNat v := by
        apply UInt8.toNat_inj.mp
        rw [UInt8.toNat_ofNat', UInt8.toNat_ofNat', Nat.pow_succ]
        exact Nat.mod_mul_left_mod v (256 ^ n) 256
      have hhigh : v % 256 ^ (n + 1) / 256 = v / 256 % 256 ^ n := by
        rw [Nat.pow_succ, Nat.mul_comm]
        exact Nat.mod_mul_right_div_self v 256 (256 ^ n)
      rw [put, put, hlow, hhigh, ih]

theorem get_take_put_append {n v : Nat} (h : v < 256 ^ n) (rest : List UInt8) :
    get ((put n v ++ rest).take n) = v := by
  rw [List.take_append_of_le_length (Nat.le_of_eq (length_put n v).symm),
    List.take_of_length_le (Nat.le_of_eq (length_put n v)), get_put h]

/-- The front of a buffer, read and written back, and the rest. -/
theorem put_get_take_append {n : Nat} {p : List UInt8} (h : n ≤ p.length) :
    put n (get (p.take n)) ++ p.drop n = p := by
  have hlen : (p.take n).length = n := List.length_take_of_le h
  have hfront := put_get (p.take n)
  rw [hlen] at hfront
  rw [hfront, List.take_append_drop]

end LittleEndian
