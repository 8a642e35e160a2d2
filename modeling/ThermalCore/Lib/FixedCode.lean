import Mathlib.Data.List.Flatten
import ThermalCore.Lib.LittleEndian

/-!
# Encodings of a fixed length

Values written one after the other, each in a width of its own: two streams are
equal exactly when they are equal part by part.  A counted array is written to
its full size, with a filler past the count, and a string to its full size with
zeros past its end.
-/

namespace FixedCode

/-- Two streams with a first part of one length. -/
theorem append_inj_iff {α : Type*} {a a' b b' : List α} (h : a.length = a'.length) :
    a ++ b = a' ++ b' ↔ a = a' ∧ b = b' := by
  constructor
  · exact fun heq => List.append_inj heq h
  · rintro ⟨rfl, rfl⟩
    rfl

/-! ## Numbers -/

/-- Numbers that fit their width. -/
theorem put_inj_iff {n v v' : Nat} (h : v < 256 ^ n) (h' : v' < 256 ^ n) :
    LittleEndian.put n v = LittleEndian.put n v' ↔ v = v' := by
  constructor
  · intro heq
    rw [← LittleEndian.get_put h, heq, LittleEndian.get_put h']
  · exact congrArg _

/-! ## Arrays -/

section slots

variable {α β : Type*}

/-- `for (i = 0; i < max; i++) w(i)`. -/
def slots (max : Nat) (w : Nat → List β) : List β := (List.range max).flatMap w

theorem slots_succ (max : Nat) (w : Nat → List β) : slots (max + 1) w = slots max w ++ w max := by
  unfold slots
  rw [List.range_succ, List.flatMap_append, List.flatMap_singleton]

theorem length_slots {max n : Nat} {w : Nat → List β} (h : ∀ i < max, (w i).length = n) :
    (slots max w).length = max * n := by
  induction max with
  | zero => simp [slots]
  | succ max ih =>
      rw [slots_succ, List.length_append, ih fun i hi => h i (Nat.lt_succ_of_lt hi),
        h max (Nat.lt_succ_self max), Nat.succ_mul]

/-- Two arrays of entries of one length. -/
theorem slots_inj_iff {max n : Nat} {w w' : Nat → List β} (h : ∀ i < max, (w i).length = n)
    (h' : ∀ i < max, (w' i).length = n) : slots max w = slots max w' ↔ ∀ i < max, w i = w' i := by
  induction max with
  | zero => simp [slots]
  | succ max ih =>
      have hw := fun i hi => h i (Nat.lt_succ_of_lt hi)
      have hw' := fun i hi => h' i (Nat.lt_succ_of_lt hi)
      rw [slots_succ, slots_succ, append_inj_iff ((length_slots hw).trans (length_slots hw').symm), ih hw hw',
        Nat.forall_lt_succ_right]

/-- Two arrays with one count: the entries past it do not matter. -/
theorem counted_inj_iff {max n count : Nat} {w : α → Bool → List β} {f f' : Nat → α}
    (hlen : ∀ x active, (w x active).length = n) (hoff : ∀ x y, w x false = w y false) :
    (slots max fun i => w (f i) (decide (i < count))) = (slots max fun i => w (f' i) (decide (i < count))) ↔
      ∀ i < max, i < count → w (f i) true = w (f' i) true := by
  rw [slots_inj_iff (fun i _ => hlen _ _) (fun i _ => hlen _ _)]
  refine forall₂_congr fun i _ => ?_
  by_cases hi : i < count
  · simp [hi]
  · simp [hi, hoff (f i) (f' i)]

end slots

/-! ## Strings -/

section padded

variable {α : Type*} [DecidableEq α] {z : α}

theorem takeWhile_append_replicate {l : List α} (h : ∀ x ∈ l, x ≠ z) (k : Nat) :
    (l ++ List.replicate k z).takeWhile (· ≠ z) = l := by
  induction l with
  | nil => cases k <;> simp [List.replicate_succ]
  | cons x l ih =>
      have hx : x ≠ z := h x (List.mem_cons_self ..)
      rw [List.cons_append, List.takeWhile_cons_of_pos (by simpa using hx),
        ih fun y hy => h y (List.mem_cons_of_mem x hy)]

/-- Two strings without the terminator, padded with it. -/
theorem padded_inj {l l' : List α} (h : ∀ x ∈ l, x ≠ z) (h' : ∀ x ∈ l', x ≠ z) {k k' : Nat}
    (heq : l ++ List.replicate k z = l' ++ List.replicate k' z) : l = l' := by
  rw [← takeWhile_append_replicate h k, heq, takeWhile_append_replicate h' k']

end padded

end FixedCode
