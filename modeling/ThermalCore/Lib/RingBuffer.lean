import ThermalCore.Lib.FixedArray

/-!
# Ring buffers

An array of which the first `size` slots are written in turn, entry `j` of the
sequence pushed so far at slot `j % size`.  The slots then hold the last `size`
entries, and only those: what is read from them is stated in terms of the
sequence.
-/

namespace RingBuffer

/-- Fewer than `size` entries apart, two entries lie in different slots. -/
theorem mod_ne_mod {size i j : Nat} (hij : i < j) (hj : j < i + size) : i % size ≠ j % size := by
  intro h
  have hdvd : size ∣ j - i := Nat.dvd_of_mod_eq_zero (Nat.sub_mod_eq_zero_of_mod_eq h.symm)
  have hle : size ≤ j - i := Nat.le_of_dvd (by omega) hdvd
  omega

/-- Every slot is that of some index among the last `size`. -/
theorem exists_recent {size len i : Nat} (hsize : 0 < size) (hfull : size ≤ len) (hi : i < size) :
    ∃ j < len, len ≤ j + size ∧ j % size = i := by
  have hdiv : size * (len / size) + len % size = len := Nat.div_add_mod _ _
  have hmod : len % size < size := Nat.mod_lt _ hsize
  by_cases hlt : i < len % size
  · refine ⟨size * (len / size) + i, by omega, by omega, ?_⟩
    rw [Nat.mul_add_mod]
    exact Nat.mod_eq_of_lt hi
  · have hpos : 0 < len / size := Nat.div_pos hfull hsize
    have hprev : size * (len / size - 1) + size = size * (len / size) := by
      rw [← Nat.mul_succ]
      congr 1
      omega
    refine ⟨size * (len / size - 1) + i, by omega, by omega, ?_⟩
    rw [Nat.mul_add_mod]
    exact Nat.mod_eq_of_lt hi

variable {α : Type*} [Inhabited α] {n : Nat} {v : Vector α n} {size : Nat} {xs : List α}

/-- The ring holds the last entries of `xs`. -/
def Holds (v : Vector α n) (size : Nat) (xs : List α) : Prop :=
  ∀ j < xs.length, xs.length ≤ j + size → xs[j]? = some (v.slot (j % size))

theorem holds_nil : Holds v size [] := by
  intro j hj
  contradiction

/-- **Pushing** overwrites the oldest entry. -/
theorem Holds.push (h : Holds v size xs) (hsize : 0 < size) (hn : size ≤ n) (x : α) :
    Holds (v.put (xs.length % size) x) size (xs ++ [x]) := by
  intro j hj hrecent
  rw [List.length_append, List.length_singleton] at hj hrecent
  by_cases hlast : j = xs.length
  · subst hlast
    have hslot : xs.length % size < n := Nat.lt_of_lt_of_le (Nat.mod_lt _ hsize) hn
    rw [Vector.slot_put_self _ _ hslot, List.getElem?_concat_length]
  · have hlt : j < xs.length := by omega
    have hne : xs.length % size ≠ j % size := (mod_ne_mod hlt (by omega)).symm
    rw [Vector.slot_put_ne _ _ hne, List.getElem?_append_left hlt]
    exact h j hlt (by omega)

/-- **What the ring holds**: a property of all slots of a full ring is one of the
last `size` entries. -/
theorem Holds.forall_slot_iff (h : Holds v size xs) (hsize : 0 < size) (hfull : size ≤ xs.length)
    {P : α → Prop} :
    (∀ i < size, P (v.slot i)) ↔ ∀ x ∈ xs.drop (xs.length - size), P x := by
  constructor
  · intro hslots x hx
    obtain ⟨k, hk, rfl⟩ := List.mem_iff_getElem.mp hx
    rw [List.length_drop] at hk
    have hslot := h (xs.length - size + k) (by omega) (by omega)
    rw [List.getElem?_eq_getElem (by omega), Option.some.injEq] at hslot
    rw [List.getElem_drop, hslot]
    exact hslots _ (Nat.mod_lt _ hsize)
  · intro hall i hi
    obtain ⟨j, hj, hrecent, rfl⟩ := exists_recent hsize hfull hi
    have hslot := h j hj hrecent
    refine hall _ (List.mem_of_getElem? (i := j - (xs.length - size)) ?_)
    rw [List.getElem?_drop, ← hslot]
    congr 1
    omega

end RingBuffer
