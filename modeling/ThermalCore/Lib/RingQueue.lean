import ThermalCore.Lib.RingBuffer

/-!
# Ring queues

A queue kept in an array between a read index `tail` and a write index `head`
that both wrap, with one slot left free so that equal indices mean an empty
queue.  The contents are a list: a push appends to it, a pop takes its first
entry, and the two index tests of the code ask whether it is full or empty.
-/

namespace RingQueue

variable {α : Type*} [Inhabited α] {n : Nat} {v : Vector α n} {head tail : Nat} {xs : List α}

/-- The index after `i`. -/
def next (n i : Nat) : Nat := (i + 1) % n

/-- The slots from `tail` up to `head` hold `xs`, oldest first. -/
structure Holds (v : Vector α n) (head tail : Nat) (xs : List α) : Prop where
  room : xs.length < n
  tail_lt : tail < n
  head_eq : head = (tail + xs.length) % n
  slots : ∀ i < xs.length, xs[i]? = some (v.slot ((tail + i) % n))

theorem holds_nil (h : tail < n) : Holds v tail tail [] where
  room := Nat.lt_of_le_of_lt (Nat.zero_le _) h
  tail_lt := h
  head_eq := (Nat.mod_eq_of_lt h).symm
  slots i hi := absurd hi (Nat.not_lt_zero i)

namespace Holds

theorem head_lt (h : Holds v head tail xs) : head < n := by
  rw [h.head_eq]
  exact Nat.mod_lt _ (Nat.lt_of_le_of_lt (Nat.zero_le _) h.tail_lt)

/-- **Equal indices**: nothing is queued. -/
theorem empty_iff (h : Holds v head tail xs) : tail = head ↔ xs = [] := by
  rw [← List.length_eq_zero_iff, h.head_eq]
  constructor
  · intro heq
    by_contra hpos
    have hne := @RingBuffer.mod_ne_mod n tail (tail + xs.length) (by omega)
      (Nat.add_lt_add_left h.room tail)
    rw [Nat.mod_eq_of_lt h.tail_lt] at hne
    exact hne heq
  · intro hzero
    rw [hzero, Nat.add_zero, Nat.mod_eq_of_lt h.tail_lt]

/-- **The write index next to the read index**: all slots but the free one are
queued. -/
theorem full_iff (h : Holds v head tail xs) : next n head = tail ↔ xs.length = n - 1 := by
  have hroom := h.room
  have hnext : next n head = (tail + (xs.length + 1)) % n := by
    unfold next
    rw [h.head_eq, Nat.mod_add_mod, Nat.add_assoc]
  rw [hnext]
  constructor
  · intro heq
    by_contra hne
    have hlt := @RingBuffer.mod_ne_mod n tail (tail + (xs.length + 1)) (by omega) (by omega)
    rw [Nat.mod_eq_of_lt h.tail_lt] at hlt
    exact hlt heq.symm
  · intro heq
    rw [heq, Nat.sub_add_cancel (by omega), Nat.add_mod_right, Nat.mod_eq_of_lt h.tail_lt]

/-- **Push**: a queue that is not full takes an entry at its end. -/
theorem push (h : Holds v head tail xs) (hroom : xs.length + 1 < n) (x : α) :
    Holds (v.put head x) (next n head) tail (xs ++ [x]) where
  room := by
    rw [List.length_append, List.length_singleton]
    exact hroom
  tail_lt := h.tail_lt
  head_eq := by
    unfold next
    rw [h.head_eq, Nat.mod_add_mod, List.length_append, List.length_singleton, Nat.add_assoc]
  slots i hi := by
    rw [List.length_append, List.length_singleton] at hi
    by_cases hlast : i = xs.length
    · rw [hlast, ← h.head_eq, Vector.slot_put_self _ _ h.head_lt, List.getElem?_concat_length]
    · have hlt : i < xs.length := by omega
      have hne : head ≠ (tail + i) % n := by
        rw [h.head_eq]
        exact (RingBuffer.mod_ne_mod (by omega) (by omega)).symm
      rw [Vector.slot_put_ne _ _ hne, List.getElem?_append_left hlt]
      exact h.slots i hlt

/-- **Pop**: the entry at the read index is the oldest. -/
theorem pop {x : α} (h : Holds v head tail (x :: xs)) :
    v.slot tail = x ∧ Holds v head (next n tail) xs := by
  have hroom := h.room
  rw [List.length_cons] at hroom
  have hpos : 0 < n := by omega
  constructor
  · have hfirst := h.slots 0 (Nat.succ_pos _)
    rw [List.getElem?_cons_zero, Nat.add_zero, Nat.mod_eq_of_lt h.tail_lt, Option.some.injEq] at hfirst
    exact hfirst.symm
  · refine ⟨by omega, Nat.mod_lt _ hpos, ?_, ?_⟩
    · unfold next
      rw [h.head_eq, Nat.mod_add_mod, List.length_cons, Nat.add_assoc, Nat.add_comm 1]
    · intro i hi
      have hslot := h.slots (i + 1) (Nat.succ_lt_succ hi)
      unfold next
      rw [List.getElem?_cons_succ] at hslot
      rw [hslot, Nat.mod_add_mod, Nat.add_assoc, Nat.add_comm 1]

end Holds

end RingQueue
