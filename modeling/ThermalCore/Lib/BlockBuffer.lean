import ThermalCore.Lib.FixedArray

/-!
# Block buffers

A function of whole blocks fed piece by piece: a list is cut into its full blocks
and a rest shorter than one, a piece continues from the rest of what came before,
and `copy` moves bytes into the array that keeps the rest.

The blocks of two pieces are those of the first, and those of the second behind the
first's rest.  A program that keeps the rest in an array and processes each block as
it fills thus gives the same result however its input is cut.
-/

namespace BlockBuffer

section cut

variable {β : Type*} {n : Nat}

/-- The full blocks at the front of a list. -/
def blocks (n : Nat) (xs : List β) : List (List β) :=
  if 0 < n ∧ n ≤ xs.length then xs.take n :: blocks n (xs.drop n) else []
termination_by xs.length
decreasing_by
  rw [List.length_drop]
  omega

/-- What is left after the full blocks. -/
def rest (n : Nat) (xs : List β) : List β :=
  if 0 < n ∧ n ≤ xs.length then rest n (xs.drop n) else xs
termination_by xs.length
decreasing_by
  rw [List.length_drop]
  omega

/-- Less than a block has no block in it. -/
theorem blocks_of_lt {xs : List β} (h : xs.length < n) : blocks n xs = [] := by
  rw [blocks, if_neg (by omega)]

/-- Less than a block is all rest. -/
theorem rest_of_lt {xs : List β} (h : xs.length < n) : rest n xs = xs := by
  rw [rest, if_neg (by omega)]

/-- The first block, and the blocks behind it. -/
theorem blocks_of_le {xs : List β} (hn : 0 < n) (h : n ≤ xs.length) :
    blocks n xs = xs.take n :: blocks n (xs.drop n) := by
  rw [blocks, if_pos ⟨hn, h⟩]

/-- The rest is that of what is behind the first block. -/
theorem rest_of_le {xs : List β} (hn : 0 < n) (h : n ≤ xs.length) :
    rest n xs = rest n (xs.drop n) := by
  rw [rest, if_pos ⟨hn, h⟩]

/-- A block in front is the first of the full blocks. -/
theorem blocks_append_of_length {block xs : List β} (hn : 0 < n) (h : block.length = n) :
    blocks n (block ++ xs) = block :: blocks n xs := by
  rw [blocks_of_le hn (by simp [h])]
  simp [← h]

/-- A block in front does not change the rest. -/
theorem rest_append_of_length {block xs : List β} (hn : 0 < n) (h : block.length = n) :
    rest n (block ++ xs) = rest n xs := by
  rw [rest_of_le hn (by simp [h])]
  simp [← h]

/-- No blocks of nothing. -/
@[simp] theorem blocks_nil (n : Nat) : blocks n ([] : List β) = [] := by
  rw [blocks, if_neg (by simp; omega)]

/-- No rest of nothing. -/
@[simp] theorem rest_nil (n : Nat) : rest n ([] : List β) = [] := by
  rw [rest, if_neg (by simp; omega)]

/-- One block has no rest. -/
theorem blocks_of_length {block : List β} (hn : 0 < n) (h : block.length = n) :
    blocks n block = [block] := by
  have hcons := @blocks_append_of_length _ _ block [] hn h
  rwa [List.append_nil, blocks_nil] at hcons

/-- One block leaves no rest. -/
theorem rest_of_length {block : List β} (hn : 0 < n) (h : block.length = n) :
    rest n block = [] := by
  have hcons := @rest_append_of_length _ _ block [] hn h
  rwa [List.append_nil, rest_nil] at hcons

/-- The rest is shorter than a block. -/
theorem length_rest_lt (hn : 0 < n) (xs : List β) : (rest n xs).length < n := by
  induction xs using rest.induct n with
  | case1 xs h ih => rwa [rest_of_le hn h.2]
  | case2 xs h => rw [rest_of_lt] <;> omega

/-- Nothing is lost. -/
theorem flatten_blocks_append_rest (xs : List β) : (blocks n xs).flatten ++ rest n xs = xs := by
  induction xs using rest.induct n with
  | case1 xs h ih => simp [blocks_of_le h.1 h.2, rest_of_le h.1 h.2, ih]
  | case2 xs h => rw [blocks, rest, if_neg h, if_neg h, List.flatten_nil, List.nil_append]

/-- How many blocks there are. -/
theorem length_blocks (hn : 0 < n) (xs : List β) : (blocks n xs).length = xs.length / n := by
  induction xs using rest.induct n with
  | case1 xs h ih =>
      rw [blocks_of_le h.1 h.2, List.length_cons, ih, List.length_drop, Nat.div_eq_sub_div hn h.2]
  | case2 xs h =>
      have hlt : xs.length < n := by omega
      rw [blocks_of_lt hlt, Nat.div_eq_of_lt hlt, List.length_nil]

/-- How long the rest is. -/
theorem length_rest (hn : 0 < n) (xs : List β) : xs.length % n = (rest n xs).length := by
  induction xs using rest.induct n with
  | case1 xs h ih => rw [rest_of_le h.1 h.2, ← ih, List.length_drop, Nat.mod_eq_sub_mod h.2]
  | case2 xs h =>
      have hlt : xs.length < n := by omega
      rw [rest_of_lt hlt, Nat.mod_eq_of_lt hlt]

/-- **A piece** continues from the rest of what came before. -/
theorem blocks_append (hn : 0 < n) (xs ys : List β) :
    blocks n (xs ++ ys) = blocks n xs ++ blocks n (rest n xs ++ ys) := by
  induction xs using rest.induct n with
  | case1 xs h ih =>
      have hle : n ≤ (xs ++ ys).length := by
        rw [List.length_append]
        omega
      rw [blocks_of_le hn hle, List.take_append_of_le_length h.2, List.drop_append_of_le_length h.2, ih,
        blocks_of_le hn h.2, rest_of_le hn h.2, List.cons_append]
  | case2 xs h =>
      have hlt : xs.length < n := by omega
      rw [blocks_of_lt hlt, rest_of_lt hlt, List.nil_append]

/-- The rest of two pieces is that of the first's rest and the second. -/
theorem rest_append (hn : 0 < n) (xs ys : List β) :
    rest n (xs ++ ys) = rest n (rest n xs ++ ys) := by
  induction xs using rest.induct n with
  | case1 xs h ih =>
      have hle : n ≤ (xs ++ ys).length := by
        rw [List.length_append]
        omega
      rw [rest_of_le hn hle, List.drop_append_of_le_length h.2, ih, rest_of_le hn h.2]
  | case2 xs h =>
      have hlt : xs.length < n := by omega
      rw [rest_of_lt hlt]

end cut

section copy

variable {β : Type*} {m : Nat}

/-- `memcpy` to the entries from `off` on. -/
def copy (v : Vector β m) (off : Nat) : List β → Vector β m
  | [] => v
  | x :: xs => copy (v.put off x) (off + 1) xs

/-- A value put behind a prefix makes it one longer. -/
theorem take_put (v : Vector β m) {off : Nat} (x : β) (h : off < m) :
    (v.put off x).toList.take (off + 1) = v.toList.take off ++ [x] := by
  have hset : (v.put off x).toList = v.toList.set off x := by simp [Vector.put]
  rw [hset, List.take_add_one, List.take_set_of_le (Nat.le_refl off)]
  simp [h]

/-- **A copy** follows what was in front of it. -/
theorem take_copy (v : Vector β m) {off : Nat} {xs : List β} (h : off + xs.length ≤ m) :
    (copy v off xs).toList.take (off + xs.length) = v.toList.take off ++ xs := by
  induction xs generalizing v off with
  | nil => simp [copy]
  | cons x xs ih =>
      rw [List.length_cons] at h ⊢
      have hrest := @ih (v.put off x) (off + 1) (by omega)
      rw [copy, Nat.add_comm xs.length, ← Nat.add_assoc, hrest, take_put v x (by omega),
        List.append_assoc, List.singleton_append]

/-- A copy that reaches the end of the array leaves nothing after it. -/
theorem toList_copy (v : Vector β m) {off : Nat} {xs : List β} (h : off + xs.length = m) :
    (copy v off xs).toList = v.toList.take off ++ xs := by
  rw [← take_copy v (Nat.le_of_eq h), h, List.take_of_length_le (by simp)]

end copy

end BlockBuffer
