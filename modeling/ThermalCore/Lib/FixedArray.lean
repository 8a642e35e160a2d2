import Mathlib.Data.List.Basic
import Mathlib.Tactic.Common

/-!
# Fixed arrays and counted loops

C keeps a fixed-size array next to a count of the entries in use and walks it
with `for (i = 0; i < count; i++)`.  This module has the read, the write and
the loops of that idiom over `Vector α n`, with one rule for each: reading back
after a write, the invariant of a fold, the exact index a search returns.

A read outside the array gives the default value here.  Nothing may rest on
that value: the accesses of a program are shown to be in bounds separately.
-/

namespace Vector

variable {α : Type*} {n : Nat} [Inhabited α]

/-- The entry at index `i`. -/
def slot (v : Vector α n) (i : Nat) : α := (v[i]?).getD default

/-- Write the entry at index `i`. -/
def put (v : Vector α n) (i : Nat) (x : α) : Vector α n := v.setIfInBounds i x

/-- Update the entry at index `i` in place. -/
def edit (v : Vector α n) (i : Nat) (f : α → α) : Vector α n := v.put i (f (v.slot i))

/-- `for (i = 0; i < count; i++) v[i] = f(i, v[i])`. -/
def forSlots (v : Vector α n) (count : Nat) (f : Nat → α → α) : Vector α n :=
  v.mapIdx fun i x => if i < count then f i x else x

/-- A read within the array. -/
theorem slot_of_lt (v : Vector α n) {i : Nat} (h : i < n) : v.slot i = v[i] := by
  simp [slot, h]

/-- A read outside gives the default. -/
theorem slot_of_ge (v : Vector α n) {i : Nat} (h : n ≤ i) : v.slot i = default := by
  simp [slot, Nat.not_lt.mpr h]

/-- The entry written is read back. -/
@[simp] theorem slot_put_self (v : Vector α n) {i : Nat} (x : α) (h : i < n) :
    (v.put i x).slot i = x := by
  simp [slot_of_lt _ h, put]

/-- The others are not touched. -/
@[simp] theorem slot_put_ne (v : Vector α n) {i j : Nat} (x : α) (h : i ≠ j) :
    (v.put i x).slot j = v.slot j := by
  by_cases hj : j < n
  · simp [slot_of_lt _ hj, put, h]
  · simp [slot_of_ge _ (Nat.le_of_not_lt hj)]

/-- A write, read at any place. -/
theorem slot_put (v : Vector α n) (i j : Nat) (x : α) :
    (v.put i x).slot j = if i = j ∧ j < n then x else v.slot j := by
  by_cases h : i = j
  · subst h
    by_cases hi : i < n
    · simp [hi]
    · simp [hi, slot_of_ge _ (Nat.le_of_not_lt hi)]
  · simp [h]

/-- The edited entry. -/
@[simp] theorem slot_edit_self (v : Vector α n) {i : Nat} (f : α → α) (h : i < n) :
    (v.edit i f).slot i = f (v.slot i) := by
  simp [edit, h]

/-- The others are not touched. -/
@[simp] theorem slot_edit_ne (v : Vector α n) {i j : Nat} (f : α → α) (h : i ≠ j) :
    (v.edit i f).slot j = v.slot j := by
  simp [edit, h]

/-- An edit, read at any place. -/
theorem slot_edit (v : Vector α n) (i j : Nat) (f : α → α) :
    (v.edit i f).slot j = if i = j ∧ j < n then f (v.slot j) else v.slot j := by
  rw [edit, slot_put]
  split
  · next h => rw [h.1]
  · rfl

/-- A loop over the slots, read at any place. -/
theorem slot_forSlots (v : Vector α n) (count : Nat) (f : Nat → α → α) (i : Nat) :
    (v.forSlots count f).slot i = if i < count ∧ i < n then f i (v.slot i) else v.slot i := by
  by_cases hi : i < n
  · simp [slot_of_lt _ hi, forSlots, hi]
  · simp [slot_of_ge _ (Nat.le_of_not_lt hi), hi]

/-- A loop over the slots, at an index it visits. -/
theorem slot_forSlots_lt (v : Vector α n) {count : Nat} (f : Nat → α → α) {i : Nat}
    (hc : count ≤ n) (hi : i < count) : (v.forSlots count f).slot i = f i (v.slot i) := by
  rw [slot_forSlots, if_pos ⟨hi, Nat.lt_of_lt_of_le hi hc⟩]

/-- A loop over the slots, behind its count. -/
@[simp] theorem slot_forSlots_ge (v : Vector α n) {count : Nat} (f : Nat → α → α) {i : Nat}
    (hi : count ≤ i) : (v.forSlots count f).slot i = v.slot i := by
  rw [slot_forSlots, if_neg fun h => absurd h.1 (Nat.not_lt.mpr hi)]

/-- An array filled with one value. -/
@[simp] theorem slot_replicate (x : α) {i : Nat} (h : i < n) :
    (Vector.replicate n x).slot i = x := by
  simp [slot_of_lt _ h]

/-- What the fill value and the default satisfy holds of every read of a filled array. -/
theorem slot_replicate_rec {x : α} {P : α → Prop} (hx : P x) (hd : P default) (i : Nat) :
    P ((Vector.replicate n x).slot i) := by
  by_cases hi : i < n
  · rw [slot_replicate _ hi]
    exact hx
  · rw [slot_of_ge _ (Nat.le_of_not_lt hi)]
    exact hd

/-- An array filled with the default, read anywhere. -/
@[simp] theorem slot_replicate_default (i : Nat) :
    (Vector.replicate n (default : α)).slot i = default := by
  by_cases h : i < n
  · simp [h]
  · simp [slot_of_ge _ (Nat.le_of_not_lt h)]

/-- Neighbours stay related after a write exactly when the new entry fits between
its own two. -/
theorem neighbours_put_iff {R : α → α → Prop} {v : Vector α n} {count p : Nat} (x : α)
    (hc : count ≤ n) (hp : p < count)
    (h : ∀ k < count, 0 < k → R (v.slot (k - 1)) (v.slot k)) :
    (∀ k < count, 0 < k → R ((v.put p x).slot (k - 1)) ((v.put p x).slot k)) ↔
      (p = 0 ∨ R (v.slot (p - 1)) x) ∧ (count ≤ p + 1 ∨ R x (v.slot (p + 1))) := by
  have hpn : p < n := Nat.lt_of_lt_of_le hp hc
  constructor
  · intro hall
    constructor
    · by_cases h0 : p = 0
      · exact Or.inl h0
      · have hleft := hall p hp (Nat.pos_of_ne_zero h0)
        rw [slot_put_self _ _ hpn, slot_put_ne _ _ (by omega)] at hleft
        exact Or.inr hleft
    · by_cases hlast : count ≤ p + 1
      · exact Or.inl hlast
      · have hright := hall (p + 1) (by omega) (by omega)
        rw [Nat.add_sub_cancel, slot_put_self _ _ hpn, slot_put_ne _ _ (by omega)] at hright
        exact Or.inr hright
  · intro ⟨hleft, hright⟩ k hk h0
    by_cases hkp : k = p
    · subst hkp
      rw [slot_put_self _ _ hpn, slot_put_ne _ _ (by omega)]
      exact hleft.resolve_left (by omega)
    · by_cases hkp1 : k = p + 1
      · subst hkp1
        rw [Nat.add_sub_cancel, slot_put_self _ _ hpn, slot_put_ne _ _ (by omega)]
        exact hright.resolve_left (by omega)
      · rw [slot_put_ne _ _ (by omega), slot_put_ne _ _ (by omega)]
        exact h k hk h0

/-- Two arrays with the same entries are equal. -/
theorem ext_slot {v w : Vector α n} (h : ∀ i < n, v.slot i = w.slot i) : v = w := by
  apply Vector.ext
  intro i hi
  rw [← slot_of_lt v hi, ← slot_of_lt w hi, h i hi]

/-- An array lists its entries in index order. -/
theorem toList_eq_map_slot (v : Vector α n) : v.toList = (List.range n).map v.slot := by
  refine List.ext_getElem (by simp) fun i hi _ => ?_
  have hin : i < n := by simpa using hi
  rw [List.getElem_map, List.getElem_range, slot_of_lt _ hin, Vector.getElem_toList]

/-- Two loop updates of arrays that are related entry by entry. -/
theorem slot_forSlots_pair {β : Type*} [Inhabited β] {v : Vector α n} {w : Vector β n} {count : Nat}
    {f : Nat → α → α} {g : Nat → β → β} {R : α → β → Prop} (h : ∀ i, R (v.slot i) (w.slot i))
    (hbody : ∀ i < count, R (f i (v.slot i)) (g i (w.slot i))) (i : Nat) :
    R ((v.forSlots count f).slot i) ((w.forSlots count g).slot i) := by
  rw [slot_forSlots, slot_forSlots]
  by_cases hi : i < count ∧ i < n
  · rw [if_pos hi, if_pos hi]
    exact hbody i hi.1
  · rw [if_neg hi, if_neg hi]
    exact h i

/-- Two writes to arrays that are related entry by entry. -/
theorem slot_put_pair {β : Type*} [Inhabited β] {v : Vector α n} {w : Vector β n} {R : α → β → Prop}
    (h : ∀ i, R (v.slot i) (w.slot i)) (j : Nat) {x : α} {y : β} (hxy : R x y) (i : Nat) :
    R ((v.put j x).slot i) ((w.put j y).slot i) := by
  rw [slot_put, slot_put]
  by_cases hi : j = i ∧ i < n
  · rw [if_pos hi, if_pos hi]
    exact hxy
  · rw [if_neg hi, if_neg hi]
    exact h i

/-- Two updates in place of arrays that are related entry by entry. -/
theorem slot_edit_pair {β : Type*} [Inhabited β] {v : Vector α n} {w : Vector β n} {R : α → β → Prop}
    (h : ∀ i, R (v.slot i) (w.slot i)) (j : Nat) {f : α → α} {g : β → β}
    (hfg : R (f (v.slot j)) (g (w.slot j))) (i : Nat) :
    R ((v.edit j f).slot i) ((w.edit j g).slot i) :=
  slot_put_pair h j hfg i

/-- Two loops that do the same to each slot. -/
theorem forSlots_congr (v : Vector α n) {count : Nat} {f g : Nat → α → α}
    (h : ∀ i < count, i < n → f i (v.slot i) = g i (v.slot i)) :
    v.forSlots count f = v.forSlots count g := by
  apply ext_slot
  intro i hi
  rw [slot_forSlots, slot_forSlots]
  split
  · next hc => exact h i hc.1 hi
  · rfl

end Vector

namespace Loop

/-- `for (i = 0; i < count; i++) acc = f(acc, i)`. -/
def fold {σ : Type*} (count : Nat) (acc : σ) (f : σ → Nat → σ) : σ :=
  (List.range count).foldl f acc

/-- The loop that returns at the first index satisfying `p`. -/
def first (count : Nat) (p : Nat → Bool) : Option Nat := (List.range count).find? p

/-- The loop that raises a flag when some index satisfies `p`. -/
def any (count : Nat) (p : Nat → Bool) : Bool := (List.range count).any p

/-- The loop that appends what its body emits. -/
def emit {ε : Type*} (count : Nat) (f : Nat → List ε) : List ε := (List.range count).flatMap f

section fold

variable {σ : Type*} {f : σ → Nat → σ} {acc : σ} {count : Nat}

/-- No rounds. -/
@[simp] theorem fold_zero : fold 0 acc f = acc := rfl

/-- One round more, at the end. -/
theorem fold_succ : fold (count + 1) acc f = f (fold count acc f) count := by
  simp [fold, List.range_succ]

/-- The invariant rule: `P i` holds before the iteration with index `i`. -/
theorem fold_induct (P : Nat → σ → Prop) (init : P 0 acc)
    (body : ∀ i s, i < count → P i s → P (i + 1) (f s i)) : P count (fold count acc f) := by
  induction count with
  | zero => exact init
  | succ count ih =>
      rw [fold_succ]
      exact body count _ (Nat.lt_succ_self _)
        (ih fun i s hi hs => body i s (Nat.lt_succ_of_lt hi) hs)

/-- The relational rule: two loops kept in step by `R`. -/
theorem fold_rel {τ : Type*} {g : τ → Nat → τ} {acc' : τ} (R : σ → τ → Prop) (init : R acc acc')
    (body : ∀ i s t, i < count → R s t → R (f s i) (g t i)) :
    R (fold count acc f) (fold count acc' g) := by
  induction count with
  | zero => exact init
  | succ count ih =>
      rw [fold_succ, fold_succ]
      exact body count _ _ (Nat.lt_succ_self _)
        (ih fun i s t hi hs => body i s t (Nat.lt_succ_of_lt hi) hs)

/-- Two folds over the same body. -/
theorem fold_congr {g : σ → Nat → σ} (h : ∀ i < count, ∀ s, f s i = g s i) :
    fold count acc f = fold count acc g :=
  fold_rel Eq rfl fun i s t hi hst => by rw [hst, h i hi t]

/-- A fact established by one iteration and kept by all the others holds at the end. -/
theorem fold_reaches (P : σ → Prop) {k : Nat} (hk : k < count) (set : ∀ s, P (f s k))
    (keep : ∀ i s, P s → P (f s i)) : P (fold count acc f) := by
  induction count with
  | zero => exact absurd hk (Nat.not_lt_zero k)
  | succ count ih =>
      rw [fold_succ]
      rcases Nat.lt_succ_iff_lt_or_eq.mp hk with hlt | rfl
      · exact keep _ _ (ih hlt)
      · exact set _

/-- The accumulation rule: when an iteration makes `P` true exactly by `Q`, the
loop makes it true exactly by `Q` at some index. -/
theorem fold_or {P : σ → Prop} {Q : Nat → Prop}
    (body : ∀ i s, i < count → (P (f s i) ↔ P s ∨ Q i)) :
    P (fold count acc f) ↔ P acc ∨ ∃ i < count, Q i := by
  induction count with
  | zero => simp
  | succ count ih =>
      rw [fold_succ, body count _ (Nat.lt_succ_self _),
        ih fun i s hi => body i s (Nat.lt_succ_of_lt hi)]
      constructor
      · rintro ((h | ⟨i, hi, h⟩) | h)
        · exact Or.inl h
        · exact Or.inr ⟨i, Nat.lt_succ_of_lt hi, h⟩
        · exact Or.inr ⟨count, Nat.lt_succ_self _, h⟩
      · rintro (h | ⟨i, hi, h⟩)
        · exact Or.inl (Or.inl h)
        · cases Nat.lt_succ_iff_lt_or_eq.mp hi with
          | inl hlt => exact Or.inl (Or.inr ⟨i, hlt, h⟩)
          | inr heq =>
              subst heq
              exact Or.inr h

end fold

/-- A search for some index finds one. -/
theorem any_iff {count : Nat} {p : Nat → Bool} :
    any count p = true ↔ ∃ i < count, p i = true := by
  simp [any]

/-- A search for some index finds none. -/
theorem any_eq_false_iff {count : Nat} {p : Nat → Bool} :
    any count p = false ↔ ∀ i < count, p i = false := by
  simp [any]

/-- Two searches for the same. -/
theorem any_congr {count : Nat} {p q : Nat → Bool} (h : ∀ i < count, p i = q i) :
    any count p = any count q := by
  rw [Bool.eq_iff_iff, any_iff, any_iff]
  constructor <;> rintro ⟨i, hi, hp⟩ <;> exact ⟨i, hi, by simpa [h i hi] using hp⟩

/-- The index found is in the loop and satisfies the test. -/
theorem first_eq_some {count : Nat} {p : Nat → Bool} {i : Nat} (h : first count p = some i) :
    i < count ∧ p i = true := by
  exact ⟨List.mem_range.mp (List.mem_of_find?_eq_some h), List.find?_some h⟩

/-- The search returns the least match. -/
theorem first_min {count : Nat} {p : Nat → Bool} {i : Nat} (h : first count p = some i) {j : Nat}
    (hj : j < i) : p j = false := by
  have hmin := (List.find?_range_eq_some.mp h).2.2 j hj
  simpa using hmin

/-- Nothing is found when nothing satisfies the test. -/
theorem first_eq_none {count : Nat} {p : Nat → Bool} :
    first count p = none ↔ ∀ i < count, p i = false := by
  simp [first]

/-- Something is found when something satisfies the test. -/
theorem first_isSome {count : Nat} {p : Nat → Bool} :
    (first count p).isSome = true ↔ ∃ i < count, p i = true := by
  simp [first]

/-- The search returns index `i` as soon as `i` is the only match. -/
theorem first_eq_of_unique {count : Nat} {p : Nat → Bool} {i : Nat} (hi : i < count)
    (hp : p i = true) (huniq : ∀ j < count, p j = true → j = i) : first count p = some i := by
  cases h : first count p with
  | none => rw [first_eq_none] at h; simp [h i hi] at hp
  | some j =>
      obtain ⟨hj, hpj⟩ := first_eq_some h
      rw [huniq j hj hpj]

/-- What a loop emits, some round does. -/
@[simp] theorem mem_emit {ε : Type*} {count : Nat} {f : Nat → List ε} {e : ε} :
    e ∈ emit count f ↔ ∃ i < count, e ∈ f i := by
  simp [emit]

/-- No rounds, nothing emitted. -/
theorem emit_zero {ε : Type*} {f : Nat → List ε} : emit 0 f = [] := rfl

/-- One round more, at the end. -/
theorem emit_succ {ε : Type*} {count : Nat} {f : Nat → List ε} :
    emit (count + 1) f = emit count f ++ f count := by
  simp [emit, List.range_succ]

/-- Two loops that emit the same. -/
theorem emit_congr {ε : Type*} {count : Nat} {f g : Nat → List ε} (h : ∀ i < count, f i = g i) :
    emit count f = emit count g := by
  induction count with
  | zero => rfl
  | succ count ih =>
      rw [emit_succ, emit_succ, ih fun i hi => h i (Nat.lt_succ_of_lt hi),
        h count (Nat.lt_succ_self _)]

/-- A map over what a loop emits. -/
theorem map_emit {ε δ : Type*} (g : ε → δ) (count : Nat) (f : Nat → List ε) :
    (emit count f).map g = emit count fun i => (f i).map g := by
  induction count with
  | zero => rfl
  | succ count ih => rw [emit_succ, emit_succ, List.map_append, ih]

/-- A fold that ignores what every iteration emits. -/
theorem foldl_emit_fixed {ε β : Type*} {count : Nat} {f : Nat → List ε} {g : β → ε → β}
    (h : ∀ i < count, ∀ b, (f i).foldl g b = b) (b : β) : (emit count f).foldl g b = b := by
  induction count with
  | zero => rfl
  | succ count ih =>
      rw [emit_succ, List.foldl_append, ih fun i hi => h i (Nat.lt_succ_of_lt hi)]
      exact h count (Nat.lt_succ_self _) b

/-- A fold that only notices what one iteration emits. -/
theorem foldl_emit_single {ε β : Type*} {count i : Nat} {f : Nat → List ε} {g : β → ε → β}
    (hi : i < count) (h : ∀ j < count, j ≠ i → ∀ b, (f j).foldl g b = b) (b : β) :
    (emit count f).foldl g b = (f i).foldl g b := by
  induction count with
  | zero => exact absurd hi (Nat.not_lt_zero i)
  | succ count ih =>
      rw [emit_succ, List.foldl_append]
      cases Nat.lt_succ_iff_lt_or_eq.mp hi with
      | inl hlt =>
          rw [ih hlt fun j hj => h j (Nat.lt_succ_of_lt hj)]
          exact h count (Nat.lt_succ_self _) (Nat.ne_of_gt hlt) _
      | inr heq =>
          subst heq
          rw [foldl_emit_fixed fun j hj => h j (Nat.lt_succ_of_lt hj) (Nat.ne_of_lt hj)]

/-- Counting when no iteration emits anything that counts. -/
theorem countP_emit_zero {ε : Type*} {count : Nat} {f : Nat → List ε} {p : ε → Bool}
    (h : ∀ i < count, (f i).countP p = 0) : (emit count f).countP p = 0 := by
  induction count with
  | zero => rfl
  | succ count ih =>
      rw [emit_succ, List.countP_append, ih fun i hi => h i (Nat.lt_succ_of_lt hi),
        h count (Nat.lt_succ_self _)]

/-- Counting when only one iteration does. -/
theorem countP_emit_single {ε : Type*} {count i : Nat} {f : Nat → List ε} {p : ε → Bool}
    (hi : i < count) (h : ∀ j < count, j ≠ i → (f j).countP p = 0) :
    (emit count f).countP p = (f i).countP p := by
  induction count with
  | zero => exact absurd hi (Nat.not_lt_zero i)
  | succ count ih =>
      rw [emit_succ, List.countP_append]
      cases Nat.lt_succ_iff_lt_or_eq.mp hi with
      | inl hlt =>
          rw [ih hlt fun j hj => h j (Nat.lt_succ_of_lt hj), h count (Nat.lt_succ_self _)
            (Nat.ne_of_gt hlt), Nat.add_zero]
      | inr heq =>
          subst heq
          rw [countP_emit_zero fun j hj => h j (Nat.lt_succ_of_lt hj) (Nat.ne_of_lt hj), Nat.zero_add]

end Loop
