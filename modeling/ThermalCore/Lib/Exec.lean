import ThermalCore.Lib.Check

/-!
# Checked execution

A program that indexes arrays and divides, run so that an access outside its
array or a division by zero stops it with a fault.  A program transcribed into
`Exec` and shown equal to its pure model does neither: `= .ok (model …)` leaves no
room for a fault.  There is one rule for each operation and each loop; the rules
for loops ask for the body at the indices the loop visits only.
-/

/-- What a checked execution refuses to do. -/
inductive Fault where
  | outOfBounds
  | divisionByZero
deriving DecidableEq

/-- Why an execution stops before its end: a fault, or a `return` of a code. -/
inductive Stop (ε : Type) where
  | fault (f : Fault)
  | returned (e : ε)
deriving DecidableEq

/-- A checked program: a value, an error it returns, or a fault. -/
abbrev Exec (ε α : Type) := Except (Stop ε) α

namespace Exec

variable {ε α β σ : Type} {n : Nat}

/-! ## Operations -/

/-- `v[i]`. -/
def read [Inhabited α] (v : Vector α n) (i : Nat) : Exec ε α :=
  if i < n then .ok (v.slot i) else .error (.fault .outOfBounds)

/-- `v[i] = x`. -/
def write (v : Vector α n) (i : Nat) (x : α) : Exec ε (Vector α n) :=
  if i < n then .ok (v.put i x) else .error (.fault .outOfBounds)

/-- `v[i] = f(v[i])`. -/
def edit [Inhabited α] (v : Vector α n) (i : Nat) (f : α → α) : Exec ε (Vector α n) := do
  let x ← read v i
  write v i (f x)

/-- `a / b` on signed integers. -/
def tdiv (a b : Int) : Exec ε Int :=
  if b = 0 then .error (.fault .divisionByZero) else .ok (a.tdiv b)

/-- `a / b` on unsigned integers. -/
def div (a b : Nat) : Exec ε Nat :=
  if b = 0 then .error (.fault .divisionByZero) else .ok (a / b)

/-- `a % b` on unsigned integers. -/
def mod (a b : Nat) : Exec ε Nat :=
  if b = 0 then .error (.fault .divisionByZero) else .ok (a % b)

/-- A test that may return early: it has no faults. -/
def test : Except ε α → Exec ε α
  | .ok a => .ok a
  | .error e => .error (.returned e)

/-- The call of a function: where it returns `e` early, its result is `h e`. -/
def returning (x : Exec ε α) (h : ε → α) : Exec ε α :=
  match x with
  | .ok a => .ok a
  | .error (.returned e) => .ok (h e)
  | .error (.fault f) => .error (.fault f)

/-- A value goes on. -/
@[simp] theorem ok_bind (a : α) (f : α → Exec ε β) : ((Except.ok a : Exec ε α) >>= f) = f a := rfl

/-- A choice between two values. -/
@[simp] theorem ite_ok {c : Prop} [Decidable c] (a b : α) :
    (if c then (Except.ok a : Exec ε α) else .ok b) = .ok (if c then a else b) := by
  split <;> rfl

section operations

/-- A read within the array. -/
@[simp] theorem read_of_lt [Inhabited α] (v : Vector α n) {i : Nat} (h : i < n) :
    (read v i : Exec ε α) = .ok (v.slot i) := by
  rw [read, if_pos h]

/-- A write within the array. -/
@[simp] theorem write_of_lt (v : Vector α n) {i : Nat} (x : α) (h : i < n) :
    (write v i x : Exec ε (Vector α n)) = .ok (v.put i x) := by
  rw [write, if_pos h]

/-- A read and a write within the array. -/
@[simp] theorem edit_of_lt [Inhabited α] (v : Vector α n) {i : Nat} (f : α → α) (h : i < n) :
    (edit v i f : Exec ε (Vector α n)) = .ok (v.edit i f) := by
  rw [edit, read_of_lt _ h, ok_bind, write_of_lt _ _ h]
  rfl

/-- A signed division by a nonzero number. -/
@[simp] theorem tdiv_of_ne {a b : Int} (h : b ≠ 0) : (tdiv a b : Exec ε Int) = .ok (a.tdiv b) := by
  rw [tdiv, if_neg h]

/-- A division by a nonzero number. -/
@[simp] theorem div_of_pos {a b : Nat} (h : 0 < b) : (div a b : Exec ε Nat) = .ok (a / b) := by
  rw [div, if_neg (Nat.ne_of_gt h)]

/-- A remainder by a nonzero number. -/
@[simp] theorem mod_of_pos {a b : Nat} (h : 0 < b) : (mod a b : Exec ε Nat) = .ok (a % b) := by
  rw [mod, if_neg (Nat.ne_of_gt h)]

/-- A test that accepts. -/
@[simp] theorem test_ok (a : α) : (test (.ok a) : Exec ε α) = .ok a := rfl

/-- **Sequence rule**: what follows a test is run only when the test has passed. -/
theorem bind_test {x : Exec ε α} {m : Except ε α} {k : α → Except ε β} {f : α → Exec ε β}
    (hx : x = test m) (h : ∀ a, m = .ok a → f a = test (k a)) :
    (x >>= f) = test (m >>= k) := by
  subst hx
  cases m with
  | error e => rfl
  | ok a => exact h a rfl

/-- **Call rule**: a test, then a body that runs through when the test has passed. -/
theorem returning_test {m : Except ε β} {f : β → Exec ε α} {g : β → α} {h : ε → α} :
    (∀ b, m = .ok b → f b = .ok (g b)) → returning (test m >>= f) h = .ok (match m with
      | .ok b => g b
      | .error e => h e) := by
  intro hf
  cases m with
  | error e => rfl
  | ok b =>
      rw [test_ok, ok_bind, hf b rfl]
      rfl

end operations

/-! ## Loops -/

/-- `for (i = 0; i < count; i++) acc = f(acc, i)`. -/
def fold (count : Nat) (acc : σ) (f : σ → Nat → Exec ε σ) : Exec ε σ :=
  (List.range count).foldlM f acc

/-- The loop that tests every index. -/
def each (count : Nat) (f : Nat → Exec ε Unit) : Exec ε Unit := fold count () fun _ i => f i

/-- The loop that stops at the first index satisfying `p`. -/
def first (count : Nat) (p : Nat → Exec ε Bool) : Exec ε (Option Nat) :=
  fold count none fun found i =>
    match found with
    | some j => .ok (some j)
    | none => do
        let hit ← p i
        .ok (if hit then some i else none)

/-- The loop that raises a flag at the first index satisfying `p`, and stops. -/
def any (count : Nat) (p : Nat → Exec ε Bool) : Exec ε Bool := do
  let found ← first count p
  .ok found.isSome

/-- The loop that appends what its body emits. -/
def emit (count : Nat) (f : Nat → Exec ε (List β)) : Exec ε (List β) :=
  fold count [] fun acc i => do
    let es ← f i
    .ok (acc ++ es)

/-- `for (i = 0; i < count; i++) v[i] = f(i, v[i])`. -/
def forSlots [Inhabited α] (v : Vector α n) (count : Nat) (f : Nat → α → Exec ε α) :
    Exec ε (Vector α n) :=
  fold count v fun v i => do
    let x ← read v i
    let y ← f i x
    write v i y

/-- A test of the entry before index `i`, made when there is one. -/
def testPrev [Inhabited α] (v : Vector α n) (i : Nat) (p : α → Bool) : Exec ε Bool :=
  if i > 0 then do
    let prev ← read v (i - 1)
    .ok (p prev)
  else .ok true

/-- A test of the entry after index `i`, made when one is in use. -/
def testNext [Inhabited α] (v : Vector α n) (count i : Nat) (p : α → Bool) : Exec ε Bool :=
  if i + 1 < count then do
    let next ← read v (i + 1)
    .ok (p next)
  else .ok true

/-- `for (i = 0; i < n; i++) v[i] = x`, over the whole array. -/
def fill [Inhabited α] (n : Nat) (x : α) : Exec ε (Vector α n) :=
  forSlots default n fun _ _ => .ok x

section loops

variable {count : Nat} {acc : σ}

/-- No rounds. -/
theorem fold_zero (f : σ → Nat → Exec ε σ) : fold 0 acc f = .ok acc := rfl

/-- One round more, at the end. -/
theorem fold_succ (f : σ → Nat → Exec ε σ) :
    fold (count + 1) acc f = (fold count acc f >>= fun s => f s count) := by
  unfold fold
  rw [List.range_succ, List.foldlM_append]
  refine bind_congr fun s => ?_
  rw [List.foldlM_cons]
  exact bind_pure _

/-- A loop whose body is a pure step under an invariant the steps keep. -/
theorem fold_eq_of {f : σ → Nat → Exec ε σ} {g : σ → Nat → σ} (P : σ → Prop) (h0 : P acc)
    (hf : ∀ i s, i < count → P s → f s i = .ok (g s i) ∧ P (g s i)) :
    fold count acc f = .ok (Loop.fold count acc g) ∧ P (Loop.fold count acc g) := by
  induction count with
  | zero => exact ⟨rfl, h0⟩
  | succ count ih =>
      obtain ⟨hrun, hinv⟩ := ih fun i s hi => hf i s (Nat.lt_succ_of_lt hi)
      rw [fold_succ, hrun, ok_bind, Loop.fold_succ]
      exact hf count _ (Nat.lt_succ_self _) hinv

/-- A fold without faults is the pure one. -/
theorem fold_eq {f : σ → Nat → Exec ε σ} {g : σ → Nat → σ}
    (hf : ∀ i s, i < count → f s i = .ok (g s i)) :
    fold count acc f = .ok (Loop.fold count acc g) :=
  (fold_eq_of (fun _ => True) trivial fun i s hi _ => ⟨hf i s hi, trivial⟩).1

/-- Two folds over the same body. -/
theorem fold_congr {f g : σ → Nat → Exec ε σ} (h : ∀ i < count, ∀ s, f s i = g s i) :
    fold count acc f = fold count acc g := by
  induction count with
  | zero => rfl
  | succ count ih =>
      rw [fold_succ, fold_succ, ih fun i hi => h i (Nat.lt_succ_of_lt hi)]
      exact bind_congr fun s => h count (Nat.lt_succ_self _) s

/-- A loop that reads a whole array runs its body over the list of its entries. -/
theorem fold_toList [Inhabited α] (v : Vector α n) (f : σ → α → Exec ε σ) :
    (fold n acc fun s i => do
        let x ← read v i
        f s x) = v.toList.foldlM f acc := by
  have hbody (i : Nat) (hi : i < n) (s : σ) : (do
      let x ← read v i
      f s x) = f s (v.slot i) := by
    rw [read_of_lt _ hi, ok_bind]
  rw [fold_congr hbody, Vector.toList_eq_map_slot, List.foldlM_map]
  rfl

/-- A loop that reads an array is a fold over the list of its entries in use. -/
theorem fold_read [Inhabited α] {v : Vector α n} (hc : count ≤ n) (g : σ → α → σ) :
    (fold count acc fun s i => do
        let x ← read v i
        .ok (g s x) : Exec ε σ) = .ok (((List.range count).map v.slot).foldl g acc) := by
  have hbody (i : Nat) (s : σ) (hi : i < count) : (do
      let x ← read v i
      .ok (g s x) : Exec ε σ) = .ok (g s (v.slot i)) := by
    rw [read_of_lt _ (Nat.lt_of_lt_of_le hi hc), ok_bind]
  rw [fold_eq hbody, List.foldl_map]
  rfl

/-- A loop whose body may return early, on a test that does not look at the
state. -/
theorem fold_test {f : σ → Nat → Exec ε σ} {g : σ → Nat → σ} {c : Nat → Except ε Unit}
    (hf : ∀ i s, i < count → f s i = (test (c i) >>= fun _ => .ok (g s i))) :
    fold count acc f = (test (Check.each count c) >>= fun _ => .ok (Loop.fold count acc g)) := by
  induction count with
  | zero => rfl
  | succ count ih =>
      have hstep : Check.each (count + 1) c = (Check.each count c >>= fun _ => c count) := by
        unfold Check.each
        rw [Loop.fold_succ]
      rw [fold_succ, ih fun i s hi => hf i s (Nat.lt_succ_of_lt hi), hstep, Loop.fold_succ]
      cases Check.each count c with
      | error e => rfl
      | ok u => exact hf count _ (Nat.lt_succ_self _)

/-- A loop of tests without faults is the pure one. -/
theorem each_eq {f : Nat → Exec ε Unit} {g : Nat → Except ε Unit}
    (hf : ∀ i < count, f i = test (g i)) : each count f = test (Check.each count g) := by
  have hfold : each count f = (test (Check.each count g) >>= fun _ =>
      .ok (Loop.fold count () fun _ _ => ())) := by
    refine fold_test fun i s hi => ?_
    rw [hf i hi]
    cases g i <;> rfl
  rw [hfold]
  cases Check.each count g <;> rfl

/-- A search without faults is the pure one. -/
theorem first_eq {p : Nat → Exec ε Bool} {q : Nat → Bool} (hp : ∀ i < count, p i = .ok (q i)) :
    first count p = .ok (Loop.first count q) := by
  induction count with
  | zero => rfl
  | succ count ih =>
      have ih' := ih fun i hi => hp i (Nat.lt_succ_of_lt hi)
      unfold first at ih' ⊢
      rw [fold_succ, ih', ok_bind]
      have hsplit : Loop.first (count + 1) q =
          (Loop.first count q).or (if q count then some count else none) := by
        unfold Loop.first
        rw [List.range_succ, List.find?_append, List.find?_singleton]
      rw [hsplit]
      cases Loop.first count q with
      | some j => rfl
      | none =>
          rw [Option.none_or]
          simp only [hp count (Nat.lt_succ_self _), ok_bind]

/-- A test for some index without faults is the pure one. -/
theorem any_eq {p : Nat → Exec ε Bool} {q : Nat → Bool} (hp : ∀ i < count, p i = .ok (q i)) :
    any count p = .ok (Loop.any count q) := by
  unfold any
  rw [first_eq hp, ok_bind]
  congr 1
  rw [Bool.eq_iff_iff, Loop.first_isSome, Loop.any_iff]

/-- A loop that emits, without faults. -/
theorem emit_eq {f : Nat → Exec ε (List β)} {g : Nat → List β}
    (hf : ∀ i < count, f i = .ok (g i)) : emit count f = .ok (Loop.emit count g) := by
  unfold emit
  induction count with
  | zero => rfl
  | succ count ih =>
      rw [fold_succ, ih fun i hi => hf i (Nat.lt_succ_of_lt hi), ok_bind,
        hf count (Nat.lt_succ_self _), ok_bind, Loop.emit_succ]

/-- A loop over the slots without faults is the pure one. -/
theorem forSlots_eq [Inhabited α] {v : Vector α n} {f : Nat → α → Exec ε α} {g : Nat → α → α}
    (hc : count ≤ n) (hf : ∀ i < count, f i (v.slot i) = .ok (g i (v.slot i))) :
    forSlots v count f = .ok (v.forSlots count g) := by
  unfold forSlots
  induction count with
  | zero =>
      rw [fold_zero]
      congr 1
      exact (Vector.ext_slot fun i _ => Vector.slot_forSlots_ge _ _ (Nat.zero_le i)).symm
  | succ count ih =>
      have hlt : count < n := Nat.lt_of_succ_le hc
      have hkept : (v.forSlots count g).slot count = v.slot count :=
        Vector.slot_forSlots_ge _ _ (Nat.le_refl _)
      rw [fold_succ, ih (Nat.le_of_lt hlt) fun i hi => hf i (Nat.lt_succ_of_lt hi), ok_bind,
        read_of_lt _ hlt, ok_bind, hkept, hf count (Nat.lt_succ_self _), ok_bind, write_of_lt _ _ hlt]
      congr 1
      apply Vector.ext_slot
      intro i hi
      rw [Vector.slot_put, Vector.slot_forSlots, Vector.slot_forSlots]
      by_cases heq : count = i
      · subst heq
        rw [if_pos ⟨rfl, hi⟩, if_pos ⟨Nat.lt_succ_self _, hi⟩]
      · rw [if_neg fun h => heq h.1]
        by_cases hic : i < count
        · rw [if_pos ⟨hic, hi⟩, if_pos ⟨Nat.lt_succ_of_lt hic, hi⟩]
        · rw [if_neg fun h => hic h.1, if_neg fun h => by omega]

/-- The same, for a body that needs nothing of the entry it updates. -/
theorem forSlots_pure [Inhabited α] {v : Vector α n} {f : Nat → α → Exec ε α} {g : Nat → α → α}
    (hc : count ≤ n) (hf : ∀ i x, i < count → f i x = .ok (g i x)) :
    forSlots v count f = .ok (v.forSlots count g) :=
  forSlots_eq hc fun i hi => hf i _ hi

/-- A test of the entry before, made from the second on. -/
theorem testPrev_eq [Inhabited α] (v : Vector α n) {i : Nat} (hi : i < n) (p : α → Bool) :
    (testPrev v i p : Exec ε Bool) = .ok (decide (i = 0) || p (v.slot (i - 1))) := by
  unfold testPrev
  by_cases h0 : i > 0
  · rw [if_pos h0, read_of_lt _ (by omega), ok_bind, decide_eq_false (Nat.ne_of_gt h0), Bool.false_or]
  · rw [if_neg h0, decide_eq_true (by omega), Bool.true_or]

/-- A test of the entry behind, made up to the last but one. -/
theorem testNext_eq [Inhabited α] (v : Vector α n) (hc : count ≤ n) (i : Nat) (p : α → Bool) :
    (testNext v count i p : Exec ε Bool) = .ok (decide (i + 1 ≥ count) || p (v.slot (i + 1))) := by
  unfold testNext
  by_cases hlast : i + 1 < count
  · rw [if_pos hlast, read_of_lt _ (by omega), ok_bind, decide_eq_false (Nat.not_le_of_lt hlast),
      Bool.false_or]
  · rw [if_neg hlast, decide_eq_true (Nat.le_of_not_lt hlast), Bool.true_or]

/-- A loop that fills an array. -/
theorem fill_eq [Inhabited α] (x : α) : (fill n x : Exec ε (Vector α n)) = .ok (.replicate n x) := by
  unfold fill
  rw [forSlots_pure (Nat.le_refl n) fun _ _ _ => rfl]
  congr 1
  refine Vector.ext_slot fun i hi => ?_
  rw [Vector.slot_forSlots_lt _ _ (Nat.le_refl n) hi, Vector.slot_replicate _ hi]

end loops

/-! ## Buffers -/

/-- A local array filled from its start, with the number of entries in use. -/
structure Buffer (α : Type) [Inhabited α] (n : Nat) where
  items : Vector α n
  count : Nat

namespace Buffer

variable [Inhabited α]

/-- A buffer with nothing in it. -/
def empty : Buffer α n := ⟨default, 0⟩

/-- `items[count++] = x`. -/
def push (b : Buffer α n) (x : α) : Exec ε (Buffer α n) := do
  let items ← write b.items b.count x
  .ok ⟨items, b.count + 1⟩

/-- The buffer with an entry at its end. -/
def append (b : Buffer α n) (x : α) : Buffer α n := ⟨b.items.put b.count x, b.count + 1⟩

/-- The counted entries. -/
def contents (b : Buffer α n) : List α := (List.range b.count).map b.items.slot

section

variable {b : Buffer α n} (x : α)

/-- A push where there is room. -/
theorem push_of_lt (h : b.count < n) : (b.push x : Exec ε (Buffer α n)) = .ok (b.append x) := by
  rw [push, write_of_lt _ _ h, ok_bind]
  rfl

/-- An entry more in the contents. -/
theorem contents_append (h : b.count < n) : (b.append x).contents = b.contents ++ [x] := by
  unfold contents append
  dsimp only
  rw [List.range_succ, List.map_append, List.map_singleton, Vector.slot_put_self _ _ h]
  congr 1
  apply List.map_congr_left
  intro i hi
  rw [Vector.slot_put_ne _ _ (Nat.ne_of_gt (List.mem_range.mp hi))]

/-- The count is the number of entries. -/
theorem length_contents : b.contents.length = b.count := by
  unfold contents
  rw [List.length_map, List.length_range]

end

end Buffer

end Exec
