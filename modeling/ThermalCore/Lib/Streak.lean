import Mathlib.Tactic.Common
import Mathlib.Data.List.Induction

/-!
# Streak counters

A counter that goes up while a condition holds and back to zero when it does
not.  It may saturate, so it never exceeds the length of the current streak, and
the bounds below are all that its users need.  Last come the two readings of the
end of a list that such counters and latches have: its last `n` entries, and what
holds since some entry.
-/

namespace Streak

variable {α : Type*} (up : Nat → Nat) (p : α → Bool)

/-- The counter after the entries `xs`, from the value `n`. -/
def count (n : Nat) (xs : List α) : Nat := xs.foldl (fun n x => if p x then up n else 0) n

variable {up p} {n : Nat} {xs : List α}

/-- The counter goes up by at most one for each entry. -/
theorem count_le (hup : ∀ n, up n ≤ n + 1) : count up p n xs ≤ n + xs.length := by
  induction xs generalizing n with
  | nil => exact Nat.le_refl n
  | cons x xs ih =>
      have hnext : (if p x then up n else 0) ≤ n + 1 := by
        split
        · exact hup n
        · exact Nat.zero_le _
      have htail : count up p n (x :: xs) ≤ (if p x then up n else 0) + xs.length := ih
      rw [List.length_cons]
      omega

/-- Since the last entry that broke the streak the counter has gone up at most
once an entry. -/
theorem count_le_of_break (hup : ∀ n, up n ≤ n + 1) {x : α} (hx : p x = false) (pre : List α) :
    count up p n (pre ++ x :: xs) ≤ xs.length := by
  have hreset : count up p n (pre ++ x :: xs) = count up p 0 xs := by
    unfold count
    rw [List.foldl_append, List.foldl_cons, hx]
    rfl
  have hle : count up p 0 xs ≤ 0 + xs.length := count_le hup
  rw [hreset]
  omega

/-- A streak that goes on does not lower the counter. -/
theorem le_count (hup : ∀ n, n ≤ up n) (h : ∀ x ∈ xs, p x = true) : n ≤ count up p n xs := by
  induction xs generalizing n with
  | nil => exact Nat.le_refl n
  | cons x xs ih =>
      have hx : p x = true := h x (List.mem_cons_self ..)
      have htail : up n ≤ count up p (up n) xs := ih fun y hy => h y (List.mem_cons_of_mem _ hy)
      have hcons : count up p n (x :: xs) = count up p (up n) xs := by
        unfold count
        rw [List.foldl_cons, hx]
        rfl
      rw [hcons]
      exact Nat.le_trans (hup n) htail

/-! ## The streak that ends a list -/

section run

variable {x : α}

/-- How many entries at the end of the list satisfy `p` in a row. -/
def run (p : α → Bool) (xs : List α) : Nat := (xs.reverse.takeWhile p).length

/-- No streak in nothing. -/
@[simp] theorem run_nil : run p [] = 0 := rfl

/-- One entry more goes on with the streak or ends it. -/
@[simp] theorem run_concat (p : α → Bool) (xs : List α) (x : α) :
    run p (xs ++ [x]) = if p x then run p xs + 1 else 0 := by
  unfold run
  rw [List.reverse_append, List.reverse_singleton, List.singleton_append, List.takeWhile_cons]
  split
  · rw [List.length_cons]
  · rfl

/-- An entry that breaks the streak cuts off what came before it. -/
theorem run_append_of_break (hx : p x = false) (pre ys : List α) :
    run p (pre ++ x :: ys) = run p ys := by
  induction ys using List.reverseRecOn with
  | nil => simp [hx]
  | append_singleton ys y ih =>
      have hassoc : pre ++ x :: (ys ++ [y]) = (pre ++ x :: ys) ++ [y] := by simp
      rw [hassoc, run_concat, run_concat, ih]

end run

/-! ## The last entries of a list -/

/-- The list has at least `n` entries, and its last `n` satisfy `q`. -/
def Last (n : Nat) (q : α → Prop) (xs : List α) : Prop :=
  n ≤ xs.length ∧ ∀ x ∈ xs.reverse.take n, q x

instance (n : Nat) (q : α → Prop) [DecidablePred q] (xs : List α) : Decidable (Last n q xs) :=
  inferInstanceAs (Decidable (_ ∧ _))

section last

variable {q r : α → Prop} {x : α}

/-- The last none. -/
theorem last_zero : Last 0 q xs := by
  refine ⟨Nat.zero_le _, ?_⟩
  simp

/-- The last entry, and those before it. -/
theorem last_concat : Last (n + 1) q (xs ++ [x]) ↔ q x ∧ Last n q xs := by
  unfold Last
  rw [List.reverse_append, List.reverse_singleton, List.singleton_append, List.take_succ_cons,
    List.forall_mem_cons, List.length_append, List.length_singleton]
  constructor
  · rintro ⟨hlen, hx, hrest⟩
    exact ⟨hx, by omega, hrest⟩
  · rintro ⟨hx, hlen, hrest⟩
    exact ⟨by omega, hx, hrest⟩

/-- Fewer of the last entries. -/
theorem Last.mono {m : Nat} (h : Last n q xs) (hm : m ≤ n) : Last m q xs := by
  obtain ⟨hlen, hall⟩ := h
  refine ⟨Nat.le_trans hm hlen, fun x hx => hall x ?_⟩
  exact (List.take_prefix_take_left hm).subset hx

/-- A weaker condition. -/
theorem Last.imp (h : Last n q xs) (hqr : ∀ x, q x → r x) : Last n r xs :=
  ⟨h.1, fun x hx => hqr x (h.2 x hx)⟩

/-- Two conditions. -/
theorem Last.and (hq : Last n q xs) (hr : Last n r xs) : Last n (fun x => q x ∧ r x) xs :=
  ⟨hq.1, fun x hx => ⟨hq.2 x hx, hr.2 x hx⟩⟩

/-- One more entry extends a streak of at most `n + 1`, or lets its first entry go. -/
theorem Last.concat {m : Nat} (h : Last n q xs) (hx : q x) (hm : m ≤ n + 1) : Last m q (xs ++ [x]) :=
  (last_concat.mpr ⟨hx, h⟩).mono hm

/-- The last `n` entries satisfy `p` exactly when the streak is that long. -/
theorem last_iff_le_run {n : Nat} {xs : List α} : Last n (fun x => p x = true) xs ↔ n ≤ run p xs := by
  induction xs using List.reverseRecOn generalizing n with
  | nil => simp [Last]
  | append_singleton xs x ih =>
      cases n with
      | zero => simp [last_zero]
      | succ n =>
          rw [last_concat, ih, run_concat]
          cases hx : p x with
          | true => simp
          | false => simp

end last

/-! ## Since -/

section since

variable {on hold : α → Prop} {x : α}

/-- Some entry satisfies `on`, and every entry after it satisfies `hold`. -/
def Since (on hold : α → Prop) (xs : List α) : Prop :=
  ∃ pre x post, xs = pre ++ x :: post ∧ on x ∧ ∀ y ∈ post, hold y

/-- Nothing has happened yet. -/
theorem not_since_nil : ¬Since on hold [] := by
  unfold Since
  simp

/-- It happens now, or has and still holds. -/
theorem since_concat : Since on hold (xs ++ [x]) ↔ on x ∨ (Since on hold xs ∧ hold x) := by
  constructor
  · rintro ⟨pre, y, post, hsplit, hon, hhold⟩
    cases post using List.reverseRecOn with
    | nil =>
        obtain ⟨-, hlast⟩ := List.append_inj' hsplit rfl
        rw [List.singleton_inj] at hlast
        subst hlast
        exact Or.inl hon
    | append_singleton post v _ =>
        have hassoc : xs ++ [x] = (pre ++ y :: post) ++ [v] := by simp [hsplit]
        obtain ⟨hinit, hlast⟩ := List.append_inj' hassoc rfl
        rw [List.singleton_inj] at hlast
        subst hlast
        exact Or.inr ⟨⟨pre, y, post, hinit, hon, fun w hw => hhold w (by simp [hw])⟩, hhold x (by simp)⟩
  · rintro (hon | ⟨⟨pre, y, post, rfl, hon, hhold⟩, hx⟩)
    · exact ⟨xs, x, [], rfl, hon, by simp⟩
    · refine ⟨pre, y, post ++ [x], by simp, hon, ?_⟩
      simp only [List.mem_append, List.mem_singleton]
      rintro v (hv | rfl)
      · exact hhold v hv
      · exact hx

end since

end Streak
