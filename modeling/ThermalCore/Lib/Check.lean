import ThermalCore.Lib.FixedArray

/-!
# Validators that stop at the first failure

A validator is a sequence of tests, each returning an error code when it fails.
Acceptance is order-independent even though the code is not: a sequence accepts
exactly when each test does, a loop exactly when its body does at every index.

The rules are simp lemmas from `= .ok ()` to propositions, so a validator is turned
into the list of its rules by unfolding it once.
-/

namespace Check

variable {ε : Type*}

/-- `if (c) return e;` -/
def failIf (c : Prop) [Decidable c] (e : ε) : Except ε Unit := if c then .error e else .ok ()

/-- A loop of tests, left at the first failure. -/
def each (count : Nat) (f : Nat → Except ε Unit) : Except ε Unit :=
  Loop.fold count (.ok ()) fun acc i => acc >>= fun _ => f i

/-- A test accepts when its condition is false. -/
@[simp] theorem failIf_eq_ok {c : Prop} [Decidable c] {e : ε} : failIf c e = .ok () ↔ ¬c := by
  simp only [failIf]
  split <;> simp_all

/-- A sequence that runs through has run through its first part. -/
theorem exists_of_bind_eq_ok {α β : Type} {x : Except ε α} {f : α → Except ε β} {b : β}
    (h : (x >>= f) = .ok b) : ∃ a, x = .ok a ∧ f a = .ok b := by
  cases x with
  | error e => simp [bind, Except.bind] at h
  | ok a => exact ⟨a, rfl, h⟩

/-- A sequence accepts when both parts do. -/
@[simp] theorem bind_eq_ok {a : Except ε Unit} {f : Unit → Except ε Unit} :
    (a >>= f) = .ok () ↔ a = .ok () ∧ f () = .ok () := by
  cases a with
  | error e => simp [bind, Except.bind]
  | ok u => simp [bind, Except.bind]

/-- A test made on a condition. -/
@[simp] theorem ite_ok_eq_ok {c : Prop} [Decidable c] {a : Except ε Unit} :
    (if c then a else .ok ()) = .ok () ↔ (c → a = .ok ()) := by
  split <;> simp_all

/-- A loop accepts when its body does at every index. -/
@[simp] theorem each_eq_ok {count : Nat} {f : Nat → Except ε Unit} :
    each count f = .ok () ↔ ∀ i < count, f i = .ok () := by
  induction count with
  | zero => simp [each]
  | succ count ih =>
      have hstep : each (count + 1) f = (each count f >>= fun _ => f count) := by
        simp only [each, Loop.fold_succ]
      rw [hstep, bind_eq_ok, ih]
      constructor
      · rintro ⟨h, hc⟩ i hi
        rcases Nat.lt_succ_iff_lt_or_eq.mp hi with hlt | rfl
        · exact h i hlt
        · exact hc
      · exact fun h => ⟨fun i hi => h i (Nat.lt_succ_of_lt hi), h count (Nat.lt_succ_self _)⟩

/-- Two loops over the same tests. -/
theorem each_congr {count : Nat} {f g : Nat → Except ε Unit} (h : ∀ i < count, f i = g i) :
    each count f = each count g :=
  Loop.fold_congr fun i hi acc => by rw [h i hi]

end Check
