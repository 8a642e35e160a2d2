import Mathlib.Data.List.Basic

/-!
# Logged computations

A computation that may fail and logs what it does on the way, and two readings of
one log: the events that satisfy `P` and those that satisfy `Q`.  `Needs P Q h x`
says that the first reading holds of the log of `x` exactly when `h` and the
second one do.  `Follows Q ok x y` says that a test `ok`, made without the log, tells
whether every event of `x` satisfies `Q`, and that `x` is then `y`: so a computation
over data of which a part is unknown is told from the part that is known.  There is
one rule for each way a computation is put together.
-/

/-- A log and a result. -/
structure Logged (ω ε α : Type) where
  log : List ω
  result : Except ε α

namespace Logged

variable {ω ε α β : Type}

/-- A computation that logs nothing. -/
def ofExcept (x : Except ε α) : Logged ω ε α := ⟨[], x⟩

instance : Monad (Logged ω ε) where
  pure a := ofExcept (.ok a)
  bind x f :=
    match x.result with
    | .ok a => ⟨x.log ++ (f a).log, (f a).result⟩
    | .error e => ⟨x.log, .error e⟩

/-- Log the events `es` and go on. -/
def emitAll (es : List ω) : Logged ω ε Unit := ⟨es, .ok ()⟩

/-- An event. -/
def emit (e : ω) : Logged ω ε Unit := emitAll [e]

/-- A value logs nothing. -/
@[simp] theorem log_ofExcept (x : Except ε α) : (ofExcept x : Logged ω ε α).log = [] := rfl

/-- An event is logged. -/
@[simp] theorem log_emit (e : ω) : (emit e : Logged ω ε Unit).log = [e] := rfl

/-- The result of a value. -/
@[simp] theorem result_pure (a : α) : (pure a : Logged ω ε α).result = .ok a := rfl

/-- Events do not change the result. -/
@[simp] theorem result_emitAll_bind (es : List ω) (f : Unit → Logged ω ε β) :
    (emitAll es >>= f).result = (f ()).result := rfl

/-- The result of a value or an error. -/
@[simp] theorem result_ofExcept (x : Except ε α) : (ofExcept x : Logged ω ε α).result = x := rfl

/-- An event has no result. -/
@[simp] theorem result_emit (e : ω) : (emit e : Logged ω ε Unit).result = .ok () := rfl

/-- The result of a sequence is the sequence of the results. -/
@[simp] theorem result_bind (x : Logged ω ε α) (f : α → Logged ω ε β) :
    (x >>= f).result = x.result >>= fun a => (f a).result := by
  cases hx : x.result with
  | ok a => simp [bind, hx, Except.bind]
  | error e => simp [bind, hx, Except.bind]

/-- An event comes first in the log. -/
@[simp] theorem log_emit_bind (e : ω) (f : Unit → Logged ω ε β) :
    (emit e >>= f).log = e :: (f ()).log := rfl

/-- What follows a computation is run with its value, or not at all. -/
theorem log_bind (x : Logged ω ε α) (f : α → Logged ω ε β) :
    (∃ a, x.result = .ok a ∧ (x >>= f).log = x.log ++ (f a).log) ∨ (x >>= f).log = x.log := by
  cases hx : x.result with
  | ok a => exact .inl ⟨a, rfl, by simp [bind, hx]⟩
  | error e => exact .inr (by simp [bind, hx])

/-! ## Two readings of a log -/

section needs

variable {P Q : ω → Prop} {h : Prop}

/-- Every event is in `P` exactly when `h` holds and every event is in `Q`. -/
def Needs (P Q : ω → Prop) (h : Prop) (x : Logged ω ε α) : Prop :=
  (∀ e ∈ x.log, P e) ↔ h ∧ ∀ e ∈ x.log, Q e

/-- A value needs nothing. -/
@[simp] theorem needs_ofExcept (x : Except ε α) : Needs P Q True (ofExcept x : Logged ω ε α) := by
  simp [Needs]

/-- A result needs nothing. -/
@[simp] theorem needs_pure (a : α) : Needs P Q True (pure a : Logged ω ε α) := needs_ofExcept _

/-- Events that both readings accept. -/
theorem needs_emitAll {es : List ω} (hP : ∀ e ∈ es, P e) (hQ : ∀ e ∈ es, Q e) :
    Needs P Q True (emitAll es : Logged ω ε Unit) := by
  simpa [Needs, emitAll] using iff_of_true hP hQ

/-- An event the first reading accepts under `h` alone. -/
theorem needs_emit {e : ω} (hP : P e ↔ h) (hQ : Q e) : Needs P Q h (emit e : Logged ω ε Unit) := by
  simp [Needs, hP, hQ]

/-- **Sequence rule.** -/
theorem Needs.bind {x : Logged ω ε α} {f : α → Logged ω ε β} (hx : Needs P Q h x)
    (hf : ∀ a, x.result = .ok a → Needs P Q True (f a)) : Needs P Q h (x >>= f) := by
  obtain ⟨a, ha, hlog⟩ | hlog := log_bind x f
  · have hrest := hf a ha
    simp only [Needs, hlog, List.forall_mem_append, true_and] at hx hrest ⊢
    rw [hx, hrest, and_assoc]
  · simpa [Needs, hlog] using hx

/-- **Announcement rule**: an event the second reading accepts under `h`, in front of a
computation that needs `h`. -/
theorem needs_announce {e : ω} {f : Unit → Logged ω ε β} (hP : P e) (hQ : Q e ↔ h)
    (hf : Needs P Q h (f ())) : Needs P Q True (emit e >>= f) := by
  simp only [Needs, log_emit_bind, List.forall_mem_cons, hP, hQ, true_and] at hf ⊢
  exact hf

end needs

/-! ## Events of one kind -/

/-- Every event of the log satisfies `Q`. -/
def All (Q : ω → Prop) (x : Logged ω ε α) : Prop := ∀ e ∈ x.log, Q e

section all

variable {Q : ω → Prop}

/-- A value has no events. -/
@[simp] theorem all_ofExcept (x : Except ε α) : All Q (ofExcept x : Logged ω ε α) := by simp [All]

/-- A result has no events. -/
@[simp] theorem all_pure (a : α) : All Q (pure a : Logged ω ε α) := all_ofExcept _

/-- The one event of `emit`. -/
theorem all_emit {e : ω} (he : Q e) : All Q (emit e : Logged ω ε Unit) := by simpa [All] using he

/-- The events of `emitAll`. -/
theorem all_emitAll {es : List ω} (hes : ∀ e ∈ es, Q e) : All Q (emitAll es : Logged ω ε Unit) := hes

/-- The events of two parts. -/
theorem All.bind {x : Logged ω ε α} {f : α → Logged ω ε β} (hx : All Q x)
    (hf : ∀ a, x.result = .ok a → All Q (f a)) : All Q (x >>= f) := by
  obtain ⟨a, ha, hlog⟩ | hlog := log_bind x f
  · simpa [All, hlog, or_imp, forall_and] using And.intro hx (hf a ha)
  · simpa [All, hlog] using hx

/-- A sequence satisfies `Q` when its first part does and, where that goes on, what
follows does. -/
theorem all_bind_iff {x : Logged ω ε α} {f : α → Logged ω ε β} :
    All Q (x >>= f) ↔ All Q x ∧ ∀ a, x.result = .ok a → All Q (f a) := by
  cases hx : x.result with
  | ok a => simp [All, bind, hx, or_imp, forall_and]
  | error e => simp [All, bind, hx]

end all

/-! ## A test for the events of a computation -/

/-- The test of the value of a computation, where there is one. -/
def andThen (x : Logged ω ε α) (rest : α → Bool) : Bool :=
  match x.result with
  | .ok a => rest a
  | .error _ => true

/-- The test `ok` tells whether every event of `x` satisfies `Q`; and `x` is then `y`. -/
structure Follows (Q : ω → Prop) (ok : Bool) (x y : Logged ω ε α) : Prop where
  all_iff : All Q x ↔ ok = true
  same : ok = true → x = y

section follows

variable {Q : ω → Prop} {ok : Bool}

/-- A test of what comes next holds for every result. -/
theorem andThen_eq_true {x : Logged ω ε α} {rest : α → Bool} :
    x.andThen rest = true ↔ ∀ a, x.result = .ok a → rest a = true := by
  unfold andThen
  cases x.result with
  | ok a => simp
  | error e => simp

/-- A test that always holds. -/
@[simp] theorem andThen_true (x : Logged ω ε α) : (x.andThen fun _ => true) = true :=
  andThen_eq_true.mpr fun _ _ => rfl

/-- Two equal computations without an event outside `Q`. -/
theorem follows_of_eq {x y : Logged ω ε α} (h : x = y) (hy : All Q y) : Follows Q true x y where
  all_iff := iff_of_true (h ▸ hy) rfl
  same _ := h

/-- A value follows itself. -/
theorem follows_ofExcept (x : Except ε α) : Follows Q true (ofExcept x : Logged ω ε α) (ofExcept x) :=
  follows_of_eq rfl (all_ofExcept x)

/-- A result follows itself. -/
theorem follows_pure (a : α) : Follows Q true (pure a : Logged ω ε α) (pure a) := follows_ofExcept _

/-- What follows is the same where it is the same on every value there is. -/
theorem bind_congr_ok {x : Logged ω ε α} {f g : α → Logged ω ε β} (h : ∀ a, x.result = .ok a → f a = g a) :
    x >>= f = x >>= g := by
  cases hx : x.result with
  | ok a => simp [bind, hx, h a hx]
  | error e => simp [bind, hx]

/-- **Sequence rule**: the first part is tested, then what follows its value. -/
theorem Follows.bind {x y : Logged ω ε α} {f g : α → Logged ω ε β} {rest : α → Bool} (hx : Follows Q ok x y)
    (hf : ∀ a, y.result = .ok a → Follows Q (rest a) (f a) (g a)) :
    Follows Q (ok && y.andThen rest) (x >>= f) (y >>= g) where
  all_iff := by
    rw [all_bind_iff, hx.all_iff, Bool.and_eq_true, andThen_eq_true]
    refine and_congr_right fun hok => ?_
    rw [hx.same hok]
    exact forall₂_congr fun a ha => (hf a ha).all_iff
  same h := by
    obtain ⟨hok, hrest⟩ := Bool.and_eq_true_iff.mp h
    rw [hx.same hok]
    exact bind_congr_ok fun a ha => (hf a ha).same (andThen_eq_true.mp hrest a ha)

/-- A sequence whose second part needs no test. -/
theorem Follows.bind_true {x y : Logged ω ε α} {f g : α → Logged ω ε β} (hx : Follows Q ok x y)
    (hf : ∀ a, y.result = .ok a → Follows Q true (f a) (g a)) : Follows Q ok (x >>= f) (y >>= g) := by
  simpa using hx.bind hf

/-- A sequence whose first part has one value and needs no test. -/
theorem Follows.bind_value {x y : Logged ω ε α} {f g : α → Logged ω ε β} {a : α} (hx : Follows Q true x y)
    (ha : y.result = .ok a) (hf : Follows Q ok (f a) (g a)) : Follows Q ok (x >>= f) (y >>= g) := by
  have hbind : Follows Q (true && y.andThen fun _ => ok) (x >>= f) (y >>= g) := by
    refine hx.bind fun b hb => ?_
    obtain rfl : a = b := Except.ok.inj (ha.symm.trans hb)
    exact hf
  simpa [andThen, ha] using hbind

/-- **Announcement rule**: an event that satisfies `Q` under `m`, in front of a computation
that is tested under `m`. -/
theorem follows_announce {e : ω} {m : Prop} [Decidable m] {f g : Unit → Logged ω ε α} (he : Q e ↔ m)
    (hf : m → Follows Q ok (f ()) (g ())) :
    Follows Q (decide m && ok) (emit e >>= f) (emit e >>= g) where
  all_iff := by
    rw [all_bind_iff, Bool.and_eq_true, decide_eq_true_eq]
    have hemit : All Q (emit e : Logged ω ε Unit) ↔ m := by simpa [All] using he
    rw [hemit]
    refine and_congr_right fun hm => ?_
    exact ⟨fun h => (hf hm).all_iff.mp (h () rfl), fun h _ _ => (hf hm).all_iff.mpr h⟩
  same h := by
    obtain ⟨hm, hok⟩ := Bool.and_eq_true_iff.mp h
    exact bind_congr_ok fun _ _ => (hf (of_decide_eq_true hm)).same hok

end follows

end Logged
