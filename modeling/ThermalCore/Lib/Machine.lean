import Mathlib.Tactic.Common

/-!
# Runs of a deterministic machine

A machine answers each input with an output and a next state.  A run is a list
of inputs; this module has the state a run ends in, the outputs along it, the
conditions its inputs meet, what can be observed along it, the reachable states,
and the induction rules
everything about runs goes through: an invariant kept by every step, a part of
the state that is a fold of the observations, and a relation between two
machines kept by every pair of matching steps, and the run of a component within a
run of its system.
-/

namespace Machine

variable {σ ι ο : Type*} (step : σ → ι → σ × ο)

/-- The state a run ends in. -/
def after (s : σ) : List ι → σ
  | [] => s
  | i :: is => after (step s i).1 is

/-- The outputs along a run, in order. -/
def outputs (s : σ) : List ι → List ο
  | [] => []
  | i :: is => (step s i).2 :: outputs (step s i).1 is

/-- The states some run from `s₀` ends in. -/
def Reachable (s₀ s : σ) : Prop := ∃ is : List ι, after step s₀ is = s

/-- No inputs. -/
@[simp] theorem after_nil (s : σ) : after step s [] = s := rfl

/-- The first input, then the others. -/
@[simp] theorem after_cons (s : σ) (i : ι) (is : List ι) :
    after step s (i :: is) = after step (step s i).1 is := rfl

/-- No inputs, no outputs. -/
@[simp] theorem outputs_nil (s : σ) : outputs step s [] = [] := rfl

/-- The first output, then the others. -/
@[simp] theorem outputs_cons (s : σ) (i : ι) (is : List ι) :
    outputs step s (i :: is) = (step s i).2 :: outputs step (step s i).1 is := rfl

/-- A run in two parts. -/
theorem after_append (s : σ) (is js : List ι) :
    after step s (is ++ js) = after step (after step s is) js := by
  induction is generalizing s with
  | nil => rfl
  | cons i is ih => exact ih _

/-- A run with one input more. -/
theorem after_concat (s : σ) (is : List ι) (i : ι) :
    after step s (is ++ [i]) = (step (after step s is) i).1 := by
  rw [after_append, after_cons, after_nil]

/-- The outputs of a run in two parts. -/
theorem outputs_append (s : σ) (is js : List ι) :
    outputs step s (is ++ js) = outputs step s is ++ outputs step (after step s is) js := by
  induction is generalizing s with
  | nil => rfl
  | cons i is ih => simp [ih]

/-- The outputs of a run with one input more. -/
theorem outputs_concat (s : σ) (is : List ι) (i : ι) :
    outputs step s (is ++ [i]) = outputs step s is ++ [(step (after step s is) i).2] := by
  rw [outputs_append, outputs_cons, outputs_nil]

variable {step}

/-! ## Conditions along a run -/

section along

variable {Q : σ → ι → Prop}

variable (step Q) in
/-- `Q` holds of every input of a run and the state it meets. -/
def Along (s : σ) : List ι → Prop
  | [] => True
  | i :: is => Q s i ∧ Along (step s i).1 is

instance decidableAlong [∀ s i, Decidable (Q s i)] (s : σ) :
    (is : List ι) → Decidable (Along step Q s is)
  | [] => .isTrue trivial
  | i :: is =>
      have := decidableAlong (step s i).1 is
      inferInstanceAs (Decidable (_ ∧ _))

/-- The same by cutting the run at each input. -/
theorem along_iff {s : σ} {is : List ι} :
    Along step Q s is ↔ ∀ pre i later, is = pre ++ i :: later → Q (after step s pre) i := by
  induction is generalizing s with
  | nil => simp [Along]
  | cons i is ih =>
      unfold Along
      rw [ih]
      constructor
      · rintro ⟨hnow, hlater⟩ pre j later hsplit
        cases pre with
        | nil =>
            rw [List.nil_append, List.cons.injEq] at hsplit
            obtain ⟨rfl, -⟩ := hsplit
            exact hnow
        | cons k pre =>
            rw [List.cons_append, List.cons.injEq] at hsplit
            obtain ⟨rfl, hrest⟩ := hsplit
            exact hlater pre j later hrest
      · intro h
        refine ⟨h [] i is rfl, fun pre j later hsplit => ?_⟩
        rw [hsplit] at h
        exact h (i :: pre) j later rfl

/-- What holds of every state and input holds along a run. -/
theorem along_of_forall (h : ∀ s i, Q s i) (s : σ) (is : List ι) : Along step Q s is :=
  along_iff.mpr fun _ _ _ _ => h _ _

end along

/-! ## Observations along a run -/

section observed

variable {ω ν : Type*} {obs : σ → ι → Option ω}

variable (step obs) in
/-- What is observed along a run, in order; an input may show nothing. -/
def observed (s : σ) : List ι → List ω
  | [] => []
  | i :: is => (obs s i).toList ++ observed (step s i).1 is

/-- The first observation, if there is one, then the others. -/
theorem observed_cons (s : σ) (i : ι) (is : List ι) :
    observed step obs s (i :: is) = (obs s i).toList ++ observed step obs (step s i).1 is := rfl

/-- The observations of a run in two parts. -/
theorem observed_append (s : σ) (is js : List ι) :
    observed step obs s (is ++ js) = observed step obs s is ++ observed step obs (after step s is) js := by
  induction is generalizing s with
  | nil => rfl
  | cons i is ih => rw [List.cons_append, observed_cons, observed_cons, ih, List.append_assoc, after_cons]

/-- An observation comes from one input, with its own run before and after. -/
theorem observed_eq_append_cons {s : σ} {is : List ι} {pre rest : List ω} {x : ω}
    (h : observed step obs s is = pre ++ x :: rest) :
    ∃ is₁ i is₂, is = is₁ ++ i :: is₂ ∧ observed step obs s is₁ = pre ∧
      obs (after step s is₁) i = some x ∧
      observed step obs (step (after step s is₁) i).1 is₂ = rest := by
  induction is generalizing s pre with
  | nil =>
      unfold observed at h
      simp at h
  | cons i is ih =>
      rw [observed_cons] at h
      cases ho : obs s i with
      | none =>
          rw [ho, Option.toList_none, List.nil_append] at h
          obtain ⟨is₁, j, is₂, rfl, hpre, hx, hrest⟩ := ih h
          refine ⟨i :: is₁, j, is₂, rfl, ?_, hx, hrest⟩
          rw [observed_cons, ho, Option.toList_none, List.nil_append, hpre]
      | some y =>
          rw [ho, Option.toList_some, List.singleton_append] at h
          cases pre with
          | nil =>
              rw [List.nil_append, List.cons.injEq] at h
              obtain ⟨rfl, hrest⟩ := h
              exact ⟨[], i, is, rfl, rfl, ho, hrest⟩
          | cons y' pre =>
              rw [List.cons_append, List.cons.injEq] at h
              obtain ⟨rfl, htail⟩ := h
              obtain ⟨is₁, j, is₂, rfl, hpre, hx, hrest⟩ := ih htail
              refine ⟨i :: is₁, j, is₂, rfl, ?_, hx, hrest⟩
              rw [observed_cons, ho, Option.toList_some, List.singleton_append, hpre]

/-- **Fold rule**: a part of the state that only observed inputs change, each by
what is observed, is the fold of the observations. -/
theorem after_eq_foldl {f : σ → ν} {g : ν → ω → ν}
    (hstep : ∀ s i, f (step s i).1 = (obs s i).elim (f s) (g (f s))) (s : σ) (is : List ι) :
    f (after step s is) = (observed step obs s is).foldl g (f s) := by
  induction is generalizing s with
  | nil => rfl
  | cons i is ih =>
      rw [after_cons, observed_cons, ih, hstep]
      cases obs s i with
      | none => rfl
      | some x => rfl

/-- **Invariant rule with a history**: what holds of a state and a history, and
survives every step of the run with what the step shows, holds after the run with
what was observed along it. -/
theorem observed_invariant_of {P : σ → List ω → Prop} {Q : σ → ι → Prop}
    (hstep : ∀ s ws i, Q s i → P s ws → P (step s i).1 (ws ++ (obs s i).toList)) {s : σ} {ws : List ω}
    (h : P s ws) {is : List ι} (hq : Along step Q s is) :
    P (after step s is) (ws ++ observed step obs s is) := by
  induction is generalizing s ws with
  | nil =>
      unfold observed
      rw [List.append_nil]
      exact h
  | cons i is ih =>
      rw [after_cons, observed_cons, ← List.append_assoc]
      exact ih (hstep s ws i hq.1 h) hq.2

end observed

/-- **Invariant rule**: what holds at the start and survives every step holds
after every run. -/
theorem after_invariant {P : σ → Prop} (hstep : ∀ s i, P s → P (step s i).1) {s : σ} (h : P s)
    (is : List ι) : P (after step s is) := by
  induction is generalizing s with
  | nil => exact h
  | cons i is ih => exact ih (hstep s i h)

/-- The same, for runs whose inputs all satisfy `Q`. -/
theorem after_invariant_of {P : σ → Prop} {Q : ι → Prop} (hstep : ∀ s i, Q i → P s → P (step s i).1)
    {s : σ} (h : P s) {is : List ι} (hq : ∀ i ∈ is, Q i) : P (after step s is) := by
  induction is generalizing s with
  | nil => exact h
  | cons i is ih =>
      rw [List.forall_mem_cons] at hq
      exact ih (hstep s i hq.1 h) hq.2

/-- **Invariant rule with the outputs**: what holds of a state and the outputs so
far, and survives every step of the run with the output it adds, holds after the
run with all of them. -/
theorem outputs_invariant_of {P : σ → List ο → Prop} {Q : ι → Prop}
    (hstep : ∀ s os i, Q i → P s os → P (step s i).1 (os ++ [(step s i).2])) {s : σ} {os : List ο}
    (h : P s os) {is : List ι} (hq : ∀ i ∈ is, Q i) : P (after step s is) (os ++ outputs step s is) := by
  induction is generalizing s os with
  | nil => simpa using h
  | cons i is ih =>
      rw [List.forall_mem_cons] at hq
      simpa using ih (hstep s os i hq.1 h) hq.2

namespace Reachable

/-- Where the machine starts. -/
theorem refl (s : σ) : Reachable step s s := ⟨[], rfl⟩

/-- One input further. -/
theorem next {s₀ s : σ} (h : Reachable step s₀ s) (i : ι) : Reachable step s₀ (step s i).1 := by
  obtain ⟨is, rfl⟩ := h
  exact ⟨is ++ [i], after_concat step s₀ is i⟩

/-- A run further. -/
theorem run {s₀ s : σ} (h : Reachable step s₀ s) (is : List ι) :
    Reachable step s₀ (after step s is) := by
  obtain ⟨js, rfl⟩ := h
  exact ⟨js ++ is, after_append step s₀ js is⟩

/-- **Induction**: what holds at the start and is kept by every step. -/
theorem invariant {P : σ → Prop} {s₀ s : σ} (h : Reachable step s₀ s) (h₀ : P s₀)
    (hstep : ∀ s i, P s → P (step s i).1) : P s := by
  obtain ⟨is, rfl⟩ := h
  exact after_invariant hstep h₀ is

end Reachable

/-! ## Two runs -/

section twoRuns

variable {τ κ π : Type*} {step' : τ → κ → τ × π} {R : σ → τ → Prop}

/-- **Two-run rule**: when matching inputs keep two machines related and give
related outputs, matching runs give related lists of outputs. -/
theorem outputs_rel {Q : ι → κ → Prop} {S : ο → π → Prop}
    (hstep : ∀ s t i k, R s t → Q i k → R (step s i).1 (step' t k).1 ∧ S (step s i).2 (step' t k).2)
    {s : σ} {t : τ} (h : R s t) {is : List ι} {ks : List κ} (hq : List.Forall₂ Q is ks) :
    List.Forall₂ S (outputs step s is) (outputs step' t ks) := by
  induction hq generalizing s t with
  | nil => exact List.Forall₂.nil
  | cons hik _ ih =>
      obtain ⟨hnext, hout⟩ := hstep _ _ _ _ h hik
      exact List.Forall₂.cons hout (ih hnext)

/-- **Simulation rule**: when each input has one matching input `q i` and the
views `f` and `g` of the two outputs agree, a run and its image stay related and
their outputs look the same. -/
theorem sim_map {ρ : Type*} {q : ι → κ} {f : ο → ρ} {g : π → ρ} (hstep : ∀ s t i, R s t →
      R (step s i).1 (step' t (q i)).1 ∧ g (step' t (q i)).2 = f (step s i).2)
    {s : σ} {t : τ} (h : R s t) (is : List ι) :
    R (after step s is) (after step' t (is.map q)) ∧
      (outputs step' t (is.map q)).map g = (outputs step s is).map f := by
  induction is generalizing s t with
  | nil => exact ⟨h, rfl⟩
  | cons i is ih =>
      obtain ⟨hnext, hout⟩ := hstep _ _ i h
      obtain ⟨hrel, houts⟩ := ih hnext
      refine ⟨hrel, ?_⟩
      simp only [List.map_cons, outputs_cons, houts, hout]

end twoRuns

/-! ## Components -/

section component

variable {τ κ π : Type*} {step' : τ → κ → τ × π} {part : σ → τ} {inputs : ο → List κ}

/-- **Component rule**: when every step of a system runs one of its components on
inputs it reports, a run of the system runs the component on all of them. -/
theorem after_component (hstep : ∀ s i, part (step s i).1 = after step' (part s) (inputs (step s i).2))
    (s : σ) (is : List ι) :
    part (after step s is) = after step' (part s) ((outputs step s is).flatMap inputs) := by
  induction is generalizing s with
  | nil => rfl
  | cons i is ih => rw [after_cons, ih, hstep, outputs_cons, List.flatMap_cons, after_append]

end component

end Machine
