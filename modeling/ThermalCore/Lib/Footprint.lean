import Mathlib.Data.Set.Basic
import Mathlib.Data.List.Basic
import Mathlib.Tactic.Common

/-!
# Partial steps that write one component of a state

A state is a family of components, and a step that may fail writes one of them
from what it finds there and in the components it reads.  Two such steps
commute when neither writes what the other reads or writes, and a run of
commuting steps does not depend on their order.
-/

namespace Footprint

variable {ι S α : Type*} {V : ι → Type*}

/-! ## Commuting steps -/

/-- The two orders end in the same state, or both fail. -/
def Commute (f g : S → Option S) : Prop := ∀ s, (f s).bind g = (g s).bind f

/-- A step that changes nothing: it lets every state pass, or none. -/
def IsTest (f : S → Option S) : Prop := (∀ s, f s = some s) ∨ ∀ s, f s = none

/-- Commuting goes both ways. -/
theorem Commute.symm {f g : S → Option S} (h : Commute f g) : Commute g f := fun s => (h s).symm

/-- A test commutes with every step. -/
theorem IsTest.commute {f : S → Option S} (hf : IsTest f) (g : S → Option S) : Commute f g := by
  intro s
  rcases hf with hpass | hfail
  · cases hg : g s with
    | none => simp [hpass, hg]
    | some s' => simp [hpass, hg]
  · cases hg : g s with
    | none => simp [hfail]
    | some s' => simp [hfail]

/-- The steps `f a` of the elements of a list, in order. -/
def run (f : α → S → Option S) (l : List α) (s : S) : Option S := l.foldlM (fun s a => f a s) s

/-- A run of no steps. -/
@[simp] theorem run_nil (f : α → S → Option S) (s : S) : run f [] s = some s := rfl

/-- The first step, then the others. -/
@[simp] theorem run_cons (f : α → S → Option S) (a : α) (l : List α) (s : S) :
    run f (a :: l) s = (f a s).bind (run f l) := rfl

/-- A run of one step. -/
@[simp] theorem run_singleton (f : α → S → Option S) (a : α) (s : S) : run f [a] s = f a s := by
  rw [run_cons]
  cases f a s <;> rfl

/-- A run in two parts. -/
@[simp] theorem run_append (f : α → S → Option S) (l l' : List α) (s : S) :
    run f (l ++ l') s = (run f l s).bind (run f l') := by
  simp [run, List.foldlM_append]
  rfl

/-- Elements whose steps commute pairwise may be reordered. -/
theorem run_perm {f : α → S → Option S} {l l' : List α} (hperm : l.Perm l')
    (hcomm : ∀ a ∈ l, ∀ b ∈ l, a ≠ b → Commute (f a) (f b)) (s : S) : run f l s = run f l' s := by
  induction hperm generalizing s with
  | nil => rfl
  | cons a _ ih =>
      simp only [run_cons]
      congr 1
      funext s'
      exact ih (fun b hb c hc => hcomm b (List.mem_cons_of_mem _ hb) c (List.mem_cons_of_mem _ hc)) s'
  | swap a b l =>
      by_cases hab : b = a
      · rw [hab]
      · simp only [run_cons]
        have h := hcomm b (by simp) a (by simp) hab s
        calc (f b s).bind (fun s' => (f a s').bind (run f l))
            = ((f b s).bind (f a)).bind (run f l) := by rw [Option.bind_assoc]
          _ = ((f a s).bind (f b)).bind (run f l) := by rw [h]
          _ = (f a s).bind (fun s' => (f b s').bind (run f l)) := by rw [Option.bind_assoc]
  | trans h₁ _ ih₁ ih₂ =>
      have hcomm' : ∀ a ∈ _, ∀ b ∈ _, a ≠ b → Commute (f a) (f b) := fun a ha b hb =>
        hcomm a (h₁.mem_iff.mpr ha) b (h₁.mem_iff.mpr hb)
      exact (ih₁ hcomm s).trans (ih₂ hcomm' s)

/-! ## Components -/

/-- A state taken apart into components. -/
structure Components (ι : Type*) (V : ι → Type*) (S : Type*) where
  view : ∀ i, S → V i
  put : ∀ i, V i → S → S
  view_put : ∀ i c s, view i (put i c s) = c
  view_put_ne : ∀ {i j} c s, j ≠ i → view j (put i c s) = view j s
  ext : ∀ {s t}, (∀ i, view i s = view i t) → s = t

variable (C : Components ι V S)

/-- Two components are written in either order. -/
theorem Components.put_comm {i j : ι} (hij : i ≠ j) (c : V i) (d : V j) (s : S) :
    C.put i c (C.put j d s) = C.put j d (C.put i c s) := by
  apply C.ext
  intro k
  by_cases hki : k = i
  · subst hki
    rw [C.view_put, C.view_put_ne _ _ hij, C.view_put]
  · by_cases hkj : k = j
    · subst hkj
      rw [C.view_put_ne _ _ hki, C.view_put, C.view_put]
    · rw [C.view_put_ne _ _ hki, C.view_put_ne _ _ hkj, C.view_put_ne _ _ hkj,
        C.view_put_ne _ _ hki]

/-- The step writes component `i`, from its value and the components in `reads`. -/
def Writes (i : ι) (reads : Set ι) (f : S → Option S) : Prop :=
  ∃ F : S → V i → Option (V i),
    (∀ s t, (∀ j ∈ reads, C.view j s = C.view j t) → F s = F t) ∧
      ∀ s, f s = (F s (C.view i s)).map fun c => C.put i c s

variable {C} {i j : ι} {R Q : Set ι} {f g : S → Option S}

/-- What a step does not write it keeps. -/
theorem Writes.frame (hf : Writes C i R f) {s s' : S} (h : f s = some s') (hj : j ≠ i) :
    C.view j s' = C.view j s := by
  obtain ⟨F, -, hF⟩ := hf
  rw [hF, Option.map_eq_some_iff] at h
  obtain ⟨c, -, rfl⟩ := h
  exact C.view_put_ne c s hj

/-- A step is blind to a component it neither reads nor writes. -/
theorem Writes.put (hf : Writes C i R f) (hk : j ≠ i) (hR : j ∉ R) (d : V j) (s : S) :
    f (C.put j d s) = (f s).map fun s' => C.put j d s' := by
  obtain ⟨F, hreads, hF⟩ := hf
  have hsame : F (C.put j d s) = F s := by
    apply hreads
    intro k hkR
    exact C.view_put_ne d s fun hkj => hR (hkj ▸ hkR)
  rw [hF, hF, hsame, C.view_put_ne d s hk.symm, Option.map_map]
  congr 1
  funext c
  exact C.put_comm hk.symm c d s

/-- A test lets a state pass, or none, whatever a component holds. -/
theorem IsTest.put (hf : IsTest f) (d : V j) (s : S) :
    f (C.put j d s) = (f s).map fun s' => C.put j d s' := by
  rcases hf with hpass | hfail
  · rw [hpass, hpass, Option.map_some]
  · rw [hfail, hfail, Option.map_none]

/-- Steps that write different components and do not read each other's commute. -/
theorem Writes.commute (hf : Writes C i R f) (hg : Writes C j Q g) (hij : i ≠ j) (hiQ : i ∉ Q)
    (hjR : j ∉ R) : Commute f g := by
  intro s
  obtain ⟨F, -, hF⟩ := id hf
  obtain ⟨G, -, hG⟩ := id hg
  have hleft : (f s).bind g = (F s (C.view i s)).bind fun c => (g s).map fun s' => C.put i c s' := by
    rw [hF, Option.bind_map]
    congr 1
    funext c
    exact hg.put hij hiQ c s
  have hright : (g s).bind f = (G s (C.view j s)).bind fun d => (f s).map fun s' => C.put j d s' := by
    rw [hG, Option.bind_map]
    congr 1
    funext d
    exact hf.put hij.symm hjR d s
  rw [hleft, hright, hF, hG]
  cases F s (C.view i s) with
  | none => cases G s (C.view j s) <;> rfl
  | some c =>
      cases G s (C.view j s) with
      | none => rfl
      | some d => exact congrArg some (C.put_comm hij c d s)

/-! ## Runs beside one component -/

variable {step : α → S → Option S} {l : List α}

/-- Every step of the list is a test or writes a component satisfying `P`,
reading nothing outside `R`. -/
def WritesWithin (C : Components ι V S) (P : ι → Prop) (R : Set ι) (step : α → S → Option S)
    (l : List α) : Prop :=
  ∀ a ∈ l, IsTest (step a) ∨ ∃ i, P i ∧ Writes C i R (step a)

/-- A run that neither writes nor reads a component does not notice it. -/
theorem run_put {P : ι → Prop} (hl : WritesWithin C P R step l) (hP : ¬P j) (hR : j ∉ R) (d : V j)
    (s : S) : run step l (C.put j d s) = (run step l s).map fun s' => C.put j d s' := by
  induction l generalizing s with
  | nil => rfl
  | cons a l ih =>
      have hhead : step a (C.put j d s) = (step a s).map fun s' => C.put j d s' := by
        rcases hl a (by simp) with htest | ⟨i, hi, hw⟩
        · exact htest.put d s
        · have hji : j ≠ i := by
            rintro rfl
            exact hP hi
          exact hw.put hji hR d s
      have htail : WritesWithin C P R step l := fun b hb => hl b (List.mem_cons_of_mem _ hb)
      rw [run_cons, run_cons, hhead, Option.bind_map, Option.map_bind]
      congr 1
      funext s'
      exact ih htail s'

/-- A run that does not write a component leaves it. -/
theorem run_frame {P : ι → Prop} (hl : WritesWithin C P R step l) (hP : ¬P j) {s s' : S}
    (h : run step l s = some s') : C.view j s' = C.view j s := by
  induction l generalizing s with
  | nil =>
      rw [run_nil, Option.some.injEq] at h
      rw [h]
  | cons a l ih =>
      rw [run_cons, Option.bind_eq_some_iff] at h
      obtain ⟨s₁, hhead, htail⟩ := h
      rw [ih (fun b hb => hl b (List.mem_cons_of_mem _ hb)) htail]
      rcases hl a (by simp) with (hpass | hfail) | ⟨i, hi, hw⟩
      · rw [hpass, Option.some.injEq] at hhead
        rw [hhead]
      · rw [hfail] at hhead
        exact absurd hhead (by simp)
      · have hji : j ≠ i := by
          rintro rfl
          exact hP hi
        exact hw.frame hhead hji

end Footprint
