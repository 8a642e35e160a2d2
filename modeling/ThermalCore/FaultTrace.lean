import ThermalCore.Lib.Streak
import ThermalCore.Detectors

/-!
# The fault machine as a law over traces

What `fsm_tick` makes of a whole sequence of conditions, without its counters:
when it leaves NORMAL, when it comes back, what a relapse does, and what the
recovery count of a latched machine is.  `FsmInv` ties the two counters to the
streaks of true and false conditions that end the trace; the law is read off it.

Traces are lists of conditions, so the law says nothing of counters: it speaks of the
last `persist_ticks` conditions and of the healthy ones that end the trace.
-/

namespace ThermalCore

open MachineInt

/-! ## Traces -/

/-- What one tick feeds to the machine. -/
structure FsmInput where
  conditionActive : Bool
  nowMs : Nat
deriving DecidableEq

section trace

variable (cfg : FaultDetectorCfg) (persistTicks : Nat)

/-- The machine after a trace, from reset. -/
def fsmAfter (ticks : List FsmInput) : Fsm :=
  ticks.foldl (fun s t => fsmTick s t.conditionActive cfg persistTicks t.nowMs) Fsm.reset

theorem fsmAfter_concat (ticks : List FsmInput) (t : FsmInput) :
    fsmAfter cfg persistTicks (ticks ++ [t]) =
      fsmTick (fsmAfter cfg persistTicks ticks) t.conditionActive cfg persistTicks t.nowMs := by
  unfold fsmAfter
  rw [List.foldl_append]
  rfl

/-- The trace has just reached NORMAL: it is empty, or its last tick brought the
machine back. -/
def EntersNormal (ticks : List FsmInput) : Prop :=
  ticks = [] ∨ ∃ pre t, ticks = pre ++ [t] ∧ (fsmAfter cfg persistTicks pre).state ≠ .normal ∧
    (fsmAfter cfg persistTicks ticks).state = .normal

end trace

/-- Consecutive true conditions at the end of a trace. -/
def activeRun (ticks : List FsmInput) : Nat := Streak.run FsmInput.conditionActive ticks

/-- Consecutive false conditions at the end of a trace. -/
def inactiveRun (ticks : List FsmInput) : Nat := Streak.run (fun t => !t.conditionActive) ticks

/-! ## What the counters count -/

section inv

variable {cfg : FaultDetectorCfg} {persistTicks : Nat}

/-- The state and its counters, against the lengths of the current streaks of
true and of false conditions. -/
structure FsmInv (cfg : FaultDetectorCfg) (persistTicks : Nat) (s : Fsm) (active inactive : Nat) :
    Prop where
  normal : s.state = .normal → s.persistCount = active ∧ active < max 1 persistTicks
  faulted : s.state = .degraded ∨ s.state = .critical →
    s.state = actionToState cfg.action cfg.severity ∧ inactive = 0
  recovering : s.state = .recovering → actionToState cfg.action cfg.severity ≠ .latched ∧
    inactive = s.recoveryCount + 1 ∧ s.recoveryCount < max 1 cfg.recoveryTicks
  latched : s.state = .latched → actionToState cfg.action cfg.severity = .latched ∧
    s.recoveryCount = min 0xFFFF inactive

/-- A fault state is one of three. -/
theorem actionToState_cases (action severity : Nat) :
    actionToState action severity = .latched ∨ actionToState action severity = .critical ∨
      actionToState action severity = .degraded := by
  unfold actionToState
  split
  · exact Or.inl rfl
  · split
    · exact Or.inr (Or.inl rfl)
    · exact Or.inr (Or.inr rfl)

/-- The machine as it enters its fault state, on a true condition. -/
theorem fsmInv_fault {s : Fsm} {active : Nat}
    (hstate : s.state = actionToState cfg.action cfg.severity) (hcount : s.recoveryCount = 0) :
    FsmInv cfg persistTicks s active 0 := by
  have hcases := actionToState_cases cfg.action cfg.severity
  constructor <;> grind

/-- **One tick** keeps the counters in step with the streaks. -/
theorem fsmInv_fsmTick (hp : persistTicks < 2 ^ 16) (hr : cfg.recoveryTicks < 2 ^ 16) {s : Fsm}
    {active inactive : Nat} (h : FsmInv cfg persistTicks s active inactive) (condition : Bool)
    (nowMs : Nat) :
    FsmInv cfg persistTicks (fsmTick s condition cfg persistTicks nowMs)
      (if condition then active + 1 else 0) (if !condition then inactive + 1 else 0) := by
  have hcases := actionToState_cases cfg.action cfg.severity
  unfold fsmTick
  cases hs : s.state with
  | normal =>
      obtain ⟨hcount, hlt⟩ := h.normal hs
      cases condition with
      | false => constructor <;> grind
      | true =>
          have hnext : u16 (s.persistCount + 1) = active + 1 := by
            rw [hcount]
            exact u16_of_lt (by omega)
          simp only [hnext, if_true]
          split
          · exact fsmInv_fault rfl rfl
          · constructor <;> grind
  | degraded =>
      obtain ⟨hstate, hinactive⟩ := h.faulted (Or.inl hs)
      cases condition <;> constructor <;> grind
  | critical =>
      obtain ⟨hstate, hinactive⟩ := h.faulted (Or.inr hs)
      cases condition <;> constructor <;> grind
  | recovering =>
      obtain ⟨haction, hinactive, hlt⟩ := h.recovering hs
      cases condition with
      | true => exact fsmInv_fault rfl rfl
      | false =>
          have hnext : u16 (s.recoveryCount + 1) = s.recoveryCount + 1 := u16_of_lt (by omega)
          simp only [hnext]
          constructor <;> grind
  | latched =>
      obtain ⟨haction, hcount⟩ := h.latched hs
      cases condition <;> constructor <;> grind

theorem fsmInv_after (hp : persistTicks < 2 ^ 16) (hr : cfg.recoveryTicks < 2 ^ 16)
    (ticks : List FsmInput) :
    FsmInv cfg persistTicks (fsmAfter cfg persistTicks ticks) (activeRun ticks) (inactiveRun ticks) := by
  induction ticks using List.reverseRecOn with
  | nil =>
      have hreset : (fsmAfter cfg persistTicks []).state = .normal := rfl
      have hcount : (fsmAfter cfg persistTicks []).persistCount = 0 := rfl
      have hrun : activeRun [] = 0 := rfl
      constructor <;> grind
  | append_singleton ticks t ih =>
      have h := fsmInv_fsmTick hp hr ih t.conditionActive t.nowMs
      rw [fsmAfter_concat]
      unfold activeRun inactiveRun at *
      rw [Streak.run_concat, Streak.run_concat]
      exact h

end inv

/-! ## The law -/

section law

variable {cfg : FaultDetectorCfg} {persistTicks : Nat}

/-- NORMAL is only entered on a false condition. -/
theorem fsmTick_enters_normal {s : Fsm} {condition : Bool} {nowMs : Nat} (hs : s.state ≠ .normal)
    (h : (fsmTick s condition cfg persistTicks nowMs).state = .normal) : condition = false := by
  have haction := actionToState_ne_normal cfg.action cfg.severity
  unfold fsmTick at h
  cases condition with
  | false => rfl
  | true => cases hstate : s.state <;> grind

/-- The true conditions since the machine reached NORMAL are those that end the
whole trace. -/
theorem activeRun_append {pre : List FsmInput} (hpre : EntersNormal cfg persistTicks pre)
    (seg : List FsmInput) : activeRun (pre ++ seg) = activeRun seg := by
  obtain rfl | ⟨q, t, rfl, hleft, hback⟩ := hpre
  · rfl
  · have hfalse : t.conditionActive = false := by
      rw [fsmAfter_concat] at hback
      exact fsmTick_enters_normal hleft hback
    rw [List.append_assoc, List.singleton_append]
    exact Streak.run_append_of_break hfalse q seg

/-- The law of a detector over traces. -/
structure FsmTraceLaw (cfg : FaultDetectorCfg) (persistTicks : Nat) : Prop where
  /-- After a trace `pre` that has just reached NORMAL and ticks `seg` on which the
  machine stayed there, the next tick leaves exactly when it completes
  `max 1 persist_ticks` true conditions in a row since `pre`. -/
  leaves : ∀ pre seg t, EntersNormal cfg persistTicks pre →
    (∀ n ≤ seg.length, (fsmAfter cfg persistTicks (pre ++ seg.take n)).state = .normal) →
    ((fsmAfter cfg persistTicks (pre ++ seg ++ [t])).state ≠ .normal ↔
      activeRun (seg ++ [t]) = max 1 persistTicks)
  /-- Out of NORMAL, a machine that does not latch comes back exactly at the tick
  that completes `1 + max 1 recovery_ticks` false conditions in a row. -/
  reenters : actionToState cfg.action cfg.severity ≠ .latched → ∀ ticks t,
    (fsmAfter cfg persistTicks ticks).state ≠ .normal →
    ((fsmAfter cfg persistTicks (ticks ++ [t])).state = .normal ↔
      inactiveRun (ticks ++ [t]) = 1 + max 1 cfg.recoveryTicks)
  /-- Until then any true condition restores the fault. -/
  relapses : ∀ ticks t, (fsmAfter cfg persistTicks ticks).state ≠ .normal →
    t.conditionActive = true →
    (fsmAfter cfg persistTicks (ticks ++ [t])).state = actionToState cfg.action cfg.severity
  /-- A latched machine never leaves LATCHED. -/
  stays : ∀ ticks more, (fsmAfter cfg persistTicks ticks).state = .latched →
    (fsmAfter cfg persistTicks (ticks ++ more)).state = .latched
  /-- Its recovery count is the length of the current run of false conditions. -/
  counts : ∀ ticks, (fsmAfter cfg persistTicks ticks).state = .latched →
    (fsmAfter cfg persistTicks ticks).recoveryCount = min 0xFFFF (inactiveRun ticks)

theorem fsmTick_relapses {s : Fsm} {active inactive : Nat}
    (h : FsmInv cfg persistTicks s active inactive) (hs : s.state ≠ .normal) (nowMs : Nat) :
    (fsmTick s true cfg persistTicks nowMs).state = actionToState cfg.action cfg.severity := by
  have hf := h.faulted
  have hl := h.latched
  unfold fsmTick
  cases hstate : s.state <;> grind

/-- A tick leaves NORMAL when it completes the streak of true conditions. -/
theorem fsmTick_leaves_iff (hp : persistTicks < 2 ^ 16) {s : Fsm} {active inactive : Nat}
    (h : FsmInv cfg persistTicks s active inactive) (hs : s.state = .normal) (condition : Bool)
    (nowMs : Nat) :
    (fsmTick s condition cfg persistTicks nowMs).state ≠ .normal ↔
      (if condition then active + 1 else 0) = max 1 persistTicks := by
  have haction := actionToState_ne_normal cfg.action cfg.severity
  obtain ⟨hcount, hlt⟩ := h.normal hs
  have hnext : u16 (s.persistCount + 1) = active + 1 := by
    rw [hcount]
    exact u16_of_lt (by omega)
  unfold fsmTick
  rw [hs]
  cases condition with
  | false =>
      simp only [Bool.false_eq_true, if_false]
      grind
  | true =>
      simp only [if_true, hnext]
      split
      · grind
      · grind

/-- A tick comes back to NORMAL when it completes the streak of false conditions. -/
theorem fsmTick_reenters_iff (hr : cfg.recoveryTicks < 2 ^ 16) {s : Fsm} {active inactive : Nat}
    (h : FsmInv cfg persistTicks s active inactive) (hs : s.state ≠ .normal)
    (hlatch : actionToState cfg.action cfg.severity ≠ .latched) (condition : Bool) (nowMs : Nat) :
    (fsmTick s condition cfg persistTicks nowMs).state = .normal ↔
      (if !condition then inactive + 1 else 0) = 1 + max 1 cfg.recoveryTicks := by
  cases condition with
  | true =>
      have haction := actionToState_ne_normal cfg.action cfg.severity
      have hrelapse := fsmTick_relapses h hs nowMs
      grind
  | false =>
      have hf := h.faulted
      have hl := h.latched
      unfold fsmTick
      cases hstate : s.state with
      | normal => exact absurd hstate hs
      | degraded => grind
      | critical => grind
      | latched => exact absurd (hl hstate).1 hlatch
      | recovering =>
          obtain ⟨-, hinactive, hlt⟩ := h.recovering hstate
          have hnext : u16 (s.recoveryCount + 1) = s.recoveryCount + 1 := u16_of_lt (by omega)
          simp only [hnext]
          grind

/-- **The fault machine in full**, for all tick counts, severities and actions. -/
theorem fsm_trace_law (cfg : FaultDetectorCfg) (persistTicks : Nat) (hp : persistTicks < 2 ^ 16)
    (hr : cfg.recoveryTicks < 2 ^ 16) : FsmTraceLaw cfg persistTicks where
  leaves pre seg t hpre hstay := by
    have hnormal : (fsmAfter cfg persistTicks (pre ++ seg)).state = .normal := by
      have h := hstay seg.length (Nat.le_refl _)
      rwa [List.take_length] at h
    have hinv := fsmInv_after hp hr (pre ++ seg)
    have hrun : activeRun (seg ++ [t]) = if t.conditionActive then activeRun seg + 1 else 0 :=
      Streak.run_concat _ seg t
    rw [activeRun_append hpre] at hinv
    rw [fsmAfter_concat, hrun]
    exact fsmTick_leaves_iff hp hinv hnormal t.conditionActive t.nowMs
  reenters hlatch ticks t hs := by
    have hinv := fsmInv_after hp hr ticks
    have hrun : inactiveRun (ticks ++ [t]) =
        if !t.conditionActive then inactiveRun ticks + 1 else 0 := Streak.run_concat _ ticks t
    rw [fsmAfter_concat, hrun]
    exact fsmTick_reenters_iff hr hinv hs hlatch t.conditionActive t.nowMs
  relapses ticks t hs ht := by
    have hinv := fsmInv_after hp hr ticks
    rw [fsmAfter_concat, ht]
    exact fsmTick_relapses hinv hs t.nowMs
  stays ticks more h := by
    induction more using List.reverseRecOn with
    | nil =>
        rw [List.append_nil]
        exact h
    | append_singleton more t ih =>
        rw [← List.append_assoc, fsmAfter_concat]
        exact fsmTick_stays_latched ih
  counts ticks h := (fsmInv_after hp hr ticks).latched h |>.2

end law

/-- A detector that raises CRITICAL and recovers by itself. -/
def recoveringDetector : FaultDetectorCfg :=
  { (default : FaultDetectorCfg) with
    enabled := 1, severity := FaultSeverity.critical.code
    action := FaultAction.forcePwmMaxUntilRecovered.code, persistTicks := 2, recoveryTicks := 1 }

/-- Two true conditions raise the fault and two false ones clear it. -/
theorem fsm_trace_law_recoveringDetector :
    (fsmAfter recoveringDetector 2 [⟨true, 0⟩, ⟨true, 100⟩]).state = .critical ∧
      (fsmAfter recoveringDetector 2
        [⟨true, 0⟩, ⟨true, 100⟩, ⟨false, 200⟩, ⟨false, 300⟩]).state = .normal ∧
      FsmTraceLaw recoveringDetector 2 :=
  ⟨by decide, by decide, fsm_trace_law recoveringDetector 2 (by decide) (by decide)⟩

end ThermalCore
