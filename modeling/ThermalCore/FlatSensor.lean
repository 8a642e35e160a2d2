import ThermalCore.Detectors

/-!
# A sensor that never moves

Runs of the stuck-sensor detector on a valid sensor whose value is the same on
every tick.  The window is judged once in `window_ticks - 1` ticks, the state
machine counts every tick, and whether the fault is raised and stays raised
depends on the two together.

A judgement and a tick of the machine have different periods, so a fault may be raised,
recover and be raised again.  The run is therefore followed by windows: what one window
does to the machine, then any number of them.
-/

namespace ThermalCore

open MachineInt

/-! ## The state machine under a constant condition -/

section fsm

variable {fc : FaultDetectorCfg} {persist : Nat} {s : Fsm}

/-- Under a lasting condition a fault state lasts. -/
theorem fsmTick_stays {now : Nat} (h : s.state ≠ .normal) :
    (fsmTick s true fc persist now).state ≠ .normal := by
  unfold fsmTick
  split
  · contradiction
  · exact h
  · exact h
  · exact actionToState_ne_normal fc.action fc.severity
  · exact h

/-- Under a lasting condition the count of a NORMAL machine goes up to
`persist_ticks`. -/
theorem fsmTick_counts (fc : FaultDetectorCfg) (now : Nat) {k : Nat} (hpersist : persist < 2 ^ 16) (hk : k < max 1 persist)
    (h : s.state ≠ .normal ∨ s.persistCount = k) :
    (fsmTick s true fc persist now).state ≠ .normal ∨
      (k + 1 < persist ∧ (fsmTick s true fc persist now).persistCount = k + 1) := by
  by_cases hstate : s.state = .normal
  · have hcount : s.persistCount = k := h.resolve_left fun hne => hne hstate
    have hnext : u16 (s.persistCount + 1) = k + 1 := by
      unfold u16
      omega
    unfold fsmTick
    simp only [hstate, ite_true, hnext]
    split
    · exact Or.inl (actionToState_ne_normal fc.action fc.severity)
    · next hlt => exact Or.inr ⟨Nat.lt_of_not_ge hlt, rfl⟩
  · exact Or.inl (fsmTick_stays hstate)

/-! ## The state machine under a condition that comes and goes -/

/-- The machine `d` ticks after the condition was last true: the fault, then
RECOVERING for `recovery_ticks` ticks, then NORMAL. -/
inductive Lapse (fc : FaultDetectorCfg) : Nat → Fsm → Prop
  | fault {s : Fsm} (state : s.state = actionToState fc.action fc.severity) : Lapse fc 0 s
  | recovering {s : Fsm} {d : Nat} (state : s.state = .recovering) (count : s.recoveryCount = d)
      (left : d < max 1 fc.recoveryTicks) : Lapse fc (d + 1) s
  | normal {s : Fsm} {d : Nat} (state : s.state = .normal) (count : s.persistCount = 0)
      (done : max 1 fc.recoveryTicks < d) : Lapse fc d s

/-- The machine is back at normal once its recovery ticks are over. -/
theorem Lapse.normal_iff {d : Nat} (h : Lapse fc d s) :
    s.state = .normal ↔ max 1 fc.recoveryTicks < d := by
  cases h with
  | fault state =>
      rw [state]
      exact iff_of_false (actionToState_ne_normal fc.action fc.severity) (Nat.not_lt_zero _)
  | recovering state count left =>
      rw [state]
      exact iff_of_false (by decide) (by omega)
  | normal state count done => exact iff_of_true state done

/-- The condition is true again: with one persist tick the fault is back at once. -/
theorem Lapse.relapse {d now : Nat} (h : Lapse fc d s) (hpersist : persist ≤ 1) :
    Lapse fc 0 (fsmTick s true fc persist now) := by
  cases h with
  | fault state =>
      refine .fault ?_
      unfold fsmTick
      split
      · next hnormal => exact absurd (state.symm.trans hnormal) (actionToState_ne_normal fc.action fc.severity)
      · exact state
      · exact state
      · rfl
      · exact state
  | recovering state =>
      refine .fault ?_
      unfold fsmTick
      rw [state]
      rfl
  | normal state count =>
      refine .fault ?_
      unfold fsmTick u16
      simp only [state, count, ite_true]
      rw [if_pos (by omega)]

/-- A tick without the condition, counted on from a recovering state. -/
theorem lapse_recovering_or_normal {now k : Nat} (hstate : s.state = .recovering)
    (hcount : s.recoveryCount = k) (hk : k < max 1 fc.recoveryTicks) (hrec : fc.recoveryTicks < 2 ^ 16) :
    Lapse fc (k + 2) (fsmTick s false fc persist now) := by
  have hnext : u16 (s.recoveryCount + 1) = k + 1 := by
    unfold u16
    omega
  unfold fsmTick
  simp only [hstate, hnext]
  by_cases hdone : k + 1 ≥ fc.recoveryTicks
  · simp only [hdone]
    exact .normal rfl rfl (by omega)
  · simp only [hdone]
    exact .recovering rfl rfl (by omega)

/-- The condition is false once more. -/
theorem Lapse.next {d now : Nat} (h : Lapse fc d s) (hrec : fc.recoveryTicks < 2 ^ 16)
    (hlatch : actionToState fc.action fc.severity ≠ .latched) :
    Lapse fc (d + 1) (fsmTick s false fc persist now) := by
  cases h with
  | fault state =>
      refine .recovering ?_ ?_ (by omega)
      all_goals
        unfold fsmTick
        split
        · next hs => exact absurd (state.symm.trans hs) (actionToState_ne_normal fc.action fc.severity)
        · rfl
        · rfl
        · next hs =>
            unfold actionToState at state
            grind
        · next hs => exact absurd (state.symm.trans hs) hlatch
  | recovering state count left => exact lapse_recovering_or_normal state count left hrec
  | normal state count done =>
      have hnext : fsmTick s false fc persist now = { s with persistCount := 0 } := by
        simp [fsmTick, state]
      rw [hnext]
      exact .normal state rfl (by omega)

end fsm

/-! ## The run -/

/-- The detector after `n` ticks on a valid sensor at `value`, with any context
and clock. -/
def constantRun (fc : FaultDetectorCfg) (value : Int) (context : Nat → Bool × Int) (now : Nat → Nat) :
    Nat → StuckSensorState
  | 0 => thermalFaultStuckSensorReset
  | n + 1 =>
      thermalFaultStuckSensorStep (constantRun fc value context now n) fc value true (context n).1
        (context n).2 (now n)

/-- An enabled detector in flatness-only mode, with a positive threshold and a
window of 1 to 65535 ticks. -/
structure FlatnessCfg (fc : FaultDetectorCfg) : Prop where
  enabled : fc.enabled ≠ 0
  flatnessOnly : fc.flatnessOnly = true
  delta : 0 < fc.threshold0
  window : 1 ≤ fc.threshold1 ∧ fc.threshold1 ≤ 65535
  persistTicks : fc.persistTicks < 2 ^ 16
  recoveryTicks : fc.recoveryTicks < 2 ^ 16

/-- `window_ticks`. -/
def windowTicks (fc : FaultDetectorCfg) : Nat := toU16 fc.threshold1

/-- Ticks from one verdict to the next: the sample that closes a window also
opens the next one. -/
def verdictPeriod (fc : FaultDetectorCfg) : Nat := max 1 (windowTicks fc - 1)

/-- The window after `n` ticks. -/
structure FlatWindow (fc : FaultDetectorCfg) (value : Int) (n : Nat) (w : StuckWindow) : Prop where
  valueMin : 0 < n → w.valueMin = value
  valueMax : 0 < n → w.valueMax = value
  tickCount : w.tickCount = if n = 0 then 0 else 1 + (n - 1) % verdictPeriod fc

section run

variable {fc : FaultDetectorCfg} {value : Int} {context : Nat → Bool × Int} {now : Nat → Nat}

/-- The window is a nonzero `uint16_t`. -/
theorem FlatnessCfg.windowTicks_mem (h : FlatnessCfg fc) : 1 ≤ windowTicks fc ∧ windowTicks fc < 2 ^ 16 := by
  have := h.window
  unfold windowTicks toU16
  omega

/-- A counter modulo `p` goes up by one or starts again. -/
theorem succ_mod {n p : Nat} (hp : 0 < p) :
    (n + 1) % p = if n % p + 1 = p then 0 else n % p + 1 := by
  have hlt : n % p < p := Nat.mod_lt n hp
  rw [Nat.add_mod_eq_ite]
  rcases Nat.lt_or_ge 1 p with h1 | h1
  · rw [Nat.mod_eq_of_lt h1]
    split <;> split <;> omega
  · obtain rfl : p = 1 := by omega
    simp [Nat.mod_one]

/-- One valid sample of the lasting value. -/
theorem FlatWindow.accumulate {n : Nat} {w : StuckWindow} (hfc : FlatnessCfg fc)
    (h : FlatWindow fc value n w) (ctx : Bool × Int) :
    (w.accumulate fc value ctx.1 ctx.2).valueMin = value ∧
      (w.accumulate fc value ctx.1 ctx.2).valueMax = value ∧
      (w.accumulate fc value ctx.1 ctx.2).tickCount =
        if n = 0 then 1 else 2 + (n - 1) % verdictPeriod fc := by
  have hwindow := hfc.windowTicks_mem
  have hcount := h.tickCount
  have hperiod : (n - 1) % verdictPeriod fc < verdictPeriod fc :=
    Nat.mod_lt _ (by unfold verdictPeriod; omega)
  unfold verdictPeriod at hperiod hcount ⊢
  unfold StuckWindow.accumulate
  rw [hfc.flatnessOnly]
  by_cases hn : n = 0
  · simp [hn, hcount, u16]
  · have hne : w.tickCount ≠ 0 := by
      rw [hcount, if_neg hn]
      omega
    have hmin := h.valueMin (Nat.pos_of_ne_zero hn)
    have hmax := h.valueMax (Nat.pos_of_ne_zero hn)
    simp only [hmin, hmax, hcount, hn, u16]
    simp
    omega

/-- A verdict falls on tick `n`. -/
def Judged (fc : FaultDetectorCfg) (n : Nat) : Prop := verdictPeriod fc ∣ n ∧ windowTicks fc ≤ n + 1

instance (fc : FaultDetectorCfg) (n : Nat) : Decidable (Judged fc n) :=
  inferInstanceAs (Decidable (_ ∧ _))

/-- The ticks that judge: the first full window, then one in `verdictPeriod`. -/
theorem judged_iff (hfc : FlatnessCfg fc) {n : Nat} :
    Judged fc n ↔ windowTicks fc ≤ if n = 0 then 1 else 2 + (n - 1) % verdictPeriod fc := by
  have hwindow := hfc.windowTicks_mem
  have hperiod : windowTicks fc = 1 ∧ verdictPeriod fc = 1 ∨ windowTicks fc = verdictPeriod fc + 1 := by
    unfold verdictPeriod
    omega
  have hpos : 0 < verdictPeriod fc := by
    unfold verdictPeriod
    omega
  unfold Judged
  rw [Nat.dvd_iff_mod_eq_zero]
  rcases n with _ | n
  · simp
  · have hmod := succ_mod (n := n) hpos
    have hlt := Nat.mod_lt n hpos
    have hle : n % verdictPeriod fc + 1 ≤ n + 1 := Nat.succ_le_succ (Nat.mod_le n _)
    rw [if_neg (Nat.succ_ne_zero n), Nat.add_sub_cancel, hmod]
    split <;> omega

/-- The accumulator's window is full exactly on the ticks that judge. -/
theorem FlatWindow.full_eq {n : Nat} {w : StuckWindow} (hfc : FlatnessCfg fc)
    (h : FlatWindow fc value n w) (ctx : Bool × Int) :
    (w.accumulate fc value ctx.1 ctx.2).full fc = decide (Judged fc n) := by
  obtain ⟨-, -, hcount⟩ := h.accumulate hfc ctx
  have hsome : toU16 fc.threshold1 > 0 := hfc.windowTicks_mem.1
  unfold StuckWindow.full
  rw [hcount, decide_eq_true hsome, Bool.true_and, decide_eq_decide]
  exact (judged_iff hfc).symm

/-- A window of one value is flat. -/
theorem FlatWindow.flat {n : Nat} {w : StuckWindow} (hfc : FlatnessCfg fc)
    (h : FlatWindow fc value n w) (ctx : Bool × Int) :
    (w.accumulate fc value ctx.1 ctx.2).flat fc = true := by
  obtain ⟨hmin, hmax, -⟩ := h.accumulate hfc ctx
  unfold StuckWindow.flat
  rw [hmin, hmax, Int.sub_self, hfc.flatnessOnly]
  exact decide_eq_true hfc.delta

/-- The window a tick leaves. -/
theorem FlatWindow.next {n : Nat} {w : StuckWindow} (hfc : FlatnessCfg fc)
    (h : FlatWindow fc value n w) (ctx : Bool × Int) :
    FlatWindow fc value (n + 1)
      (if (w.accumulate fc value ctx.1 ctx.2).full fc = true then
        (w.accumulate fc value ctx.1 ctx.2).restart fc value true ctx.1 ctx.2
      else w.accumulate fc value ctx.1 ctx.2) := by
  obtain ⟨hmin, hmax, hcount⟩ := h.accumulate hfc ctx
  rw [h.full_eq hfc ctx]
  split
  · next hfull =>
      have hjudged : Judged fc n := of_decide_eq_true hfull
      refine ⟨fun _ => rfl, fun _ => rfl, ?_⟩
      have hmod : n % verdictPeriod fc = 0 := Nat.mod_eq_zero_of_dvd hjudged.1
      rw [if_neg (Nat.succ_ne_zero n), Nat.add_sub_cancel, hmod]
      rfl
  · next hopen =>
      refine ⟨fun _ => hmin, fun _ => hmax, ?_⟩
      rw [decide_eq_true_eq, judged_iff hfc] at hopen
      rw [hcount, if_neg (Nat.succ_ne_zero n), Nat.add_sub_cancel]
      rcases n with _ | n
      · simp
      · have hmod := succ_mod (n := n) (p := verdictPeriod fc) (by unfold verdictPeriod; omega)
        rw [if_neg (Nat.succ_ne_zero n), Nat.add_sub_cancel] at hopen ⊢
        rw [hmod]
        unfold verdictPeriod at *
        split <;> omega

/-- **One tick of the run**: the machine is ticked on the condition that a
verdict falls on this tick. -/
theorem constantRun_succ (hfc : FlatnessCfg fc) (n : Nat) :
    FlatWindow fc value n (constantRun fc value context now n).window ∧
      (constantRun fc value context now (n + 1)).fsm =
        fsmTick (constantRun fc value context now n).fsm (decide (Judged fc n)) fc fc.persistTicks (now n) := by
  have hwindow : FlatWindow fc value n (constantRun fc value context now n).window := by
    induction n with
    | zero => exact ⟨fun h => absurd h (Nat.lt_irrefl 0), fun h => absurd h (Nat.lt_irrefl 0), rfl⟩
    | succ n ih =>
        have hnext := ih.next hfc (context n)
        unfold constantRun thermalFaultStuckSensorStep
        rw [if_neg hfc.enabled]
        exact hnext
  refine ⟨hwindow, ?_⟩
  rw [constantRun]
  unfold thermalFaultStuckSensorStep
  rw [if_neg hfc.enabled]
  dsimp only
  rw [if_pos rfl, hwindow.full_eq hfc, hwindow.flat hfc, Bool.and_true]

variable (value context now)

/-- Before the first verdict the machine is as after reset. -/
theorem constantRun_before (hfc : FlatnessCfg fc) {n : Nat} (hn : n < windowTicks fc) :
    (constantRun fc value context now n).fsm.state = .normal ∧
      (constantRun fc value context now n).fsm.persistCount = 0 := by
  induction n with
  | zero => exact ⟨rfl, rfl⟩
  | succ n ih =>
      have hopen : ¬Judged fc n := fun hjudged => Nat.not_le_of_lt hn hjudged.2
      obtain ⟨hstate, hcount⟩ := ih (Nat.lt_of_succ_lt hn)
      rw [(constantRun_succ hfc n).2, decide_eq_false hopen]
      simp [fsmTick, hstate]

/-! ## A verdict on every tick -/

/-- A window of at most two ticks judges on every tick. -/
theorem judged_of_short (hfc : FlatnessCfg fc) (hw : windowTicks fc ≤ 2) {n : Nat} (hn : windowTicks fc ≤ n + 1) :
    Judged fc n := by
  have hperiod : verdictPeriod fc = 1 := by
    have := hfc.windowTicks_mem
    unfold verdictPeriod
    omega
  rw [Judged, hperiod]
  exact ⟨Nat.one_dvd n, hn⟩

/-- With a verdict on every tick the persist count goes up. -/
theorem constantRun_counts (hfc : FlatnessCfg fc) (hw : windowTicks fc ≤ 2) {k : Nat}
    (hk : k < max 1 fc.persistTicks) :
    (constantRun fc value context now (windowTicks fc - 1 + k)).fsm.state ≠ .normal ∨
      (constantRun fc value context now (windowTicks fc - 1 + k)).fsm.persistCount = k := by
  induction k with
  | zero =>
      have := hfc.windowTicks_mem
      exact Or.inr (constantRun_before value context now hfc (by omega)).2
  | succ k ih =>
      have hjudged : Judged fc (windowTicks fc - 1 + k) := judged_of_short hfc hw (by omega)
      have hnext := fsmTick_counts fc (now (windowTicks fc - 1 + k)) hfc.persistTicks
        (Nat.lt_of_succ_lt hk) (ih (Nat.lt_of_succ_lt hk))
      rw [← Nat.add_assoc, (constantRun_succ hfc _).2, decide_eq_true hjudged]
      exact hnext.imp_right And.right

/-- So the fault is raised, and stays raised. -/
theorem reported_of_short (hfc : FlatnessCfg fc) (hw : windowTicks fc ≤ 2) :
    ∃ N, ∀ n ≥ N, (constantRun fc value context now n).fsm.state ≠ .normal := by
  refine ⟨windowTicks fc - 1 + max 1 fc.persistTicks, fun n hn => ?_⟩
  induction n, hn using Nat.le_induction with
  | base =>
      obtain ⟨k, hk⟩ : ∃ k, max 1 fc.persistTicks = k + 1 :=
        ⟨max 1 fc.persistTicks - 1, by omega⟩
      have hjudged : Judged fc (windowTicks fc - 1 + k) := judged_of_short hfc hw (by omega)
      have hnext := fsmTick_counts fc (now (windowTicks fc - 1 + k)) hfc.persistTicks
        (by omega) (constantRun_counts value context now hfc hw (k := k) (by omega))
      rw [hk, ← Nat.add_assoc, (constantRun_succ hfc _).2, decide_eq_true hjudged]
      exact hnext.resolve_right fun hlt => by omega
  | succ n hn ih =>
      have hjudged : Judged fc n := judged_of_short hfc hw (by omega)
      rw [(constantRun_succ hfc n).2, decide_eq_true hjudged]
      exact fsmTick_stays ih

/-! ## A verdict now and then -/

section long

variable (hfc : FlatnessCfg fc) (hw : 2 < windowTicks fc)

include hw

/-- A longer window judges once in `windowTicks - 1` ticks. -/
theorem verdictPeriod_of_long : verdictPeriod fc = windowTicks fc - 1 := by
  unfold verdictPeriod
  omega

/-- The ticks that judge are the multiples of the period. -/
theorem judged_of_long {n : Nat} : Judged fc n ↔ verdictPeriod fc ∣ n ∧ n ≠ 0 := by
  have hperiod := verdictPeriod_of_long hw
  unfold Judged
  refine and_congr_right fun hdvd => ?_
  constructor
  · rintro hle rfl
    omega
  · intro hne
    have := Nat.le_of_dvd (Nat.pos_of_ne_zero hne) hdvd
    omega

include hfc

/-- More than one persist tick: the count never gets past one. -/
theorem constantRun_of_persist (hpersist : 1 < fc.persistTicks) (n : Nat) :
    (constantRun fc value context now n).fsm.state = .normal ∧
      (verdictPeriod fc ∣ n → (constantRun fc value context now n).fsm.persistCount = 0) := by
  have hperiod := verdictPeriod_of_long hw
  induction n with
  | zero => exact ⟨rfl, fun _ => rfl⟩
  | succ n ih =>
      obtain ⟨hstate, hcount⟩ := ih
      rw [(constantRun_succ hfc n).2]
      by_cases hjudged : Judged fc n
      · have hapart : ¬verdictPeriod fc ∣ n + 1 := fun hdvd => by
          have := (Nat.dvd_add_right hjudged.1).mp hdvd
          have := Nat.le_of_dvd Nat.one_pos this
          omega
        rw [decide_eq_true hjudged]
        refine ⟨?_, fun hdvd => absurd hdvd hapart⟩
        unfold fsmTick
        simp only [hstate, hcount hjudged.1, ite_true]
        rw [if_neg (by unfold u16; omega)]
      · rw [decide_eq_false hjudged]
        simp [fsmTick, hstate]

/-- One persist tick: the first verdict raises the fault. -/
theorem constantRun_first_verdict (hpersist : fc.persistTicks ≤ 1) :
    (constantRun fc value context now (verdictPeriod fc + 1)).fsm.state =
      actionToState fc.action fc.severity := by
  have hperiod := verdictPeriod_of_long hw
  have hjudged : Judged fc (verdictPeriod fc) :=
    (judged_of_long hw).mpr ⟨Nat.dvd_refl _, by omega⟩
  obtain ⟨hstate, hcount⟩ := constantRun_before value context now hfc
    (n := verdictPeriod fc) (by omega)
  rw [(constantRun_succ hfc _).2, decide_eq_true hjudged]
  unfold fsmTick
  simp only [hstate, hcount, ite_true]
  rw [if_pos (by unfold u16; omega)]

/-- A fault that latches on its first verdict stays. -/
theorem constantRun_latched (hpersist : fc.persistTicks ≤ 1)
    (hlatch : actionToState fc.action fc.severity = .latched) {n : Nat} (hn : verdictPeriod fc + 1 ≤ n) :
    (constantRun fc value context now n).fsm.state = .latched := by
  induction n, hn using Nat.le_induction with
  | base => exact (constantRun_first_verdict value context now hfc hw hpersist).trans hlatch
  | succ n hn ih =>
      rw [(constantRun_succ hfc n).2]
      exact fsmTick_stays_latched ih

/-- From the first verdict on the machine lapses between verdicts. -/
theorem constantRun_lapse (hpersist : fc.persistTicks ≤ 1)
    (hlatch : actionToState fc.action fc.severity ≠ .latched) {n : Nat} (hn : verdictPeriod fc ≤ n) :
    Lapse fc (n % verdictPeriod fc) (constantRun fc value context now (n + 1)).fsm := by
  have hperiod := verdictPeriod_of_long hw
  induction n, hn using Nat.le_induction with
  | base =>
      rw [Nat.mod_self]
      exact .fault (constantRun_first_verdict value context now hfc hw hpersist)
  | succ n hn ih =>
      rw [(constantRun_succ hfc (n + 1)).2]
      by_cases hdvd : verdictPeriod fc ∣ n + 1
      · rw [decide_eq_true ((judged_of_long hw).mpr ⟨hdvd, Nat.succ_ne_zero n⟩),
          Nat.mod_eq_zero_of_dvd hdvd]
        exact ih.relapse hpersist
      · have hmod := succ_mod (n := n) (p := verdictPeriod fc) (by omega)
        rw [Nat.dvd_iff_mod_eq_zero] at hdvd
        rw [decide_eq_false fun hjudged => hdvd (Nat.mod_eq_zero_of_dvd hjudged.1), hmod,
          if_neg fun h => hdvd (by rw [hmod, if_pos h])]
        exact ih.next hfc.recoveryTicks hlatch

end long

/-! ## When the fault lasts -/

/-- The verdicts are close enough: every tick has one, or one is enough to
raise the fault and it latches or the next one comes before recovery. -/
def ReportsFlat (fc : FaultDetectorCfg) : Prop :=
  windowTicks fc ≤ 2 ∨ fc.persistTicks ≤ 1 ∧
    (actionToState fc.action fc.severity = .latched ∨ windowTicks fc < max 1 fc.recoveryTicks + 3)

instance (fc : FaultDetectorCfg) : Decidable (ReportsFlat fc) := inferInstanceAs (Decidable (_ ∨ _))

/-- **One half**: under the condition the fault is up from some tick on. -/
theorem reported_of_reportsFlat (hfc : FlatnessCfg fc) (h : ReportsFlat fc) :
    ∃ N, ∀ n ≥ N, (constantRun fc value context now n).fsm.state ≠ .normal := by
  rcases Nat.lt_or_ge 2 (windowTicks fc) with hw | hw
  · have hperiod := verdictPeriod_of_long hw
    obtain ⟨hpersist, hlast⟩ := h.resolve_left (Nat.not_le_of_lt hw)
    refine ⟨verdictPeriod fc + 1, fun n hn => ?_⟩
    by_cases hlatch : actionToState fc.action fc.severity = .latched
    · rw [constantRun_latched value context now hfc hw hpersist hlatch hn]
      decide
    · have hrecovery := hlast.resolve_left hlatch
      obtain ⟨m, rfl⟩ : ∃ m, n = m + 1 := ⟨n - 1, by omega⟩
      have hlapse := constantRun_lapse value context now hfc hw hpersist
        hlatch (Nat.le_of_succ_le_succ hn)
      have hmod := Nat.mod_lt m (y := verdictPeriod fc) (by omega)
      rw [Ne, hlapse.normal_iff]
      omega
  · exact reported_of_short value context now hfc hw

/-- **The other half**: without it the detector is back at normal again and again. -/
theorem not_reported_of_not_reportsFlat (hfc : FlatnessCfg fc) (h : ¬ReportsFlat fc) (N : Nat) :
    ∃ n ≥ N, (constantRun fc value context now n).fsm.state = .normal := by
  unfold ReportsFlat at h
  push Not at h
  obtain ⟨hw, hlast⟩ := h
  have hperiod := verdictPeriod_of_long hw
  by_cases hpersist : fc.persistTicks ≤ 1
  · obtain ⟨hlatch, hrecovery⟩ := hlast hpersist
    -- the tick before a verdict that comes after `N`
    have hn : N ≤ verdictPeriod fc * (N + 1) := by
      have := Nat.le_mul_of_pos_left (N + 1) (n := verdictPeriod fc) (by omega)
      omega
    refine ⟨verdictPeriod fc * (N + 1) + (verdictPeriod fc - 1) + 1, by omega, ?_⟩
    have hge : verdictPeriod fc ≤ verdictPeriod fc * (N + 1) :=
      Nat.le_mul_of_pos_right _ (Nat.succ_pos N)
    rw [(constantRun_lapse value context now hfc hw hpersist hlatch (by omega)).normal_iff, Nat.mul_add_mod,
      Nat.mod_eq_of_lt (by omega)]
    omega
  · exact ⟨N, Nat.le_refl N, (constantRun_of_persist value context now hfc hw (Nat.lt_of_not_ge hpersist) N).1⟩

/-- **A flat sensor is reported for good** exactly when the window, the persist
ticks and the recovery ticks let one verdict last until the next. -/
theorem flat_reported_iff (hfc : FlatnessCfg fc) :
    (∃ N, ∀ n ≥ N, (constantRun fc value context now n).fsm.state ≠ .normal) ↔ ReportsFlat fc := by
  constructor
  · rintro ⟨N, hN⟩
    by_contra hnot
    obtain ⟨n, hn, hnormal⟩ := not_reported_of_not_reportsFlat value context now hfc hnot N
    exact hN n hn hnormal
  · exact reported_of_reportsFlat value context now hfc

end run

/-- A window of ten ticks, and a recovery longer than it. -/
def flatDetector (persist : Nat) : FaultDetectorCfg :=
  { (default : FaultDetectorCfg) with
    enabled := 1, correlatedContextId := 0xFFFF, threshold0 := 200, threshold1 := 10
    persistTicks := persist, recoveryTicks := 20 }

/-- The detector of the failing input is one the code accepts. -/
theorem flatnessCfg_flatDetector (persist : Nat) (h : persist < 2 ^ 16) : FlatnessCfg (flatDetector persist) :=
  ⟨Nat.one_ne_zero, rfl, (by decide : (0 : Int) < 200), (by decide : (1 : Int) ≤ 10 ∧ (10 : Int) ≤ 65535), h,
    (by decide : 20 < 2 ^ 16)⟩

/-- Two ticks of persistence: the second one never comes. -/
theorem flatSensor_never_reported :
    ¬∃ N, ∀ n ≥ N, (constantRun (flatDetector 2) 75000 (fun _ => (false, 0)) (fun n => 100 * n) n).fsm.state ≠
      .normal := by
  rintro ⟨N, hN⟩
  obtain ⟨n, hn, hnormal⟩ := not_reported_of_not_reportsFlat 75000
    (fun _ => (false, 0)) (fun n => 100 * n) (flatnessCfg_flatDetector 2 (by decide)) (by decide) N
  exact hN n hn hnormal

/-- With `persist_ticks` 1 the flat sensor is reported. -/
theorem flatSensor_reported :
    ∃ N, ∀ n ≥ N, (constantRun (flatDetector 1) 75000 (fun _ => (false, 0)) (fun n => 100 * n) n).fsm.state ≠
      .normal :=
  (flat_reported_iff 75000 (fun _ => (false, 0)) (fun n => 100 * n)
    (flatnessCfg_flatDetector 1 (by decide))).mpr (by decide)

end ThermalCore
