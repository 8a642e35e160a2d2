import ThermalCore.ClearGate

/-!
# A context that falls silent

Staleness is recomputed on every step as a wrapping difference from the time of
the last valid sample.  Along steps without such a sample the difference is the
true length of the silence modulo 2^32, so the condition lapses each time the
silence has just passed a whole number of clock periods.

The condition of the stale detector is followed over the steps of one silence, by the
true time since the last valid sample.  On a step it holds exactly when that time modulo
2^32 has reached the timeout, which gives the steps on which the fault can recover.
-/

namespace ThermalCore

open MachineInt Check

/-! ## Silent steps -/

/-- An accepted step without a valid sample of context `c`. -/
inductive SilentStep (cfg : Config) (c : Nat) : Input → Prop where
  | mk (inp : InputSnapshot) (out : OutputFrame) (hin : Admissible cfg inp)
      (hnone : sampleValid (inp.find .contextI32 (cfg.contexts.slot c).id) = 0) :
      SilentStep cfg c (.step inp out)

/-- The time given to a call. -/
def Input.nowMs : Input → Nat
  | .step inp _ => inp.nowMs
  | .command nowMs _ => nowMs

/-- The length of a silence at each of the clock readings `ts`, each reached by a
wrapping advance of the clock; it was `e` at the reading `t`. -/
def silences (e t : Nat) : List Nat → List Nat
  | [] => []
  | t' :: ts => (e + subU32 t' t) :: silences (e + subU32 t' t) t' ts

/-- A silence grows by the wrapped step of the clock. -/
theorem silences_cons (e t t' : Nat) (ts : List Nat) :
    silences e t (t' :: ts) = (e + subU32 t' t) :: silences (e + subU32 t' t) t' ts := rfl

/-- What the core remembers of a context's last valid sample. -/
def lastValid (core : Core) (c : Nat) : Bool × Nat :=
  ((core.contexts.slot c).everValid, (core.contexts.slot c).lastValidMs)

section step

variable {cfg : Config} {cb : Callbacks} {inp : InputSnapshot} {core : Core} {c : Nat}

/-- The modifier stage does not touch it. -/
theorem lastValid_step5ModifierEval (cfg : Config) (core : Core) (c : Nat) :
    lastValid (step5ModifierEval cfg core) c = lastValid core c := by
  have hclear : lastValid (clearModifierOutputs core) c = lastValid core c := by
    unfold lastValid clearModifierOutputs
    dsimp only
    rw [Vector.slot_forSlots]
    split <;> rfl
  unfold step5ModifierEval
  dsimp only
  split
  · exact hclear
  · split
    · exact hclear
    · refine Eq.trans ?_ hclear
      unfold lastValid
      dsimp only
      rw [Vector.slot_edit]
      split <;> rfl

/-- Without a valid sample the time of the last one stays. -/
theorem lastValid_senseCore (hr : ConfigRules cfg) (hc : c < cfg.contextCount)
    (hnone : sampleValid (inp.find .contextI32 (cfg.contexts.slot c).id) = 0) :
    lastValid (senseCore cfg inp core) c = lastValid core c := by
  have hcounts := (validateCounts_iff cfg).mp hr.counts
  unfold senseCore
  rw [lastValid_step5ModifierEval]
  unfold lastValid step4ContextFilters
  dsimp only
  rw [Vector.slot_forSlots_lt _ _ hcounts.contexts hc]
  unfold contextFilterStep
  rw [hnone]
  simp only [ne_eq, not_true_eq_false, decide_false, Bool.false_eq_true, if_false, Bool.or_false]
  rfl

/-- Nor does the rest of the step touch it. -/
theorem lastValid_passDone (hr : ConfigRules cfg) (hc : c < cfg.contextCount)
    (hnone : sampleValid (inp.find .contextI32 (cfg.contexts.slot c).id) = 0) :
    lastValid (passDone cfg cb inp core).core c = lastValid core c := by
  have hsense : lastValid (senseCore cfg inp core) c = _ := lastValid_senseCore hr hc hnone
  unfold lastValid at hsense ⊢
  rw [passDone_contexts]
  exact hsense

/-- On a silent step the condition is about the last valid sample remembered. -/
theorem staleCondition_of_silent (hr : ConfigRules cfg) (hc : c < cfg.contextCount)
    (hnone : sampleValid (inp.find .contextI32 (cfg.contexts.slot c).id) = 0) :
    detectorCondition cfg cb inp core .staleContext c =
      decide ((cfg.contexts.slot c).timeoutMs ≤
        if (lastValid core c).1 then subU32 inp.nowMs (lastValid core c).2 else 0xFFFFFFFF) := by
  rw [← lastValid_senseCore hr hc hnone]
  rfl

end step

/-! ## Silent runs -/

section run

variable {cfg : Config} {cb : Callbacks} {core : Core} {c : Nat}

/-- The true length of the silence, modulo the clock. -/
theorem silence_mod {e t t' last : Nat} (h : e % 2 ^ 32 = subU32 t last) :
    (e + subU32 t' t) % 2 ^ 32 = subU32 t' last := by
  unfold subU32 toU32 at h ⊢
  omega

/-- One step's verdict, then the others. -/
theorem verdicts_cons_silent {inp : InputSnapshot} (hin : Admissible cfg inp) (out : OutputFrame)
    (is : List Input) (kind : FaultType) (i : Nat) :
    verdicts cfg cb kind i core (.step inp out :: is) =
      stepVerdict cfg cb inp core kind i :: verdicts cfg cb kind i (passDone cfg cb inp core).core is := by
  have hok : (thermalCoreStep cfg cb core inp out).status = .ok := thermalCoreStep_status_iff.mpr hin
  unfold verdicts
  rw [Machine.observed_cons, call_step_accepted hin]
  unfold verdictOf
  dsimp only
  rw [if_pos hok]
  rfl

/-- Without a valid sample ever, the condition holds on every step. -/
theorem verdicts_active_of_never (hr : ConfigRules cfg) (hc : c < cfg.contextCount)
    (htimeout : (cfg.contexts.slot c).timeoutMs < 2 ^ 32) {is : List Input}
    (hsilent : ∀ i ∈ is, SilentStep cfg c i) (hnever : (lastValid core c).1 = false) :
    ∀ v ∈ verdicts cfg cb .staleContext c core is, v.active = true := by
  induction is generalizing core with
  | nil =>
      intro v hv
      cases hv
  | cons i is ih =>
      obtain ⟨hi, hrest⟩ := List.forall_mem_cons.mp hsilent
      cases hi with
      | mk inp out hin hnone =>
          rw [verdicts_cons_silent hin, List.forall_mem_cons]
          constructor
          · unfold stepVerdict
            dsimp only
            rw [staleCondition_of_silent hr hc hnone, hnever, if_neg Bool.false_ne_true, decide_eq_true_eq]
            omega
          · refine ih hrest ?_
            rw [lastValid_passDone hr hc hnone]
            exact hnever

/-- With one, it holds exactly when the silence modulo 2^32 is long enough. -/
theorem verdicts_active_iff (hr : ConfigRules cfg) (hc : c < cfg.contextCount) {is : List Input}
    (hsilent : ∀ i ∈ is, SilentStep cfg c i) (hever : (lastValid core c).1 = true) {e t : Nat}
    (he : e % 2 ^ 32 = subU32 t (lastValid core c).2) :
    (∀ v ∈ verdicts cfg cb .staleContext c core is, v.active = true) ↔
      ∀ x ∈ silences e t (is.map Input.nowMs), (cfg.contexts.slot c).timeoutMs ≤ x % 2 ^ 32 := by
  induction is generalizing core e t with
  | nil => exact ⟨fun _ x hx => (List.not_mem_nil hx).elim, fun _ v hv => (List.not_mem_nil hv).elim⟩
  | cons i is ih =>
      obtain ⟨hi, hrest⟩ := List.forall_mem_cons.mp hsilent
      cases hi with
      | mk inp out hin hnone =>
          have hsame : lastValid (passDone cfg cb inp core).core c = _ := lastValid_passDone hr hc hnone
          have hnext : (e + subU32 inp.nowMs t) % 2 ^ 32 =
              subU32 inp.nowMs (lastValid (passDone cfg cb inp core).core c).2 := by
            rw [hsame]
            exact silence_mod he
          have htail := ih hrest (hsame ▸ hever) hnext
          rw [verdicts_cons_silent hin, List.map_cons, silences_cons, List.forall_mem_cons,
            List.forall_mem_cons, Input.nowMs, htail]
          apply and_congr_left
          intro _
          unfold stepVerdict
          dsimp only
          rw [staleCondition_of_silent hr hc hnone, hever, if_pos rfl, decide_eq_true_eq,
            silence_mod he]

/-- While the condition holds a detector does not come back to NORMAL. -/
theorem fsmTick_active_ne_normal {f : Fsm} {fc : FaultDetectorCfg} {persistTicks now : Nat}
    (h : f.state ≠ .normal) : (fsmTick f true fc persistTicks now).state ≠ .normal := by
  unfold fsmTick
  cases hs : f.state with
  | normal => exact absurd hs h
  | degraded | critical | latched => simp
  | recovering => exact actionToState_ne_normal _ _

/-- A fault does not clear while every verdict is active. -/
theorem ne_normal_of_verdicts_active (hr : ConfigRules cfg) (hc : c < cfg.contextCount) {is : List Input}
    (hsilent : ∀ i ∈ is, SilentStep cfg c i)
    (hactive : ∀ v ∈ verdicts cfg cb .staleContext c core is, v.active = true)
    (hstate : (detectorFsm core .staleContext c).state ≠ .normal) :
    (detectorFsm (Machine.after (call cfg cb) core is) .staleContext c).state ≠ .normal := by
  induction is generalizing core with
  | nil => exact hstate
  | cons i is ih =>
      obtain ⟨hi, hrest⟩ := List.forall_mem_cons.mp hsilent
      cases hi with
      | mk inp out hin hnone =>
          rw [verdicts_cons_silent hin, List.forall_mem_cons] at hactive
          rw [Machine.after_cons, call_step_accepted hin]
          refine ih hrest hactive.2 ?_
          have hcond : detectorCondition cfg cb inp core .staleContext c = true := hactive.1
          rw [detectorFsm_passDone hr hc, hcond]
          split
          · exact fsmTick_active_ne_normal hstate
          · exact hstate

/-- **A silent context**: along any silent steps the condition holds on every one
of them, and a detector away from NORMAL stays away, if and only if the context
never had a valid sample or no step falls within `timeout_ms` after a whole
number of clock periods of silence. -/
theorem silent_context_stale_iff (hacc : Accepted cfg) (hc : c < cfg.contextCount)
    (htimeout : (cfg.contexts.slot c).timeoutMs < 2 ^ 32) (is : List Input)
    (hsilent : ∀ i ∈ is, SilentStep cfg c i) :
    ((∀ v ∈ verdicts cfg cb .staleContext c core is, v.active = true) ∧
      ∀ is₁ is₂, is = is₁ ++ is₂ → (detectorFsm core .staleContext c).state ≠ .normal →
        (detectorFsm (Machine.after (call cfg cb) core is₁) .staleContext c).state ≠ .normal) ↔
    ((core.contexts.slot c).everValid = false ∨
      ∀ e ∈ silences (msSinceLastValid (core.contexts.slot c) core.lastNowMs) core.lastNowMs
        (is.map Input.nowMs), (cfg.contexts.slot c).timeoutMs ≤ e % 2 ^ 32) := by
  have hr : ConfigRules cfg := (accepted_iff cfg).mp hacc
  have hstays (hactive : ∀ v ∈ verdicts cfg cb .staleContext c core is, v.active = true)
      (is₁ is₂ : List Input) (hsplit : is = is₁ ++ is₂)
      (hstate : (detectorFsm core .staleContext c).state ≠ .normal) :
      (detectorFsm (Machine.after (call cfg cb) core is₁) .staleContext c).state ≠ .normal := by
    subst hsplit
    refine ne_normal_of_verdicts_active hr hc
      (fun i hi => hsilent i (List.mem_append_left _ hi)) (fun v hv => hactive v ?_) hstate
    unfold verdicts at hv ⊢
    rw [Machine.observed_append]
    exact List.mem_append_left _ hv
  cases hever : (core.contexts.slot c).everValid with
  | false =>
      have hactive := @verdicts_active_of_never cfg cb core c hr hc htimeout is hsilent hever
      exact iff_of_true ⟨hactive, hstays hactive⟩ (Or.inl rfl)
  | true =>
      have hstart : msSinceLastValid (core.contexts.slot c) core.lastNowMs % 2 ^ 32 =
          subU32 core.lastNowMs (lastValid core c).2 := by
        unfold msSinceLastValid
        rw [hever, if_pos rfl]
        exact Nat.mod_eq_of_lt (subU32_lt _ _)
      have hiff := @verdicts_active_iff cfg cb core c hr hc is hsilent hever _ _ hstart
      constructor
      · rintro ⟨hactive, -⟩
        exact Or.inr (hiff.mp hactive)
      · intro h
        have hactive := hiff.mpr (h.resolve_left Bool.noConfusion)
        exact ⟨hactive, hstays hactive⟩

end run

/-! ## Within and past a clock period -/

/-- The silence does not get shorter. -/
theorem le_silences {e t : Nat} {ts : List Nat} : ∀ x ∈ silences e t ts, e ≤ x := by
  induction ts generalizing e t with
  | nil =>
      intro x hx
      cases hx
  | cons t' ts ih =>
      intro x hx
      rw [silences_cons, List.mem_cons] at hx
      obtain rfl | hx := hx
      · exact Nat.le_add_right _ _
      · exact Nat.le_trans (Nat.le_add_right _ _) (ih x hx)

/-- A context that is stale stays so while the silence fits in 32 bits. -/
theorem stale_of_short_silence {cfg : Config} {cb : Callbacks} {core : Core} {c : Nat}
    (hr : ConfigRules cfg) (hc : c < cfg.contextCount) {is : List Input}
    (hsilent : ∀ i ∈ is, SilentStep cfg c i) (hever : (core.contexts.slot c).everValid = true)
    (hstale : (cfg.contexts.slot c).timeoutMs ≤ subU32 core.lastNowMs (core.contexts.slot c).lastValidMs)
    (hshort : ∀ e ∈ silences (subU32 core.lastNowMs (core.contexts.slot c).lastValidMs) core.lastNowMs
      (is.map Input.nowMs), e < 2 ^ 32) :
    ∀ v ∈ verdicts cfg cb .staleContext c core is, v.active = true := by
  have hstart : subU32 core.lastNowMs (core.contexts.slot c).lastValidMs % 2 ^ 32 =
      subU32 core.lastNowMs (lastValid core c).2 := Nat.mod_eq_of_lt (subU32_lt _ _)
  refine (verdicts_active_iff hr hc hsilent hever hstart).mpr fun e he => ?_
  rw [Nat.mod_eq_of_lt (hshort e he)]
  exact Nat.le_trans hstale (le_silences e he)

/-- Each reading follows the last by at most a second. -/
def Paced (t : Nat) : List Nat → Prop
  | [] => True
  | t' :: ts => subU32 t' t ≤ 1000 ∧ Paced t' ts

/-- `n` steps without samples, a second apart. -/
def silentSteps (t : Nat) : Nat → List Input
  | 0 => []
  | n + 1 => .step (snapshotOf (u32 (t + 1000)) []) default :: silentSteps (t + 1000) n

/-- Steps a second apart. -/
theorem subU32_second (t : Nat) : subU32 (u32 (t + 1000)) (u32 t) = 1000 := by
  unfold subU32 toU32 u32
  omega

/-- Steps a second apart are paced. -/
theorem paced_silentSteps (t n : Nat) : Paced (u32 t) ((silentSteps t n).map Input.nowMs) := by
  induction n generalizing t with
  | zero => exact trivial
  | succ n ih => exact ⟨Nat.le_of_eq (subU32_second t), ih (t + 1000)⟩

/-- They reach every whole number of seconds. -/
theorem mem_silences_silentSteps (e t n : Nat) :
    e + 1000 * (n + 1) ∈ silences e (u32 t) ((silentSteps t (n + 1)).map Input.nowMs) := by
  induction n generalizing e t with
  | zero =>
      have hstep : silences e (u32 t) ((silentSteps t 1).map Input.nowMs) =
          [e + subU32 (u32 (t + 1000)) (u32 t)] := rfl
      rw [hstep, subU32_second]
      exact List.mem_singleton.mpr rfl
  | succ n ih =>
      have hstep : silences e (u32 t) ((silentSteps t (n + 2)).map Input.nowMs) =
          (e + subU32 (u32 (t + 1000)) (u32 t)) ::
            silences (e + subU32 (u32 (t + 1000)) (u32 t)) (u32 (t + 1000))
              ((silentSteps (t + 1000) (n + 1)).map Input.nowMs) := rfl
      have hlast : e + 1000 * (n + 1 + 1) = e + 1000 + 1000 * (n + 1) := by omega
      rw [hstep, subU32_second, hlast]
      exact List.mem_cons_of_mem _ (ih (e + 1000) (t + 1000))

/-- They carry no sample. -/
theorem silent_silentSteps {cfg : Config} {c : Nat} (t n : Nat) : ∀ i ∈ silentSteps t n, SilentStep cfg c i := by
  induction n generalizing t with
  | zero =>
      intro i hi
      cases hi
  | succ n ih =>
      unfold silentSteps
      rw [List.forall_mem_cons]
      exact ⟨.mk _ _ rfl rfl, ih (t + 1000)⟩

/-- Three silent steps after a sample at 100 ms. -/
theorem silent_context_stale_iff_seconds :
    let cfg := staleFanConfig .forcePwmMaxUntilRecovered
    let cb : Callbacks := ⟨true, false⟩
    let core := Machine.after (call cfg cb) (initCore cfg) (clearRun.take 2)
    ((∀ v ∈ verdicts cfg cb .staleContext 0 core (silentSteps 100 3), v.active = true) ∧
      ∀ is₁ is₂, silentSteps 100 3 = is₁ ++ is₂ → (detectorFsm core .staleContext 0).state ≠ .normal →
        (detectorFsm (Machine.after (call cfg cb) core is₁) .staleContext 0).state ≠ .normal) ↔
    ((core.contexts.slot 0).everValid = false ∨
      ∀ e ∈ silences (msSinceLastValid (core.contexts.slot 0) core.lastNowMs) core.lastNowMs
        ((silentSteps 100 3).map Input.nowMs), 500 ≤ e % 2 ^ 32) :=
  silent_context_stale_iff (by decide +kernel)
    (by decide) (by decide) (silentSteps 100 3) (silent_silentSteps 100 3)

/-- **The silence wraps.**  A sample at 0 ms, a stale step at 596 ms, and steps a
second apart without a sample until the silence is 2^32 + 300 ms: the timeout is
500 ms, and the last of them finds the context fresh. -/
theorem silent_context_lapses :
    let cfg := staleFanConfig .forcePwmMaxUntilRecovered
    let cb : Callbacks := ⟨true, false⟩
    let core := Machine.after (call cfg cb) (initCore cfg)
      [.step (snapshotOf 0 [⟨20, SampleKind.contextI32.code, 1, 0⟩]) default]
    let is : List Input := .step (snapshotOf 596 []) default :: silentSteps 596 4294967
    Accepted cfg ∧ Paced 0 (is.map Input.nowMs) ∧ (∀ i ∈ is, SilentStep cfg 0 i) ∧
      detectorCondition cfg cb (snapshotOf 596 []) core .staleContext 0 = true ∧
      ¬∀ v ∈ verdicts cfg cb .staleContext 0 core is, v.active = true := by
  have hacc : Accepted (staleFanConfig .forcePwmMaxUntilRecovered) := by decide +kernel
  have hpaced := paced_silentSteps 596 4294967
  have hlast := mem_silences_silentSteps 596 596 4294966
  have hsilent : ∀ i ∈ Input.step (snapshotOf 596 []) default :: silentSteps 596 4294967,
      SilentStep (staleFanConfig .forcePwmMaxUntilRecovered) 0 i :=
    List.forall_mem_cons.mpr ⟨.mk _ _ rfl rfl, silent_silentSteps 596 4294967⟩
  refine ⟨hacc, ⟨by decide, hpaced⟩, hsilent, by decide +kernel, ?_⟩
  intro hactive
  have hall := (verdicts_active_iff (e := 0) (t := 0) ((accepted_iff _).mp hacc) (by decide) hsilent
    (by decide +kernel) (by decide +kernel)).mp hactive
  have hwrapped : 500 ≤ (596 + 1000 * (4294966 + 1)) % 2 ^ 32 := by
    refine hall _ ?_
    rw [List.map_cons, silences_cons]
    exact List.mem_cons_of_mem _ hlast
  exact absurd hwrapped (by decide)

end ThermalCore
