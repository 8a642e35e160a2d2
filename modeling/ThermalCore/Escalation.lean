import ThermalCore.ClearGate
import ThermalCore.ShutdownLatch

/-!
# The escalation of a latched runaway

A runaway detector that latches under FORCE_PWM_MAX_AND_LATCH asks for a shutdown
when its condition goes on for `recovery_ticks` steps.  The code counts those
steps through the recovery counter of the machine, and remembers that it asked.
An episode is a run from the step that latches the detector to the next clear
that succeeds; the counters are tied here to the conditions of its steps.

Records of accepted steps list a detector's conditions.  From the latching step on the
escalation counter is the number of conditions that held in a row, so the one request
of an episode falls on the step that completes `recovery_ticks` of them.
-/

namespace ThermalCore

open MachineInt Check

/-! ## Escalation events -/

/-- The shutdown request a runaway escalation of zone `z` logs.  No other request
carries an action. -/
def Call.escalates (z : Nat) : Call → Bool
  | .logEvent _ code a1 a2 a3 a4 =>
      decide (code = .shutdownRequest) && decide (a1 = z) && decide (a2 = FaultType.runaway.code) &&
        decide (a3 = FaultAction.forcePwmMaxAndLatch.code) && decide (a4 = 0)
  | .telemetryEmit _ _ _ => false

/-- How many escalations of zone `z` are logged. -/
def escalations (z : Nat) (calls : List Call) : Nat := calls.countP (Call.escalates z)

section events

variable {cb : Callbacks} {z : Nat} {xs ys : List Call}

@[simp] theorem escalations_append :
    escalations z (xs ++ ys) = escalations z xs + escalations z ys := List.countP_append

theorem escalations_ite {p : Prop} [Decidable p] :
    escalations z (if p then xs else []) = if p then escalations z xs else 0 := by
  split <;> rfl

theorem escalations_log (hlog : cb.logEvent = true) {code : EventCode} {ts a1 a2 a3 a4 : Nat} :
    escalations z (cb.log ts code a1 a2 a3 a4) =
      if (Call.logEvent ts code a1 a2 a3 a4).escalates z = true then 1 else 0 := by
  unfold Callbacks.log escalations
  rw [if_pos hlog, List.countP_singleton]

/-- An event of another code is none. -/
theorem escalations_log_of_code {code : EventCode} (h : code ≠ .shutdownRequest)
    {ts a1 a2 a3 a4 : Nat} : escalations z (cb.log ts code a1 a2 a3 a4) = 0 := by
  unfold Callbacks.log escalations
  split
  · simp [Call.escalates, h]
  · rfl

/-- Plain entries are none. -/
theorem escalations_of_plain (h : AllPlain xs) : escalations z xs = 0 := by
  refine List.countP_eq_zero.mpr fun c hc => ?_
  have hplain := h c hc
  cases c with
  | logEvent ts code a1 a2 a3 a4 =>
      simp only [Call.Plain] at hplain
      simp only [Call.escalates, Bool.and_eq_true, decide_eq_true_eq]
      rintro ⟨⟨⟨⟨hcode, -⟩, -⟩, haction⟩, -⟩
      rw [hplain hcode] at haction
      exact absurd haction (by decide)
  | telemetryEmit ts sig value => exact hplain.elim

theorem escalations_telemetryCalls {cfg : Config} {core : Core} {now : Nat} :
    escalations z (telemetryCalls cfg cb core now) = 0 := by
  unfold telemetryCalls escalations
  split
  · refine Loop.countP_emit_zero fun i _ => ?_
    dsimp only
    split <;> rfl
  · rfl

end events

section step

variable {cfg : Config} {cb : Callbacks} {inp : InputSnapshot} {core : Core} {z : Nat}

theorem escalations_runawayCalls (hlog : cb.logEvent = true) {fc : FaultDetectorCfg} {y now : Nat}
    {prev new : RunawayRuntime} :
    escalations z (runawayCalls cb fc y prev new now) =
      if y = z ∧ runawayEscalates fc new.detector.fsm new.latchedActiveTicks = true ∧
          prev.escalatedShutdown = false then 1 else 0 := by
  unfold runawayCalls
  rw [escalations_append, escalations_of_plain (allPlain_append (allPlain_emitFaultTransition cb _ _ _ _ _)
    (allPlain_emitShutdownRequest cb _ _ _ _ _ _)), escalations_ite, escalations_log hlog]
  simp only [Call.escalates, decide_true, Bool.true_and, Bool.and_true, decide_eq_true_eq, Nat.zero_add]
  grind

instance (prev new : RunawayRuntime) : Decidable (EscalatesAt cfg prev new) :=
  inferInstanceAs (Decidable (_ ∧ _))

theorem escalations_runawayEvents (hlog : cb.logEvent = true) (hz : z < cfg.zoneCount) {p : Pass} :
    escalations z (runawayEvents cfg cb inp p) =
      if EscalatesAt cfg (p.core.runaways.slot z)
        ((stepRunaway cfg cb inp p).core.runaways.slot z) then 1 else 0 := by
  unfold runawayEvents
  split
  · next hoff =>
      unfold EscalatesAt
      simp [hoff, escalations]
  · next hon =>
      unfold escalations
      rw [Loop.countP_emit_single hz]
      · refine (escalations_runawayCalls hlog).trans ?_
        unfold EscalatesAt
        simp [hon]
      · intro y _ hne
        refine (escalations_runawayCalls hlog).trans (if_neg ?_)
        grind

/-- **The escalations a step logs.** -/
theorem escalations_passDone (hlog : cb.logEvent = true) (hz : z < cfg.zoneCount) :
    escalations z (passDone cfg cb inp core).calls =
      if EscalatesAt cfg (core.runaways.slot z) ((passDone cfg cb inp core).core.runaways.slot z)
        then 1 else 0 := by
  have hdone : (passDone cfg cb inp core).calls =
      (passDecided cfg cb inp core).calls ++
        telemetryCalls cfg cb (step10Drive cfg (passDecided cfg cb inp core)).core inp.nowMs := rfl
  obtain ⟨before, after, hbefore, hafter, hcalls⟩ := passDecided_calls cfg cb inp core
  rw [hdone, escalations_append, escalations_telemetryCalls, hcalls, escalations_append, escalations_append,
    escalations_of_plain hbefore, escalations_of_plain hafter, escalations_runawayEvents hlog hz, stepStall_runaways,
    ← passDone_runaways]
  simp only [Nat.zero_add, Nat.add_zero]

end step

/-! ## The latch -/

section latch

variable {cfg : Config} {cb : Callbacks} {inp : InputSnapshot} {core : Core} {z : Nat}

/-- Nothing clears the latch but an init. -/
theorem shutdownRequestLatched_after (hr : ConfigRules cfg) (h : core.shutdownRequestLatched = true)
    (is : List Input) : (Machine.after (call cfg cb) core is).shutdownRequestLatched = true := by
  refine Machine.after_invariant (P := fun c : Core => c.shutdownRequestLatched = true) ?_ h is
  intro c i hc
  refine call_preserves (P := fun c : Core => c.shutdownRequestLatched = true) hc ?_ ?_ i
  · intro inp _
    exact (latched_passDone hr).mpr (Or.inl hc)
  · intro cmd
    rw [(runCommand_untouched cfg c cmd).shutdownRequestLatched]
    exact hc

end latch

/-! ## Records -/

/-- What an accepted step shows of a zone's runaway detector: its condition, and
how many escalations were logged. -/
structure EscalationRecord where
  active : Bool
  events : Nat
deriving DecidableEq

def escalationRecord (cfg : Config) (cb : Callbacks) (z : Nat) (core : Core) (inp : InputSnapshot)
    (r : StepResult) : EscalationRecord where
  active := detectorCondition cfg cb inp core .runaway z
  events := escalations z r.calls

/-- The records of zone `z` along a run, in order. -/
def escalationTrace (cfg : Config) (cb : Callbacks) (z : Nat) (core : Core) (is : List Input) :
    List EscalationRecord :=
  acceptedTrace cfg cb (escalationRecord cfg cb z) core is

/-- The condition was active on the last `n` steps, and `n` is not 0. -/
def ActiveFor (n : Nat) (ws : List EscalationRecord) : Prop :=
  0 < n ∧ Streak.Last n (fun w => w.active = true) ws

/-- The step `w`, after the steps `pre`, is the first on which the condition was
active on `n` consecutive steps. -/
def FirstActiveFor (n : Nat) (pre : List EscalationRecord) (w : EscalationRecord) : Prop :=
  ActiveFor n (pre ++ [w]) ∧ ∀ us, us <+: pre → ¬ActiveFor n us

/-- Every step logs one escalation if it is the first on which the condition was
active on `n` consecutive steps, and none otherwise. -/
def EscalatesOnFirst (n : Nat) (ws : List EscalationRecord) : Prop :=
  ∀ pre w, pre ++ [w] <+: ws → w.events ≤ 1 ∧ (w.events = 1 ↔ FirstActiveFor n pre w)

section records

variable {n : Nat} {ws : List EscalationRecord} {w : EscalationRecord}

theorem not_activeFor_nil : ¬ActiveFor n [] := by
  unfold ActiveFor Streak.Last
  grind

theorem activeFor_iff_run : ActiveFor n ws ↔ 0 < n ∧ n ≤ Streak.run EscalationRecord.active ws :=
  and_congr_right fun _ => Streak.last_iff_le_run

theorem exists_activeFor_concat :
    (∃ us, us <+: ws ++ [w] ∧ ActiveFor n us) ↔
      (∃ us, us <+: ws ∧ ActiveFor n us) ∨ ActiveFor n (ws ++ [w]) := by
  simp only [List.prefix_concat_iff, or_and_right, exists_or, exists_eq_left]
  exact or_comm

theorem EscalatesOnFirst.concat (h : EscalatesOnFirst n ws)
    (hw : w.events ≤ 1 ∧ (w.events = 1 ↔ FirstActiveFor n ws w)) : EscalatesOnFirst n (ws ++ [w]) := by
  intro pre v hpre
  rw [List.prefix_concat_iff] at hpre
  obtain heq | hold := hpre
  · obtain ⟨rfl, hlast⟩ := List.append_inj' heq rfl
    rw [List.singleton_inj] at hlast
    rw [hlast]
    exact hw
  · exact h pre v hold

/-- So at most one escalation is logged, and one exactly when some step was
active for `n`. -/
theorem EscalatesOnFirst.sum (h : EscalatesOnFirst n ws) :
    (ws.map EscalationRecord.events).sum ≤ 1 ∧
      ((ws.map EscalationRecord.events).sum = 1 ↔ ∃ us, us <+: ws ∧ ActiveFor n us) := by
  induction ws using List.reverseRecOn with
  | nil =>
      refine ⟨Nat.zero_le _, ?_⟩
      simp [not_activeFor_nil]
  | append_singleton ws w ih =>
      obtain ⟨hle, hone⟩ := ih fun pre v hpre => h pre v (hpre.trans (List.prefix_append ws [w]))
      obtain ⟨hwle, hwone⟩ := h ws w (List.prefix_refl _)
      have hsum : ((ws ++ [w]).map EscalationRecord.events).sum =
          (ws.map EscalationRecord.events).sum + w.events := by simp
      rw [hsum, exists_activeFor_concat]
      unfold FirstActiveFor at hwone
      by_cases hbefore : ∃ us, us <+: ws ∧ ActiveFor n us
      · have hnone : w.events ≠ 1 := by
          rw [ne_eq, hwone]
          grind
        have hsome := hone.mpr hbefore
        have hzero : w.events = 0 := by omega
        rw [hsome, hzero]
        exact ⟨Nat.le_refl 1, iff_of_true rfl (Or.inl hbefore)⟩
      · have hzero : (ws.map EscalationRecord.events).sum = 0 := by
          have hne := mt hone.mp hbefore
          omega
        rw [hzero, Nat.zero_add, hwone]
        refine ⟨hwle, ?_⟩
        grind

end records

/-! ## What the counters count -/

/-- The detector, the counter of its latched active ticks and its escalation flag,
against the steps `ws` of the episode so far; there are none while it is NORMAL. -/
structure EpisodeInv (cfg : Config) (z : Nat) (core : Core) (ws : List EscalationRecord) : Prop where
  state : (detectorFsm core .runaway z).state = if ws = [] then .normal else .latched
  ticks : ws ≠ [] → detectorTicks cfg .runaway = true
  count : (core.runaways.slot z).latchedActiveTicks =
    min 0xFFFF (Streak.run EscalationRecord.active ws)
  escalated : (core.runaways.slot z).escalatedShutdown = true ↔
    ∃ us, us <+: ws ∧ ActiveFor cfg.faults.runawayDefaults.recoveryTicks us

section episode

variable {cfg : Config} {cb : Callbacks} {inp : InputSnapshot} {core : Core} {z : Nat}
  {ws : List EscalationRecord}

theorem episodeInv_idle (hstate : (detectorFsm core .runaway z).state = .normal)
    (hcount : (core.runaways.slot z).latchedActiveTicks = 0)
    (hflag : (core.runaways.slot z).escalatedShutdown = false) : EpisodeInv cfg z core [] where
  state := hstate
  ticks hne := absurd rfl hne
  count := by
    rw [hcount]
    rfl
  escalated := by
    rw [hflag]
    simp [not_activeFor_nil]

/-- A stepped zone, with its counters. -/
theorem slot_passDone_runaways (hr : ConfigRules cfg) (hz : z < cfg.zoneCount)
    (hon : cfg.faults.runawayDefaults.enabled ≠ 0) :
    let rr := core.runaways.slot z
    let done := (passDone cfg cb inp core).core.runaways.slot z
    done.latchedActiveTicks = latchedActiveTicksNext cfg.faults.runawayDefaults done.detector.fsm
        rr.latchedActiveTicks ∧
      done.escalatedShutdown = (faultStateActive done.detector.fsm.state &&
        (rr.escalatedShutdown || (runawayEscalates cfg.faults.runawayDefaults done.detector.fsm
          done.latchedActiveTicks && cb.logEvent))) := by
  dsimp only
  rw [passDone_runaways]
  unfold stepRunaway
  dsimp only
  rw [if_neg hon]
  dsimp only
  rw [Vector.slot_forSlots_lt _ _ hr.zoneCount_le hz, stepStall_runaways]
  exact ⟨rfl, rfl⟩

/-- A detector that is ticked is enabled. -/
theorem enabled_of_ticks {kind : FaultType} (h : detectorTicks cfg kind = true) :
    (detectorCfg cfg kind).enabled ≠ 0 := by
  unfold detectorTicks at h
  grind

/-- **A step that finds or leaves the detector latched** is one more step of the
episode, and escalates exactly when it is the first to complete the streak. -/
theorem EpisodeInv.latched_step (hr : ConfigRules cfg) (hlog : cb.logEvent = true)
    (haction : cfg.faults.runawayDefaults.action = FaultAction.forcePwmMaxAndLatch.code)
    (hrec : cfg.faults.runawayDefaults.recoveryTicks < 2 ^ 16) (hz : z < cfg.zoneCount)
    (h : EpisodeInv cfg z core ws) (hticks : detectorTicks cfg .runaway = true)
    (hlatched : (detectorFsm (passDone cfg cb inp core).core .runaway z).state = .latched)
    (w : EscalationRecord) (hactive : w.active = detectorCondition cfg cb inp core .runaway z) :
    EpisodeInv cfg z (passDone cfg cb inp core).core (ws ++ [w]) ∧
      escalations z (passDone cfg cb inp core).calls ≤ 1 ∧
      (escalations z (passDone cfg cb inp core).calls = 1 ↔
        FirstActiveFor cfg.faults.runawayDefaults.recoveryTicks ws w) := by
  have hon : cfg.faults.runawayDefaults.enabled ≠ 0 := enabled_of_ticks hticks
  have hfsm := @detectorFsm_passDone cfg cb inp core hr .runaway z hz
  rw [hticks, if_pos rfl, ← hactive] at hfsm
  obtain ⟨hcount, hflag⟩ := @slot_passDone_runaways cfg cb inp core z hr hz hon
  have hdone : ((passDone cfg cb inp core).core.runaways.slot z).detector.fsm =
      detectorFsm (passDone cfg cb inp core).core .runaway z := rfl
  -- the recovery counter of a latched machine is 0 exactly while the condition holds
  have hzero : (detectorFsm (passDone cfg cb inp core).core .runaway z).recoveryCount = 0 ↔
      w.active = true := by
    rw [hfsm] at hlatched ⊢
    obtain ⟨hcond, hrc⟩ | ⟨hcond, -, -, hrc⟩ := fsmTick_latched hlatched
    · exact iff_of_true hrc hcond
    · exact iff_of_false hrc (ne_true_of_eq_false hcond)
  have hnext : ((passDone cfg cb inp core).core.runaways.slot z).latchedActiveTicks =
      min 0xFFFF (Streak.run EscalationRecord.active (ws ++ [w])) := by
    rw [hcount, hdone, Streak.run_concat, h.count]
    unfold latchedActiveTicksNext
    rw [if_pos ⟨haction, hlatched⟩]
    grind
  have hescalates : runawayEscalates cfg.faults.runawayDefaults
      ((passDone cfg cb inp core).core.runaways.slot z).detector.fsm
      ((passDone cfg cb inp core).core.runaways.slot z).latchedActiveTicks = true ↔
        ActiveFor cfg.faults.runawayDefaults.recoveryTicks (ws ++ [w]) := by
    rw [activeFor_iff_run, hnext, hdone]
    unfold runawayEscalates
    simp only [haction, hlatched, decide_true, Bool.true_and, Bool.and_eq_true, decide_eq_true_eq]
    omega
  have hold : (core.runaways.slot z).escalatedShutdown = false ↔
      ∀ us, us <+: ws → ¬ActiveFor cfg.faults.runawayDefaults.recoveryTicks us := by
    rw [← Bool.not_eq_true, h.escalated]
    grind
  have hfirst : EscalatesAt cfg (core.runaways.slot z)
      ((passDone cfg cb inp core).core.runaways.slot z) ↔
        FirstActiveFor cfg.faults.runawayDefaults.recoveryTicks ws w := by
    unfold EscalatesAt FirstActiveFor
    rw [hescalates, hold]
    exact and_iff_right hon
  refine ⟨⟨?_, fun _ => hticks, hnext, ?_⟩, ?_⟩
  · rw [hlatched, if_neg (by simp)]
  · rw [exists_activeFor_concat, ← hescalates, ← h.escalated, hflag, hdone, hlatched, hlog]
    simp [faultStateActive]
  · rw [escalations_passDone hlog hz]
    grind

/-- **A step that leaves the detector unlatched** finds and leaves it idle. -/
theorem EpisodeInv.normal_step (hr : ConfigRules cfg)
    (haction : cfg.faults.runawayDefaults.action = FaultAction.forcePwmMaxAndLatch.code)
    (hz : z < cfg.zoneCount) (h : EpisodeInv cfg z core ws)
    (hlatched : (detectorFsm (passDone cfg cb inp core).core .runaway z).state ≠ .latched) :
    EpisodeInv cfg z (passDone cfg cb inp core).core [] := by
  have hfsm := @detectorFsm_passDone cfg cb inp core hr .runaway z hz
  have hnil : ws = [] := by
    by_contra hne
    have hstate := h.state
    rw [if_neg hne] at hstate
    rw [h.ticks hne, if_pos rfl] at hfsm
    refine hlatched ?_
    rw [hfsm]
    exact fsmTick_stays_latched hstate
  subst hnil
  have hbefore : (detectorFsm core .runaway z).state = .normal := h.state
  have hafter : (detectorFsm (passDone cfg cb inp core).core .runaway z).state = .normal := by
    have hfault : actionToState (detectorCfg cfg .runaway).action (detectorCfg cfg .runaway).severity =
        .latched := if_pos (Or.inl haction)
    rw [hfsm] at hlatched ⊢
    split
    · next hticks =>
        rw [if_pos hticks] at hlatched
        unfold fsmTick at hlatched ⊢
        grind
    · exact hbefore
  by_cases hon : cfg.faults.runawayDefaults.enabled = 0
  · have hsame : (passDone cfg cb inp core).core.runaways = core.runaways := by
      rw [passDone_runaways]
      unfold stepRunaway
      dsimp only
      rw [if_pos hon, stepStall_runaways]
    refine episodeInv_idle hafter ?_ ?_
    · rw [hsame, h.count]
      rfl
    · rw [hsame, ← Bool.not_eq_true, h.escalated]
      simp [not_activeFor_nil]
  · obtain ⟨hcount, hflag⟩ := @slot_passDone_runaways cfg cb inp core z hr hz hon
    have hstate : ((passDone cfg cb inp core).core.runaways.slot z).detector.fsm.state = .normal :=
      hafter
    refine episodeInv_idle hafter ?_ ?_
    · rw [hcount]
      unfold latchedActiveTicksNext
      simp [hstate]
    · rw [hflag, hstate]
      rfl

theorem EpisodeInv.command (hr : ConfigRules cfg) (h : EpisodeInv cfg z core ws) {cmd : Command}
    (hclear : ¬ClearsDetector cfg core cmd .runaway z) :
    EpisodeInv cfg z (runCommand cfg core cmd).2 ws := by
  have hsame := runaways_of_not_clears hclear
  refine ⟨?_, h.ticks, ?_, ?_⟩
  · rw [detectorFsm_of_not_clears hr hclear]
    exact h.state
  · rw [hsame]
    exact h.count
  · rw [hsame]
    exact h.escalated

/-- **Every reachable state** is idle or in an episode. -/
theorem reachable_episodeInv (hr : ConfigRules cfg) (hlog : cb.logEvent = true)
    (haction : cfg.faults.runawayDefaults.action = FaultAction.forcePwmMaxAndLatch.code)
    (hrec : cfg.faults.runawayDefaults.recoveryTicks < 2 ^ 16) (hz : z < cfg.zoneCount)
    (h : Reachable cfg cb core) : ∃ ws, EpisodeInv cfg z core ws := by
  refine h.induct (P := fun c => ∃ ws, EpisodeInv cfg z c ws) ?_ ?_ ?_
  · have hslot : (initCore cfg).runaways.slot z = ⟨thermalFaultRunawayReset, 0, false⟩ :=
      Vector.slot_replicate_rec
        (P := fun rr : RunawayRuntime => rr = ⟨thermalFaultRunawayReset, 0, false⟩) rfl rfl z
    refine ⟨[], episodeInv_idle ?_ ?_ ?_⟩
    · rw [initCore_detectorFsm]
      rfl
    · rw [hslot]
    · rw [hslot]
  · rintro c inp - ⟨ws, hinv⟩
    by_cases hlatched : (detectorFsm (passDone cfg cb inp c).core .runaway z).state = .latched
    · have hticks : detectorTicks cfg .runaway = true := by
        by_contra hoff
        have hfsm := @detectorFsm_passDone cfg cb inp c hr .runaway z hz
        rw [if_neg hoff] at hfsm
        rw [hfsm, hinv.state] at hlatched
        grind [hinv.ticks]
      exact ⟨_, (hinv.latched_step hr hlog haction hrec hz hticks hlatched
        ⟨detectorCondition cfg cb inp c .runaway z, 0⟩ rfl).1⟩
    · exact ⟨[], hinv.normal_step hr haction hz hlatched⟩
  · rintro c cmd ⟨ws, hinv⟩
    by_cases hclear : ClearsDetector cfg c cmd .runaway z
    · have hslot := runaways_of_clears hr hz hclear
      refine ⟨[], episodeInv_idle ?_ ?_ ?_⟩
      · rw [detectorFsm_of_clears hr hz hclear]
        rfl
      · rw [hslot]
      · rw [hslot]
    · exact ⟨ws, hinv.command hr hclear⟩

end episode

/-! ## Episodes -/

section run

variable {cfg : Config} {cb : Callbacks} {core : Core} {z : Nat}

/-- No clear of the zone's runaway detector succeeds along these calls. -/
def NeverCleared (cfg : Config) (cb : Callbacks) (z : Nat) (core : Core) (is : List Input) : Prop :=
  ∀ pre nowMs later, is = pre ++ .command nowMs (.clearFault FaultType.runaway.code z) :: later →
    (thermalCoreApplyCommand cfg cb (Machine.after (call cfg cb) core pre) nowMs
      (.clearFault FaultType.runaway.code z)).result.status ≠ .ok

/-- The first calls of a latched episode, or all of them: an accepted step latches
the detector, and no clear after it succeeds. -/
def LatchedEpisode (cfg : Config) (cb : Callbacks) (z : Nat) (core : Core) (is : List Input) : Prop :=
  ∃ inp out rest, is = .step inp out :: rest ∧ (thermalCoreStep cfg cb core inp out).status = .ok ∧
    (detectorFsm core .runaway z).state ≠ .latched ∧
    (detectorFsm (thermalCoreStep cfg cb core inp out).core .runaway z).state = .latched ∧
    NeverCleared cfg cb z (thermalCoreStep cfg cb core inp out).core rest

/-- What the escalation does in an episode, of which `is` are the calls so far. -/
structure EscalationLaw (cfg : Config) (cb : Callbacks) (z : Nat) (core : Core) (is : List Input) :
    Prop where
  /-- A step logs an escalation exactly when it is the first on which the condition
  was active on `recovery_ticks` consecutive steps of the episode. -/
  first : EscalatesOnFirst cfg.faults.runawayDefaults.recoveryTicks (escalationTrace cfg cb z core is)
  /-- All calls together log at most one. -/
  once : escalations z ((Machine.outputs (call cfg cb) core is).flatMap Effect.calls) ≤ 1
  /-- Without `recovery_ticks` there is none. -/
  never : cfg.faults.runawayDefaults.recoveryTicks = 0 →
    escalations z ((Machine.outputs (call cfg cb) core is).flatMap Effect.calls) = 0
  /-- After it SHUTDOWN_REQUESTED is set, whatever is called `later`. -/
  flag : ∀ seg later, seg <+: is →
    escalations z ((Machine.outputs (call cfg cb) core seg).flatMap Effect.calls) ≠ 0 →
    (thermalCoreGetState cfg
      (Machine.after (call cfg cb) core (seg ++ later))).flags.shutdownRequested = true

/-- Only accepted steps log escalations. -/
theorem escalations_outputs (is : List Input) :
    escalations z ((Machine.outputs (call cfg cb) core is).flatMap Effect.calls) =
      ((escalationTrace cfg cb z core is).map EscalationRecord.events).sum := by
  induction is generalizing core with
  | nil => rfl
  | cons i is ih =>
      have hone : escalations z (call cfg cb core i).2.calls =
          ((acceptedRecord cfg cb (escalationRecord cfg cb z) core i).toList.map
            EscalationRecord.events).sum := by
        cases i with
        | command nowMs cmd =>
            unfold call Effect.calls thermalCoreApplyCommand
            dsimp only
            rw [escalations_log_of_code (by grind)]
            rfl
        | step inp out =>
            by_cases hin : Admissible cfg inp
            · rw [acceptedRecord_accepted hin]
              simp [escalationRecord, call, Effect.calls]
            · obtain ⟨e, -, hrej⟩ := call_step_rejected cb core hin out
              rw [hrej, acceptedRecord_rejected hin]
              rfl
      have htail := @ih (call cfg cb core i).1
      unfold escalationTrace acceptedTrace at htail ⊢
      rw [Machine.outputs_cons, Machine.observed_cons, List.flatMap_cons, escalations_append, hone, htail,
        List.map_append, List.sum_append]

/-- An escalation sets the latch, in every run. -/
theorem latched_of_escalations (hr : ConfigRules cfg) (hlog : cb.logEvent = true)
    (hz : z < cfg.zoneCount) (is : List Input) :
    (∃ w ∈ escalationTrace cfg cb z core is, w.events ≠ 0) →
      (Machine.after (call cfg cb) core is).shutdownRequestLatched = true := by
  refine acceptedTrace_invariant (P := fun c (ws : List EscalationRecord) =>
    (∃ w ∈ ws, w.events ≠ 0) → c.shutdownRequestLatched = true) ?_ ?_ ?_ is
  · simp
  · intro c ws inp out hin hold hsome
    rw [thermalCoreStep_accepted hin] at hsome
    simp only [List.mem_append, List.mem_singleton, or_and_right, exists_or, exists_eq_left] at hsome
    cases hsome with
    | inl hbefore => exact (latched_passDone hr).mpr (Or.inl (hold hbefore))
    | inr hnow =>
        unfold escalationRecord at hnow
        dsimp only at hnow
        rw [escalations_passDone hlog hz] at hnow
        refine @latched_of_escalates cfg cb inp c hr z hz ?_
        grind
  · intro c ws cmd hold hsome
    rw [(runCommand_untouched cfg c cmd).shutdownRequestLatched]
    exact hold hsome

/-- A clear that would reset the detector succeeds. -/
theorem not_clears_of_neverCleared (hr : ConfigRules cfg) (hz : z < cfg.zoneCount) {is : List Input}
    (h : NeverCleared cfg cb z core is) :
    Machine.Along (call cfg cb)
      (fun c i => ∀ nowMs cmd, i = .command nowMs cmd → ¬ClearsDetector cfg c cmd .runaway z) core is := by
  rw [Machine.along_iff]
  rintro pre i later hsplit nowMs cmd rfl ⟨rfl, hallowed⟩
  refine h pre nowMs later hsplit ?_
  have hstatus := @clearFault_status cfg (Machine.after (call cfg cb) core pre) .runaway z hr hz
  rw [clearVerdict_of_clearAllowed hallowed] at hstatus
  exact hstatus

/-- **The rest of an episode.** -/
theorem EpisodeInv.run (hr : ConfigRules cfg) (hlog : cb.logEvent = true)
    (haction : cfg.faults.runawayDefaults.action = FaultAction.forcePwmMaxAndLatch.code)
    (hrec : cfg.faults.runawayDefaults.recoveryTicks < 2 ^ 16) (hz : z < cfg.zoneCount)
    {ws : List EscalationRecord} (hinv : EpisodeInv cfg z core ws) (hne : ws ≠ [])
    (hfirst : EscalatesOnFirst cfg.faults.runawayDefaults.recoveryTicks ws) {is : List Input}
    (hopen : NeverCleared cfg cb z core is) :
    EscalatesOnFirst cfg.faults.runawayDefaults.recoveryTicks
      (ws ++ escalationTrace cfg cb z core is) := by
  let Open : Core → List EscalationRecord → Prop := fun c ws => EpisodeInv cfg z c ws ∧ ws ≠ [] ∧
    EscalatesOnFirst cfg.faults.runawayDefaults.recoveryTicks ws
  have hstart : Open core ws := ⟨hinv, hne, hfirst⟩
  have hrun : Open (Machine.after (call cfg cb) core is) (ws ++ escalationTrace cfg cb z core is) := by
    refine acceptedTrace_invariant_of ?_ ?_ hstart (not_clears_of_neverCleared hr hz hopen)
    · rintro c us inp out hin - ⟨hbefore, hsome, hlaw⟩
      have hticks := hbefore.ticks hsome
      have hlatched : (detectorFsm (passDone cfg cb inp c).core .runaway z).state = .latched := by
        have hstate := hbefore.state
        rw [if_neg hsome] at hstate
        rw [detectorFsm_passDone hr hz, if_pos hticks]
        exact fsmTick_stays_latched hstate
      obtain ⟨hnext, hevents⟩ := hbefore.latched_step hr hlog haction hrec hz hticks hlatched
        (escalationRecord cfg cb z c inp (thermalCoreStep cfg cb c inp out)) rfl
      refine ⟨hnext, by simp, hlaw.concat ?_⟩
      unfold escalationRecord
      rw [thermalCoreStep_accepted hin] at hevents ⊢
      exact hevents
    · rintro c us nowMs cmd hclear ⟨hbefore, hsome, hlaw⟩
      exact ⟨hbefore.command hr (hclear nowMs cmd rfl), hsome, hlaw⟩
  exact hrun.2.2

/-- **Escalation of a latched runaway**, in every episode of every run from init:
the shutdown request is logged at most once, on the first step on which the
condition was active on `recovery_ticks` consecutive steps of the episode, and
then SHUTDOWN_REQUESTED is set for good. -/
theorem runaway_escalates_once (hacc : Accepted cfg) (hlog : cb.logEvent = true)
    (haction : cfg.faults.runawayDefaults.action = FaultAction.forcePwmMaxAndLatch.code)
    (hrec : cfg.faults.runawayDefaults.recoveryTicks < 2 ^ 16) (hz : z < cfg.zoneCount)
    (is₁ is : List Input)
    (hepisode : LatchedEpisode cfg cb z (Machine.after (call cfg cb) (initCore cfg) is₁) is) :
    EscalationLaw cfg cb z (Machine.after (call cfg cb) (initCore cfg) is₁) is := by
  have hr : ConfigRules cfg := (accepted_iff cfg).mp hacc
  have hreach : Reachable cfg cb (Machine.after (call cfg cb) (initCore cfg) is₁) := ⟨is₁, rfl⟩
  generalize Machine.after (call cfg cb) (initCore cfg) is₁ = core at hepisode hreach ⊢
  obtain ⟨inp, out, rest, rfl, hok, hbefore, hafter, hopen⟩ := hepisode
  have hin : Admissible cfg inp := thermalCoreStep_status_iff.mp hok
  obtain ⟨ws, hinv⟩ := reachable_episodeInv hr hlog haction hrec hz hreach
  have hnil : ws = [] := by
    by_contra hne
    have hstate := hinv.state
    rw [if_neg hne] at hstate
    exact hbefore hstate
  subst hnil
  have hfirst : EscalatesOnFirst cfg.faults.runawayDefaults.recoveryTicks
      (escalationTrace cfg cb z core (.step inp out :: rest)) := by
    have hdone : (thermalCoreStep cfg cb core inp out).core = (passDone cfg cb inp core).core := by
      rw [thermalCoreStep_accepted hin]
    rw [hdone] at hafter hopen
    have hticks : detectorTicks cfg .runaway = true := by
      by_contra hoff
      rw [detectorFsm_passDone hr hz, if_neg hoff] at hafter
      exact hbefore hafter
    obtain ⟨hnext, hlaw⟩ := hinv.latched_step hr hlog haction hrec hz hticks hafter
      (escalationRecord cfg cb z core inp (thermalCoreStep cfg cb core inp out)) rfl
    have hone : EscalatesOnFirst cfg.faults.runawayDefaults.recoveryTicks
        ([] ++ [escalationRecord cfg cb z core inp (thermalCoreStep cfg cb core inp out)]) := by
      refine EscalatesOnFirst.concat ?_ ?_
      · intro pre w hpre
        simp at hpre
      · unfold escalationRecord
        rw [thermalCoreStep_accepted hin] at hlaw ⊢
        exact hlaw
    have hrun := hnext.run hr hlog haction hrec hz (by simp) hone hopen
    have hcons : escalationTrace cfg cb z core (.step inp out :: rest) =
        (acceptedRecord cfg cb (escalationRecord cfg cb z) core (.step inp out)).toList ++
          escalationTrace cfg cb z (call cfg cb core (.step inp out)).1 rest := rfl
    rw [hcons, acceptedRecord_accepted hin, call_step_accepted hin]
    exact hrun
  obtain ⟨hle, hiff⟩ := hfirst.sum
  refine ⟨hfirst, ?_, ?_, ?_⟩
  · rw [escalations_outputs]
    exact hle
  · intro hzero
    rw [escalations_outputs]
    have hnone : ¬∃ us, us <+: escalationTrace cfg cb z core (.step inp out :: rest) ∧
        ActiveFor cfg.faults.runawayDefaults.recoveryTicks us := by
      rintro ⟨us, -, hpos, -⟩
      omega
    have hne := mt hiff.mp hnone
    omega
  · intro seg later _ hsome
    rw [escalations_outputs] at hsome
    rw [Machine.after_append]
    refine shutdownRequestLatched_after hr (latched_of_escalations hr hlog hz seg ?_) later
    by_contra hnone
    refine hsome ?_
    rw [List.sum_eq_zero_iff_forall_eq_nat]
    grind

end run

/-- The one fan with a runaway detector that latches, and escalates after two steps. -/
def runawayFanConfig : Config :=
  { oneFanConfig with
    faults := { (default : FaultDetectionCfg) with
      runawayDefaults := { (default : FaultDetectorCfg) with
        enabled := 1, severity := FaultSeverity.critical.code
        action := FaultAction.forcePwmMaxAndLatch.code, persistTicks := 2, recoveryTicks := 2
        threshold0 := 500, threshold1 := 50 } } }

/-- The zone heats up with one pause. -/
def runawayRun : List Input :=
  [.step (tempSnapshot 200 1 61000) default, .step (tempSnapshot 300 1 61000) default,
    .step (tempSnapshot 400 1 62000) default, .step (tempSnapshot 500 1 63000) default,
    .step (tempSnapshot 600 1 64000) default]

/-- The first step latches, the pause breaks the streak, and the fourth step
completes it. -/
theorem runaway_escalates_once_rising :
    escalationTrace runawayFanConfig ⟨true, false⟩ 0
        (Machine.after (call runawayFanConfig ⟨true, false⟩) (initCore runawayFanConfig)
          [.step (tempSnapshot 100 1 60000) default]) runawayRun =
        [⟨true, 0⟩, ⟨false, 0⟩, ⟨true, 0⟩, ⟨true, 1⟩, ⟨true, 0⟩] ∧
      EscalationLaw runawayFanConfig ⟨true, false⟩ 0
        (Machine.after (call runawayFanConfig ⟨true, false⟩) (initCore runawayFanConfig)
          [.step (tempSnapshot 100 1 60000) default]) runawayRun := by
  refine ⟨by decide +kernel, runaway_escalates_once (by decide +kernel) rfl rfl (by decide) (by decide)
    _ _ ⟨_, _, _, rfl, by decide +kernel, by decide +kernel, by decide +kernel, ?_⟩⟩
  intro pre nowMs later hsplit
  have hmem := List.mem_append_right pre
    (List.mem_cons_self (a := Input.command nowMs (.clearFault FaultType.runaway.code 0)) (l := later))
  rw [← hsplit] at hmem
  simp at hmem

end ThermalCore
