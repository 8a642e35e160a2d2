import ThermalCore.Atomicity

/-!
# Induction over calls

The one induction behind every "for every reachable state": an invariant that
holds after init and survives an accepted step and a command.  Rejected steps
change nothing and need no case.  The invariant of the drive stage, which most
output guarantees use, follows.

Runs of calls are those of `Lib.Machine`.  A record of an accepted step keeps the core
before it and its snapshot, so that statements about steps of a run are statements
about a list.
-/

namespace ThermalCore

open MachineInt Check

section induction

variable {cfg : Config} {cb : Callbacks} {core : Core}

/-- The core behind a step. -/
theorem call_step_core (inp : InputSnapshot) (out : OutputFrame) :
    (call cfg cb core (.step inp out)).1 = (thermalCoreStep cfg cb core inp out).core := rfl

/-- The core behind a command. -/
theorem call_command_core (nowMs : Nat) (cmd : Command) :
    (call cfg cb core (.command nowMs cmd)).1 = (runCommand cfg core cmd).2 := rfl

/-- A step that is accepted, in the terms of its pass. -/
theorem call_step_accepted {inp : InputSnapshot} (h : Admissible cfg inp) (out : OutputFrame) :
    call cfg cb core (.step inp out) =
      ((passDone cfg cb inp core).core,
        .step .ok (outputFrame cfg (passDecided cfg cb inp core) out) (passDone cfg cb inp core).calls) := by
  unfold call
  dsimp only
  rw [thermalCoreStep_accepted h]

/-- A step that is rejected changes nothing and calls nobody. -/
theorem call_step_rejected (cb : Callbacks) (core : Core) {inp : InputSnapshot} (h : ¬Admissible cfg inp)
    (out : OutputFrame) : ∃ e, e ≠ .ok ∧ call cfg cb core (.step inp out) = (core, .step e out []) := by
  obtain ⟨e, he, hrej⟩ := thermalCoreStep_rejected cb core out h
  refine ⟨e, he, ?_⟩
  unfold call
  dsimp only
  rw [hrej]

/-- What survives an accepted step and a command survives every call. -/
theorem call_preserves {P : Core → Prop} (h : P core)
    (hstep : ∀ inp, Admissible cfg inp → P (passDone cfg cb inp core).core)
    (hcmd : ∀ cmd, P (runCommand cfg core cmd).2) (i : Input) : P (call cfg cb core i).1 := by
  cases i with
  | step inp out =>
      rw [call_step_core]
      by_cases hin : Admissible cfg inp
      · rw [thermalCoreStep_accepted hin]
        exact hstep inp hin
      · obtain ⟨e, -, hr⟩ := thermalCoreStep_rejected cb core out hin
        rw [hr]
        exact h
  | command nowMs cmd => exact hcmd cmd

/-- The core that init writes. -/
theorem Reachable.init : Reachable cfg cb (initCore cfg) := Machine.Reachable.refl _

/-- One call further. -/
theorem Reachable.call (h : Reachable cfg cb core) (i : Input) :
    Reachable cfg cb (call cfg cb core i).1 := Machine.Reachable.next h i

/-- **Induction over calls.** -/
theorem Reachable.induct {P : Core → Prop} (h : Reachable cfg cb core) (init : P (initCore cfg))
    (step : ∀ c inp, Admissible cfg inp → P c → P (passDone cfg cb inp c).core)
    (cmd : ∀ c cmd, P c → P (runCommand cfg c cmd).2) : P core :=
  Machine.Reachable.invariant h init fun c i hc =>
    call_preserves hc (fun inp hin => step c inp hin hc) (fun cmd' => cmd c cmd' hc) i

end induction

/-! ## Records of accepted steps -/

section records

variable {ω : Type} (cfg : Config) (cb : Callbacks) (f : Core → InputSnapshot → StepResult → ω)

/-- What a call shows: an accepted step its record, a rejected step and a command
nothing. -/
def acceptedRecord (core : Core) : Input → Option ω
  | .step inp out =>
      let r := thermalCoreStep cfg cb core inp out
      if r.status = .ok then some (f core inp r) else none
  | .command _ _ => none

/-- The records of a run, in order. -/
def acceptedTrace (core : Core) (is : List Input) : List ω :=
  Machine.observed (call cfg cb) (acceptedRecord cfg cb f) core is

variable {cfg cb f} {core : Core}

/-- An accepted step has its record. -/
theorem acceptedRecord_accepted {inp : InputSnapshot} (hin : Admissible cfg inp) (out : OutputFrame) :
    acceptedRecord cfg cb f core (.step inp out) =
      some (f core inp (thermalCoreStep cfg cb core inp out)) := by
  have hok : (thermalCoreStep cfg cb core inp out).status = .ok := thermalCoreStep_status_iff.mpr hin
  unfold acceptedRecord
  dsimp only
  rw [if_pos hok]

/-- A rejected step has none. -/
theorem acceptedRecord_rejected {inp : InputSnapshot} (hin : ¬Admissible cfg inp)
    (out : OutputFrame) : acceptedRecord cfg cb f core (.step inp out) = none := by
  have hne : ¬(thermalCoreStep cfg cb core inp out).status = .ok :=
    fun h => hin (thermalCoreStep_status_iff.mp h)
  unfold acceptedRecord
  dsimp only
  rw [if_neg hne]

/-- A record is that of an accepted step. -/
theorem acceptedRecord_eq_some {i : Input} {w : ω} (h : acceptedRecord cfg cb f core i = some w) :
    ∃ inp out, i = .step inp out ∧ Admissible cfg inp ∧
      w = f core inp (thermalCoreStep cfg cb core inp out) := by
  cases i with
  | command nowMs cmd => simp [acceptedRecord] at h
  | step inp out =>
      by_cases hin : Admissible cfg inp
      · rw [acceptedRecord_accepted hin, Option.some.injEq] at h
        exact ⟨inp, out, rfl, hin, h.symm⟩
      · rw [acceptedRecord_rejected hin] at h
        contradiction

/-- `Q` holds of the core and the snapshot of a call that is an accepted step. -/
def AcceptedWith (cfg : Config) (cb : Callbacks) (Q : Core → InputSnapshot → Prop) (core : Core) :
    Input → Prop
  | .step inp out => (thermalCoreStep cfg cb core inp out).status = .ok → Q core inp
  | .command _ _ => True

instance (Q : Core → InputSnapshot → Prop) [∀ c inp, Decidable (Q c inp)] (core : Core) :
    (i : Input) → Decidable (AcceptedWith cfg cb Q core i)
  | .step _ _ => inferInstanceAs (Decidable (_ → _))
  | .command _ _ => .isTrue trivial

/-- `Q` holds of the core and the snapshot of every accepted step of a run. -/
def EveryAccepted (cfg : Config) (cb : Callbacks) (Q : Core → InputSnapshot → Prop) (core : Core)
    (is : List Input) : Prop :=
  Machine.Along (call cfg cb) (AcceptedWith cfg cb Q) core is

instance (Q : Core → InputSnapshot → Prop) [∀ c inp, Decidable (Q c inp)] (core : Core)
    (is : List Input) : Decidable (EveryAccepted cfg cb Q core is) :=
  inferInstanceAs (Decidable (Machine.Along _ _ _ _))

/-- **Induction over calls with the records so far**, along a run whose calls all
satisfy `Q`. -/
theorem acceptedTrace_invariant_of {Q : Core → Input → Prop} {P : Core → List ω → Prop}
    (step : ∀ c ws inp out, Admissible cfg inp → Q c (.step inp out) → P c ws →
      P (passDone cfg cb inp c).core (ws ++ [f c inp (thermalCoreStep cfg cb c inp out)]))
    (cmd : ∀ c ws nowMs cmd, Q c (.command nowMs cmd) → P c ws → P (runCommand cfg c cmd).2 ws)
    {ws : List ω} (h : P core ws) {is : List Input} (hq : Machine.Along (call cfg cb) Q core is) :
    P (Machine.after (call cfg cb) core is) (ws ++ acceptedTrace cfg cb f core is) := by
  refine Machine.observed_invariant_of ?_ h hq
  intro c ws i hnow hP
  cases i with
  | command nowMs cmd' =>
      have hnone : acceptedRecord cfg cb f c (.command nowMs cmd') = none := rfl
      rw [call_command_core, hnone, Option.toList_none, List.append_nil]
      exact cmd c ws nowMs cmd' hnow hP
  | step inp out =>
      by_cases hin : Admissible cfg inp
      · rw [acceptedRecord_accepted hin, call_step_accepted hin]
        exact step c ws inp out hin hnow hP
      · obtain ⟨e, -, hrej⟩ := call_step_rejected cb c hin out
        rw [acceptedRecord_rejected hin, hrej, Option.toList_none, List.append_nil]
        exact hP

/-- The same along every run. -/
theorem acceptedTrace_invariant {P : Core → List ω → Prop} (init : P core [])
    (step : ∀ c ws inp out, Admissible cfg inp → P c ws →
      P (passDone cfg cb inp c).core (ws ++ [f c inp (thermalCoreStep cfg cb c inp out)]))
    (cmd : ∀ c ws cmd, P c ws → P (runCommand cfg c cmd).2 ws) (is : List Input) :
    P (Machine.after (call cfg cb) core is) (acceptedTrace cfg cb f core is) :=
  acceptedTrace_invariant_of (Q := fun _ _ => True) (fun c ws inp out hin _ => step c ws inp out hin)
    (fun c ws _ cmd' _ => cmd c ws cmd') init (Machine.along_of_forall (fun _ _ => trivial) core is)

/-- One record of a run, with the run that led to it. -/
theorem acceptedTrace_split {is : List Input} {pre rest : List ω} {w : ω}
    (h : acceptedTrace cfg cb f core is = pre ++ w :: rest) :
    ∃ is₁ inp out, acceptedTrace cfg cb f core is₁ = pre ∧ Admissible cfg inp ∧
      w = f (Machine.after (call cfg cb) core is₁) inp
        (thermalCoreStep cfg cb (Machine.after (call cfg cb) core is₁) inp out) := by
  obtain ⟨is₁, i, is₂, -, hpre, hx, -⟩ := Machine.observed_eq_append_cons h
  obtain ⟨inp, out, -, hin, hw⟩ := acceptedRecord_eq_some hx
  exact ⟨is₁, inp, out, hpre, hin, hw⟩

end records

/-! ## The drive stage -/

/-- What the drive stage keeps of an actuator's record. -/
structure ActuatorInv (ac : ActuatorCfg) (ar : ActuatorRuntime) : Prop where
  duty_le : ar.prevDuty ≤ ac.pwmMax
  spinup : 0 < ar.spinupRemaining → 0 < ac.spinupMs

/-- No duty above the maximum. -/
theorem finalClamp_le (ac : ActuatorCfg) (requestedPwm newDuty : Nat) :
    finalClamp ac requestedPwm newDuty ≤ ac.pwmMax := by
  unfold finalClamp
  dsimp only
  split
  · split <;> omega
  · split <;> omega

/-- A spin-up counter is armed only where there is a spin-up. -/
theorem spinupArmed_pos {cfg : Config} {ac : ActuatorCfg} {ar : ActuatorRuntime} {request : Nat}
    (h : ActuatorInv ac ar) (hpos : 0 < spinupArmed cfg ac ar request) : 0 < ac.spinupMs := by
  unfold spinupArmed at hpos
  split at hpos
  · omega
  · split at hpos
    · next harm => exact harm.1
    · exact h.spinup hpos

/-- **Step**: the drive stage keeps its invariant. -/
theorem driveActuator_inv {cfg : Config} {ac : ActuatorCfg} {ar : ActuatorRuntime} (t : ActuatorTick)
    (h : ActuatorInv ac ar) : ActuatorInv ac (driveActuator cfg ac t ar) where
  duty_le := finalClamp_le _ _ _
  spinup hpos := by
    have hsub : 0 < spinupArmed cfg ac ar (dwellRequest ac ar t) - 1 := hpos
    exact spinupArmed_pos h (Nat.lt_of_lt_of_le hsub (Nat.sub_le _ _))

/-- **Induction for one actuator**: its record is only written by the drive stage,
on a record whose request and tach are fresh. -/
theorem reachable_actuator {cfg : Config} {cb : Callbacks} {core : Core} (hr : ConfigRules cfg)
    (h : Reachable cfg cb core) {a : Nat} (ha : a < cfg.actuatorCount) {P : ActuatorRuntime → Prop}
    (init : P (initActuator (cfg.actuators.slot a)))
    (drive : ∀ (ar : ActuatorRuntime) t req rpm valid, P ar →
      P (driveActuator cfg (cfg.actuators.slot a) t
        { ar with prevRequested := req, tachRpm := rpm, tachValid := valid })) :
    P (core.actuators.slot a) := by
  refine h.induct (P := fun c => P (c.actuators.slot a)) ?_ ?_ ?_
  · have hinit : (initCore cfg).actuators.slot a = initActuator (cfg.actuators.slot a) :=
      Vector.slot_forSlots_lt _ _ hr.actuatorCount_le ha
    rw [hinit]
    exact init
  · intro c inp hin hinv
    have hstep : (thermalCoreStep cfg cb c inp default).core.actuators.slot a = _ :=
      step_actuator hr hin ha
    rw [thermalCoreStep_accepted hin] at hstep
    rw [hstep]
    exact drive _ _ _ _ _ hinv
  · intro c cmd hinv
    rw [(runCommand_untouched cfg c cmd).actuators]
    exact hinv

/-- **Run**: the drive stage's invariant in every reachable state. -/
theorem reachable_actuatorInv {cfg : Config} {cb : Callbacks} {core : Core} (hr : ConfigRules cfg)
    (h : Reachable cfg cb core) {a : Nat} (ha : a < cfg.actuatorCount) :
    ActuatorInv (cfg.actuators.slot a) (core.actuators.slot a) := by
  refine reachable_actuator hr h ha ⟨Nat.zero_le _, fun h => absurd h (Nat.lt_irrefl 0)⟩ ?_
  intro ar t req rpm valid hinv
  exact driveActuator_inv t ⟨hinv.duty_le, hinv.spinup⟩

end ThermalCore
