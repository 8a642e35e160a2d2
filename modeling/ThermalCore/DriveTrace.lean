import ThermalCore.Reach

/-!
# The drive stage along a run

What the drive stage does to one actuator along a run, as a list of records, one
for each accepted step.  Guarantees over whole runs about duties, dwell and
spin-up are statements about that list.

A record holds the actuator's runtime before the step, the tick the earlier stages have
decided for it and the time, so what the stage did there can be computed from it again.
-/

namespace ThermalCore

open MachineInt Check

/-- One accepted step seen from one actuator: its record before the drive stage,
the locals decided for it, and the duty written. -/
structure DriveRecord where
  before : ActuatorRuntime
  tick : ActuatorTick
  duty : Nat

/-- What a call shows of actuator `a`: an accepted step shows its drive record,
a rejected step and a command show nothing. -/
def driveRecord (cfg : Config) (cb : Callbacks) (a : Nat) (core : Core) : Input → Option DriveRecord
  | .step inp out =>
      let r := thermalCoreStep cfg cb core inp out
      if r.status = .ok then
        some ⟨core.actuators.slot a, decidedTick cfg cb inp core a, (r.out.actuatorCmds.slot a).duty⟩
      else none
  | .command _ _ => none

/-- The drive records of actuator `a` along a run, in order. -/
def driveTrace (cfg : Config) (cb : Callbacks) (a : Nat) (core : Core) (is : List Input) :
    List DriveRecord :=
  Machine.observed (call cfg cb) (driveRecord cfg cb a) core is

section trace

variable {cfg : Config} {cb : Callbacks} {core : Core} {a : Nat}

/-- Drive records are records of accepted steps. -/
theorem driveRecord_eq_acceptedRecord (i : Input) :
    driveRecord cfg cb a core i =
      acceptedRecord cfg cb (fun c inp r => (⟨c.actuators.slot a, decidedTick cfg cb inp c a,
        (r.out.actuatorCmds.slot a).duty⟩ : DriveRecord)) core i := by
  cases i <;> rfl

theorem driveRecord_accepted (hr : ConfigRules cfg) (ha : a < cfg.actuatorCount) {inp : InputSnapshot}
    (hin : Admissible cfg inp) (out : OutputFrame) :
    driveRecord cfg cb a core (.step inp out) =
      some ⟨core.actuators.slot a, decidedTick cfg cb inp core a,
        finalPwm cfg (cfg.actuators.slot a) (core.actuators.slot a)
          (decidedTick cfg cb inp core a)⟩ := by
  rw [driveRecord_eq_acceptedRecord, acceptedRecord_accepted hin, step_duty hr hin ha]

theorem driveRecord_rejected {inp : InputSnapshot} (hin : ¬Admissible cfg inp) (out : OutputFrame) :
    driveRecord cfg cb a core (.step inp out) = none := by
  rw [driveRecord_eq_acceptedRecord, acceptedRecord_rejected hin]

/-- A record shows the drive stage at work on the state it starts from. -/
theorem driveRecord_eq_some (hr : ConfigRules cfg) (ha : a < cfg.actuatorCount) {i : Input}
    {r : DriveRecord} (h : driveRecord cfg cb a core i = some r) :
    r.before = core.actuators.slot a ∧
      r.duty = finalPwm cfg (cfg.actuators.slot a) r.before r.tick := by
  rw [driveRecord_eq_acceptedRecord] at h
  obtain ⟨inp, out, -, hin, rfl⟩ := acceptedRecord_eq_some h
  exact ⟨rfl, step_duty hr hin ha⟩

/-- A part of an actuator's record that only the drive stage writes follows the
drive records along the run. -/
theorem actuator_after (hr : ConfigRules cfg) (ha : a < cfg.actuatorCount) {ν : Type}
    {f : ActuatorRuntime → ν} {g : ν → DriveRecord → ν}
    (hdrive : ∀ (ar : ActuatorRuntime) t req rpm valid,
      f (driveActuator cfg (cfg.actuators.slot a) t
        { ar with prevRequested := req, tachRpm := rpm, tachValid := valid }) =
      g (f ar) ⟨ar, t, finalPwm cfg (cfg.actuators.slot a) ar t⟩) (is : List Input) :
    f ((Machine.after (call cfg cb) core is).actuators.slot a) =
      (driveTrace cfg cb a core is).foldl g (f (core.actuators.slot a)) := by
  refine Machine.after_eq_foldl (f := fun c : Core => f (c.actuators.slot a)) ?_ core is
  intro c i
  cases i with
  | command nowMs cmd =>
      rw [call_command_core, (runCommand_untouched cfg c cmd).actuators]
      rfl
  | step inp out =>
      rw [call_step_core]
      by_cases hin : Admissible cfg inp
      · rw [driveRecord_accepted hr ha hin, step_actuator hr hin ha, hdrive]
        rfl
      · obtain ⟨e, -, hrej⟩ := thermalCoreStep_rejected cb c out hin
        rw [driveRecord_rejected hin, hrej]
        rfl

/-- The duty kept is the last one written. -/
theorem prevDuty_after (hr : ConfigRules cfg) (ha : a < cfg.actuatorCount) (is : List Input) :
    ((Machine.after (call cfg cb) core is).actuators.slot a).prevDuty =
      (driveTrace cfg cb a core is).foldl (fun _ r => r.duty) (core.actuators.slot a).prevDuty :=
  actuator_after (f := ActuatorRuntime.prevDuty) (g := fun _ r => r.duty) hr ha
    (fun _ _ _ _ _ => rfl) is

/-- **One record of a run**: the state it starts from is the one the records
before it have led to, and is itself reached by a run. -/
theorem driveTrace_split (hr : ConfigRules cfg) (ha : a < cfg.actuatorCount) {is : List Input}
    {pre rest : List DriveRecord} {r : DriveRecord}
    (h : driveTrace cfg cb a core is = pre ++ r :: rest) :
    ∃ is₁, driveTrace cfg cb a core is₁ = pre ∧
      r.before = (Machine.after (call cfg cb) core is₁).actuators.slot a ∧
      r.duty = finalPwm cfg (cfg.actuators.slot a) r.before r.tick := by
  obtain ⟨is₁, i, is₂, -, hpre, hx, -⟩ := Machine.observed_eq_append_cons h
  obtain ⟨hbefore, hduty⟩ := driveRecord_eq_some hr ha hx
  exact ⟨is₁, hpre, hbefore, hduty⟩

/-- Of two records in a row the second starts where the first ended. -/
theorem driveTrace_next (hr : ConfigRules cfg) (ha : a < cfg.actuatorCount) {is : List Input}
    {pre rest : List DriveRecord} {r r' : DriveRecord}
    (h : driveTrace cfg cb a core is = pre ++ r :: r' :: rest) :
    r'.before.prevDuty = r.duty ∧
      r'.before.spinupRemaining = spinupArmed cfg (cfg.actuators.slot a) r.before
        (dwellRequest (cfg.actuators.slot a) r.before r.tick) - 1 := by
  have hcat : driveTrace cfg cb a core is = (pre ++ [r]) ++ r' :: rest := by
    rw [h, List.append_assoc, List.singleton_append]
  obtain ⟨is₁, hpre, hbefore, -⟩ := driveTrace_split hr ha hcat
  have hspin : ((Machine.after (call cfg cb) core is₁).actuators.slot a).spinupRemaining = _ :=
    actuator_after (f := ActuatorRuntime.spinupRemaining)
      (g := fun _ r => spinupArmed cfg (cfg.actuators.slot a) r.before
        (dwellRequest (cfg.actuators.slot a) r.before r.tick) - 1) hr ha (fun _ _ _ _ _ => rfl) is₁
  rw [hbefore, prevDuty_after hr ha, hspin, hpre, List.foldl_append, List.foldl_append]
  exact ⟨rfl, rfl⟩

end trace

end ThermalCore
