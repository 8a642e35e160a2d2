import ThermalCore.Marks

/-!
# What a call can change

A rejected step or command changes nothing; an accepted command changes only
what it names.  `runCommand_cases` is the one inversion of the command handlers:
the invariants of later modules go through it and never unfold a handler.

The inversion says everything that a command does when it is accepted: which zone,
trip, point or detector it writes and which tests it has passed.  Each frame lemma is
one case analysis over it.
-/

namespace ThermalCore

open MachineInt Check

/-! ## Inversion of a command -/

/-- The one write an accepted command makes, with the tests it passed. -/
inductive CommandWrite (cfg : Config) (core : Core) : Command → Core → Prop where
  | setPid (z : Nat) (kp ki kd : Int) (hz : pidZone cfg z = true)
      (hgains : gainsInBounds (cfg.zones.slot z).pid kp ki kd = true) :
      CommandWrite cfg core (.setPid z kp ki kd)
        { core with zones := core.zones.edit z fun zr => zr.withGains kp ki kd }
  | setSetpoint (z : Nat) (sp : Int) (hz : pidZone cfg z = true)
      (hbounds : (cfg.zones.slot z).pid.setpointMinMc ≤ sp ∧ sp ≤ (cfg.zones.slot z).pid.setpointMaxMc)
      (hoffsets : runtimeSetpointWithModifierOffsetsValid cfg core z sp = true) :
      CommandWrite cfg core (.setSetpoint z sp)
        { core with zones := core.zones.edit z fun zr => zr.withSetpoint sp }
  | setTrip (z t : Nat) (temp hyst : Int) (hz : z < cfg.zoneCount)
      (ht : t < (cfg.zones.slot z).tripCount) (htrip : tripAcceptable cfg core z t temp hyst = true) :
      CommandWrite cfg core (.setTrip z t temp hyst)
        { core with zones := core.zones.edit z fun zr => zr.withTrip t temp hyst }
  | setCurvePoint (m p : Nat) (x v0 v1 : Int) (hm : m < cfg.modifierCount)
      (hp : p < (cfg.modifiers.slot m).curveCount)
      (hpoint : pointAcceptable cfg core m p ⟨x, v0, v1⟩ = true) :
      CommandWrite cfg core (.setCurvePoint m p x v0 v1)
        { core with modifiers := core.modifiers.edit m fun mr =>
            { mr with shadow := mr.shadow.withPoint p ⟨x, v0, v1⟩ } }
  | clearNothing (ftype tid : Nat) : CommandWrite cfg core (.clearFault ftype tid) core
  | clearStall (tid slot : Nat) (hslot : findActuatorSlot cfg tid = some slot)
      (hclear : clearAllowed (core.stallStates.slot slot).fsm cfg.faults.stallDefaults = true) :
      CommandWrite cfg core (.clearFault FaultType.stall.code tid)
        { core with stallStates := core.stallStates.put slot thermalFaultStallReset }
  | clearStuckSensor (tid slot : Nat) (hslot : findSensorSlot cfg tid = some slot)
      (hclear : clearAllowed (core.stuckSensorStates.slot slot).fsm
        cfg.faults.stuckSensorDefaults = true) :
      CommandWrite cfg core (.clearFault FaultType.stuckSensor.code tid)
        { core with stuckSensorStates := core.stuckSensorStates.put slot thermalFaultStuckSensorReset }
  | clearRunaway (z : Nat) (hz : z < cfg.zoneCount)
      (hclear : clearAllowed (core.runaways.slot z).detector.fsm cfg.faults.runawayDefaults = true) :
      CommandWrite cfg core (.clearFault FaultType.runaway.code z)
        { core with runaways := core.runaways.put z ⟨thermalFaultRunawayReset, 0, false⟩ }
  | clearStaleContext (tid slot : Nat) (hslot : findContextSlot cfg tid = some slot)
      (hclear : clearAllowed (core.staleContextStates.slot slot).fsm
        cfg.faults.staleContextDefaults = true) :
      CommandWrite cfg core (.clearFault FaultType.staleContext.code tid)
        { core with
          staleContextStates := core.staleContextStates.put slot thermalFaultStaleContextReset }

/-- What a handler returns: a rejection with the core it was given, or OK with
the core its command writes. -/
def Outcome (cfg : Config) (core : Core) (cmd : Command) (r : ThermalStatus × Core) : Prop :=
  (r.1 ≠ .ok ∧ r.2 = core) ∨ (r.1 = .ok ∧ CommandWrite cfg core cmd r.2)

section outcome

variable {cfg : Config} {core : Core}

/-- A refusal is an outcome of every command. -/
theorem outcome_reject {cmd : Command} {e : ThermalStatus} (he : e ≠ .ok) :
    Outcome cfg core cmd (e, core) := Or.inl ⟨he, rfl⟩

/-- A clear on one detector's machine either rejects, finds it NORMAL, or resets
it because the machine allows that. -/
theorem outcome_clear {cmd : Command} {core' : Core} (fsm : Fsm) (fc : FaultDetectorCfg)
    (hnone : CommandWrite cfg core cmd core)
    (hreset : clearAllowed fsm fc = true → CommandWrite cfg core cmd core') :
    Outcome cfg core cmd
      ((clearVerdict fsm fc).1, if (clearVerdict fsm fc).2 then core' else core) := by
  unfold clearVerdict
  by_cases hn : fsm.state = .normal
  · simp only [hn, if_true]
    exact Or.inr ⟨rfl, hnone⟩
  · cases ha : clearAllowed fsm fc with
    | false =>
        simp only [hn, if_false, if_true]
        exact outcome_reject (by decide)
    | true =>
        simp only [hn, if_false]
        exact Or.inr ⟨rfl, hreset ha⟩

/-- `cmd_set_pid` writes the gains or refuses. -/
theorem outcome_cmdSetPid (z : Nat) (kp ki kd : Int) :
    Outcome cfg core (.setPid z kp ki kd) (cmdSetPid cfg core z kp ki kd) := by
  unfold cmdSetPid
  split
  · exact outcome_reject (by decide)
  · next hz =>
      split
      · exact outcome_reject (by decide)
      · next hg => exact Or.inr ⟨rfl, .setPid z kp ki kd (by simpa using hz) (by simpa using hg)⟩

/-- `cmd_set_setpoint` writes the setpoint or refuses. -/
theorem outcome_cmdSetSetpoint (z : Nat) (sp : Int) :
    Outcome cfg core (.setSetpoint z sp) (cmdSetSetpoint cfg core z sp) := by
  unfold cmdSetSetpoint
  dsimp only
  split
  · exact outcome_reject (by decide)
  · next hz =>
      split
      · exact outcome_reject (by decide)
      · next hb =>
          split
          · exact outcome_reject (by decide)
          · next ho =>
              exact Or.inr ⟨rfl, .setSetpoint z sp (by simpa using hz) (by omega) (by simpa using ho)⟩

/-- `cmd_set_trip` writes one trip or refuses. -/
theorem outcome_cmdSetTrip (z t : Nat) (temp hyst : Int) :
    Outcome cfg core (.setTrip z t temp hyst) (cmdSetTrip cfg core z t temp hyst) := by
  unfold cmdSetTrip
  split
  · exact outcome_reject (by decide)
  · next hz =>
      split
      · exact outcome_reject (by decide)
      · next ht =>
          split
          · exact outcome_reject (by decide)
          · next hok =>
              exact Or.inr ⟨rfl, .setTrip z t temp hyst (by omega) (by omega) (by simpa using hok)⟩

/-- `cmd_set_curve_point` writes one point or refuses. -/
theorem outcome_cmdSetCurvePoint (m p : Nat) (x v0 v1 : Int) :
    Outcome cfg core (.setCurvePoint m p x v0 v1) (cmdSetCurvePoint cfg core m p ⟨x, v0, v1⟩) := by
  unfold cmdSetCurvePoint
  split
  · exact outcome_reject (by decide)
  · next hm =>
      split
      · exact outcome_reject (by decide)
      · next hp =>
          split
          · exact outcome_reject (by decide)
          · next hok =>
              exact Or.inr ⟨rfl, .setCurvePoint m p x v0 v1 (by omega) (by omega) (by simpa using hok)⟩

/-- `cmd_clear_fault` resets one detector or refuses. -/
theorem outcome_cmdClearFault (ftype tid : Nat) :
    Outcome cfg core (.clearFault ftype tid) (cmdClearFault cfg core ftype tid) := by
  unfold cmdClearFault
  by_cases hstall : ftype = FaultType.stall.code
  · rw [if_pos hstall]
    subst hstall
    cases hs : findActuatorSlot cfg tid with
    | none => exact outcome_reject (by decide)
    | some slot => exact outcome_clear _ _ (.clearNothing _ _) (.clearStall tid slot hs)
  rw [if_neg hstall]
  by_cases hstuck : ftype = FaultType.stuckSensor.code
  · rw [if_pos hstuck]
    subst hstuck
    cases hs : findSensorSlot cfg tid with
    | none => exact outcome_reject (by decide)
    | some slot => exact outcome_clear _ _ (.clearNothing _ _) (.clearStuckSensor tid slot hs)
  rw [if_neg hstuck]
  by_cases hrun : ftype = FaultType.runaway.code
  · rw [if_pos hrun]
    subst hrun
    by_cases hz : tid ≥ cfg.zoneCount
    · rw [if_pos hz]
      exact outcome_reject (by decide)
    · rw [if_neg hz]
      exact outcome_clear _ _ (.clearNothing _ _) (.clearRunaway tid (Nat.lt_of_not_le hz))
  rw [if_neg hrun]
  by_cases hstale : ftype = FaultType.staleContext.code
  · rw [if_pos hstale]
    subst hstale
    cases hs : findContextSlot cfg tid with
    | none => exact outcome_reject (by decide)
    | some slot => exact outcome_clear _ _ (.clearNothing _ _) (.clearStaleContext tid slot hs)
  · rw [if_neg hstale]
    exact outcome_reject (by decide)

/-- **Inversion of a command.** -/
theorem runCommand_cases (cfg : Config) (core : Core) (cmd : Command) :
    Outcome cfg core cmd (runCommand cfg core cmd) := by
  cases cmd with
  | setPid z kp ki kd => exact outcome_cmdSetPid z kp ki kd
  | setSetpoint z sp => exact outcome_cmdSetSetpoint z sp
  | setTrip z t temp hyst => exact outcome_cmdSetTrip z t temp hyst
  | setCurvePoint m p x v0 v1 => exact outcome_cmdSetCurvePoint m p x v0 v1
  | clearFault ftype tid => exact outcome_cmdClearFault ftype tid
  | unknown id => exact outcome_reject (by decide)

end outcome

/-! ## Frames of a command -/

/-- The fields no command writes. -/
structure UntouchedByCommand (core core' : Core) : Prop where
  filters : core'.filters = core.filters
  contexts : core'.contexts = core.contexts
  actuators : core'.actuators = core.actuators
  shutdownRequestLatched : core'.shutdownRequestLatched = core.shutdownRequestLatched
  fanHealthStates : core'.fanHealthStates = core.fanHealthStates
  prevZoneMaxSeverity : core'.prevZoneMaxSeverity = core.prevZoneMaxSeverity
  tickCount : core'.tickCount = core.tickCount
  lastNowMs : core'.lastNowMs = core.lastNowMs

/-- A core that is not written at all is untouched. -/
theorem UntouchedByCommand.refl (core : Core) : UntouchedByCommand core core :=
  ⟨rfl, rfl, rfl, rfl, rfl, rfl, rfl, rfl⟩

/-- An accepted command leaves the rest untouched. -/
theorem CommandWrite.untouched {cfg : Config} {core core' : Core} {cmd : Command}
    (h : CommandWrite cfg core cmd core') : UntouchedByCommand core core' := by
  cases h <;> exact ⟨rfl, rfl, rfl, rfl, rfl, rfl, rfl, rfl⟩

/-- Every command, accepted or not, leaves the rest untouched. -/
theorem runCommand_untouched (cfg : Config) (core : Core) (cmd : Command) :
    UntouchedByCommand core (runCommand cfg core cmd).2 := by
  obtain ⟨-, h⟩ | ⟨-, h⟩ := runCommand_cases cfg core cmd
  · rw [h]
    exact .refl core
  · exact h.untouched

/-- The core an accepted command leaves, field by field of what it names. -/
def CommandFrame (cfg : Config) (core : Core) (cmd : Command) (core' : Core) : Prop :=
  match cmd with
  | .setPid z kp ki kd =>
      core' = { core with zones := core.zones.edit z fun zr =>
        { zr with
          shadowPid := { zr.shadowPid with kpQ16 := kp, kiQ16 := ki, kdQ16 := kd }
          pid := thermalPidReset } }
  | .setSetpoint z sp =>
      core' = { core with zones := core.zones.edit z fun zr =>
        { zr with shadowPid := { zr.shadowPid with setpointMc := sp } } }
  | .setTrip z t temp hyst =>
      core' = { core with zones := core.zones.edit z fun zr =>
        { zr with shadowTrips := zr.shadowTrips.edit t fun tc =>
          { tc with tempMc := temp, hystMc := hyst } } }
  | .setCurvePoint m p x v0 v1 =>
      core' = { core with modifiers := core.modifiers.edit m fun mr =>
        { mr with shadow := { mr.shadow with curve := mr.shadow.curve.put p ⟨x, v0, v1⟩ } } }
  | .clearFault ftype tid =>
      core' = core ∨
        (ftype = FaultType.stall.code ∧ ∃ slot, findActuatorSlot cfg tid = some slot ∧
          core' = { core with stallStates := core.stallStates.put slot thermalFaultStallReset }) ∨
        (ftype = FaultType.stuckSensor.code ∧ ∃ slot, findSensorSlot cfg tid = some slot ∧
          core' = { core with
            stuckSensorStates := core.stuckSensorStates.put slot thermalFaultStuckSensorReset }) ∨
        (ftype = FaultType.runaway.code ∧ tid < cfg.zoneCount ∧
          core' = { core with runaways := core.runaways.put tid ⟨thermalFaultRunawayReset, 0, false⟩ }) ∨
        (ftype = FaultType.staleContext.code ∧ ∃ slot, findContextSlot cfg tid = some slot ∧
          core' = { core with
            staleContextStates := core.staleContextStates.put slot thermalFaultStaleContextReset })
  | .unknown _ => False

/-- An accepted command writes what it names and nothing beside. -/
theorem CommandWrite.frame {cfg : Config} {core core' : Core} {cmd : Command}
    (h : CommandWrite cfg core cmd core') : CommandFrame cfg core cmd core' := by
  cases h with
  | setPid => rfl
  | setSetpoint => rfl
  | setTrip => rfl
  | setCurvePoint => rfl
  | clearNothing => exact Or.inl rfl
  | clearStall tid slot hslot => exact Or.inr (Or.inl ⟨rfl, slot, hslot, rfl⟩)
  | clearStuckSensor tid slot hslot => exact Or.inr (Or.inr (Or.inl ⟨rfl, slot, hslot, rfl⟩))
  | clearRunaway z hz => exact Or.inr (Or.inr (Or.inr (Or.inl ⟨rfl, hz, rfl⟩)))
  | clearStaleContext tid slot hslot => exact Or.inr (Or.inr (Or.inr (Or.inr ⟨rfl, slot, hslot, rfl⟩)))

/-! ## The guarantee -/

/-- **Atomicity and frame of the API.**  Whatever the call does not accept leaves
core, output frame and platform untouched; an accepted command changes exactly
what it names; and every command is answered by exactly one event. -/
theorem api_calls_are_atomic_and_framed (cfg : Config) (cb : Callbacks) (core : Core) :
    (∀ inp out, (thermalCoreStep cfg cb core inp out).status ≠ .ok →
      (thermalCoreStep cfg cb core inp out).core = core ∧
        (thermalCoreStep cfg cb core inp out).out = out ∧
        (thermalCoreStep cfg cb core inp out).calls = []) ∧
    ∀ nowMs cmd,
      let r := thermalCoreApplyCommand cfg cb core nowMs cmd
      (r.result.status ≠ .ok → r.core = core) ∧
      (r.result.status = .ok → CommandFrame cfg core cmd r.core ∧ UntouchedByCommand core r.core) ∧
      (cb.logEvent = true → ∃ code,
        r.calls = [.logEvent nowMs code cmd.commandId cmd.targetId r.result.status.code 0] ∧
        (code = .commandApplied ∨ code = .commandRejected) ∧
        (code = .commandApplied ↔ r.result.status = .ok)) := by
  constructor
  · intro inp out hstatus
    have hin : ¬Admissible cfg inp := fun h => hstatus (thermalCoreStep_status_iff.mpr h)
    obtain ⟨e, -, hr⟩ := thermalCoreStep_rejected cb core out hin
    rw [hr]
    exact ⟨rfl, rfl, rfl⟩
  · intro nowMs cmd r
    have hcore : r.core = (runCommand cfg core cmd).2 := rfl
    have hstatus : r.result.status = (runCommand cfg core cmd).1 := rfl
    refine ⟨fun hne => ?_, fun hok => ?_, fun hlog => ?_⟩
    · obtain ⟨-, h⟩ | ⟨h, -⟩ := runCommand_cases cfg core cmd
      · rw [hcore, h]
      · exact absurd h hne
    · obtain ⟨h, -⟩ | ⟨-, h⟩ := runCommand_cases cfg core cmd
      · exact absurd hok h
      · exact ⟨h.frame, h.untouched⟩
    · have hcalls : r.calls = cb.log nowMs
          (if r.result.status = .ok then .commandApplied else .commandRejected)
          cmd.commandId cmd.targetId r.result.status.code 0 := rfl
      rw [hcalls]
      unfold Callbacks.log
      rw [if_pos hlog]
      by_cases hok : r.result.status = .ok
      · exact ⟨.commandApplied, by simp [hok], Or.inl rfl, by simp [hok]⟩
      · exact ⟨.commandRejected, by simp [hok], Or.inr rfl, by simp [hok]⟩

end ThermalCore
