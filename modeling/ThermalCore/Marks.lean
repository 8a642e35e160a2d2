import ThermalCore.Stages

/-!
# The marks of step 9

Four families of detectors and the trip severities mark actuators in nested
loops over zones, contexts and sensors.  `decided_forcePwmMax` and
`decided_slewOverrideUp` say what the loops add up to: an actuator is marked
exactly when its severity is high enough or some detector concerning it
responds, and a mark never touches the request before the force stage.

A mark is a flag that a response may raise and never lowers (`RaisedOn`), and the
other fields are kept (`KeptByResponse`).  Both carry through a list of slots and
through each stage, so the nested loops are walked once for all flags.
-/

namespace ThermalCore

open MachineInt

/-! ## One response -/

/-- The flags every response other than none raises. -/
def RaisedByResponse (flag : ActuatorTick → Bool) : Prop :=
  ∀ kind r t, flag (ActuatorTick.respond kind r t) = (flag t || decide (r ≠ .none))

/-- Every response but none raises the force mark. -/
theorem raisedByResponse_forcePwmMax : RaisedByResponse ActuatorTick.forcePwmMax := by
  intro kind r t
  cases r <;> cases kind <;> simp [ActuatorTick.respond]

/-- Every response but none raises the slew mark. -/
theorem raisedByResponse_slewOverrideUp : RaisedByResponse ActuatorTick.slewOverrideUp := by
  intro kind r t
  cases r <;> cases kind <;> simp [ActuatorTick.respond]

/-- The flag is raised by the responses that satisfy `on`, none of them an absent one. -/
structure RaisedOn (on : FaultResponse → Prop) (flag : ActuatorTick → Bool) : Prop where
  raised : ∀ kind r t, flag (ActuatorTick.respond kind r t) = true ↔ flag t = true ∨ on r
  quiet : ¬on .none

/-- Such a flag is raised by whatever is a response at all. -/
theorem RaisedByResponse.on {flag : ActuatorTick → Bool} (h : RaisedByResponse flag) :
    RaisedOn (· ≠ .none) flag where
  raised kind r t := by
    rw [h, Bool.or_eq_true, decide_eq_true_eq]
  quiet := fun hne => hne rfl

/-- The shutdown mark is for shutdown responses only. -/
theorem raisedOn_shutdownAction : RaisedOn (· = .shutdown) ActuatorTick.shutdownAction where
  raised kind r t := by
    cases r <;> cases kind <;> simp [ActuatorTick.respond]
  quiet := by decide

/-- The fields no response touches. -/
def KeptByResponse {β : Type} (field : ActuatorTick → β) : Prop :=
  ∀ kind r t, field (ActuatorTick.respond kind r t) = field t

/-- A response does not touch the request. -/
theorem keptByResponse_arbPwm : KeptByResponse ActuatorTick.arbPwm := by
  intro kind r t
  cases r <;> cases kind <;> rfl

/-- Responding twice is responding once. -/
theorem respond_respond (kind : FaultType) (r : FaultResponse) (t : ActuatorTick) :
    ActuatorTick.respond kind r (ActuatorTick.respond kind r t) = ActuatorTick.respond kind r t := by
  cases r <;> cases kind <;> rfl

/-! ## A list of slots -/

/-- Every listed actuator gets the response, once however often it is listed. -/
theorem slot_respondSlots (kind : FaultType) (r : FaultResponse) (slots : List Nat)
    (ticks : Vector ActuatorTick maxActuators) (a : Nat) :
    (respondSlots kind r slots ticks).slot a =
      if a ∈ slots ∧ a < maxActuators then ActuatorTick.respond kind r (ticks.slot a)
      else ticks.slot a := by
  induction slots generalizing ticks with
  | nil => simp [respondSlots]
  | cons x slots ih =>
      have hstep : respondSlots kind r (x :: slots) ticks =
          respondSlots kind r slots (ticks.edit x (ActuatorTick.respond kind r)) := rfl
      rw [hstep, ih, Vector.slot_edit]
      by_cases ha : a < maxActuators
      · by_cases hx : x = a
        · subst hx
          by_cases hm : x ∈ slots
          · simp [ha, hm, respond_respond]
          · simp [ha, hm]
        · have hxa : ¬a = x := fun h => hx h.symm
          simp [hx, hxa]
      · simp [ha]

section marks

variable {on : FaultResponse → Prop} {flag : ActuatorTick → Bool} {kind : FaultType}
  {ticks : Vector ActuatorTick maxActuators} {a : Nat}

/-- A list of slots raises the flag of the slots in it. -/
theorem flag_respondSlots (hflag : RaisedOn on flag) (ha : a < maxActuators)
    (r : FaultResponse) (slots : List Nat) :
    flag ((respondSlots kind r slots ticks).slot a) = true ↔
      flag (ticks.slot a) = true ∨ (on r ∧ a ∈ slots) := by
  rw [slot_respondSlots]
  by_cases hm : a ∈ slots
  · rw [if_pos ⟨hm, ha⟩, hflag.raised]
    simp [hm]
  · rw [if_neg fun h => hm h.1]
    simp [hm]

/-- The loop over targets: a flag is raised when it was or when some target's
response reaches the actuator. -/
theorem flag_foldResponses (hflag : RaisedOn on flag) (ha : a < maxActuators) (count : Nat)
    (r : Nat → FaultResponse) (slots : Nat → List Nat) :
    flag ((Loop.fold count ticks fun ticks i => respondSlots kind (r i) (slots i) ticks).slot a) =
        true ↔
      flag (ticks.slot a) = true ∨ ∃ i < count, on (r i) ∧ a ∈ slots i :=
  Loop.fold_or (P := fun ticks : Vector ActuatorTick maxActuators => flag (ticks.slot a) = true)
    fun i _ _ => flag_respondSlots hflag ha (r i) (slots i)

/-- A list of slots keeps what responses keep. -/
theorem kept_respondSlots {β : Type} {field : ActuatorTick → β} (hfield : KeptByResponse field)
    (r : FaultResponse) (slots : List Nat) :
    field ((respondSlots kind r slots ticks).slot a) = field (ticks.slot a) := by
  rw [slot_respondSlots]
  split
  · exact hfield _ _ _
  · rfl

end marks

/-! ## Which detectors respond for an actuator -/

/-- The response an enabled detector in a given state gives under its
configured action. -/
def enabledResponse (fc : FaultDetectorCfg) (state : FaultState) (escalates : Bool) : FaultResponse :=
  if fc.enabled = 0 then .none else detectorResponse state fc.action escalates

/-- Some enabled detector that concerns actuator `a` responds, reading the
detector states from `core`. -/
inductive Responds (cfg : Config) (core : Core) (a : Nat) : Prop where
  | stall
      (h : enabledResponse cfg.faults.stallDefaults (core.stallStates.slot a).fsm.state false ≠ .none)
  | runaway (z : Nat) (hz : z < cfg.zoneCount)
      (href : (cfg.zones.slot z).refsActuator (cfg.actuators.slot a).id = true)
      (h : enabledResponse cfg.faults.runawayDefaults (core.runaways.slot z).detector.fsm.state
        (runawayEscalates cfg.faults.runawayDefaults (core.runaways.slot z).detector.fsm
          (core.runaways.slot z).latchedActiveTicks) ≠ .none)
  | staleContext (c : Nat) (hc : c < cfg.contextCount)
      (h : enabledResponse cfg.faults.staleContextDefaults
        (core.staleContextStates.slot c).fsm.state false ≠ .none)
  | stuckSensor (s z : Nat) (hs : s < cfg.sensorCount) (hz : z < cfg.zoneCount)
      (hlist : ((cfg.zones.slot z).sensorIndex (cfg.sensors.slot s).id).isSome = true)
      (href : (cfg.zones.slot z).refsActuator (cfg.actuators.slot a).id = true)
      (h : enabledResponse cfg.faults.stuckSensorDefaults
        (core.stuckSensorStates.slot s).fsm.state false ≠ .none)

/-- The same for one class of responses. -/
inductive RespondsOn (on : FaultResponse → Prop) (cfg : Config) (core : Core) (a : Nat) : Prop where
  | stall (h : on (enabledResponse cfg.faults.stallDefaults (core.stallStates.slot a).fsm.state false))
  | runaway (z : Nat) (hz : z < cfg.zoneCount)
      (href : (cfg.zones.slot z).refsActuator (cfg.actuators.slot a).id = true)
      (h : on (enabledResponse cfg.faults.runawayDefaults (core.runaways.slot z).detector.fsm.state
        (runawayEscalates cfg.faults.runawayDefaults (core.runaways.slot z).detector.fsm
          (core.runaways.slot z).latchedActiveTicks)))
  | staleContext (c : Nat) (hc : c < cfg.contextCount)
      (h : on (enabledResponse cfg.faults.staleContextDefaults
        (core.staleContextStates.slot c).fsm.state false))
  | stuckSensor (s z : Nat) (hs : s < cfg.sensorCount) (hz : z < cfg.zoneCount)
      (hlist : ((cfg.zones.slot z).sensorIndex (cfg.sensors.slot s).id).isSome = true)
      (href : (cfg.zones.slot z).refsActuator (cfg.actuators.slot a).id = true)
      (h : on (enabledResponse cfg.faults.stuckSensorDefaults
        (core.stuckSensorStates.slot s).fsm.state false))

/-- Some response at all is a response. -/
theorem respondsOn_some_iff {cfg : Config} {core : Core} {a : Nat} :
    RespondsOn (· ≠ .none) cfg core a ↔ Responds cfg core a := by
  constructor
  · intro h
    cases h with
    | stall h => exact .stall h
    | runaway z hz href h => exact .runaway z hz href h
    | staleContext c hc h => exact .staleContext c hc h
    | stuckSensor s z hs hz hlist href h => exact .stuckSensor s z hs hz hlist href h
  · intro h
    cases h with
    | stall h => exact .stall h
    | runaway z hz href h => exact .runaway z hz href h
    | staleContext c hc h => exact .staleContext c hc h
    | stuckSensor s z hs hz hlist href h => exact .stuckSensor s z hs hz hlist href h

/-! ## The stages of step 9 on one actuator -/

section stages

variable {cfg : Config} {cb : Callbacks} {inp : InputSnapshot} {p : Pass} {a : Nat}
  {on : FaultResponse → Prop} {flag : ActuatorTick → Bool}

/-- The stall stage marks each actuator by its own detector. -/
theorem slot_stepStall_ticks (hc : cfg.actuatorCount ≤ maxActuators) (ha : a < cfg.actuatorCount) :
    (stepStall cfg cb inp p).ticks.slot a =
      ActuatorTick.respond .stall (enabledResponse cfg.faults.stallDefaults
        ((stepStall cfg cb inp p).core.stallStates.slot a).fsm.state false) (p.ticks.slot a) := by
  unfold stepStall enabledResponse
  dsimp only
  split
  · rfl
  · exact Vector.slot_forSlots_lt _ _ hc ha

/-- The runaway stage raises a flag by the detectors of the zones that list the actuator. -/
theorem flag_stepRunaway (hr : ConfigRules cfg) (hflag : RaisedOn on flag)
    (ha : a < cfg.actuatorCount) :
    flag ((stepRunaway cfg cb inp p).ticks.slot a) = true ↔
      flag (p.ticks.slot a) = true ∨ ∃ z < cfg.zoneCount,
        on (enabledResponse cfg.faults.runawayDefaults
          ((stepRunaway cfg cb inp p).core.runaways.slot z).detector.fsm.state
          (runawayEscalates cfg.faults.runawayDefaults
            ((stepRunaway cfg cb inp p).core.runaways.slot z).detector.fsm
            ((stepRunaway cfg cb inp p).core.runaways.slot z).latchedActiveTicks)) ∧
        (cfg.zones.slot z).refsActuator (cfg.actuators.slot a).id = true := by
  have ha' : a < maxActuators := Nat.lt_of_lt_of_le ha hr.actuatorCount_le
  unfold stepRunaway enabledResponse
  dsimp only
  split
  · simp [hflag.quiet]
  · simp only [flag_foldResponses hflag ha', mem_zoneActuatorSlots hr, ha, true_and]
    rfl

/-- The stale-context stage raises a flag by any detector, since it marks every actuator. -/
theorem flag_stepStaleContext (hc : cfg.actuatorCount ≤ maxActuators)
    (hflag : RaisedOn on flag) (ha : a < cfg.actuatorCount) :
    flag ((stepStaleContext cfg cb inp p).ticks.slot a) = true ↔
      flag (p.ticks.slot a) = true ∨ ∃ c < cfg.contextCount,
        on (enabledResponse cfg.faults.staleContextDefaults
          ((stepStaleContext cfg cb inp p).core.staleContextStates.slot c).fsm.state false) := by
  have ha' : a < maxActuators := Nat.lt_of_lt_of_le ha hc
  unfold stepStaleContext enabledResponse
  dsimp only
  split
  · simp [hflag.quiet]
  · simp only [flag_foldResponses hflag ha', List.mem_range, ha, and_true]

/-- The stuck sensors raise a flag through the zones that list sensor and actuator. -/
theorem flag_stepStuckActions (hr : ConfigRules cfg) (hflag : RaisedOn on flag)
    (ha : a < cfg.actuatorCount) :
    flag ((stepStuckActions cfg p).ticks.slot a) = true ↔
      flag (p.ticks.slot a) = true ∨ ∃ s < cfg.sensorCount, ∃ z < cfg.zoneCount,
        ((cfg.zones.slot z).sensorIndex (cfg.sensors.slot s).id).isSome = true ∧
        (cfg.zones.slot z).refsActuator (cfg.actuators.slot a).id = true ∧
        on (enabledResponse cfg.faults.stuckSensorDefaults
          (p.core.stuckSensorStates.slot s).fsm.state false) := by
  have ha' : a < maxActuators := Nat.lt_of_lt_of_le ha hr.actuatorCount_le
  unfold stepStuckActions enabledResponse
  dsimp only
  split
  · simp [hflag.quiet]
  · let Raised : Vector ActuatorTick maxActuators → Prop := fun ticks => flag (ticks.slot a) = true
    refine Loop.fold_or (P := Raised) fun s ticks _ => ?_
    refine Loop.fold_or (P := Raised) fun z ticks _ => ?_
    change flag _ = true ↔ flag _ = true ∨ _
    by_cases hlist : ((cfg.zones.slot z).sensorIndex (cfg.sensors.slot s).id).isSome = true
    · rw [if_pos hlist, flag_respondSlots hflag ha', mem_zoneActuatorSlots hr]
      simp only [hlist, ha, true_and]
      rw [and_comm (b := (cfg.zones.slot z).refsActuator (cfg.actuators.slot a).id = true)]
    · rw [if_neg hlist]
      simp [hlist]

/-! ## Kept fields -/

variable {β : Type} {field : ActuatorTick → β}

/-- The stall stage keeps what responses keep. -/
theorem kept_stepStall (hfield : KeptByResponse field) (hc : cfg.actuatorCount ≤ maxActuators)
    (ha : a < cfg.actuatorCount) :
    field ((stepStall cfg cb inp p).ticks.slot a) = field (p.ticks.slot a) := by
  rw [slot_stepStall_ticks hc ha]
  exact hfield _ _ _

/-- A loop keeps what its rounds keep. -/
theorem kept_fold {count : Nat} {ticks : Vector ActuatorTick maxActuators}
    {f : Vector ActuatorTick maxActuators → Nat → Vector ActuatorTick maxActuators}
    (body : ∀ i t, field ((f t i).slot a) = field (t.slot a)) :
    field ((Loop.fold count ticks f).slot a) = field (ticks.slot a) :=
  Loop.fold_induct (fun _ (t : Vector ActuatorTick maxActuators) =>
    field (t.slot a) = field (ticks.slot a)) rfl fun i t _ ih => (body i t).trans ih

/-- The runaway stage keeps what responses keep. -/
theorem kept_stepRunaway (hfield : KeptByResponse field) :
    field ((stepRunaway cfg cb inp p).ticks.slot a) = field (p.ticks.slot a) := by
  unfold stepRunaway
  dsimp only
  split
  · rfl
  · exact kept_fold fun z t => kept_respondSlots hfield _ _

/-- The stale-context stage keeps what responses keep. -/
theorem kept_stepStaleContext (hfield : KeptByResponse field) :
    field ((stepStaleContext cfg cb inp p).ticks.slot a) = field (p.ticks.slot a) := by
  unfold stepStaleContext
  dsimp only
  split
  · rfl
  · exact kept_fold fun c t => kept_respondSlots hfield _ _

/-- The stuck sensors' actions keep what responses keep. -/
theorem kept_stepStuckActions (hfield : KeptByResponse field) :
    field ((stepStuckActions cfg p).ticks.slot a) = field (p.ticks.slot a) := by
  unfold stepStuckActions
  dsimp only
  split
  · rfl
  · refine kept_fold fun s t => kept_fold fun z t => ?_
    split
    · exact kept_respondSlots hfield _ _
    · rfl

end stages

/-! ## What is decided for an actuator -/

section decided

variable (cfg : Config) (cb : Callbacks) (inp : InputSnapshot) (core : Core) (a : Nat)

/-- The request of an actuator after arbitration. -/
def arbitratedPwm : Nat :=
  thermalArbitratorMaxWins (actuatorDemands cfg (passDone cfg cb inp core).core a)

/-- The locals of an actuator after the cap. -/
def cappedTick : ActuatorTick :=
  capTick (actuatorMaxSeverity cfg (passDone cfg cb inp core).core a)
    (pwmCapFor cfg (passDone cfg cb inp core).core (cfg.actuators.slot a))
    { (default : ActuatorTick) with arbPwm := arbitratedPwm cfg cb inp core a }

/-- The locals of an actuator when the drive stage begins. -/
def decidedTick : ActuatorTick := (passDecided cfg cb inp core).ticks.slot a

variable {cfg cb inp core a}

/-- Before arbitration no actuator has a tick of its own. -/
theorem passZones_ticks :
    (passZones cfg cb inp core).ticks = Vector.replicate maxActuators default := by
  unfold passZones step6Zones stuckSensorPrepass
  dsimp only
  split <;> rfl

/-- Arbitration, severity and cap read the zones and the modifiers, which no
later stage writes. -/
theorem slot_passRequests_ticks (hc : cfg.actuatorCount ≤ maxActuators) (ha : a < cfg.actuatorCount) :
    (passRequests cfg cb inp core).ticks.slot a = severityTick (cappedTick cfg cb inp core a) := by
  have hdemands : actuatorDemands cfg (passDone cfg cb inp core).core a =
      actuatorDemands cfg (passZones cfg cb inp core).core a := by
    unfold actuatorDemands
    rw [passDone_zones]
  have hsev : actuatorMaxSeverity cfg (passDone cfg cb inp core).core a =
      actuatorMaxSeverity cfg (passZones cfg cb inp core).core a := by
    unfold actuatorMaxSeverity
    rw [passDone_zones]
  have hcap (ac : ActuatorCfg) : pwmCapFor cfg (passDone cfg cb inp core).core ac =
      pwmCapFor cfg (passZones cfg cb inp core).core ac := by
    unfold pwmCapFor
    rw [passDone_modifiers, passZones_core]
  have htick : (passZones cfg cb inp core).ticks.slot a = default := by
    rw [passZones_ticks]
    exact Vector.slot_replicate_default a
  unfold passRequests stepSeverity step8PwmCap step7Arbitrate cappedTick arbitratedPwm
  rw [hdemands, hsev, hcap, Vector.slot_forSlots_lt _ _ hc ha, Vector.slot_forSlots_lt _ _ hc ha,
    Vector.slot_forSlots_lt _ _ hc ha, htick]
  rfl

/-- The detectors respond from the states they leave behind. -/
theorem flag_passDetectors {on : FaultResponse → Prop} {flag : ActuatorTick → Bool} (hr : ConfigRules cfg)
    (hflag : RaisedOn on flag) (ha : a < cfg.actuatorCount) :
    flag ((passDetectors cfg cb inp core).ticks.slot a) = true ↔
      flag (severityTick (cappedTick cfg cb inp core a)) = true ∨
        RespondsOn on cfg (passDone cfg cb inp core).core a := by
  let p1 := stepStall cfg cb inp (passRequests cfg cb inp core)
  let p2 := stepRunaway cfg cb inp p1
  let p3 := stepStaleContext cfg cb inp p2
  have h3 : p3.core = { p2.core with staleContextStates := p3.core.staleContextStates } :=
    stepStaleContext_core ..
  have h2 : p2.core = { p1.core with runaways := p2.core.runaways } := stepRunaway_core ..
  have h1 : p1.core = { (passRequests cfg cb inp core).core with stallStates := p1.core.stallStates } :=
    stepStall_core ..
  have hstall : (passDone cfg cb inp core).core.stallStates = p1.core.stallStates :=
    passDone_stallStates cfg cb inp core
  have hrunaway : (passDone cfg cb inp core).core.runaways = p2.core.runaways :=
    passDone_runaways cfg cb inp core
  have hstale : (passDone cfg cb inp core).core.staleContextStates = p3.core.staleContextStates :=
    passDone_staleContextStates cfg cb inp core
  have hstuck : (passDone cfg cb inp core).core.stuckSensorStates = p3.core.stuckSensorStates := by
    rw [passDone_stuckSensorStates, h3, h2, h1, passRequests_core]
    rfl
  have hflag1 : flag (p1.ticks.slot a) = true ↔ flag (severityTick (cappedTick cfg cb inp core a)) = true ∨
      on (enabledResponse cfg.faults.stallDefaults (p1.core.stallStates.slot a).fsm.state false) := by
    rw [slot_stepStall_ticks hr.actuatorCount_le ha, slot_passRequests_ticks hr.actuatorCount_le ha,
      hflag.raised]
  have hsplit : flag ((passDetectors cfg cb inp core).ticks.slot a) = true ↔ _ :=
    flag_stepStuckActions (p := p3) hr hflag ha
  rw [hsplit, flag_stepStaleContext hr.actuatorCount_le hflag ha, flag_stepRunaway hr hflag ha, hflag1]
  constructor
  · rintro ((((h | h) | ⟨z, hz, h, href⟩) | ⟨c, hc, h⟩) | ⟨s, hs, z, hz, hlist, href, h⟩)
    · exact Or.inl h
    · exact Or.inr (.stall (by rw [hstall]; exact h))
    · exact Or.inr (.runaway z hz href (by rw [hrunaway]; exact h))
    · exact Or.inr (.staleContext c hc (by rw [hstale]; exact h))
    · exact Or.inr (.stuckSensor s z hs hz hlist href (by rw [hstuck]; exact h))
  · rintro (h | h)
    · exact Or.inl (Or.inl (Or.inl (Or.inl h)))
    · cases h with
      | stall h =>
          rw [hstall] at h
          exact Or.inl (Or.inl (Or.inl (Or.inr h)))
      | runaway z hz href h =>
          rw [hrunaway] at h
          exact Or.inl (Or.inl (Or.inr ⟨z, hz, h, href⟩))
      | staleContext c hc h =>
          rw [hstale] at h
          exact Or.inl (Or.inr ⟨c, hc, h⟩)
      | stuckSensor s z hs hz hlist href h =>
          rw [hstuck] at h
          exact Or.inr ⟨s, hs, z, hz, hlist, href, h⟩

/-- The detectors keep what responses keep. -/
theorem kept_passDetectors {β : Type} {field : ActuatorTick → β} (hfield : KeptByResponse field)
    (hc : cfg.actuatorCount ≤ maxActuators) (ha : a < cfg.actuatorCount) :
    field ((passDetectors cfg cb inp core).ticks.slot a) =
      field (severityTick (cappedTick cfg cb inp core a)) := by
  unfold passDetectors
  rw [kept_stepStuckActions hfield, kept_stepStaleContext hfield, kept_stepRunaway hfield,
    kept_stepStall hfield hc ha, slot_passRequests_ticks hc ha]

/-- After step 9 only the force stage touches the locals. -/
theorem decidedTick_eq (hc : cfg.actuatorCount ≤ maxActuators) (ha : a < cfg.actuatorCount) :
    decidedTick cfg cb inp core a =
      if ((passDetectors cfg cb inp core).ticks.slot a).forcePwmMax then
        { ((passDetectors cfg cb inp core).ticks.slot a) with arbPwm := (cfg.actuators.slot a).pwmMax }
      else (passDetectors cfg cb inp core).ticks.slot a :=
  Vector.slot_forSlots_lt _ _ hc ha

/-- The severity that the cap sees is the actuator's. -/
theorem cappedTick_maxZoneSev :
    (cappedTick cfg cb inp core a).maxZoneSev =
      actuatorMaxSeverity cfg (passDone cfg cb inp core).core a := by
  unfold cappedTick capTick
  dsimp only
  split
  · rfl
  · split
    · rfl
    · split <;> rfl

/-- The cap raises no mark. -/
theorem cappedTick_flags :
    (cappedTick cfg cb inp core a).forcePwmMax = false ∧
      (cappedTick cfg cb inp core a).slewOverrideUp = false := by
  unfold cappedTick capTick
  dsimp only
  split
  · exact ⟨rfl, rfl⟩
  · split
    · exact ⟨rfl, rfl⟩
    · split <;> exact ⟨rfl, rfl⟩

/-- A flag the force stage leaves alone is raised by the severity of the actuator, or by
a detector that concerns it. -/
theorem decided_flag {flag : ActuatorTick → Bool} (hr : ConfigRules cfg) (ha : a < cfg.actuatorCount)
    (hraised : RaisedByResponse flag) (hforce : ∀ t pwm, flag { t with arbPwm := pwm } = flag t) :
    flag (decidedTick cfg cb inp core a) = true ↔
      flag (severityTick (cappedTick cfg cb inp core a)) = true ∨
        Responds cfg (passDone cfg cb inp core).core a := by
  have hsame : flag (decidedTick cfg cb inp core a) = flag ((passDetectors cfg cb inp core).ticks.slot a) := by
    rw [decidedTick_eq hr.actuatorCount_le ha]
    split
    · exact hforce _ _
    · rfl
  rw [hsame, flag_passDetectors hr hraised.on ha, respondsOn_some_iff]

/-- **Force-max, in full**: an actuator's request is forced exactly at SHUTDOWN
severity or by a detector that concerns it. -/
theorem decided_forcePwmMax (hr : ConfigRules cfg) (ha : a < cfg.actuatorCount) :
    (decidedTick cfg cb inp core a).forcePwmMax = true ↔
      TripSeverity.shutdown.code ≤ actuatorMaxSeverity cfg (passDone cfg cb inp core).core a ∨
        Responds cfg (passDone cfg cb inp core).core a := by
  rw [decided_flag hr ha raisedByResponse_forcePwmMax fun _ _ => rfl]
  simp only [severityTick, cappedTick_flags.1, cappedTick_maxZoneSev, Bool.false_or,
    decide_eq_true_eq, ge_iff_le]

/-- **Slew override, in full**: the same from CRITICAL severity on. -/
theorem decided_slewOverrideUp (hr : ConfigRules cfg) (ha : a < cfg.actuatorCount) :
    (decidedTick cfg cb inp core a).slewOverrideUp = true ↔
      TripSeverity.critical.code ≤ actuatorMaxSeverity cfg (passDone cfg cb inp core).core a ∨
        Responds cfg (passDone cfg cb inp core).core a := by
  rw [decided_flag hr ha raisedByResponse_slewOverrideUp fun _ _ => rfl]
  simp only [severityTick, cappedTick_flags.2, cappedTick_maxZoneSev, Bool.false_or,
    decide_eq_true_eq, ge_iff_le]

/-- The request the drive stage starts from. -/
theorem decided_arbPwm (hc : cfg.actuatorCount ≤ maxActuators) (ha : a < cfg.actuatorCount) :
    (decidedTick cfg cb inp core a).arbPwm =
      if (decidedTick cfg cb inp core a).forcePwmMax then (cfg.actuators.slot a).pwmMax
      else (cappedTick cfg cb inp core a).arbPwm := by
  have hkept : ((passDetectors cfg cb inp core).ticks.slot a).arbPwm =
      (cappedTick cfg cb inp core a).arbPwm :=
    kept_passDetectors keptByResponse_arbPwm hc ha
  rw [decidedTick_eq hc ha]
  by_cases h : ((passDetectors cfg cb inp core).ticks.slot a).forcePwmMax = true
  · simp [h]
  · simp [h, hkept]

/-! ## What a step writes for an actuator -/

/-- An actuator's record as the drive stage finds it. -/
theorem slot_passDecided_actuators (hc : cfg.actuatorCount ≤ maxActuators)
    (ha : a < cfg.actuatorCount) :
    (passDecided cfg cb inp core).core.actuators.slot a =
      { core.actuators.slot a with
        prevRequested := arbitratedPwm cfg cb inp core a
        tachRpm := clampTach (sampleValue (inp.find .tachRpm (cfg.actuators.slot a).id))
        tachValid := sampleValid (inp.find .tachRpm (cfg.actuators.slot a).id) } := by
  have hdemands : actuatorDemands cfg (passDone cfg cb inp core).core a =
      actuatorDemands cfg (passZones cfg cb inp core).core a := by
    unfold actuatorDemands
    rw [passDone_zones]
  rw [passDecided_core, passDetectors_core]
  unfold arbitratedPwm
  rw [hdemands]
  have hreq : (passRequests cfg cb inp core).core.actuators =
      (passZones cfg cb inp core).core.actuators.forSlots cfg.actuatorCount fun a ar =>
        { ar with
          prevRequested :=
            thermalArbitratorMaxWins (actuatorDemands cfg (passZones cfg cb inp core).core a) } := rfl
  rw [hreq, Vector.slot_forSlots_lt _ _ hc ha, passZones_core, senseCore_core]
  unfold step3bTach
  rw [Vector.slot_forSlots_lt _ _ hc ha]

variable {out : OutputFrame}

/-- The duty an accepted step writes. -/
theorem step_duty (hr : ConfigRules cfg) (hin : Admissible cfg inp) (ha : a < cfg.actuatorCount) :
    ((thermalCoreStep cfg cb core inp out).out.actuatorCmds.slot a).duty =
      finalPwm cfg (cfg.actuators.slot a) (core.actuators.slot a) (decidedTick cfg cb inp core a) := by
  rw [thermalCoreStep_accepted hin]
  unfold outputFrame
  rw [Vector.slot_forSlots_lt _ _ hr.actuatorCount_le ha,
    slot_passDecided_actuators hr.actuatorCount_le ha]
  rfl

/-- The record an accepted step leaves: the drive stage's, on this tick's request
and tach. -/
theorem step_actuator (hr : ConfigRules cfg) (hin : Admissible cfg inp) (ha : a < cfg.actuatorCount) :
    (thermalCoreStep cfg cb core inp out).core.actuators.slot a =
      driveActuator cfg (cfg.actuators.slot a) (decidedTick cfg cb inp core a)
        { core.actuators.slot a with
          prevRequested := arbitratedPwm cfg cb inp core a
          tachRpm := clampTach (sampleValue (inp.find .tachRpm (cfg.actuators.slot a).id))
          tachValid := sampleValid (inp.find .tachRpm (cfg.actuators.slot a).id) } := by
  rw [thermalCoreStep_accepted hin]
  have hdone : (passDone cfg cb inp core).core.actuators =
      (passDecided cfg cb inp core).core.actuators.forSlots cfg.actuatorCount fun a ar =>
        driveActuator cfg (cfg.actuators.slot a) ((passDecided cfg cb inp core).ticks.slot a) ar := rfl
  rw [hdone, Vector.slot_forSlots_lt _ _ hr.actuatorCount_le ha,
    slot_passDecided_actuators hr.actuatorCount_le ha]
  rfl

/-- The duty written is the duty kept for the next tick. -/
theorem step_prevDuty (hr : ConfigRules cfg) (hin : Admissible cfg inp) (ha : a < cfg.actuatorCount) :
    ((thermalCoreStep cfg cb core inp out).core.actuators.slot a).prevDuty =
      finalPwm cfg (cfg.actuators.slot a) (core.actuators.slot a) (decidedTick cfg cb inp core a) := by
  rw [step_actuator hr hin ha]
  rfl

end decided

end ThermalCore
