import ThermalCore.Run

/-!
# What an accepted configuration satisfies

One rule set for each object the validator looks at, and for each validator a
lemma that acceptance is exactly its rule set.  Later modules use the rules and
never unfold a validator.

The rule sets are structures whose fields name the rule: `CountRules`,
`ActuatorRules`, `SensorRules`, `ContextRules`, `ZoneRules`, and `ConfigRules` for
the whole configuration, which `accepted_iff` proves equivalent to
`thermal_validate_config` returning `THERMAL_OK`.  The first section shows that a
refusal never carries the status OK, so that "returned OK" and "no test failed"
are one thing.  The last sections read the rules back for an object given by its
slot, and give what the lookups by id return.
-/

namespace ThermalCore

open MachineInt Check

/-! ## The status is OK exactly when no test fails -/

/-- Every error a validation can stop with satisfies `P`. -/
def Errs (P : ThermalStatus → Prop) (v : Validation) : Prop := ∀ e, v = .error e → P e

section errs

variable {P : ThermalStatus → Prop}

/-- A validation that passes stops with no error at all. -/
theorem errs_ok : Errs P (.ok ()) := by
  intro e h
  cases h

/-- A test stops only with its own error. -/
theorem errs_failIf {c : Prop} [Decidable c] {e : ThermalStatus} (h : P e) :
    Errs P (failIf c e) := by
  intro e' he
  unfold failIf at he
  split at he
  · cases he
    exact h
  · cases he

/-- Two validations in a row stop with an error of the one or of the other. -/
theorem errs_bind {v : Validation} {f : Unit → Validation} (hv : Errs P v) (hf : Errs P (f ())) :
    Errs P (v >>= f) := by
  intro e he
  cases v with
  | error e' =>
      cases he
      exact hv _ rfl
  | ok u => exact hf e he

/-- A loop of validations stops with an error of one of its rounds. -/
theorem errs_each {count : Nat} {f : Nat → Validation} (h : ∀ i, Errs P (f i)) :
    Errs P (each count f) := by
  unfold each
  exact Loop.fold_induct (fun _ v => Errs P v) errs_ok fun i _ _ hv => errs_bind hv (h i)

/-- A choice between validations stops with an error of the one that was taken. -/
theorem errs_ite {c : Prop} [Decidable c] {v w : Validation} (hv : Errs P v) (hw : Errs P w) :
    Errs P (if c then v else w) := by
  split
  · exact hv
  · exact hw

end errs

/-- What every validator below satisfies: it never stops with `THERMAL_OK`. -/
abbrev ErrsNotOk (v : Validation) : Prop := Errs (· ≠ .ok) v

section errsNotOk

variable (cfg : Config)

/-- The test for distinct ids never refuses with `THERMAL_OK`. -/
theorem errs_idsDistinct (count : Nat) (id : Nat → Nat) : ErrsNotOk (idsDistinct count id) :=
  errs_each fun _ => errs_each fun _ => errs_failIf (by decide)

/-- `validate_sensors` never refuses with `THERMAL_OK`. -/
theorem errs_validateSensors : ErrsNotOk (validateSensors cfg) := by
  apply errs_bind
  · exact errs_each fun _ => errs_bind (errs_failIf (by decide)) (errs_failIf (by decide))
  · exact errs_idsDistinct _ _

/-- The tests of a linearization curve never refuse with `THERMAL_OK`. -/
theorem errs_validateDutyLinearization (a : ActuatorCfg) :
    ErrsNotOk (validateDutyLinearization a) := by
  refine errs_ite (errs_bind (errs_failIf (by decide)) (errs_bind ?_ ?_)) errs_ok
  · exact errs_each fun _ => errs_bind (errs_failIf (by decide))
      (errs_ite (errs_failIf (by decide)) errs_ok)
  · exact errs_bind (errs_failIf (by decide)) (errs_failIf (by decide))

/-- `validate_actuators` never refuses with `THERMAL_OK`. -/
theorem errs_validateActuators : ErrsNotOk (validateActuators cfg) := by
  apply errs_bind
  · exact errs_each fun _ => errs_bind (errs_failIf (by decide))
      (errs_bind (errs_failIf (by decide)) (errs_validateDutyLinearization _))
  · exact errs_idsDistinct _ _

/-- `validate_contexts` never refuses with `THERMAL_OK`. -/
theorem errs_validateContexts : ErrsNotOk (validateContexts cfg) := by
  refine errs_each fun i => ?_
  repeat' first | exact errs_failIf (by decide) | apply errs_bind
  exact errs_each fun _ => errs_failIf (by decide)

/-- `validate_modifiers` never refuses with `THERMAL_OK`. -/
theorem errs_validateModifiers : ErrsNotOk (validateModifiers cfg) := by
  have failSafe (m : ModifierCfg) : ErrsNotOk (validateModifierFailSafe cfg m) := by
    unfold validateModifierFailSafe
    split
    · exact errs_failIf (by decide)
    · exact errs_ok
  refine errs_each fun i => ?_
  repeat' first | exact errs_failIf (by decide) | exact failSafe _ | apply errs_bind
  exact errs_each fun _ => errs_failIf (by decide)

/-- The tests of a detector's defaults never refuse with `THERMAL_OK`. -/
theorem errs_validateFaultDefaults (fc : FaultDetectorCfg) (b : Bool) :
    ErrsNotOk (validateFaultDefaults cfg fc b) := by
  refine errs_ite errs_ok (errs_bind (errs_failIf (by decide))
    (errs_bind (errs_failIf (by decide)) (errs_ite ?_ errs_ok)))
  exact errs_bind (errs_failIf (by decide)) (errs_failIf (by decide))

/-- The tests of the referenced cooling states never refuse with `THERMAL_OK`. -/
theorem errs_validateStatePwmReferences : ErrsNotOk (validateStatePwmReferences cfg) := by
  apply errs_bind
  · refine errs_each fun z => errs_each fun t => errs_each fun k => ?_
    split
    · exact errs_ok
    · exact errs_failIf (by decide)
  · refine errs_each fun a => ?_
    split
    · exact errs_ok
    · exact errs_each fun _ => errs_failIf (by decide)

/-- The tests of a zone never refuse with `THERMAL_OK`. -/
theorem errs_validateZone (z : ZoneCfg) : ErrsNotOk (validateZone cfg z) := by
  have governor (ops : Governor) : ErrsNotOk (ops.validate cfg z) := by
    cases ops with
    | stepWise => exact errs_ok
    | pid =>
        unfold Governor.validate governorValidatePid
        repeat' first | exact errs_failIf (by decide) | apply errs_bind
  unfold validateZone
  repeat' first | exact errs_failIf (by decide) | apply errs_bind
  · exact errs_each fun _ => errs_failIf (by decide)
  · exact errs_each fun _ => errs_failIf (by decide)
  · exact errs_each fun _ => errs_bind (errs_failIf (by decide)) (errs_bind (errs_failIf (by decide))
      (errs_ite (errs_bind (errs_failIf (by decide)) (errs_failIf (by decide))) errs_ok))
  · split
    · intro e he
      cases he
      decide
    · exact governor _

/-- The tests of fan health never refuse with `THERMAL_OK`. -/
theorem errs_validateFanHealth : ErrsNotOk (validateFanHealth cfg) := by
  refine errs_each fun a => errs_ite errs_ok ?_
  repeat' first | exact errs_failIf (by decide) | apply errs_bind
  exact errs_each fun _ => errs_bind (errs_failIf (by decide)) (errs_bind (errs_failIf (by decide))
    (errs_ite (errs_bind (errs_failIf (by decide)) (errs_failIf (by decide))) errs_ok))

/-- No test of the whole validator refuses with `THERMAL_OK`. -/
theorem errs_validateConfig : ErrsNotOk (validateConfig cfg) := by
  have counts : ErrsNotOk (validateCounts cfg) := by
    unfold validateCounts
    repeat' first | exact errs_failIf (by decide) | apply errs_bind
  have faults : ErrsNotOk (validateFaultDetectors cfg) :=
    errs_bind (errs_validateFaultDefaults cfg _ _) (errs_bind (errs_validateFaultDefaults cfg _ _)
      (errs_bind (errs_validateFaultDefaults cfg _ _) (errs_validateFaultDefaults cfg _ _)))
  have telemetry : ErrsNotOk (validateTelemetry cfg) :=
    errs_bind (errs_failIf (by decide)) (errs_each fun _ => errs_failIf (by decide))
  refine errs_bind (errs_failIf (by decide)) (errs_bind (errs_failIf (by decide))
    (errs_bind (errs_failIf (by decide)) (errs_bind counts (errs_bind (errs_failIf (by decide))
      (errs_bind (errs_failIf (by decide)) ?_)))))
  refine errs_bind (errs_validateSensors cfg) (errs_bind (errs_validateActuators cfg)
    (errs_bind (errs_validateContexts cfg) (errs_bind (errs_each fun _ => errs_validateZone cfg _) ?_)))
  exact errs_bind (errs_validateModifiers cfg) (errs_bind faults
    (errs_bind (errs_validateStatePwmReferences cfg) (errs_bind telemetry
      (errs_validateFanHealth cfg))))

end errsNotOk

/-- A configuration is accepted exactly when no test of the validator stops it. -/
theorem accepted_iff_ok (cfg : Config) : Accepted cfg ↔ validateConfig cfg = .ok () := by
  unfold Accepted thermalCoreValidateConfig
  cases h : validateConfig cfg with
  | ok u => simp [Validation.status]
  | error e =>
      have hne : e ≠ .ok := errs_validateConfig cfg e h
      simp [Validation.status, hne]

/-! ## The rules -/

/-- One field for each test or group of tests of `thermal_core_validate_config`. -/
structure ConfigRules (cfg : Config) : Prop where
  version : cfg.configVersion = 1
  period : cfg.controlPeriodMs ≠ 0
  periodRelative : cfg.periodRelativeToMs = 0 ∨ cfg.periodRelativeToMs = cfg.controlPeriodMs
  counts : validateCounts cfg = .ok ()
  oneModifier : cfg.modifierCount ≤ 1
  runawayWindow : cfg.faults.runawayDefaults.enabled ≠ 0 →
    cfg.faults.runawayDefaults.persistTicks ≤ faultRunawayWindowMax
  sensors : validateSensors cfg = .ok ()
  actuators : validateActuators cfg = .ok ()
  contexts : validateContexts cfg = .ok ()
  zones : ∀ z < cfg.zoneCount, validateZone cfg (cfg.zones.slot z) = .ok ()
  modifiers : validateModifiers cfg = .ok ()
  faults : validateFaultDetectors cfg = .ok ()
  statePwm : validateStatePwmReferences cfg = .ok ()
  telemetry : validateTelemetry cfg = .ok ()
  fanHealth : validateFanHealth cfg = .ok ()

/-- **Acceptance is the rule set**: the form in which later modules use it. -/
theorem accepted_iff (cfg : Config) : Accepted cfg ↔ ConfigRules cfg := by
  rw [accepted_iff_ok]
  unfold validateConfig
  simp only [bind_eq_ok, failIf_eq_ok, each_eq_ok]
  constructor
  · rintro ⟨h1, h2, h3, h4, h5, h6, h7, h8, h9, h10, h11, h12, h13, h14, h15⟩
    refine ⟨by omega, h2, by tauto, h4, by omega, fun he => ?_, h7, h8, h9, h10, h11, h12, h13, h14, h15⟩
    by_contra hp
    exact h6 ⟨he, by omega⟩
  · rintro ⟨h1, h2, h3, h4, h5, h6, h7, h8, h9, h10, h11, h12, h13, h14, h15⟩
    refine ⟨by omega, h2, by tauto, h4, by omega, fun hp => ?_, h7, h8, h9, h10, h11, h12, h13, h14, h15⟩
    exact absurd (h6 hp.1) (Nat.not_le.mpr hp.2)

/-! ## Counts -/

/-- What the tests of the counts ask: every count within its array. -/
structure CountRules (cfg : Config) : Prop where
  sensors : cfg.sensorCount ≤ maxSensors
  zones : cfg.zoneCount ≤ maxZones
  actuators : cfg.actuatorCount ≤ maxActuators
  contexts : cfg.contextCount ≤ maxContextSignals
  modifiers : cfg.modifierCount ≤ maxModifiers
  telemetry : cfg.telemetry.enabledSignalCount ≤ maxTelemetrySignals

/-- The tests of the counts pass exactly under its rules. -/
theorem validateCounts_iff (cfg : Config) : validateCounts cfg = .ok () ↔ CountRules cfg := by
  unfold validateCounts
  simp only [bind_eq_ok, failIf_eq_ok, Nat.not_lt, gt_iff_lt]
  constructor
  · rintro ⟨h1, h2, h3, h4, h5, h6⟩
    exact ⟨h1, h2, h3, h4, h5, h6⟩
  · rintro ⟨h1, h2, h3, h4, h5, h6⟩
    exact ⟨h1, h2, h3, h4, h5, h6⟩

/-! ## Ids -/

/-- No two of the first `count` ids are equal. -/
def IdsDistinct (count : Nat) (id : Nat → Nat) : Prop :=
  ∀ i < count, ∀ j < count, id i = id j → i = j

/-- The quadratic test passes exactly when the counted ids are pairwise different. -/
theorem idsDistinct_iff (count : Nat) (id : Nat → Nat) :
    idsDistinct count id = .ok () ↔ IdsDistinct count id := by
  unfold idsDistinct IdsDistinct
  simp only [each_eq_ok, failIf_eq_ok, not_and]
  constructor
  · intro h i hi j hj hid
    rcases Nat.lt_trichotomy i j with hlt | heq | hgt
    · exact absurd hid (h i hi j hj hlt)
    · exact heq
    · exact absurd hid.symm (h j hj i hi hgt)
  · intro h i hi j hj hlt hid
    have heq := h i hi j hj hid
    omega

/-- With distinct ids the lookup of a configured id returns its own slot. -/
theorem first_id_eq_some {count : Nat} {id : Nat → Nat} (h : IdsDistinct count id) {i : Nat}
    (hi : i < count) : (Loop.first count fun j => id j == id i) = some i := by
  apply Loop.first_eq_of_unique hi
  · simp
  · intro j hj hid
    exact h j hj i hi (by simpa using hid)

/-- Among distinct ids, the first match is the only one. -/
theorem first_id_eq_some_iff {count : Nat} {id : Nat → Nat} (h : IdsDistinct count id) {i x : Nat} :
    (Loop.first count fun j => id j == x) = some i ↔ i < count ∧ id i = x := by
  constructor
  · intro hs
    obtain ⟨hi, hx⟩ := Loop.first_eq_some hs
    exact ⟨hi, by simpa using hx⟩
  · rintro ⟨hi, rfl⟩
    exact first_id_eq_some h hi

/-! ## Actuators -/

/-- The tests on one actuator outside its linearization table. -/
structure ActuatorRules (ac : ActuatorCfg) : Prop where
  minMax : ac.pwmMin ≤ ac.pwmMax
  spinup : ac.spinupMs > 0 → 0 < ac.spinupPwm ∧ ac.pwmMin ≤ ac.spinupPwm ∧ ac.spinupPwm ≤ ac.pwmMax
  linearization : validateDutyLinearization ac = .ok ()

/-- `validate_actuators` passes exactly when every counted actuator keeps its rules and the ids
differ. -/
theorem validateActuators_iff (cfg : Config) :
    validateActuators cfg = .ok () ↔
      (∀ a < cfg.actuatorCount, ActuatorRules (cfg.actuators.slot a)) ∧
        IdsDistinct cfg.actuatorCount fun a => (cfg.actuators.slot a).id := by
  unfold validateActuators
  simp only [bind_eq_ok, each_eq_ok, failIf_eq_ok, idsDistinct_iff]
  apply and_congr_left
  intro _
  apply forall₂_congr
  intro a _
  constructor
  · rintro ⟨h1, h2, h3⟩
    exact ⟨by omega, fun hs => by omega, h3⟩
  · rintro ⟨h1, h2, h3⟩
    refine ⟨by omega, fun hs => ?_, h3⟩
    have := h2 hs.1
    omega

/-- The rules of a counted actuator. -/
theorem ConfigRules.actuator {cfg : Config} (h : ConfigRules cfg) {a : Nat}
    (ha : a < cfg.actuatorCount) : ActuatorRules (cfg.actuators.slot a) :=
  ((validateActuators_iff cfg).mp h.actuators).1 a ha

/-- The counted actuators have distinct ids. -/
theorem ConfigRules.actuator_ids {cfg : Config} (h : ConfigRules cfg) :
    IdsDistinct cfg.actuatorCount fun a => (cfg.actuators.slot a).id :=
  ((validateActuators_iff cfg).mp h.actuators).2

/-- The actuators fit in their array. -/
theorem ConfigRules.actuatorCount_le {cfg : Config} (h : ConfigRules cfg) :
    cfg.actuatorCount ≤ maxActuators :=
  ((validateCounts_iff cfg).mp h.counts).actuators

/-- Looking an actuator up by its id finds the slot that has it. -/
theorem findActuatorSlot_eq_some {cfg : Config} (h : ConfigRules cfg) {a id : Nat} :
    findActuatorSlot cfg id = some a ↔ a < cfg.actuatorCount ∧ (cfg.actuators.slot a).id = id :=
  first_id_eq_some_iff h.actuator_ids

/-- An actuator's slot is among the slots a zone drives exactly when the zone
references its id. -/
theorem mem_zoneActuatorSlots {cfg : Config} (h : ConfigRules cfg) {zc : ZoneCfg} {a : Nat} :
    a ∈ zoneActuatorSlots cfg zc ↔
      a < cfg.actuatorCount ∧ zc.refsActuator (cfg.actuators.slot a).id = true := by
  unfold zoneActuatorSlots ZoneCfg.refsActuator
  rw [List.mem_filterMap, Loop.any_iff]
  constructor
  · rintro ⟨k, hk, hslot⟩
    obtain ⟨ha, hid⟩ := (findActuatorSlot_eq_some h).mp hslot
    exact ⟨ha, k, List.mem_range.mp hk, by simp [hid]⟩
  · rintro ⟨ha, k, hk, hid⟩
    refine ⟨k, List.mem_range.mpr hk, (findActuatorSlot_eq_some h).mpr ⟨ha, ?_⟩⟩
    exact (beq_iff_eq.mp hid).symm

/-! ## Sensors and contexts -/

/-- What `validate_sensors` asks of one sensor. -/
structure SensorRules (sc : SensorCfg) : Prop where
  staleness : sc.maxStalenessMs ≠ 0
  alpha : 0 ≤ sc.iirAlphaQ16 ∧ sc.iirAlphaQ16 ≤ q16One

/-- `validate_sensors` passes exactly when every counted sensor keeps its rules and the ids differ.
-/
theorem validateSensors_iff (cfg : Config) :
    validateSensors cfg = .ok () ↔
      (∀ s < cfg.sensorCount, SensorRules (cfg.sensors.slot s)) ∧
        IdsDistinct cfg.sensorCount fun s => (cfg.sensors.slot s).id := by
  unfold validateSensors
  simp only [bind_eq_ok, each_eq_ok, failIf_eq_ok, idsDistinct_iff]
  apply and_congr_left
  intro _
  apply forall₂_congr
  intro s _
  constructor
  · rintro ⟨h1, h2⟩
    exact ⟨h1, by omega⟩
  · rintro ⟨h1, h2⟩
    exact ⟨h1, by omega⟩

/-- The rules of a counted sensor. -/
theorem ConfigRules.sensor {cfg : Config} (h : ConfigRules cfg) {s : Nat} (hs : s < cfg.sensorCount) :
    SensorRules (cfg.sensors.slot s) :=
  ((validateSensors_iff cfg).mp h.sensors).1 s hs

/-- The counted sensors have distinct ids. -/
theorem ConfigRules.sensor_ids {cfg : Config} (h : ConfigRules cfg) :
    IdsDistinct cfg.sensorCount fun s => (cfg.sensors.slot s).id :=
  ((validateSensors_iff cfg).mp h.sensors).2

/-- Looking a sensor up by its id finds the slot that has it. -/
theorem findSensorSlot_eq_some {cfg : Config} (h : ConfigRules cfg) {s id : Nat} :
    findSensorSlot cfg id = some s ↔ s < cfg.sensorCount ∧ (cfg.sensors.slot s).id = id :=
  first_id_eq_some_iff h.sensor_ids

/-- What `validate_contexts` asks of one context signal, as far as later modules use it. -/
structure ContextRules (cc : ContextCfg) : Prop where
  timeout : cc.timeoutMs ≠ 0
  alpha : 0 ≤ cc.iirAlphaQ16 ∧ cc.iirAlphaQ16 ≤ q16One

/-- Once `validate_contexts` passes, every counted signal keeps its rules and the ids differ. -/
theorem validateContexts_ok {cfg : Config} (h : validateContexts cfg = .ok ()) :
    (∀ c < cfg.contextCount, ContextRules (cfg.contexts.slot c)) ∧
      IdsDistinct cfg.contextCount fun c => (cfg.contexts.slot c).id := by
  unfold validateContexts at h
  simp only [bind_eq_ok, each_eq_ok, failIf_eq_ok, not_and] at h
  constructor
  · intro c hc
    obtain ⟨-, h2, -, -, h5, -⟩ := h c hc
    exact ⟨h2, by omega⟩
  · intro i hi j hj hid
    rcases Nat.lt_trichotomy i j with hlt | heq | hgt
    · exact absurd hid ((h i hi).2.2.2.2.2 j hj hlt)
    · exact heq
    · exact absurd hid.symm ((h j hj).2.2.2.2.2 i hi hgt)

/-- The rules of a counted context signal. -/
theorem ConfigRules.context {cfg : Config} (h : ConfigRules cfg) {c : Nat}
    (hc : c < cfg.contextCount) : ContextRules (cfg.contexts.slot c) :=
  (validateContexts_ok h.contexts).1 c hc

/-- Looking a context signal up by its id finds the slot that has it. -/
theorem findContextSlot_eq_some {cfg : Config} (h : ConfigRules cfg) {c id : Nat} :
    findContextSlot cfg id = some c ↔ c < cfg.contextCount ∧ (cfg.contexts.slot c).id = id :=
  first_id_eq_some_iff (validateContexts_ok h.contexts).2

/-! ## Zones -/

/-- The tests on the trips of one zone, pair by pair. -/
structure TripRules (trips : Vector TripCfg n) (tripCount i : Nat) : Prop where
  coolingState : (trips.slot i).coolingState < maxCoolingStates
  severity : severityKnown (trips.slot i).severity = true
  ascending : 0 < i → (trips.slot (i - 1)).tempMc < (trips.slot i).tempMc
  cold : 0 < i → (trips.slot (i - 1)).tempMc ≤ (trips.slot i).tempMc - (trips.slot i).hystMc

/-- What the validator asks of one zone. -/
structure ZoneRules (cfg : Config) (zc : ZoneCfg) : Prop where
  sensorCount : 0 < zc.sensorCount ∧ zc.sensorCount ≤ maxSensorsPerZone
  actuatorCount : 0 < zc.actuatorCount ∧ zc.actuatorCount ≤ maxActuatorsPerZone
  aggregation : aggregationKnown zc.aggregation = true
  governor : governorKnown zc.governor = true
  sensorIds : ∀ k < zc.sensorCount, findSensorSlot cfg (zc.sensorIds.slot k) ≠ none
  actuatorIds : ∀ k < zc.actuatorCount, findActuatorSlot cfg (zc.actuatorIds.slot k) ≠ none
  weights : zc.aggregation = Aggregation.weighted.code → 0 < weightSum zc
  tripCount : zc.tripCount ≤ maxTripsPerZone
  trips : ∀ i < zc.tripCount, TripRules zc.trips zc.tripCount i
  fallback : zoneFallbackReachesSafetyFloor zc zc.trips = true
  governorRules : ∀ ops, governorOpsFor zc.governor = some ops → ops.validate cfg zc = .ok ()

/-- The tests of a zone pass exactly under its rules. -/
theorem validateZone_iff (cfg : Config) (zc : ZoneCfg) :
    validateZone cfg zc = .ok () ↔ ZoneRules cfg zc := by
  unfold validateZone
  simp only [bind_eq_ok, failIf_eq_ok, each_eq_ok, ite_ok_eq_ok, not_or, Bool.not_eq_false]
  constructor
  · rintro ⟨h1, h2, h3, h4, h5, h6, h7, h8, h9, h10, h11⟩
    refine ⟨by omega, by omega, h3, h4, h5, h6, fun hw => ?_, by omega, fun i hi => ?_, h10, ?_⟩
    · by_contra hs
      exact h7 ⟨hw, by omega⟩
    · obtain ⟨t1, t2, t3⟩ := h9 i hi
      exact ⟨by omega, t2, fun h0 => by have := t3 h0; omega, fun h0 => by have := t3 h0; omega⟩
    · intro ops hops
      rw [hops] at h11
      exact h11
  · rintro ⟨h1, h2, h3, h4, h5, h6, h7, h8, h9, h10, h11⟩
    refine ⟨by omega, by omega, h3, h4, h5, h6, fun hw => ?_, by omega, fun i hi => ?_, h10, ?_⟩
    · have := h7 hw.1
      omega
    · obtain ⟨t1, t2, t3, t4⟩ := h9 i hi
      exact ⟨by omega, t2, fun h0 => ⟨by have := t3 h0; omega, by have := t4 h0; omega⟩⟩
    · cases hops : governorOpsFor zc.governor with
      | none => simp [governorKnown, hops] at h4
      | some ops => exact h11 ops hops

/-- The rules of a counted zone. -/
theorem ConfigRules.zone {cfg : Config} (h : ConfigRules cfg) {z : Nat} (hz : z < cfg.zoneCount) :
    ZoneRules cfg (cfg.zones.slot z) :=
  (validateZone_iff cfg _).mp (h.zones z hz)

/-- The zones fit in their array. -/
theorem ConfigRules.zoneCount_le {cfg : Config} (h : ConfigRules cfg) : cfg.zoneCount ≤ maxZones :=
  ((validateCounts_iff cfg).mp h.counts).zones

/-- A known governor has operations, so a step never meets a zone without them. -/
theorem ZoneRules.ops {cfg : Config} {zc : ZoneCfg} (h : ZoneRules cfg zc) :
    ∃ ops, governorOpsFor zc.governor = some ops := by
  have hg := h.governor
  simp only [governorKnown] at hg
  exact Option.isSome_iff_exists.mp hg

/-! ## Cooling states -/

/-- A referenced entry of `state_pwm[]` is off or a legal duty. -/
theorem statePwm_legal {cfg : Config} (h : ConfigRules cfg) {z t a : Nat} (hz : z < cfg.zoneCount)
    (ht : t < (cfg.zones.slot z).tripCount) (ha : a < cfg.actuatorCount)
    (href : (cfg.zones.slot z).refsActuator (cfg.actuators.slot a).id = true) :
    let pwm := (cfg.actuators.slot a).statePwm.slot ((cfg.zones.slot z).trips.slot t).coolingState
    pwm = 0 ∨ ((cfg.actuators.slot a).pwmMin ≤ pwm ∧ pwm ≤ (cfg.actuators.slot a).pwmMax) := by
  intro pwm
  obtain ⟨k, hk, hid⟩ := Loop.any_iff.mp href
  have hv := h.statePwm
  unfold validateStatePwmReferences at hv
  simp only [bind_eq_ok, each_eq_ok] at hv
  have hslot : findActuatorSlot cfg ((cfg.zones.slot z).actuatorIds.slot k) = some a :=
    (findActuatorSlot_eq_some h).mpr ⟨ha, (beq_iff_eq.mp hid).symm⟩
  have hk' := hv.1 z hz t ht k hk
  rw [hslot] at hk'
  simp only [failIf_eq_ok] at hk'
  omega

/-- The highest referenced state of an actuator bounds every reference to it. -/
theorem maxReferencedState_ge {cfg : Config} (h : ConfigRules cfg) {z t a : Nat}
    (hz : z < cfg.zoneCount) (ht : t < (cfg.zones.slot z).tripCount) (ha : a < cfg.actuatorCount)
    (href : (cfg.zones.slot z).refsActuator (cfg.actuators.slot a).id = true) :
    ∃ m, maxReferencedState cfg a = some m ∧
      ((cfg.zones.slot z).trips.slot t).coolingState ≤ m := by
  obtain ⟨k, hk, hid⟩ := Loop.any_iff.mp href
  have hslot : findActuatorSlot cfg ((cfg.zones.slot z).actuatorIds.slot k) = some a :=
    (findActuatorSlot_eq_some h).mpr ⟨ha, (beq_iff_eq.mp hid).symm⟩
  let cs := ((cfg.zones.slot z).trips.slot t).coolingState
  let Bounded : Option Nat → Prop := fun acc => ∃ m, acc = some m ∧ cs ≤ m
  have raise (cs' m : Nat) (hm : cs ≤ m) : Bounded (if cs' > m then some cs' else some m) := by
    split
    · exact ⟨cs', rfl, by omega⟩
    · exact ⟨m, rfl, hm⟩
  have keep {p : Prop} [Decidable p] {acc acc' : Option Nat} (hacc : Bounded acc)
      (hnext : Bounded acc') : Bounded (if p then acc' else acc) := by
    split
    · exact hnext
    · exact hacc
  unfold maxReferencedState
  refine Loop.fold_reaches Bounded hz (fun acc => ?_) fun z' acc hacc => ?_
  · refine Loop.fold_reaches Bounded ht (fun acc => ?_) fun t' acc hacc => ?_
    · refine Loop.fold_reaches Bounded hk (fun acc => ?_) fun k' acc hacc => ?_
      · rw [if_pos hslot]
        split
        · exact ⟨_, rfl, Nat.le_refl _⟩
        · split
          · exact ⟨_, rfl, Nat.le_refl _⟩
          · exact ⟨_, rfl, by omega⟩
      · obtain ⟨m, rfl, hm⟩ := hacc
        exact keep ⟨m, rfl, hm⟩ (raise _ m hm)
    · refine Loop.fold_induct (fun _ s => Bounded s) hacc fun k' s _ hs => ?_
      obtain ⟨m, rfl, hm⟩ := hs
      exact keep ⟨m, rfl, hm⟩ (raise _ m hm)
  · refine Loop.fold_induct (fun _ s => Bounded s) hacc fun t' s _ hs => ?_
    refine Loop.fold_induct (fun _ s => Bounded s) hs fun k' s _ hs => ?_
    obtain ⟨m, rfl, hm⟩ := hs
    exact keep ⟨m, rfl, hm⟩ (raise _ m hm)

/-- `state_pwm[]` does not decrease up to the highest referenced state. -/
theorem statePwm_mono {cfg : Config} (h : ConfigRules cfg) {a m s s' : Nat}
    (ha : a < cfg.actuatorCount) (hm : maxReferencedState cfg a = some m) (hss : s ≤ s')
    (hs' : s' ≤ m) :
    (cfg.actuators.slot a).statePwm.slot s ≤ (cfg.actuators.slot a).statePwm.slot s' := by
  have hv := h.statePwm
  unfold validateStatePwmReferences at hv
  simp only [bind_eq_ok, each_eq_ok] at hv
  have hmono := hv.2 a ha
  rw [hm] at hmono
  simp only [each_eq_ok, failIf_eq_ok] at hmono
  induction s', hss using Nat.le_induction with
  | base => exact Nat.le_refl _
  | succ k hk ih =>
      have hk1 := hmono (k + 1) (by omega)
      have hprev := ih (by omega)
      have hsub : k + 1 - 1 = k := by omega
      rw [hsub] at hk1
      omega

/-! ## An accepted configuration -/

/-- One fan: 40 to 200, ten per tick, boosted to 120 for a second. -/
def fanActuator : ActuatorCfg :=
  { (default : ActuatorCfg) with
    id := 5, pwmMin := 40, pwmMax := 200, slewPerTick := 10, spinupPwm := 120, spinupMs := 1000
    statePwm := #v[0, 60, 100, 150, 200] }

/-- One step-wise zone on one sensor, with a trip of each severity. -/
def socZone : ZoneCfg :=
  { (default : ZoneCfg) with
    sensorIds := #v[1, 0, 0, 0], sensorCount := 1, aggregation := Aggregation.max.code
    fallbackTempMc := 90000, governor := 1, actuatorIds := #v[5, 0], actuatorCount := 1
    trips := #v[⟨50000, 2000, TripSeverity.warn.code, 1⟩, ⟨70000, 2000, TripSeverity.critical.code, 2⟩,
      ⟨90000, 2000, TripSeverity.shutdown.code, 3⟩, default]
    tripCount := 3 }

/-- The zone and its fan at a period of 100 ms; every detector is off. -/
def oneFanConfig : Config :=
  { (default : Config) with
    configVersion := 1, controlPeriodMs := 100
    sensors := (default : Vector SensorCfg maxSensors).put 0
      { (default : SensorCfg) with id := 1, iirAlphaQ16 := q16One, maxStalenessMs := 1000 }
    sensorCount := 1
    actuators := #v[fanActuator, default], actuatorCount := 1
    zones := (default : Vector ZoneCfg maxZones).put 0 socZone, zoneCount := 1 }

/-- The small configuration that the witnesses use is accepted. -/
theorem accepted_oneFanConfig : Accepted oneFanConfig := by decide +kernel

end ThermalCore
