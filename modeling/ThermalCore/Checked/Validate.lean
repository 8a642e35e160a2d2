import ThermalCore.Checked.Parts

/-!
# thermal_core_validate_config, with every access checked

The validator transcribed in `Exec`.  It runs on any configuration, so a count
above its array is possible until the test of that count has passed: the order of
the tests is what keeps the later accesses in bounds.

Each `_eq` lemma takes exactly the bounds that the tests before it have settled:
`CountRules` once the counts have passed, the bounds of a zone's own counts once
`validate_zone` has passed on it.  A `test` of a plain condition has no access in
it and is shared with the model.
-/

namespace ThermalCore.Checked

open MachineInt Exec
open Check (failIf)

/-! ## Lookups -/

/-- The lookup of a sensor by id. -/
def findSensorSlot (cfg : Config) (id : Nat) : Exec ThermalStatus (Option Nat) :=
  first cfg.sensorCount fun i => do
    let s ← read cfg.sensors i
    .ok (s.id == id)

/-- The lookup of an actuator by id. -/
def findActuatorSlot (cfg : Config) (id : Nat) : Exec ThermalStatus (Option Nat) :=
  first cfg.actuatorCount fun i => do
    let a ← read cfg.actuators i
    .ok (a.id == id)

/-- The lookup of a context signal by id. -/
def findContextSlot (cfg : Config) (id : Nat) : Exec ThermalStatus (Option Nat) :=
  first cfg.contextCount fun i => do
    let c ← read cfg.contexts i
    .ok (c.id == id)

/-- `GOVERNOR_OPS`; entry 0 is not filled in. -/
def governorOps : Vector (Option Governor) 3 := #v[none, some .stepWise, some .pid]

/-- `governor_ops_for`: the table is indexed by a tested governor. -/
def governorOpsFor (gov : Nat) : Exec ThermalStatus (Option Governor) :=
  if gov = 0 ∨ gov ≥ 3 then .ok none else read governorOps gov

section lookups

variable {cfg : Config}

/-- The lookup stays within the sensors once their count is in range. -/
theorem findSensorSlot_eq (hc : cfg.sensorCount ≤ maxSensors) (id : Nat) :
    findSensorSlot cfg id = .ok (ThermalCore.findSensorSlot cfg id) := by
  refine first_eq fun i hi => ?_
  rw [read_of_lt _ (Nat.lt_of_lt_of_le hi hc), ok_bind]

/-- The lookup stays within the actuators once their count is in range. -/
theorem findActuatorSlot_eq (hc : cfg.actuatorCount ≤ maxActuators) (id : Nat) :
    findActuatorSlot cfg id = .ok (ThermalCore.findActuatorSlot cfg id) := by
  refine first_eq fun i hi => ?_
  rw [read_of_lt _ (Nat.lt_of_lt_of_le hi hc), ok_bind]

/-- The lookup stays within the context signals once their count is in range. -/
theorem findContextSlot_eq (hc : cfg.contextCount ≤ maxContextSignals) (id : Nat) :
    findContextSlot cfg id = .ok (ThermalCore.findContextSlot cfg id) := by
  refine first_eq fun i hi => ?_
  rw [read_of_lt _ (Nat.lt_of_lt_of_le hi hc), ok_bind]

/-- The table is indexed inside its bounds by any governor byte. -/
theorem governorOpsFor_eq (gov : Nat) :
    governorOpsFor gov = .ok (ThermalCore.governorOpsFor gov) := by
  unfold governorOpsFor ThermalCore.governorOpsFor
  by_cases h1 : gov = 1
  · subst h1
    rfl
  · by_cases h2 : gov = 2
    · subst h2
      rfl
    · rw [if_pos (by omega), if_neg h1, if_neg h2]

end lookups

/-! ## Sensors, actuators, contexts -/

/-- The loops that compare every pair of ids. -/
def idsDistinct [Inhabited α] (v : Vector α n) (count : Nat) (id : α → Nat) :
    Exec ThermalStatus Unit :=
  each count fun i => each count fun j =>
    if i < j then do
      let a ← read v i
      let b ← read v j
      test (failIf (id a = id b) .errInvalidConfig)
    else .ok ()

/-- `validate_sensors`: each sensor, and its id against the earlier ones. -/
def validateSensors (cfg : Config) : Exec ThermalStatus Unit := do
  each cfg.sensorCount fun i => do
    let s ← read cfg.sensors i
    test do
      failIf (s.maxStalenessMs = 0) .errInvalidConfig
      failIf (s.iirAlphaQ16 < 0 ∨ s.iirAlphaQ16 > q16One) .errInvalidConfig
  idsDistinct cfg.sensors cfg.sensorCount SensorCfg.id

/-- The tests of a linearization curve: its count first. -/
def validateDutyLinearization (a : ActuatorCfg) : Exec ThermalStatus Unit :=
  if a.dutyLinearizationCount ≠ 0 then do
    test (failIf (a.dutyLinearizationCount < 2 ∨ a.dutyLinearizationCount > maxCurvePoints)
      .errInvalidConfig)
    each a.dutyLinearizationCount fun p => do
      let pt ← read a.dutyLinearization p
      test (failIf
        (pt.x < 0 ∨ pt.x > 255 ∨ pt.value0 < 0 ∨ pt.value0 > 255 ∨ pt.value1 ≠ 0) .errInvalidConfig)
      if p > 0 then do
        let prev ← read a.dutyLinearization (p - 1)
        test (failIf (pt.x ≤ prev.x ∨ pt.value0 < prev.value0) .errInvalidConfig)
      else .ok ()
    let head ← read a.dutyLinearization 0
    test (failIf (head.x ≠ 0 ∨ head.value0 ≠ 0) .errInvalidConfig)
    let last ← read a.dutyLinearization (a.dutyLinearizationCount - 1)
    test (failIf (last.x ≠ 255 ∨ last.value0 ≠ 255) .errInvalidConfig)
  else .ok ()

/-- `validate_actuators`: each actuator, and its id against the earlier ones. -/
def validateActuators (cfg : Config) : Exec ThermalStatus Unit := do
  each cfg.actuatorCount fun i => do
    let a ← read cfg.actuators i
    test (failIf (a.pwmMin > a.pwmMax) .errInvalidConfig)
    test (failIf
      (a.spinupMs > 0 ∧ (a.spinupPwm = 0 ∨ a.spinupPwm < a.pwmMin ∨ a.spinupPwm > a.pwmMax))
      .errInvalidConfig)
    validateDutyLinearization a
  idsDistinct cfg.actuators cfg.actuatorCount ActuatorCfg.id

/-- `validate_contexts`: each signal, and its id against the earlier ones. -/
def validateContexts (cfg : Config) : Exec ThermalStatus Unit :=
  each cfg.contextCount fun i => do
    let c ← read cfg.contexts i
    test (failIf (contextUnitKnown c.unit = false) .errInvalidConfig)
    test (failIf (c.timeoutMs = 0) .errInvalidConfig)
    test (failIf (c.failSafe = ContextFailsafe.assumeValue.code) .errInvalidConfig)
    test (failIf (c.failSafe ≠ ContextFailsafe.assumeStationary.code ∧
      c.failSafe ≠ ContextFailsafe.holdLast.code) .errInvalidConfig)
    test (failIf (c.iirAlphaQ16 < 0 ∨ c.iirAlphaQ16 > q16One) .errInvalidConfig)
    each cfg.contextCount fun j =>
      if i < j then do
        let d ← read cfg.contexts j
        test (failIf (c.id = d.id) .errInvalidConfig)
      else .ok ()

section elements

/-- A test behind a guard is the test of the conjunction. -/
theorem ite_test_failIf {p q : Prop} [Decidable p] [Decidable q] (e : ThermalStatus) :
    (if p then test (failIf q e) else .ok () : Exec ThermalStatus Unit) =
      test (failIf (p ∧ q) e) := by
  by_cases hp : p
  · rw [if_pos hp]
    simp only [hp, true_and]
  · rw [if_neg hp, failIf, if_neg fun h => hp h.1, test_ok]

/-- Two loop variables below the count index both ids. -/
theorem idsDistinct_eq [Inhabited α] {v : Vector α n} {count : Nat} (hc : count ≤ n)
    (id : α → Nat) :
    idsDistinct v count id = test (ThermalCore.idsDistinct count fun i => id (v.slot i)) := by
  refine each_eq fun i hi => each_eq fun j hj => ?_
  rw [read_of_lt _ (Nat.lt_of_lt_of_le hi hc), ok_bind, read_of_lt _ (Nat.lt_of_lt_of_le hj hc),
    ok_bind, ite_test_failIf]

/-- `validate_sensors` is in bounds once the count has passed. -/
theorem validateSensors_eq {cfg : Config} (hc : cfg.sensorCount ≤ maxSensors) :
    validateSensors cfg = test (ThermalCore.validateSensors cfg) := by
  refine bind_test (each_eq fun i hi => ?_) fun _ _ => idsDistinct_eq hc _
  rw [read_of_lt _ (Nat.lt_of_lt_of_le hi hc), ok_bind]

/-- The points are read only after their count was found in range. -/
theorem validateDutyLinearization_eq (a : ActuatorCfg) :
    validateDutyLinearization a = test (ThermalCore.validateDutyLinearization a) := by
  unfold validateDutyLinearization ThermalCore.validateDutyLinearization
  by_cases h0 : a.dutyLinearizationCount ≠ 0
  · rw [if_pos h0, if_pos h0]
    refine bind_test rfl fun _ hcount => ?_
    have hle : a.dutyLinearizationCount ≤ maxCurvePoints := by
      have hnot := Check.failIf_eq_ok.mp hcount
      omega
    refine bind_test (each_eq fun p hp => ?_) fun _ _ => ?_
    · rw [read_of_lt _ (Nat.lt_of_lt_of_le hp hle), ok_bind]
      refine bind_test rfl fun _ _ => ?_
      rw [read_of_lt _ (by omega), ok_bind]
      split <;> rfl
    · rw [read_of_lt _ (by decide), ok_bind]
      refine bind_test rfl fun _ _ => ?_
      rw [read_of_lt _ (by omega), ok_bind]
  · rw [if_neg h0, if_neg h0, test_ok]

/-- `validate_actuators` is in bounds once the count has passed. -/
theorem validateActuators_eq {cfg : Config} (hc : cfg.actuatorCount ≤ maxActuators) :
    validateActuators cfg = test (ThermalCore.validateActuators cfg) := by
  refine bind_test (each_eq fun i hi => ?_) fun _ _ => idsDistinct_eq hc _
  rw [read_of_lt _ (Nat.lt_of_lt_of_le hi hc), ok_bind]
  refine bind_test rfl fun _ _ => bind_test rfl fun _ _ => ?_
  exact validateDutyLinearization_eq _

/-- `validate_contexts` is in bounds once the count has passed. -/
theorem validateContexts_eq {cfg : Config} (hc : cfg.contextCount ≤ maxContextSignals) :
    validateContexts cfg = test (ThermalCore.validateContexts cfg) := by
  refine each_eq fun i hi => ?_
  rw [read_of_lt _ (Nat.lt_of_lt_of_le hi hc), ok_bind]
  refine bind_test rfl fun _ _ => bind_test rfl fun _ _ => bind_test rfl fun _ _ =>
    bind_test rfl fun _ _ => bind_test rfl fun _ _ => each_eq fun j hj => ?_
  rw [read_of_lt _ (Nat.lt_of_lt_of_le hj hc), ok_bind, ite_test_failIf]

end elements

/-! ## Trips, offsets and modifier curves -/

/-- The trips under an offset: in range, and in order. -/
def adjustedTripsValid (trips : Vector TripCfg n) (tripCount : Nat) (offsetMc : Int) :
    Exec ThermalStatus Bool := do
  let bad ← any tripCount fun i => do
    let curr ← read trips i
    let shifted := curr.tempMc + offsetMc
    if shifted < i32Min ∨ shifted > i32Max then .ok true
    else if i > 0 then do
      let p ← read trips (i - 1)
      let prev := p.tempMc + offsetMc
      .ok (decide (shifted ≤ prev) || decide (shifted - curr.hystMc < prev))
    else .ok false
  .ok !bad

/-- The highest of the trips that a test selects. -/
def highestTrip (trips : Vector TripCfg n) (tripCount : Nat) (p : TripCfg → Bool) :
    Exec ThermalStatus (Option Int) :=
  fold tripCount none fun best i => do
    let t ← read trips i
    .ok (if !p t then best
      else match best with
        | none => some t.tempMc
        | some b => if t.tempMc > b then some t.tempMc else some b)

/-- The fallback against the zone's highest critical or highest trip. -/
def zoneFallbackReachesSafetyFloor (z : ZoneCfg) (trips : Vector TripCfg maxTripsPerZone) :
    Exec ThermalStatus Bool := do
  let critical ← highestTrip trips z.tripCount fun t => t.severity == TripSeverity.critical.code
  match critical with
  | some highest => .ok (decide (z.fallbackTempMc ≥ highest))
  | none => do
      let all ← highestTrip trips z.tripCount fun _ => true
      .ok (match all with
        | some highest => decide (z.fallbackTempMc ≥ highest)
        | none => true)

/-- Some zone does not take the offset; `trips` and `setpoint` read the configured
values or the shadowed ones. -/
def offsetUnfit (cfg : Config) (trips : Nat → Exec ThermalStatus (Vector TripCfg maxTripsPerZone))
    (setpoint : Nat → Exec ThermalStatus Int) (offsetMc : Int) : Exec ThermalStatus Bool :=
  any cfg.zoneCount fun z => do
    let zc ← read cfg.zones z
    let ts ← trips z
    let fits ← adjustedTripsValid ts zc.tripCount offsetMc
    let ops ← governorOpsFor zc.governor
    let sp ← setpoint z
    .ok (!fits ||
      (match ops with
        | some ops => ops.supportsPidCommands &&
            decide (sp + offsetMc < zc.pid.setpointMinMc ∨ sp + offsetMc > zc.pid.setpointMaxMc)
        | none => false))

/-- The tests on one curve point.  Where the source leaves at the first test that
fails, the accesses of the later ones are made here all the same. -/
def curvePointValid (cfg : Config)
    (trips : Nat → Exec ThermalStatus (Vector TripCfg maxTripsPerZone))
    (setpoint : Nat → Exec ThermalStatus Int) (m : ModifierCfg) (pt : CurvePoint) :
    Exec ThermalStatus Bool :=
  if ¬(0 ≤ pt.value0 ∧ pt.value0 ≤ 255) then .ok false
  else do
    let capUnfit ←
      if m.hasStage .postGovernorPwmCap then
        any cfg.actuatorCount fun a => do
          let ac ← read cfg.actuators a
          .ok (decide (pt.value0 ≠ 0 ∧ pt.value0 < ac.pwmMin))
      else .ok false
    let unfit ←
      if m.hasStage .preGovernorTripOffset then offsetUnfit cfg trips setpoint pt.value1
      else .ok false
    .ok (!capUnfit && !unfit)

/-- Every point of a curve against every zone. -/
def curvePointsValid (cfg : Config)
    (trips : Nat → Exec ThermalStatus (Vector TripCfg maxTripsPerZone))
    (setpoint : Nat → Exec ThermalStatus Int) (m : ModifierCfg) : Exec ThermalStatus Bool := do
  let unfit ← any m.curveCount fun p => do
    let pt ← read m.curve p
    let fits ← curvePointValid cfg trips setpoint m pt
    .ok !fits
  .ok !unfit

/-- A modifier's curve against the configured trips and setpoints. -/
def modifierCurveValuesValid (cfg : Config) (m : ModifierCfg) : Exec ThermalStatus Bool :=
  curvePointsValid cfg
    (fun z => do
      let zc ← read cfg.zones z
      .ok zc.trips)
    (fun z => do
      let zc ← read cfg.zones z
      .ok zc.pid.setpointMc) m

section curves

/-- The trip before the one at hand is read from the second on. -/
theorem adjustedTripsValid_eq {trips : Vector TripCfg n} {tripCount : Nat} (hc : tripCount ≤ n)
    (offsetMc : Int) :
    adjustedTripsValid trips tripCount offsetMc =
      .ok (ThermalCore.adjustedTripsValid trips tripCount offsetMc) := by
  unfold adjustedTripsValid ThermalCore.adjustedTripsValid
  rw [any_eq fun i hi => ?_, ok_bind]
  have hlt : i < n := Nat.lt_of_lt_of_le hi hc
  rw [read_of_lt _ hlt, ok_bind]
  dsimp only
  split
  · next hout => rw [decide_eq_true hout, Bool.true_or]
  · next hout =>
      rw [decide_eq_false hout, Bool.false_or]
      split
      · next h0 =>
          rw [read_of_lt _ (Nat.lt_of_le_of_lt (Nat.sub_le i 1) hlt), ok_bind, decide_eq_true h0,
            Bool.true_and]
      · next h0 => rw [decide_eq_false h0, Bool.false_and]

/-- The search stays within the trips. -/
theorem highestTrip_eq {trips : Vector TripCfg n} {tripCount : Nat} (hc : tripCount ≤ n)
    (p : TripCfg → Bool) :
    highestTrip trips tripCount p = .ok (ThermalCore.highestTrip trips tripCount p) := by
  refine fold_eq fun i best hi => ?_
  have hread : Exec.read trips i = (.ok _ : Exec ThermalStatus TripCfg) :=
    read_of_lt trips (Nat.lt_of_lt_of_le hi hc)
  exact congrArg (· >>= _) hread

/-- The fallback's test reads the zone's trips only. -/
theorem zoneFallbackReachesSafetyFloor_eq {z : ZoneCfg} (hc : z.tripCount ≤ maxTripsPerZone)
    (trips : Vector TripCfg maxTripsPerZone) :
    zoneFallbackReachesSafetyFloor z trips =
      .ok (ThermalCore.zoneFallbackReachesSafetyFloor z trips) := by
  unfold zoneFallbackReachesSafetyFloor ThermalCore.zoneFallbackReachesSafetyFloor
  rw [highestTrip_eq hc, ok_bind, highestTrip_eq hc, ok_bind]
  cases ThermalCore.highestTrip trips z.tripCount fun t =>
    t.severity == TripSeverity.critical.code <;> rfl

/-- The trips and the setpoint of every zone are read without a fault. -/
structure ZoneReads (cfg : Config)
    (trips : Nat → Exec ThermalStatus (Vector TripCfg maxTripsPerZone))
    (setpoint : Nat → Exec ThermalStatus Int) (trips' : Nat → Vector TripCfg maxTripsPerZone)
    (setpoint' : Nat → Int) : Prop where
  zoneCount : cfg.zoneCount ≤ maxZones
  actuatorCount : cfg.actuatorCount ≤ maxActuators
  tripCount : ∀ z < cfg.zoneCount, (cfg.zones.slot z).tripCount ≤ maxTripsPerZone
  trips : ∀ z < cfg.zoneCount, trips z = .ok (trips' z)
  setpoint : ∀ z < cfg.zoneCount, setpoint z = .ok (setpoint' z)

section

variable {cfg : Config} {trips : Nat → Exec ThermalStatus (Vector TripCfg maxTripsPerZone)}
  {setpoint : Nat → Exec ThermalStatus Int} {trips' : Nat → Vector TripCfg maxTripsPerZone}
  {setpoint' : Nat → Int}

/-- A point's test is in bounds when the zones can be read. -/
theorem curvePointValid_eq (h : ZoneReads cfg trips setpoint trips' setpoint') (m : ModifierCfg)
    (pt : CurvePoint) :
    curvePointValid cfg trips setpoint m pt =
      .ok (ThermalCore.curvePointValid cfg trips' setpoint' m pt) := by
  have hcaps : (any cfg.actuatorCount fun a => do
      let ac ← read cfg.actuators a
      .ok (decide (pt.value0 ≠ 0 ∧ pt.value0 < ac.pwmMin)) : Exec ThermalStatus Bool) =
      .ok (Loop.any cfg.actuatorCount fun a =>
        decide (pt.value0 ≠ 0 ∧ pt.value0 < (cfg.actuators.slot a).pwmMin)) := by
    refine any_eq fun a ha => ?_
    rw [read_of_lt _ (Nat.lt_of_lt_of_le ha h.actuatorCount), ok_bind]
  have hoffsets : offsetUnfit cfg trips setpoint pt.value1 =
      .ok (Loop.any cfg.zoneCount fun z =>
        !ThermalCore.adjustedTripsValid (trips' z) (cfg.zones.slot z).tripCount pt.value1 ||
          (match ThermalCore.governorOpsFor (cfg.zones.slot z).governor with
            | some ops => ops.supportsPidCommands &&
                decide (setpoint' z + pt.value1 < (cfg.zones.slot z).pid.setpointMinMc ∨
                  setpoint' z + pt.value1 > (cfg.zones.slot z).pid.setpointMaxMc)
            | none => false)) := by
    refine any_eq fun z hz => ?_
    rw [read_of_lt _ (Nat.lt_of_lt_of_le hz h.zoneCount), ok_bind, h.trips z hz, ok_bind,
      adjustedTripsValid_eq (h.tripCount z hz), ok_bind, governorOpsFor_eq, ok_bind,
      h.setpoint z hz, ok_bind]
  unfold curvePointValid ThermalCore.curvePointValid
  by_cases hcap : 0 ≤ pt.value0 ∧ pt.value0 ≤ 255
  · rw [if_neg (not_not.mpr hcap), decide_eq_true hcap, Bool.true_and,
      hcaps, hoffsets]
    cases m.hasStage .postGovernorPwmCap <;> cases m.hasStage .preGovernorTripOffset <;> rfl
  · rw [if_pos hcap, decide_eq_false hcap, Bool.false_and, Bool.false_and]

/-- A curve no longer than its array is tested in bounds. -/
theorem curvePointsValid_eq (h : ZoneReads cfg trips setpoint trips' setpoint') {m : ModifierCfg}
    (hc : m.curveCount ≤ maxCurvePoints) :
    curvePointsValid cfg trips setpoint m =
      .ok (ThermalCore.curvePointsValid cfg trips' setpoint' m) := by
  unfold curvePointsValid ThermalCore.curvePointsValid
  rw [any_eq fun p hp => ?_, ok_bind]
  rw [read_of_lt _ (Nat.lt_of_lt_of_le hp hc), ok_bind, curvePointValid_eq h, ok_bind]

end

/-- A modifier's curve is tested in bounds once every zone's trips are in range. -/
theorem modifierCurveValuesValid_eq {cfg : Config} (hz : cfg.zoneCount ≤ maxZones)
    (ha : cfg.actuatorCount ≤ maxActuators)
    (ht : ∀ z < cfg.zoneCount, (cfg.zones.slot z).tripCount ≤ maxTripsPerZone) {m : ModifierCfg}
    (hc : m.curveCount ≤ maxCurvePoints) :
    modifierCurveValuesValid cfg m = .ok (ThermalCore.modifierCurveValuesValid cfg m) := by
  refine curvePointsValid_eq ⟨hz, ha, ht, fun z hlt => ?_, fun z hlt => ?_⟩ hc
  · rw [read_of_lt _ (Nat.lt_of_lt_of_le hlt hz), ok_bind]
  · rw [read_of_lt _ (Nat.lt_of_lt_of_le hlt hz), ok_bind]

end curves

/-! ## Modifiers and fault detectors -/

/-- `strncmp` reads both strings up to the first difference or the literal's NUL. -/
def nameIsAcousticMask (name : Name) : Exec ThermalStatus Bool := do
  let differs ← any acousticMask.length fun i => do
    let c ← read name i
    .ok (c != acousticMask.getD i 0)
  .ok !differs

/-- The fail-safe of a modifier against that of its context. -/
def validateModifierFailSafe (cfg : Config) (m : ModifierCfg) : Exec ThermalStatus Unit := do
  let slot ← findContextSlot cfg m.contextId
  match slot with
  | some ctxSlot => do
      let cc ← read cfg.contexts ctxSlot
      test (failIf (cc.failSafe ≠ m.failSafe) .errInvalidConfig)
  | none => .ok ()

/-- `validate_modifiers`: name, context, stages and curve. -/
def validateModifiers (cfg : Config) : Exec ThermalStatus Unit :=
  each cfg.modifierCount fun i => do
    let m ← read cfg.modifiers i
    let known ← nameIsAcousticMask m.name
    test (failIf (known = false) .errInvalidConfig)
    let slot ← findContextSlot cfg m.contextId
    test (failIf (slot = none) .errInvalidConfig)
    test (failIf (m.curveCount < 2 ∨ m.curveCount > maxCurvePoints) .errInvalidConfig)
    each m.curveCount fun k =>
      if k ≥ 1 then do
        let pt ← read m.curve k
        let prev ← read m.curve (k - 1)
        test (failIf (pt.x ≤ prev.x) .errInvalidConfig)
      else .ok ()
    let valid ← modifierCurveValuesValid cfg m
    test (failIf (valid = false) .errBounds)
    test (failIf (m.failSafe = ContextFailsafe.assumeValue.code) .errInvalidConfig)
    test (failIf (m.failSafe ≠ ContextFailsafe.assumeStationary.code ∧
      m.failSafe ≠ ContextFailsafe.holdLast.code) .errInvalidConfig)
    validateModifierFailSafe cfg m
    test (failIf (m.stages = 0 ∨ m.stages / 4 ≠ 0) .errInvalidConfig)

/-- `validate_fault_defaults`: a disabled detector is not looked at. -/
def validateFaultDefaults (cfg : Config) (fc : FaultDetectorCfg)
    (needsCorrelatedCtxResolution : Bool) : Exec ThermalStatus Unit :=
  if fc.enabled = 0 then .ok ()
  else do
    test (failIf (faultSeverityKnown fc.severity = false) .errInvalidConfig)
    test (failIf (faultActionKnown fc.action = false) .errInvalidConfig)
    if needsCorrelatedCtxResolution ∧ fc.correlatedContextId ≠ 0xFFFF then do
      let slot ← findContextSlot cfg fc.correlatedContextId
      test (failIf (slot = none) .errInvalidConfig)
      test (failIf (fc.threshold2 ≤ 0) .errInvalidConfig)
    else .ok ()

/-- `validate_fault_detectors`: the four families in order. -/
def validateFaultDetectors (cfg : Config) : Exec ThermalStatus Unit := do
  validateFaultDefaults cfg cfg.faults.stallDefaults false
  validateFaultDefaults cfg cfg.faults.stuckSensorDefaults true
  validateFaultDefaults cfg cfg.faults.runawayDefaults false
  validateFaultDefaults cfg cfg.faults.staleContextDefaults false

section modifiers

/-- The comparison with the literal ends inside the name's array. -/
theorem nameIsAcousticMask_eq (name : Name) :
    nameIsAcousticMask name = .ok (ThermalCore.nameIsAcousticMask name) := by
  have hmask : acousticMask = (List.range acousticMask.length).map fun i => acousticMask.getD i 0 := by
    decide
  have htake : name.toList.take acousticMask.length =
      (List.range acousticMask.length).map name.slot := by
    rw [Vector.toList_eq_map_slot, ← List.map_take, List.take_range]
    rfl
  have heq : name.toList.take acousticMask.length = acousticMask ↔
      ∀ i < acousticMask.length, name.slot i = acousticMask.getD i 0 := by
    rw [htake]
    conv_lhs => rhs; rw [hmask]
    rw [List.map_inj_left]
    simp only [List.mem_range]
  have hbytes : (Loop.any acousticMask.length fun i => name.slot i != acousticMask.getD i 0) =
      !ThermalCore.nameIsAcousticMask name := by
    unfold ThermalCore.nameIsAcousticMask
    rw [Bool.eq_iff_iff, Bool.not_eq_true', beq_eq_false_iff_ne, Ne, heq, Loop.any_iff]
    simp only [not_forall, bne_iff_ne, exists_prop]
  unfold nameIsAcousticMask
  rw [any_eq fun i hi => by rw [read_of_lt _ (Nat.lt_of_lt_of_le hi (by decide)), ok_bind], ok_bind,
    hbytes, Bool.not_not]

variable {cfg : Config}

/-- The context is indexed by a slot that the lookup returned. -/
theorem validateModifierFailSafe_eq (hc : cfg.contextCount ≤ maxContextSignals) (m : ModifierCfg) :
    validateModifierFailSafe cfg m = test (ThermalCore.validateModifierFailSafe cfg m) := by
  unfold validateModifierFailSafe ThermalCore.validateModifierFailSafe
  rw [findContextSlot_eq hc, ok_bind]
  cases hslot : ThermalCore.findContextSlot cfg m.contextId with
  | none => rfl
  | some ctxSlot =>
      have hlt := (Loop.first_eq_some hslot).1
      dsimp only
      rw [read_of_lt _ (Nat.lt_of_lt_of_le hlt hc), ok_bind]

/-- `validate_modifiers` is in bounds behind the zones' tests. -/
theorem validateModifiers_eq (h : CountRules cfg)
    (ht : ∀ z < cfg.zoneCount, (cfg.zones.slot z).tripCount ≤ maxTripsPerZone) :
    validateModifiers cfg = test (ThermalCore.validateModifiers cfg) := by
  refine each_eq fun i hi => ?_
  rw [read_of_lt _ (Nat.lt_of_lt_of_le hi h.modifiers), ok_bind, nameIsAcousticMask_eq, ok_bind]
  refine bind_test rfl fun _ _ => ?_
  rw [findContextSlot_eq h.contexts, ok_bind]
  refine bind_test rfl fun _ _ => bind_test rfl fun _ hcount => ?_
  have hle : (cfg.modifiers.slot i).curveCount ≤ maxCurvePoints := by
    have hnot := Check.failIf_eq_ok.mp hcount
    omega
  refine bind_test (each_eq fun k hk => ?_) fun _ _ => ?_
  · have hlt : k < maxCurvePoints := Nat.lt_of_lt_of_le hk hle
    rw [read_of_lt _ hlt, ok_bind, read_of_lt _ (Nat.lt_of_le_of_lt (Nat.sub_le k 1) hlt), ok_bind,
      ite_test_failIf]
  · rw [modifierCurveValuesValid_eq h.zones h.actuators ht hle, ok_bind]
    refine bind_test rfl fun _ _ => bind_test rfl fun _ _ => bind_test rfl fun _ _ => ?_
    exact bind_test (validateModifierFailSafe_eq h.contexts _) fun _ _ => rfl

/-- The correlated context is looked up within the signals. -/
theorem validateFaultDefaults_eq (hc : cfg.contextCount ≤ maxContextSignals) (fc : FaultDetectorCfg)
    (b : Bool) :
    validateFaultDefaults cfg fc b = test (ThermalCore.validateFaultDefaults cfg fc b) := by
  unfold validateFaultDefaults ThermalCore.validateFaultDefaults
  split
  · rfl
  · refine bind_test rfl fun _ _ => bind_test rfl fun _ _ => ?_
    rw [findContextSlot_eq hc, ok_bind]
    split
    · exact bind_test rfl fun _ _ => rfl
    · rfl

/-- `validate_fault_detectors` is in bounds once the contexts' count has passed. -/
theorem validateFaultDetectors_eq (hc : cfg.contextCount ≤ maxContextSignals) :
    validateFaultDetectors cfg = test (ThermalCore.validateFaultDetectors cfg) := by
  refine bind_test (validateFaultDefaults_eq hc _ _) fun _ _ => ?_
  refine bind_test (validateFaultDefaults_eq hc _ _) fun _ _ => ?_
  refine bind_test (validateFaultDefaults_eq hc _ _) fun _ _ => ?_
  exact validateFaultDefaults_eq hc _ _

end modifiers

/-! ## Cooling states -/

/-- `referenced[]` and `max_state[]`: an entry is `none` until it is referenced. -/
abbrev StateLimits := Vector (Option Nat) maxActuators

/-- `referenced[slot] = 1; if (cs > max_state[slot]) max_state[slot] = cs`. -/
def raiseState (cs : Nat) : Option Nat → Option Nat
  | none => some cs
  | some m => if cs > m then some cs else some m

/-- The test on the duty a trip asks of an actuator. -/
def statePwmLegal (pwm : Nat) (ac : ActuatorCfg) : Validation :=
  failIf (pwm ≠ 0 ∧ (pwm < ac.pwmMin ∨ pwm > ac.pwmMax)) .errBounds

/-- The highest cooling state that any trip asks of each actuator. -/
def referencedStates (cfg : Config) : Exec ThermalStatus StateLimits :=
  fold cfg.zoneCount (.replicate _ none) fun limits z => do
    let zc ← read cfg.zones z
    fold zc.tripCount limits fun limits t => do
      let trip ← read zc.trips t
      fold zc.actuatorCount limits fun limits k => do
        let id ← read zc.actuatorIds k
        let slot ← findActuatorSlot cfg id
        match slot with
        | none => .ok limits
        | some slot => do
            let limits ← edit limits slot (raiseState trip.coolingState)
            let ac ← read cfg.actuators slot
            let pwm ← read ac.statePwm trip.coolingState
            test (statePwmLegal pwm ac)
            .ok limits

/-- `validate_state_pwm_references`: the duties of the referenced states must not fall. -/
def validateStatePwmReferences (cfg : Config) : Exec ThermalStatus Unit := do
  let limits ← referencedStates cfg
  each cfg.actuatorCount fun a => do
    let limit ← read limits a
    match limit with
    | none => .ok ()
    | some maxState => do
        let ac ← read cfg.actuators a
        each (maxState + 1) fun s =>
          if s ≥ 1 then do
            let pwm ← read ac.statePwm s
            let prev ← read ac.statePwm (s - 1)
            test (failIf (pwm < prev) .errInvalidConfig)
          else .ok ()

section statePwm

variable {cfg : Config}

/-- The body of the innermost loop: one reference of a trip to an actuator. -/
def raiseReferenced (cfg : Config) (zc : ZoneCfg) (cs : Nat) (limits : StateLimits) (k : Nat) :
    StateLimits :=
  match ThermalCore.findActuatorSlot cfg (zc.actuatorIds.slot k) with
  | none => limits
  | some slot => limits.edit slot (raiseState cs)

/-- The arrays the first pass leaves when no test fails. -/
def limitsOf (cfg : Config) : StateLimits :=
  Loop.fold cfg.zoneCount (.replicate _ none) fun limits z =>
    Loop.fold (cfg.zones.slot z).tripCount limits fun limits t =>
      Loop.fold (cfg.zones.slot z).actuatorCount limits
        (raiseReferenced cfg (cfg.zones.slot z) ((cfg.zones.slot z).trips.slot t).coolingState)

/-- The arrays hold what the model computes for each actuator on its own. -/
theorem slot_limitsOf {a : Nat} (ha : a < maxActuators) :
    (limitsOf cfg).slot a = maxReferencedState cfg a := by
  unfold limitsOf maxReferencedState
  refine Loop.fold_rel (fun (limits : StateLimits) acc => limits.slot a = acc)
    (Vector.slot_replicate _ ha) fun z _ _ _ hacc => ?_
  refine Loop.fold_rel (fun (limits : StateLimits) acc => limits.slot a = acc) hacc
    fun t _ _ _ hacc => ?_
  refine Loop.fold_rel (fun (limits : StateLimits) acc => limits.slot a = acc) hacc
    fun k limits acc _ hacc => ?_
  subst hacc
  unfold raiseReferenced
  cases ThermalCore.findActuatorSlot cfg ((cfg.zones.slot z).actuatorIds.slot k) with
  | none => rfl
  | some slot =>
      dsimp only
      rw [Vector.slot_edit]
      by_cases hs : slot = a
      · subst hs
        rw [if_pos ⟨rfl, ha⟩, if_pos rfl]
        cases limits.slot slot <;> rfl
      · rw [if_neg fun h => hs h.1, if_neg fun h => hs (Option.some.inj h)]

/-- No referenced state lies outside `state_pwm[]`. -/
theorem maxReferencedState_lt (hz : ∀ z < cfg.zoneCount, ZoneRules cfg (cfg.zones.slot z)) {a m : Nat}
    (h : maxReferencedState cfg a = some m) : m < maxCoolingStates := by
  let Inside : Option Nat → Prop := fun acc => ∀ m, acc = some m → m < maxCoolingStates
  have hinside : Inside (maxReferencedState cfg a) := by
    unfold maxReferencedState
    refine Loop.fold_induct (fun _ s => Inside s) (fun m hm => by cases hm) fun z acc hlt hacc => ?_
    refine Loop.fold_induct (fun _ s => Inside s) hacc fun t acc ht hacc => ?_
    have hcs := ((hz z hlt).trips t ht).coolingState
    refine Loop.fold_induct (fun _ s => Inside s) hacc fun k acc _ hacc => ?_
    split
    · split
      · intro m hm
        rw [← Option.some.inj hm]
        exact hcs
      · next m' =>
          split
          · intro m hm
            rw [← Option.some.inj hm]
            exact hcs
          · exact hacc
    · exact hacc
  exact hinside m h

/-- The first pass runs the tests of the model and leaves `limitsOf`. -/
theorem referencedStates_eq (h : CountRules cfg)
    (hz : ∀ z < cfg.zoneCount, ZoneRules cfg (cfg.zones.slot z)) :
    referencedStates cfg = (test (Check.each cfg.zoneCount fun z =>
      Check.each (cfg.zones.slot z).tripCount fun t =>
        Check.each (cfg.zones.slot z).actuatorCount fun k =>
          match ThermalCore.findActuatorSlot cfg ((cfg.zones.slot z).actuatorIds.slot k) with
          | none => .ok ()
          | some slot =>
              statePwmLegal ((cfg.actuators.slot slot).statePwm.slot
                ((cfg.zones.slot z).trips.slot t).coolingState) (cfg.actuators.slot slot)) >>=
      fun _ => .ok (limitsOf cfg)) := by
  refine fold_test fun z limits hlt => ?_
  rw [read_of_lt _ (Nat.lt_of_lt_of_le hlt h.zones), ok_bind]
  refine fold_test fun t limits ht => ?_
  have hcs := ((hz z hlt).trips t ht).coolingState
  rw [read_of_lt _ (Nat.lt_of_lt_of_le ht (hz z hlt).tripCount), ok_bind]
  refine fold_test fun k limits hk => ?_
  rw [read_of_lt _ (Nat.lt_of_lt_of_le hk (hz z hlt).actuatorCount.2), ok_bind,
    findActuatorSlot_eq h.actuators, ok_bind]
  unfold raiseReferenced
  cases hslot : ThermalCore.findActuatorSlot cfg ((cfg.zones.slot z).actuatorIds.slot k) with
  | none => rfl
  | some slot =>
      have hs : slot < maxActuators :=
        Nat.lt_of_lt_of_le (Loop.first_eq_some hslot).1 h.actuators
      dsimp only
      rw [edit_of_lt _ _ hs, ok_bind, read_of_lt _ hs, ok_bind, read_of_lt _ hcs, ok_bind]

/-- Cooling states and actuator lists are bounded by the zones' own tests. -/
theorem validateStatePwmReferences_eq (h : CountRules cfg)
    (hz : ∀ z < cfg.zoneCount, ZoneRules cfg (cfg.zones.slot z)) :
    validateStatePwmReferences cfg = test (ThermalCore.validateStatePwmReferences cfg) := by
  unfold validateStatePwmReferences ThermalCore.validateStatePwmReferences
  rw [referencedStates_eq h hz, bind_assoc]
  refine bind_test rfl fun _ _ => ?_
  rw [ok_bind]
  refine each_eq fun a ha => ?_
  have han : a < maxActuators := Nat.lt_of_lt_of_le ha h.actuators
  rw [read_of_lt _ han, ok_bind, slot_limitsOf han]
  cases hmax : maxReferencedState cfg a with
  | none => rfl
  | some maxState =>
      have hlt := maxReferencedState_lt hz hmax
      dsimp only
      rw [read_of_lt _ han, ok_bind]
      refine each_eq fun s hs => ?_
      have hsn : s < maxCoolingStates := Nat.lt_of_le_of_lt (Nat.lt_succ_iff.mp hs) hlt
      rw [read_of_lt _ hsn, ok_bind, read_of_lt _ (Nat.lt_of_le_of_lt (Nat.sub_le s 1) hsn), ok_bind,
        ite_test_failIf]

end statePwm

/-! ## Telemetry, zones, fan health -/

/-- `signal_id_is_supported` decodes an id without an access. -/
def validateTelemetry (cfg : Config) : Exec ThermalStatus Unit := do
  test (failIf (cfg.telemetry.enable ≠ 0 ∧ cfg.telemetry.periodTicks = 0) .errInvalidConfig)
  each cfg.telemetry.enabledSignalCount fun i => do
    let sig ← read cfg.telemetry.enabledSignalIds i
    test (failIf (signalIdIsSupported cfg sig = false) .errInvalidConfig)

/-- `governor_validate_pid`: gains, limits and period. -/
def governorValidatePid (cfg : Config) (z : ZoneCfg) : Exec ThermalStatus Unit := do
  let p := z.pid
  test (failIf (p.kpQ16 < p.kpMinQ16 ∨ p.kpQ16 > p.kpMaxQ16) .errInvalidConfig)
  test (failIf (p.kiQ16 < p.kiMinQ16 ∨ p.kiQ16 > p.kiMaxQ16) .errInvalidConfig)
  test (failIf (p.kdQ16 < p.kdMinQ16 ∨ p.kdQ16 > p.kdMaxQ16) .errInvalidConfig)
  test (failIf (p.dFilterAlphaQ16 < 0 ∨ p.dFilterAlphaQ16 > q16One) .errInvalidConfig)
  test (failIf (p.setpointMc < p.setpointMinMc ∨ p.setpointMc > p.setpointMaxMc) .errInvalidConfig)
  test (failIf (p.dtMinMs = 0) .errInvalidConfig)
  test (failIf (p.dtMinMs > cfg.controlPeriodMs) .errInvalidConfig)
  test (failIf (p.dtMaxMs < cfg.controlPeriodMs) .errInvalidConfig)
  let hasFloor ← any z.tripCount fun i => do
    let t ← read z.trips i
    .ok (t.severity == TripSeverity.critical.code || t.severity == TripSeverity.shutdown.code)
  test (failIf (hasFloor = false) .errInvalidConfig)

/-- The call through the governor's function pointer. -/
def governorValidate (g : Governor) (cfg : Config) (z : ZoneCfg) : Exec ThermalStatus Unit :=
  match g with
  | .stepWise => .ok ()
  | .pid => governorValidatePid cfg z

/-- The sum of a zone's sensor weights. -/
def weightSum (z : ZoneCfg) : Exec ThermalStatus Int :=
  fold z.sensorCount 0 fun wsum i => do
    let w ← read z.sensorWeightsQ16 i
    .ok (wsum + w)

/-- `validate_zone`: the zone's counts before its lists. -/
def validateZone (cfg : Config) (z : ZoneCfg) : Exec ThermalStatus Unit := do
  test (failIf (z.sensorCount = 0 ∨ z.sensorCount > maxSensorsPerZone) .errInvalidConfig)
  test (failIf (z.actuatorCount = 0 ∨ z.actuatorCount > maxActuatorsPerZone) .errInvalidConfig)
  test (failIf (aggregationKnown z.aggregation = false) .errInvalidConfig)
  test (failIf (governorKnown z.governor = false) .errInvalidConfig)
  each z.sensorCount fun i => do
    let id ← read z.sensorIds i
    let slot ← findSensorSlot cfg id
    test (failIf (slot = none) .errInvalidConfig)
  each z.actuatorCount fun i => do
    let id ← read z.actuatorIds i
    let slot ← findActuatorSlot cfg id
    test (failIf (slot = none) .errInvalidConfig)
  let wsum ← weightSum z
  test (failIf (z.aggregation = Aggregation.weighted.code ∧ wsum ≤ 0) .errInvalidConfig)
  test (failIf (z.tripCount > maxTripsPerZone) .errNoSpace)
  each z.tripCount fun i => do
    let t ← read z.trips i
    test (failIf (t.coolingState ≥ maxCoolingStates) .errBounds)
    test (failIf (severityKnown t.severity = false) .errInvalidConfig)
    if i > 0 then do
      let p ← read z.trips (i - 1)
      test (failIf (t.tempMc ≤ p.tempMc) .errInvalidConfig)
      test (failIf (t.tempMc - t.hystMc < p.tempMc) .errInvalidConfig)
    else .ok ()
  let reaches ← zoneFallbackReachesSafetyFloor z z.trips
  test (failIf (reaches = false) .errInvalidConfig)
  let ops ← governorOpsFor z.governor
  match ops with
  | none => test (.error .errInvalidConfig)
  | some ops => governorValidate ops cfg z

/-- The tests of one fan health block. -/
def validateFanHealthSlot (fh : FanHealthCfg) (ac : ActuatorCfg) : Exec ThermalStatus Unit :=
  if fh.enable = 0 then .ok ()
  else do
    test (failIf (fh.baselineSource > FanBaselineSrc.model.code) .errInvalidConfig)
    test (failIf (fh.stableRpmTolerancePct > 100) .errInvalidConfig)
    test (failIf (fh.baselineCount < 2 ∨ fh.baselineCount > maxFanHealthPoints) .errInvalidConfig)
    let last ← read fh.baseline (fh.baselineCount - 1)
    test (failIf (last.x < ac.pwmMax) .errInvalidConfig)
    each fh.baselineCount fun p => do
      let pt ← read fh.baseline p
      test (failIf (pt.x < 0 ∨ pt.x > 255) .errInvalidConfig)
      test (failIf (pt.value0 < 1 ∨ pt.value0 > 65535) .errInvalidConfig)
      if p > 0 then do
        let prev ← read fh.baseline (p - 1)
        test (failIf (pt.x ≤ prev.x) .errInvalidConfig)
        test (failIf (pt.value0 < prev.value0) .errInvalidConfig)
      else .ok ()
    test (failIf (¬(0 > fh.agingPct ∧ fh.agingPct > fh.degradedPct ∧ fh.degradedPct > fh.failingPct))
      .errInvalidConfig)
    test (failIf (fh.stablePwmTicks = 0 ∨ fh.stableRpmTicks = 0) .errInvalidConfig)
    test (failIf (fh.minPointsObserved < 1 ∨ fh.minPointsObserved > fh.baselineCount)
      .errInvalidConfig)

/-- `validate_fan_health`: one block for each actuator. -/
def validateFanHealth (cfg : Config) : Exec ThermalStatus Unit :=
  each cfg.actuatorCount fun a => do
    let fh ← read cfg.fanHealth a
    let ac ← read cfg.actuators a
    validateFanHealthSlot fh ac

section zones

variable {cfg : Config}

/-- The enabled ids lie within their array. -/
theorem validateTelemetry_eq (hc : cfg.telemetry.enabledSignalCount ≤ maxTelemetrySignals) :
    validateTelemetry cfg = test (ThermalCore.validateTelemetry cfg) := by
  refine bind_test rfl fun _ _ => each_eq fun i hi => ?_
  rw [read_of_lt _ (Nat.lt_of_lt_of_le hi hc), ok_bind]

/-- Either governor's tests are in bounds once the trips' count has passed. -/
theorem governorValidate_eq (g : Governor) {z : ZoneCfg} (hc : z.tripCount ≤ maxTripsPerZone) :
    governorValidate g cfg z = test (g.validate cfg z) := by
  cases g with
  | stepWise => rfl
  | pid =>
      refine bind_test rfl fun _ _ => bind_test rfl fun _ _ => bind_test rfl fun _ _ =>
        bind_test rfl fun _ _ => bind_test rfl fun _ _ => bind_test rfl fun _ _ =>
        bind_test rfl fun _ _ => bind_test rfl fun _ _ => ?_
      rw [any_eq fun i hi => ?_, ok_bind]
      rw [read_of_lt _ (Nat.lt_of_lt_of_le hi hc), ok_bind]

/-- The weights lie within their array once the sensors' count has passed. -/
theorem weightSum_eq {z : ZoneCfg} (hc : z.sensorCount ≤ maxSensorsPerZone) :
    weightSum z = .ok (ThermalCore.weightSum z) := by
  refine fold_eq fun i wsum hi => ?_
  rw [read_of_lt _ (Nat.lt_of_lt_of_le hi hc), ok_bind]

/-- `validate_zone` is in bounds behind the counts alone: it tests the zone's own first. -/
theorem validateZone_eq (h : CountRules cfg) (z : ZoneCfg) :
    validateZone cfg z = test (ThermalCore.validateZone cfg z) := by
  refine bind_test rfl fun _ hsensors => bind_test rfl fun _ hactuators => ?_
  have hs : z.sensorCount ≤ maxSensorsPerZone := by
    have hnot := Check.failIf_eq_ok.mp hsensors
    omega
  have ha : z.actuatorCount ≤ maxActuatorsPerZone := by
    have hnot := Check.failIf_eq_ok.mp hactuators
    omega
  refine bind_test rfl fun _ _ => bind_test rfl fun _ _ => ?_
  refine bind_test (each_eq fun i hi => ?_) fun _ _ => bind_test (each_eq fun i hi => ?_) fun _ _ => ?_
  · rw [read_of_lt _ (Nat.lt_of_lt_of_le hi hs), ok_bind, findSensorSlot_eq h.sensors, ok_bind]
  · rw [read_of_lt _ (Nat.lt_of_lt_of_le hi ha), ok_bind, findActuatorSlot_eq h.actuators, ok_bind]
  · rw [weightSum_eq hs, ok_bind]
    refine bind_test rfl fun _ _ => bind_test rfl fun _ htrips => ?_
    have ht : z.tripCount ≤ maxTripsPerZone := by
      have hnot := Check.failIf_eq_ok.mp htrips
      omega
    refine bind_test (each_eq fun i hi => ?_) fun _ _ => ?_
    · have hlt : i < maxTripsPerZone := Nat.lt_of_lt_of_le hi ht
      rw [read_of_lt _ hlt, ok_bind]
      refine bind_test rfl fun _ _ => bind_test rfl fun _ _ => ?_
      rw [read_of_lt _ (Nat.lt_of_le_of_lt (Nat.sub_le i 1) hlt), ok_bind]
      split
      · exact bind_test rfl fun _ _ => rfl
      · rfl
    · rw [zoneFallbackReachesSafetyFloor_eq ht, ok_bind]
      refine bind_test rfl fun _ _ => ?_
      rw [governorOpsFor_eq, ok_bind]
      cases ThermalCore.governorOpsFor z.governor with
      | none => rfl
      | some ops => exact governorValidate_eq ops ht

/-- The baseline is read only after its count was found in range. -/
theorem validateFanHealthSlot_eq (fh : FanHealthCfg) (ac : ActuatorCfg) :
    validateFanHealthSlot fh ac = test (ThermalCore.validateFanHealthSlot fh ac) := by
  unfold validateFanHealthSlot ThermalCore.validateFanHealthSlot
  split
  · rfl
  · refine bind_test rfl fun _ _ => bind_test rfl fun _ _ => bind_test rfl fun _ hcount => ?_
    have hnot := Check.failIf_eq_ok.mp hcount
    have hle : fh.baselineCount ≤ maxFanHealthPoints := by omega
    rw [read_of_lt _ (by omega), ok_bind]
    refine bind_test rfl fun _ _ => bind_test (each_eq fun p hp => ?_) fun _ _ =>
      bind_test rfl fun _ _ => bind_test rfl fun _ _ => rfl
    have hlt : p < maxFanHealthPoints := Nat.lt_of_lt_of_le hp hle
    rw [read_of_lt _ hlt, ok_bind]
    refine bind_test rfl fun _ _ => bind_test rfl fun _ _ => ?_
    rw [read_of_lt _ (Nat.lt_of_le_of_lt (Nat.sub_le p 1) hlt), ok_bind]
    split
    · exact bind_test rfl fun _ _ => rfl
    · rfl

/-- `validate_fan_health` is in bounds once the actuators' count has passed. -/
theorem validateFanHealth_eq (hc : cfg.actuatorCount ≤ maxActuators) :
    validateFanHealth cfg = test (ThermalCore.validateFanHealth cfg) := by
  refine each_eq fun a ha => ?_
  have hlt : a < maxActuators := Nat.lt_of_lt_of_le ha hc
  rw [read_of_lt _ hlt, ok_bind, read_of_lt _ hlt, ok_bind, validateFanHealthSlot_eq]

end zones

/-! ## The whole configuration -/

/-- `thermal_core_validate_config` after the null test, in the order of the source. -/
def validateConfig (cfg : Config) : Exec ThermalStatus Unit := do
  test (failIf (cfg.configVersion ≠ 1) .errInvalidConfig)
  test (failIf (cfg.controlPeriodMs = 0) .errInvalidConfig)
  test (failIf (cfg.periodRelativeToMs ≠ 0 ∧ cfg.periodRelativeToMs ≠ cfg.controlPeriodMs)
    .errInvalidConfig)
  test (validateCounts cfg)
  test (failIf (cfg.modifierCount > 1) .errInvalidConfig)
  test (failIf (cfg.faults.runawayDefaults.enabled ≠ 0 ∧
    cfg.faults.runawayDefaults.persistTicks > faultRunawayWindowMax) .errBounds)
  validateSensors cfg
  validateActuators cfg
  validateContexts cfg
  each cfg.zoneCount fun i => do
    let zc ← read cfg.zones i
    validateZone cfg zc
  validateModifiers cfg
  validateFaultDetectors cfg
  validateStatePwmReferences cfg
  validateTelemetry cfg
  validateFanHealth cfg

/-- **The validator makes no access outside an array**, on any configuration: run
with every access checked it is the model. -/
theorem validateConfig_eq (cfg : Config) :
    validateConfig cfg = test (ThermalCore.validateConfig cfg) := by
  refine bind_test rfl fun _ _ => bind_test rfl fun _ _ => bind_test rfl fun _ _ =>
    bind_test rfl fun _ hcounts => bind_test rfl fun _ _ => bind_test rfl fun _ _ => ?_
  have h : CountRules cfg := (validateCounts_iff cfg).mp hcounts
  refine bind_test (validateSensors_eq h.sensors) fun _ _ => ?_
  refine bind_test (validateActuators_eq h.actuators) fun _ _ => ?_
  refine bind_test (validateContexts_eq h.contexts) fun _ _ => ?_
  refine bind_test (each_eq fun z hz => ?_) fun _ hzones => ?_
  · rw [read_of_lt _ (Nat.lt_of_lt_of_le hz h.zones), ok_bind, validateZone_eq h]
  · have hrules (z : Nat) (hz : z < cfg.zoneCount) : ZoneRules cfg (cfg.zones.slot z) :=
      (validateZone_iff cfg _).mp (Check.each_eq_ok.mp hzones z hz)
    refine bind_test (validateModifiers_eq h fun z hz => (hrules z hz).tripCount) fun _ _ => ?_
    refine bind_test (validateFaultDetectors_eq h.contexts) fun _ _ => ?_
    refine bind_test (validateStatePwmReferences_eq h hrules) fun _ _ => ?_
    refine bind_test (validateTelemetry_eq h.telemetry) fun _ _ => ?_
    exact validateFanHealth_eq h.actuators

end ThermalCore.Checked
