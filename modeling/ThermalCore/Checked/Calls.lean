import ThermalCore.Checked.Drive

/-!
# Init, commands and state reads, with every access checked

The other three calls of the API transcribed in `Exec`.  A command is given
arbitrary contents, so each index it takes from them stands behind its own test.

The zone, trip, modifier and point numbers of a command are compared with the
configuration's counts before they index; the neighbours of a trip or of a point
are read only where there are any.  The state snapshot lists faults into an array
of fixed size, where those past its end are dropped: `FaultsAre` says what the
array holds at each point of the listing.
-/

namespace ThermalCore.Checked

open MachineInt Exec

/-! ## thermal_core_validate_config and thermal_core_init -/

/-- `thermal_core_validate_config`: the status of the first test that fails. -/
def thermalCoreValidateConfig (cfg : Config) : Exec ThermalStatus ThermalStatus :=
  returning (do
    validateConfig cfg
    .ok .ok) fun e => e

/-- Init of a zone: the sensor slots that step 6 uses are looked up here. -/
def initZone (cfg : Config) (zc : ZoneCfg) : Exec ThermalStatus ZoneRuntime := do
  let sensorSlots ← forSlots (default : Vector Nat maxSensorsPerZone) zc.sensorCount fun k _ => do
    let id ← read zc.sensorIds k
    let slot ← findSensorSlot cfg id
    .ok (slot.getD 255)
  let _ ← governorOpsFor zc.governor
  let shadowTrips ← forSlots (default : Vector TripCfg maxTripsPerZone) zc.tripCount fun t _ =>
    read zc.trips t
  .ok { (default : ZoneRuntime) with
    sensorSlotCount := zc.sensorCount
    sensorSlots := sensorSlots
    pid := thermalPidReset
    shadowPid := zc.pid
    shadowTrips := shadowTrips }

/-- The state `thermal_core_init` builds from a zeroed context. -/
def initCore (cfg : Config) : Exec ThermalStatus Core := do
  let filters ← fill maxSensors thermalFilterReset
  let contexts ← fill maxContextSignals { (default : ContextRuntime) with filter := thermalFilterReset }
  let zones ← forSlots (default : Vector ZoneRuntime maxZones) cfg.zoneCount fun i _ => do
    let zc ← read cfg.zones i
    initZone cfg zc
  let modifiers ← forSlots (default : Vector ModifierRuntime maxModifiers) cfg.modifierCount fun i m => do
    let mc ← read cfg.modifiers i
    .ok { m with shadow := mc }
  let actuators ← forSlots (default : Vector ActuatorRuntime maxActuators) cfg.actuatorCount fun i _ => do
    let ac ← read cfg.actuators i
    .ok (initActuator ac)
  let stallStates ← fill maxActuators thermalFaultStallReset
  let stuckSensorStates ← fill maxSensors thermalFaultStuckSensorReset
  let runaways ← fill maxZones ⟨thermalFaultRunawayReset, 0, false⟩
  let staleContextStates ← fill maxContextSignals thermalFaultStaleContextReset
  let fanHealthStates ← fill maxActuators thermalFanHealthReset
  .ok
    { filters := filters
      zones := zones
      contexts := contexts
      actuators := actuators
      shutdownRequestLatched := false
      modifiers := modifiers
      stallStates := stallStates
      stuckSensorStates := stuckSensorStates
      runaways := runaways
      staleContextStates := staleContextStates
      fanHealthStates := fanHealthStates
      prevZoneMaxSeverity := .replicate _ 0
      tickCount := 0
      lastNowMs := 0 }

/-- `thermal_core_init`: the status of a refusal, or the core. -/
def thermalCoreInit (cfg : Config) : Exec ThermalStatus (Except ThermalStatus Core) :=
  returning (do
    validateConfig cfg
    let core ← initCore cfg
    .ok (.ok core)) fun e => .error e

section init

variable {cfg : Config}

/-- Validation reads nothing out of bounds, whatever the configuration. -/
theorem thermalCoreValidateConfig_eq (cfg : Config) :
    thermalCoreValidateConfig cfg = .ok (ThermalCore.thermalCoreValidateConfig cfg) := by
  unfold thermalCoreValidateConfig ThermalCore.thermalCoreValidateConfig Validation.status
  rw [validateConfig_eq, returning_test fun _ _ => rfl]
  cases ThermalCore.validateConfig cfg <;> rfl

/-- Init of a zone within its bounds stays in bounds. -/
theorem initZone_eq (h : CountRules cfg) {zc : ZoneCfg} (hs : zc.sensorCount ≤ maxSensorsPerZone)
    (ht : zc.tripCount ≤ maxTripsPerZone) :
    initZone cfg zc = .ok (ThermalCore.initZone cfg zc) := by
  unfold initZone
  rw [forSlots_pure hs fun k _ hk => by
      rw [read_of_lt _ (Nat.lt_of_lt_of_le hk hs), ok_bind, findSensorSlot_eq h.sensors, ok_bind],
    ok_bind, governorOpsFor_eq, ok_bind,
    forSlots_pure ht fun t _ hlt => read_of_lt _ (Nat.lt_of_lt_of_le hlt ht),
    ok_bind]
  rfl

/-- Init of an accepted configuration stays in bounds. -/
theorem initCore_eq (hr : ConfigRules cfg) : initCore cfg = .ok (ThermalCore.initCore cfg) := by
  have h := countRules hr
  have hzones : (forSlots (default : Vector ZoneRuntime maxZones) cfg.zoneCount fun i _ => do
      let zc ← read cfg.zones i
      initZone cfg zc) = .ok (ThermalCore.initCore cfg).zones := by
    refine forSlots_pure h.zones fun i _ hi => ?_
    rw [read_of_lt _ (Nat.lt_of_lt_of_le hi h.zones), ok_bind,
      initZone_eq h (hr.zone hi).sensorCount.2 (hr.zone hi).tripCount]
  unfold initCore
  rw [fill_eq, ok_bind, fill_eq, ok_bind, hzones, ok_bind,
    forSlots_pure h.modifiers fun i _ hi => by
      rw [read_of_lt _ (Nat.lt_of_lt_of_le hi h.modifiers), ok_bind],
    ok_bind,
    forSlots_pure h.actuators fun i _ hi => by
      rw [read_of_lt _ (Nat.lt_of_lt_of_le hi h.actuators), ok_bind],
    ok_bind, fill_eq, ok_bind, fill_eq, ok_bind, fill_eq, ok_bind, fill_eq, ok_bind, fill_eq, ok_bind]
  rfl

/-- **Init**: on an accepted configuration it builds the model's state. -/
theorem thermalCoreInit_eq (hr : ConfigRules cfg) :
    thermalCoreInit cfg = .ok (.ok (ThermalCore.initCore cfg)) := by
  have hvalid : ThermalCore.validateConfig cfg = .ok () :=
    (accepted_iff_ok cfg).mp ((accepted_iff cfg).mpr hr)
  unfold thermalCoreInit
  rw [validateConfig_eq, hvalid, test_ok, ok_bind, initCore_eq hr, ok_bind]
  rfl

end init

/-! ## thermal_core_apply_command: tests against the modifier curves -/

/-- A test of every point of the curves that shift trips. -/
def allOffsetPoints (cfg : Config) (core : Core) (p : CurvePoint → Exec ThermalStatus Bool) :
    Exec ThermalStatus Bool := do
  let unfit ← any cfg.modifierCount fun m => do
    let mr ← read core.modifiers m
    if mr.shadow.hasStage .preGovernorTripOffset then
      any mr.shadow.curveCount fun i => do
        let pt ← read mr.shadow.curve i
        let fits ← p pt
        .ok (!fits)
    else .ok false
  .ok (!unfit)

/-- The trips stay ordered and within `int32_t` under every offset a curve can give. -/
def runtimeTripsWithModifierOffsetsValid (cfg : Config) (core : Core)
    (trips : Vector TripCfg maxTripsPerZone) (tripCount : Nat) : Exec ThermalStatus Bool :=
  allOffsetPoints cfg core fun pt => adjustedTripsValid trips tripCount pt.value1

/-- The setpoint stays in its range under every offset a curve can give. -/
def runtimeSetpointWithModifierOffsetsValid (cfg : Config) (core : Core) (zoneId : Nat)
    (setpointMc : Int) : Exec ThermalStatus Bool := do
  let zc ← read cfg.zones zoneId
  allOffsetPoints cfg core fun pt => .ok
    (decide (zc.pid.setpointMinMc ≤ setpointMc + pt.value1 ∧
      setpointMc + pt.value1 ≤ zc.pid.setpointMaxMc))

/-- A new curve against the runtime trips and setpoints. -/
def modifierCurveValuesValidRuntime (cfg : Config) (core : Core) (m : ModifierCfg) :
    Exec ThermalStatus Bool :=
  curvePointsValid cfg
    (fun z => do
      let zr ← read core.zones z
      .ok zr.shadowTrips)
    (fun z => do
      let zr ← read core.zones z
      .ok zr.shadowPid.setpointMc) m

section offsets

variable {cfg : Config} {core : Core}

/-- The runtime curves are no longer than their arrays. -/
theorem allOffsetPoints_eq (h : CountRules cfg) (hs : CoreSafe cfg core)
    {p : CurvePoint → Exec ThermalStatus Bool} {q : CurvePoint → Bool} (hp : ∀ pt, p pt = .ok (q pt)) :
    allOffsetPoints cfg core p = .ok (ThermalCore.allOffsetPoints cfg core q) := by
  have hpoints {m : Nat} (hm : m < cfg.modifierCount) :
      (any (core.modifiers.slot m).shadow.curveCount fun i => do
        let pt ← read (core.modifiers.slot m).shadow.curve i
        let fits ← p pt
        .ok (!fits)) = .ok (Loop.any (core.modifiers.slot m).shadow.curveCount fun i =>
          !q ((core.modifiers.slot m).shadow.curve.slot i)) := by
    refine any_eq fun i hi => ?_
    rw [read_of_lt _ (Nat.lt_of_lt_of_le hi (hs.curves m hm).count_le), ok_bind, hp, ok_bind]
  unfold allOffsetPoints ThermalCore.allOffsetPoints
  rw [any_eq fun m hm => by
      rw [read_of_lt _ (Nat.lt_of_lt_of_le hm h.modifiers), ok_bind, hpoints hm, ite_ok],
    ok_bind]
  congr 2
  refine Loop.any_congr fun m _ => ?_
  dsimp only
  cases (core.modifiers.slot m).shadow.hasStage .preGovernorTripOffset <;> rfl

/-- The trips' test is in bounds under every offset. -/
theorem runtimeTripsWithModifierOffsetsValid_eq (h : CountRules cfg) (hs : CoreSafe cfg core)
    (trips : Vector TripCfg maxTripsPerZone) {tripCount : Nat} (hc : tripCount ≤ maxTripsPerZone) :
    runtimeTripsWithModifierOffsetsValid cfg core trips tripCount =
      .ok (ThermalCore.runtimeTripsWithModifierOffsetsValid cfg core trips tripCount) :=
  allOffsetPoints_eq h hs fun _ => adjustedTripsValid_eq hc _

/-- The setpoint's test is in bounds for a counted zone. -/
theorem runtimeSetpointWithModifierOffsetsValid_eq (h : CountRules cfg) (hs : CoreSafe cfg core)
    {z : Nat} (hz : z < cfg.zoneCount) (sp : Int) :
    runtimeSetpointWithModifierOffsetsValid cfg core z sp =
      .ok (ThermalCore.runtimeSetpointWithModifierOffsetsValid cfg core z sp) := by
  unfold runtimeSetpointWithModifierOffsetsValid
  rw [read_of_lt _ (Nat.lt_of_lt_of_le hz h.zones), ok_bind, allOffsetPoints_eq h hs fun _ => rfl]
  rfl

/-- The test of a new curve is in bounds. -/
theorem modifierCurveValuesValidRuntime_eq (hr : ConfigRules cfg) (core : Core) {m : ModifierCfg}
    (hc : m.curveCount ≤ maxCurvePoints) :
    modifierCurveValuesValidRuntime cfg core m =
      .ok (ThermalCore.modifierCurveValuesValidRuntime cfg core m) := by
  have hz := hr.zoneCount_le
  refine curvePointsValid_eq ⟨hz, hr.actuatorCount_le, fun z hlt => (hr.zone hlt).tripCount,
    fun z hlt => ?_, fun z hlt => ?_⟩ hc
  · rw [read_of_lt _ (Nat.lt_of_lt_of_le hlt hz), ok_bind]
  · rw [read_of_lt _ (Nat.lt_of_lt_of_le hlt hz), ok_bind]

end offsets

/-! ## SET_PID and SET_SETPOINT -/

/-- Whether a command's zone exists and has a PID governor. -/
def pidZone (cfg : Config) (z : Nat) : Exec ThermalStatus Bool :=
  if z < cfg.zoneCount then do
    let zc ← read cfg.zones z
    let ops ← governorOpsFor zc.governor
    .ok (match ops with
      | none => false
      | some ops => ops.supportsPidCommands)
  else .ok false

/-- `SET_PID`: the gains within their limits. -/
def cmdSetPid (cfg : Config) (core : Core) (z : Nat) (kp ki kd : Int) :
    Exec ThermalStatus (ThermalStatus × Core) := do
  let isPid ← pidZone cfg z
  if isPid = false then .ok (.errInvalidArg, core)
  else do
    let zc ← read cfg.zones z
    if gainsInBounds zc.pid kp ki kd = false then .ok (.errBounds, core)
    else do
      let zones ← edit core.zones z fun zr => zr.withGains kp ki kd
      .ok (.ok, { core with zones := zones })

/-- `SET_SETPOINT`: the setpoint within its limits, under every offset. -/
def cmdSetSetpoint (cfg : Config) (core : Core) (z : Nat) (sp : Int) :
    Exec ThermalStatus (ThermalStatus × Core) := do
  let isPid ← pidZone cfg z
  if isPid = false then .ok (.errInvalidArg, core)
  else do
    let zc ← read cfg.zones z
    if sp < zc.pid.setpointMinMc ∨ sp > zc.pid.setpointMaxMc then .ok (.errBounds, core)
    else do
      let fits ← runtimeSetpointWithModifierOffsetsValid cfg core z sp
      if fits = false then .ok (.errBounds, core)
      else do
        let zones ← edit core.zones z fun zr => zr.withSetpoint sp
        .ok (.ok, { core with zones := zones })

section pid

variable {cfg : Config} {core : Core}

/-- The zone number is tested before it indexes. -/
theorem pidZone_eq (h : CountRules cfg) (z : Nat) :
    pidZone cfg z = .ok (ThermalCore.pidZone cfg z) := by
  unfold pidZone ThermalCore.pidZone
  by_cases hz : z < cfg.zoneCount
  · rw [if_pos hz, read_of_lt _ (Nat.lt_of_lt_of_le hz h.zones), ok_bind, governorOpsFor_eq,
      decide_eq_true hz, Bool.true_and]
    rfl
  · rw [if_neg hz, decide_eq_false hz, Bool.false_and]

/-- A PID zone is a counted one. -/
theorem lt_of_pidZone {z : Nat} (h : ThermalCore.pidZone cfg z = true) : z < cfg.zoneCount := by
  unfold ThermalCore.pidZone at h
  rw [Bool.and_eq_true, decide_eq_true_eq] at h
  exact h.1

/-- `SET_PID` is in bounds for every zone number. -/
theorem cmdSetPid_eq (h : CountRules cfg) (core : Core) (z : Nat) (kp ki kd : Int) :
    cmdSetPid cfg core z kp ki kd = .ok (ThermalCore.cmdSetPid cfg core z kp ki kd) := by
  unfold cmdSetPid ThermalCore.cmdSetPid
  rw [pidZone_eq h, ok_bind]
  cases hpid : ThermalCore.pidZone cfg z with
  | false => rfl
  | true =>
      have hlt := Nat.lt_of_lt_of_le (lt_of_pidZone hpid) h.zones
      rw [if_neg (by decide), if_neg (by decide), read_of_lt _ hlt, ok_bind, edit_of_lt _ _ hlt, ok_bind,
        ite_ok]

/-- `SET_SETPOINT` is in bounds for every zone number. -/
theorem cmdSetSetpoint_eq (h : CountRules cfg) (hs : CoreSafe cfg core) (z : Nat) (sp : Int) :
    cmdSetSetpoint cfg core z sp = .ok (ThermalCore.cmdSetSetpoint cfg core z sp) := by
  unfold cmdSetSetpoint ThermalCore.cmdSetSetpoint
  rw [pidZone_eq h, ok_bind]
  cases hpid : ThermalCore.pidZone cfg z with
  | false => rfl
  | true =>
      have hz := lt_of_pidZone hpid
      have hlt := Nat.lt_of_lt_of_le hz h.zones
      rw [if_neg (by decide), if_neg (by decide), read_of_lt _ hlt, ok_bind,
        runtimeSetpointWithModifierOffsetsValid_eq h hs hz, ok_bind, edit_of_lt _ _ hlt, ok_bind, ite_ok,
        ite_ok]

end pid

/-! ## SET_TRIP -/

/-- `proposed[]`: the trips in use, with the one of the command changed. -/
def proposedTrips (trips : Vector TripCfg maxTripsPerZone) (tripCount t : Nat) (temp hyst : Int) :
    Exec ThermalStatus (Vector TripCfg maxTripsPerZone) := do
  let proposed ← forSlots (default : Vector TripCfg maxTripsPerZone) tripCount fun i _ => read trips i
  edit proposed t fun tc => tc.withTemp temp hyst

/-- A new trip against its neighbours, the fallback and the modifier's offsets. -/
def tripAcceptable (cfg : Config) (core : Core) (z t : Nat) (temp hyst : Int) :
    Exec ThermalStatus Bool := do
  let zc ← read cfg.zones z
  let zr ← read core.zones z
  let proposed ← proposedTrips zr.shadowTrips zc.tripCount t temp hyst
  let above ← testPrev zr.shadowTrips t fun prev =>
    decide (temp > prev.tempMc ∧ temp - hyst ≥ prev.tempMc)
  let below ← testNext zr.shadowTrips zc.tripCount t fun next =>
    decide (temp < next.tempMc ∧ next.tempMc - next.hystMc ≥ temp)
  let reaches ← zoneFallbackReachesSafetyFloor zc proposed
  let fits ← runtimeTripsWithModifierOffsetsValid cfg core proposed zc.tripCount
  .ok (decide (hyst ≥ 0) && above && below && reaches && fits)

/-- `core->zones[z].shadow_trips[t]` is written. -/
def writeTrip (core : Core) (z t : Nat) (temp hyst : Int) : Exec ThermalStatus Core := do
  let zr ← read core.zones z
  let trips ← edit zr.shadowTrips t fun tc => tc.withTemp temp hyst
  let zones ← write core.zones z { zr with shadowTrips := trips }
  .ok { core with zones := zones }

/-- `SET_TRIP`: zone and trip number are tested first. -/
def cmdSetTrip (cfg : Config) (core : Core) (z t : Nat) (temp hyst : Int) :
    Exec ThermalStatus (ThermalStatus × Core) :=
  if z ≥ cfg.zoneCount then .ok (.errInvalidArg, core)
  else do
    let zc ← read cfg.zones z
    if t ≥ zc.tripCount then .ok (.errBounds, core)
    else do
      let acceptable ← tripAcceptable cfg core z t temp hyst
      if acceptable = false then .ok (.errBounds, core)
      else do
        let core ← writeTrip core z t temp hyst
        .ok (.ok, core)

section trip

variable {cfg : Config} {core : Core} {z t : Nat}

/-- Past the trips in use the copy differs from the trips it was made of; the tests
do not look there. -/
theorem proposedTrips_spec (trips : Vector TripCfg maxTripsPerZone) {tripCount : Nat}
    (hc : tripCount ≤ maxTripsPerZone) (ht : t < tripCount) (temp hyst : Int) :
    ∃ proposed, proposedTrips trips tripCount t temp hyst = .ok proposed ∧
      ∀ i < tripCount, proposed.slot i = (trips.edit t fun tc => tc.withTemp temp hyst).slot i := by
  have hlt := Nat.lt_of_lt_of_le ht hc
  unfold proposedTrips
  rw [forSlots_pure hc fun i _ hi => read_of_lt _ (Nat.lt_of_lt_of_le hi hc), ok_bind, edit_of_lt _ _ hlt]
  refine ⟨_, rfl, fun i hi => ?_⟩
  rw [Vector.slot_edit, Vector.slot_edit, Vector.slot_forSlots_lt _ _ hc hi]

/-- A trip's neighbours are read only inside the zone's trips. -/
theorem tripAcceptable_eq (hr : ConfigRules cfg) (hs : CoreSafe cfg core) (hz : z < cfg.zoneCount)
    (ht : t < (cfg.zones.slot z).tripCount) (temp hyst : Int) :
    tripAcceptable cfg core z t temp hyst =
      .ok (ThermalCore.tripAcceptable cfg core z t temp hyst) := by
  have h := countRules hr
  have hlt := Nat.lt_of_lt_of_le hz h.zones
  have hc := (hr.zone hz).tripCount
  obtain ⟨proposed, hproposed, hsame⟩ :=
    proposedTrips_spec (core.zones.slot z).shadowTrips hc ht temp hyst
  unfold tripAcceptable ThermalCore.tripAcceptable ThermalCore.runtimeTripsWithModifierOffsetsValid
  dsimp only
  rw [read_of_lt _ hlt, ok_bind, read_of_lt _ hlt, ok_bind, hproposed, ok_bind,
    testPrev_eq _ (Nat.lt_of_lt_of_le ht hc), ok_bind, testNext_eq _ hc, ok_bind,
    zoneFallbackReachesSafetyFloor_eq hc, ok_bind,
    runtimeTripsWithModifierOffsetsValid_eq h hs _ hc, ok_bind,
    zoneFallbackReachesSafetyFloor_congr rfl rfl hsame]
  unfold ThermalCore.runtimeTripsWithModifierOffsetsValid
  simp only [adjustedTripsValid_congr hsame]

/-- A counted trip of a counted zone is written in place. -/
theorem writeTrip_eq (core : Core) (hz : z < maxZones) (ht : t < maxTripsPerZone) (temp hyst : Int) :
    writeTrip core z t temp hyst =
      .ok { core with zones := core.zones.edit z fun zr => zr.withTrip t temp hyst } := by
  unfold writeTrip
  rw [read_of_lt _ hz, ok_bind, edit_of_lt _ _ ht, ok_bind, write_of_lt _ _ hz, ok_bind]
  rfl

/-- `SET_TRIP` is in bounds for every zone and trip number. -/
theorem cmdSetTrip_eq (hr : ConfigRules cfg) (hs : CoreSafe cfg core) (z t : Nat) (temp hyst : Int) :
    cmdSetTrip cfg core z t temp hyst = .ok (ThermalCore.cmdSetTrip cfg core z t temp hyst) := by
  unfold cmdSetTrip ThermalCore.cmdSetTrip
  by_cases hz : z ≥ cfg.zoneCount
  · rw [if_pos hz, if_pos hz]
  have hzone : z < cfg.zoneCount := Nat.lt_of_not_le hz
  have hlt := Nat.lt_of_lt_of_le hzone hr.zoneCount_le
  rw [if_neg hz, if_neg hz, read_of_lt _ hlt, ok_bind]
  by_cases ht : t ≥ (cfg.zones.slot z).tripCount
  · rw [if_pos ht, if_pos ht]
  have htrip : t < (cfg.zones.slot z).tripCount := Nat.lt_of_not_le ht
  rw [if_neg ht, if_neg ht, tripAcceptable_eq hr hs hzone htrip, ok_bind,
    writeTrip_eq core hlt (Nat.lt_of_lt_of_le htrip (hr.zone hzone).tripCount), ok_bind, ite_ok]

end trip

/-! ## SET_CURVE_POINT -/

/-- A new point against its neighbours and the zones. -/
def pointAcceptable (cfg : Config) (core : Core) (m p : Nat) (pt : CurvePoint) :
    Exec ThermalStatus Bool := do
  let mc ← read cfg.modifiers m
  let mr ← read core.modifiers m
  let left ← testPrev mr.shadow.curve p fun prev => decide (pt.x > prev.x)
  let right ← testNext mr.shadow.curve mc.curveCount p fun next => decide (pt.x < next.x)
  let curve ← write mr.shadow.curve p pt
  let fits ← modifierCurveValuesValidRuntime cfg core { mr.shadow with curve := curve }
  .ok (left && right && fits)

/-- `core->shadow_modifiers[m].curve[p]` is written. -/
def writePoint (core : Core) (m p : Nat) (pt : CurvePoint) : Exec ThermalStatus Core := do
  let mr ← read core.modifiers m
  let curve ← write mr.shadow.curve p pt
  let modifiers ← write core.modifiers m { mr with shadow := { mr.shadow with curve := curve } }
  .ok { core with modifiers := modifiers }

/-- `SET_CURVE_POINT`: modifier and point number are tested first. -/
def cmdSetCurvePoint (cfg : Config) (core : Core) (m p : Nat) (pt : CurvePoint) :
    Exec ThermalStatus (ThermalStatus × Core) :=
  if m ≥ cfg.modifierCount then .ok (.errInvalidArg, core)
  else do
    let mc ← read cfg.modifiers m
    if p ≥ mc.curveCount then .ok (.errBounds, core)
    else do
      let acceptable ← pointAcceptable cfg core m p pt
      if acceptable = false then .ok (.errBounds, core)
      else do
        let core ← writePoint core m p pt
        .ok (.ok, core)

section point

variable {cfg : Config} {core : Core} {m p : Nat}

/-- A point's neighbours are read only inside the curve. -/
theorem pointAcceptable_eq (hr : ConfigRules cfg) (hs : CoreSafe cfg core) (hm : m < cfg.modifierCount)
    (hc : (cfg.modifiers.slot m).curveCount ≤ maxCurvePoints)
    (hp : p < (cfg.modifiers.slot m).curveCount) (pt : CurvePoint) :
    pointAcceptable cfg core m p pt = .ok (ThermalCore.pointAcceptable cfg core m p pt) := by
  have hlt := Nat.lt_of_lt_of_le hm (countRules hr).modifiers
  have hfits : modifierCurveValuesValidRuntime cfg core { (core.modifiers.slot m).shadow with
      curve := (core.modifiers.slot m).shadow.curve.put p pt } =
      .ok (ThermalCore.modifierCurveValuesValidRuntime cfg core
        ((core.modifiers.slot m).shadow.withPoint p pt)) :=
    modifierCurveValuesValidRuntime_eq hr core (hs.curves m hm).count_le
  unfold pointAcceptable
  rw [read_of_lt _ hlt, ok_bind, read_of_lt _ hlt, ok_bind,
    testPrev_eq _ (Nat.lt_of_lt_of_le hp hc), ok_bind, testNext_eq _ hc, ok_bind,
    write_of_lt _ _ (Nat.lt_of_lt_of_le hp hc), ok_bind, hfits, ok_bind]
  rfl

/-- A counted point of a counted modifier is written in place. -/
theorem writePoint_eq (core : Core) (hm : m < maxModifiers) (hp : p < maxCurvePoints) (pt : CurvePoint) :
    writePoint core m p pt = .ok { core with
      modifiers := core.modifiers.edit m fun mr => { mr with shadow := mr.shadow.withPoint p pt } } := by
  unfold writePoint
  rw [read_of_lt _ hm, ok_bind, write_of_lt _ _ hp, ok_bind, write_of_lt _ _ hm, ok_bind]
  rfl

/-- `SET_CURVE_POINT` is in bounds for every modifier and point number. -/
theorem cmdSetCurvePoint_eq (hr : ConfigRules cfg) (hs : CoreSafe cfg core) (m p : Nat)
    (pt : CurvePoint) :
    cmdSetCurvePoint cfg core m p pt = .ok (ThermalCore.cmdSetCurvePoint cfg core m p pt) := by
  unfold cmdSetCurvePoint ThermalCore.cmdSetCurvePoint
  by_cases hm : m ≥ cfg.modifierCount
  · rw [if_pos hm, if_pos hm]
  have hmod : m < cfg.modifierCount := Nat.lt_of_not_le hm
  have hlt := Nat.lt_of_lt_of_le hmod (countRules hr).modifiers
  have hc := ((validateModifiers_iff cfg).mp hr.modifiers m hmod).1.2.2.1.2
  rw [if_neg hm, if_neg hm, read_of_lt _ hlt, ok_bind]
  by_cases hp : p ≥ (cfg.modifiers.slot m).curveCount
  · rw [if_pos hp, if_pos hp]
  have hpoint : p < (cfg.modifiers.slot m).curveCount := Nat.lt_of_not_le hp
  rw [if_neg hp, if_neg hp, pointAcceptable_eq hr hs hmod hc hpoint, ok_bind,
    writePoint_eq core hlt (Nat.lt_of_lt_of_le hpoint hc), ok_bind, ite_ok]

end point

/-! ## CLEAR_FAULT -/

/-- One detector's branch: its array after the clear. -/
def clearSlot [Inhabited α] (states : Vector α n) (slot : Nat) (fsm : α → Fsm) (fc : FaultDetectorCfg)
    (reset : α) : Exec ThermalStatus (ThermalStatus × Vector α n) := do
  let st ← read states slot
  if (clearVerdict (fsm st) fc).2 then do
    let states ← write states slot reset
    .ok ((clearVerdict (fsm st) fc).1, states)
  else .ok ((clearVerdict (fsm st) fc).1, states)

/-- `CLEAR_FAULT`: the target's slot by the fault's type. -/
def cmdClearFault (cfg : Config) (core : Core) (ftype tid : Nat) :
    Exec ThermalStatus (ThermalStatus × Core) :=
  if ftype = FaultType.stall.code then do
    let slot ← findActuatorSlot cfg tid
    match slot with
    | none => .ok (.errInvalidArg, core)
    | some slot => do
        let r ← clearSlot core.stallStates slot StallState.fsm cfg.faults.stallDefaults
          thermalFaultStallReset
        .ok (r.1, { core with stallStates := r.2 })
  else if ftype = FaultType.stuckSensor.code then do
    let slot ← findSensorSlot cfg tid
    match slot with
    | none => .ok (.errInvalidArg, core)
    | some slot => do
        let r ← clearSlot core.stuckSensorStates slot StuckSensorState.fsm
          cfg.faults.stuckSensorDefaults thermalFaultStuckSensorReset
        .ok (r.1, { core with stuckSensorStates := r.2 })
  else if ftype = FaultType.runaway.code then
    if tid ≥ cfg.zoneCount then .ok (.errInvalidArg, core)
    else do
      let r ← clearSlot core.runaways tid (fun rr => rr.detector.fsm) cfg.faults.runawayDefaults
        ⟨thermalFaultRunawayReset, 0, false⟩
      .ok (r.1, { core with runaways := r.2 })
  else if ftype = FaultType.staleContext.code then do
    let slot ← findContextSlot cfg tid
    match slot with
    | none => .ok (.errInvalidArg, core)
    | some slot => do
        let r ← clearSlot core.staleContextStates slot StaleContextState.fsm
          cfg.faults.staleContextDefaults thermalFaultStaleContextReset
        .ok (r.1, { core with staleContextStates := r.2 })
  else .ok (.errInvalidArg, core)

section clear

variable {cfg : Config}

/-- Clearing a slot writes the slot it tested. -/
theorem clearSlot_eq [Inhabited α] (states : Vector α n) {slot : Nat} (h : slot < n) (fsm : α → Fsm)
    (fc : FaultDetectorCfg) (reset : α) :
    clearSlot states slot fsm fc reset = .ok ((clearVerdict (fsm (states.slot slot)) fc).1,
      if (clearVerdict (fsm (states.slot slot)) fc).2 then states.put slot reset else states) := by
  unfold clearSlot
  rw [read_of_lt _ h, ok_bind, write_of_lt _ _ h, ok_bind]
  cases (clearVerdict (fsm (states.slot slot)) fc).2 <;> rfl

/-- `CLEAR_FAULT` is in bounds for every type and target. -/
theorem cmdClearFault_eq (h : CountRules cfg) (core : Core) (ftype tid : Nat) :
    cmdClearFault cfg core ftype tid = .ok (ThermalCore.cmdClearFault cfg core ftype tid) := by
  unfold cmdClearFault ThermalCore.cmdClearFault
  by_cases hstall : ftype = FaultType.stall.code
  · rw [if_pos hstall, if_pos hstall, findActuatorSlot_eq h.actuators, ok_bind]
    cases hslot : ThermalCore.findActuatorSlot cfg tid with
    | none => rfl
    | some slot =>
        dsimp only
        rw [clearSlot_eq _ (Nat.lt_of_lt_of_le (Loop.first_eq_some hslot).1 h.actuators), ok_bind]
        unfold clearStall
        dsimp only
        cases (clearVerdict _ _).2 <;> rfl
  rw [if_neg hstall, if_neg hstall]
  by_cases hstuck : ftype = FaultType.stuckSensor.code
  · rw [if_pos hstuck, if_pos hstuck, findSensorSlot_eq h.sensors, ok_bind]
    cases hslot : ThermalCore.findSensorSlot cfg tid with
    | none => rfl
    | some slot =>
        dsimp only
        rw [clearSlot_eq _ (Nat.lt_of_lt_of_le (Loop.first_eq_some hslot).1 h.sensors), ok_bind]
        unfold clearStuckSensor
        dsimp only
        cases (clearVerdict _ _).2 <;> rfl
  rw [if_neg hstuck, if_neg hstuck]
  by_cases hrunaway : ftype = FaultType.runaway.code
  · rw [if_pos hrunaway, if_pos hrunaway]
    by_cases htid : tid ≥ cfg.zoneCount
    · rw [if_pos htid, if_pos htid]
    · rw [if_neg htid, if_neg htid,
        clearSlot_eq _ (Nat.lt_of_lt_of_le (Nat.lt_of_not_le htid) h.zones), ok_bind]
      unfold clearRunaway
      dsimp only
      cases (clearVerdict _ _).2 <;> rfl
  rw [if_neg hrunaway, if_neg hrunaway]
  by_cases hstale : ftype = FaultType.staleContext.code
  · rw [if_pos hstale, if_pos hstale, findContextSlot_eq h.contexts, ok_bind]
    cases hslot : ThermalCore.findContextSlot cfg tid with
    | none => rfl
    | some slot =>
        dsimp only
        rw [clearSlot_eq _ (Nat.lt_of_lt_of_le (Loop.first_eq_some hslot).1 h.contexts), ok_bind]
        unfold clearStaleContext
        dsimp only
        cases (clearVerdict _ _).2 <;> rfl
  rw [if_neg hstale, if_neg hstale]

end clear

/-! ## Dispatch -/

/-- The switch over the command's id. -/
def runCommand (cfg : Config) (core : Core) : Command → Exec ThermalStatus (ThermalStatus × Core)
  | .setPid z kp ki kd => cmdSetPid cfg core z kp ki kd
  | .setSetpoint z sp => cmdSetSetpoint cfg core z sp
  | .setTrip z t temp hyst => cmdSetTrip cfg core z t temp hyst
  | .setCurvePoint m p x v0 v1 => cmdSetCurvePoint cfg core m p ⟨x, v0, v1⟩
  | .clearFault ftype tid => cmdClearFault cfg core ftype tid
  | .unknown _ => .ok (.errInvalidArg, core)

/-- `thermal_core_apply_command`: the command, then the event about it. -/
def thermalCoreApplyCommand (cfg : Config) (cb : Callbacks) (core : Core) (nowMs : Nat)
    (cmd : Command) : Exec ThermalStatus CommandOutcome := do
  let r ← runCommand cfg core cmd
  .ok
    { result := ⟨r.1, 0⟩
      core := r.2
      calls := cb.log nowMs (if r.1 = .ok then .commandApplied else .commandRejected)
        cmd.commandId cmd.targetId r.1.code 0 }

/-- **Command**: on a safe core it does what the model does, whatever the command. -/
theorem thermalCoreApplyCommand_eq {cfg : Config} {core : Core} (hr : ConfigRules cfg)
    (hs : CoreSafe cfg core) (cb : Callbacks) (nowMs : Nat) (cmd : Command) :
    thermalCoreApplyCommand cfg cb core nowMs cmd =
      .ok (ThermalCore.thermalCoreApplyCommand cfg cb core nowMs cmd) := by
  have h := countRules hr
  have hrun : runCommand cfg core cmd = .ok (ThermalCore.runCommand cfg core cmd) := by
    cases cmd with
    | setPid z kp ki kd => exact cmdSetPid_eq h core z kp ki kd
    | setSetpoint z sp => exact cmdSetSetpoint_eq h hs z sp
    | setTrip z t temp hyst => exact cmdSetTrip_eq hr hs z t temp hyst
    | setCurvePoint m p x v0 v1 => exact cmdSetCurvePoint_eq hr hs m p ⟨x, v0, v1⟩
    | clearFault ftype tid => exact cmdClearFault_eq h core ftype tid
    | unknown _ => rfl
  unfold thermalCoreApplyCommand
  rw [hrun, ok_bind]
  rfl

/-! ## thermal_core_get_state -/

/-- A zone's entry in the state snapshot. -/
def zoneState (zc : ZoneCfg) (zr : ZoneRuntime) : Exec ThermalStatus ZoneState := do
  let ops ← governorOpsFor zc.governor
  .ok
    { tempMc := zr.tempMc
      activeTripMask := zr.activeTripMask
      coolingState := zr.coolingState
      aggregationValid := zr.aggregationValid
      effectiveSetpointMc :=
        match ops with
        | none => 0
        | some ops => ops.effectiveSetpoint zr }

/-- `faults[]` with its count. -/
abbrev FaultList := Buffer FaultSnapshot maxFaults

/-- One of the four loops; it stops once the list is full. -/
def listFaults [Inhabited α] (states : Vector α n) (count : Nat) (faultType : FaultType)
    (fsm : α → Fsm) (targetId : Nat → Exec ThermalStatus Nat) (faults : FaultList) :
    Exec ThermalStatus FaultList :=
  fold count faults fun faults i =>
    if faults.count < maxFaults then do
      let st ← read states i
      let id ← targetId i
      if (fsm st).state ≠ .normal then
        faults.push ⟨faultType, id, (fsm st).state, (fsm st).enteredTsMs⟩
      else .ok faults
    else .ok faults

/-- The id of an actuator's slot. -/
def actuatorId (cfg : Config) (i : Nat) : Exec ThermalStatus Nat := do
  let ac ← read cfg.actuators i
  .ok ac.id

/-- The id of a sensor's slot. -/
def sensorId (cfg : Config) (i : Nat) : Exec ThermalStatus Nat := do
  let sc ← read cfg.sensors i
  .ok sc.id

/-- The id of a context's slot. -/
def contextId (cfg : Config) (i : Nat) : Exec ThermalStatus Nat := do
  let cc ← read cfg.contexts i
  .ok cc.id

/-- The faults of all detectors, in the order of the source, into one array. -/
def activeFaults (cfg : Config) (core : Core) : Exec ThermalStatus FaultList := do
  let faults ← listFaults core.stallStates cfg.actuatorCount .stall StallState.fsm (actuatorId cfg)
    Buffer.empty
  let faults ← listFaults core.stuckSensorStates cfg.sensorCount .stuckSensor StuckSensorState.fsm
    (sensorId cfg) faults
  let faults ← listFaults core.runaways cfg.zoneCount .runaway (fun rr => rr.detector.fsm)
    Except.ok faults
  listFaults core.staleContextStates cfg.contextCount .staleContext StaleContextState.fsm
    (contextId cfg) faults

/-- `thermal_core_get_state`: the snapshot's arrays, filled to their counts. -/
def thermalCoreGetState (cfg : Config) (core : Core) : Exec ThermalStatus StateSnapshot := do
  let zones ← forSlots (default : Vector ZoneState maxZones) cfg.zoneCount fun i _ => do
    let zc ← read cfg.zones i
    let zr ← read core.zones i
    zoneState zc zr
  let actuators ← forSlots (default : Vector ActuatorState maxActuators) cfg.actuatorCount fun i _ => do
    let ar ← read core.actuators i
    .ok (actuatorState ar)
  let contexts ← forSlots (default : Vector ContextState maxContextSignals) cfg.contextCount fun i _ => do
    let cr ← read core.contexts i
    .ok ⟨cr.filter.filteredValue, cr.filter.valid,
      if cr.everValid then subU32 core.lastNowMs cr.lastValidMs else 0xFFFFFFFF⟩
  let modifiers ← forSlots (default : Vector ModifierState maxModifiers) cfg.modifierCount fun i _ => do
    let mr ← read core.modifiers i
    .ok ⟨i, mr.active, clampCap mr.pwmCap, mr.tripOffset⟩
  let faults ← activeFaults cfg core
  let anyOverride ← any cfg.actuatorCount fun a => do
    let ar ← read core.actuators a
    .ok ar.prevSafetyOverride
  .ok
    { nowMs := core.lastNowMs
      zones := zones
      zoneCount := cfg.zoneCount
      actuators := actuators
      actuatorCount := cfg.actuatorCount
      faults := faults.contents
      contexts := contexts
      contextCount := cfg.contextCount
      modifiers := modifiers
      modifierCount := cfg.modifierCount
      flags :=
        { anyFaultActive := faults.contents.any fun _ => true
          shutdownRequested := core.shutdownRequestLatched
          anyContextStale := faults.contents.any fun f => decide (f.faultType = .staleContext)
          anySafetyOverride := anyOverride } }

section getState

variable {cfg : Config}

/-- The list holds what it may hold of some entries. -/
structure FaultsAre (faults : FaultList) (entries : List FaultSnapshot) : Prop where
  room : faults.count ≤ maxFaults
  contents : faults.contents = entries.take maxFaults

/-- A fault goes into the array where there is room. -/
theorem FaultsAre.push {faults : FaultList} {entries : List FaultSnapshot} (h : FaultsAre faults entries)
    (hroom : faults.count < maxFaults) (x : FaultSnapshot) :
    FaultsAre (faults.append x) (entries ++ [x]) where
  room := hroom
  contents := by
    have hlen : entries.length < maxFaults := by
      have hcount := Buffer.length_contents (b := faults)
      rw [h.contents, List.length_take] at hcount
      omega
    rw [Buffer.contents_append _ hroom, h.contents, List.take_of_length_le (Nat.le_of_lt hlen),
      List.take_of_length_le (by rw [List.length_append, List.length_singleton]; exact hlen)]

/-- A full array drops what comes after. -/
theorem FaultsAre.full {faults : FaultList} {entries : List FaultSnapshot} (h : FaultsAre faults entries)
    (hfull : ¬faults.count < maxFaults) (more : List FaultSnapshot) :
    FaultsAre faults (entries ++ more) where
  room := h.room
  contents := by
    have hlen : maxFaults ≤ entries.length := by
      have hcount := Buffer.length_contents (b := faults)
      rw [h.contents, List.length_take] at hcount
      omega
    rw [h.contents, List.take_append_of_le_length hlen]

/-- A detector family appends its active entries as long as there is room. -/
theorem listFaults_spec [Inhabited α] (states : Vector α n) {count : Nat} (hc : count ≤ n)
    (faultType : FaultType) (fsm : α → Fsm) {targetId : Nat → Exec ThermalStatus Nat} {id : Nat → Nat}
    (hid : ∀ i < count, targetId i = .ok (id i)) {faults : FaultList} {entries : List FaultSnapshot}
    (h : FaultsAre faults entries) :
    ∃ faults', listFaults states count faultType fsm targetId faults = .ok faults' ∧
      FaultsAre faults' (entries ++ Loop.emit count fun i =>
        faultEntry faultType (id i) (fsm (states.slot i))) := by
  unfold listFaults
  induction count with
  | zero =>
      refine ⟨faults, rfl, ?_⟩
      rw [Loop.emit_zero, List.append_nil]
      exact h
  | succ count ih =>
      obtain ⟨mid, hmid, hinv⟩ := ih (Nat.le_of_succ_le hc) fun i hi => hid i (Nat.lt_succ_of_lt hi)
      rw [fold_succ, hmid, ok_bind, Loop.emit_succ, ← List.append_assoc]
      by_cases hroom : mid.count < maxFaults
      · rw [if_pos hroom, read_of_lt _ hc, ok_bind, hid count (Nat.lt_succ_self _), ok_bind]
        unfold faultEntry
        by_cases hactive : (fsm (states.slot count)).state ≠ .normal
        · rw [if_pos hactive, if_pos hactive, Buffer.push_of_lt _ hroom]
          exact ⟨_, rfl, hinv.push hroom _⟩
        · rw [if_neg hactive, if_neg hactive, List.append_nil]
          exact ⟨mid, rfl, hinv⟩
      · rw [if_neg hroom]
        exact ⟨mid, rfl, hinv.full hroom _⟩

/-- The array ends up with the first of the model's faults that fit. -/
theorem activeFaults_spec (h : CountRules cfg) (core : Core) :
    ∃ faults, activeFaults cfg core = .ok faults ∧
      FaultsAre faults (ThermalCore.activeFaults cfg core) := by
  have hempty : FaultsAre Buffer.empty [] := ⟨Nat.zero_le _, rfl⟩
  have hactuator (i : Nat) (hi : i < cfg.actuatorCount) :
      actuatorId cfg i = .ok (cfg.actuators.slot i).id := by
    unfold actuatorId
    rw [read_of_lt _ (Nat.lt_of_lt_of_le hi h.actuators), ok_bind]
  have hsensor (i : Nat) (hi : i < cfg.sensorCount) :
      sensorId cfg i = .ok (cfg.sensors.slot i).id := by
    unfold sensorId
    rw [read_of_lt _ (Nat.lt_of_lt_of_le hi h.sensors), ok_bind]
  have hcontext (i : Nat) (hi : i < cfg.contextCount) :
      contextId cfg i = .ok (cfg.contexts.slot i).id := by
    unfold contextId
    rw [read_of_lt _ (Nat.lt_of_lt_of_le hi h.contexts), ok_bind]
  obtain ⟨faults₁, h₁, hinv₁⟩ :=
    listFaults_spec core.stallStates h.actuators .stall StallState.fsm hactuator hempty
  obtain ⟨faults₂, h₂, hinv₂⟩ := listFaults_spec core.stuckSensorStates h.sensors .stuckSensor
    StuckSensorState.fsm hsensor hinv₁
  obtain ⟨faults₃, h₃, hinv₃⟩ := listFaults_spec core.runaways h.zones .runaway
    (fun rr => rr.detector.fsm) (fun _ _ => rfl) hinv₂
  obtain ⟨faults₄, h₄, hinv₄⟩ := listFaults_spec core.staleContextStates h.contexts .staleContext
    StaleContextState.fsm hcontext hinv₃
  refine ⟨faults₄, ?_, hinv₄⟩
  unfold activeFaults
  rw [h₁, ok_bind, h₂, ok_bind, h₃, ok_bind, h₄]

/-- **State read**: on any core it does what the model does. -/
theorem thermalCoreGetState_eq (h : CountRules cfg) (core : Core) :
    thermalCoreGetState cfg core = .ok (ThermalCore.thermalCoreGetState cfg core) := by
  obtain ⟨faults, hfaults, hinv⟩ := activeFaults_spec h core
  unfold thermalCoreGetState zoneState
  rw [forSlots_pure h.zones fun i _ hi => by
      have hlt := Nat.lt_of_lt_of_le hi h.zones
      rw [read_of_lt _ hlt, ok_bind, read_of_lt _ hlt, ok_bind, governorOpsFor_eq, ok_bind],
    ok_bind,
    forSlots_pure h.actuators fun i _ hi => by
      rw [read_of_lt _ (Nat.lt_of_lt_of_le hi h.actuators), ok_bind],
    ok_bind,
    forSlots_pure h.contexts fun i _ hi => by
      rw [read_of_lt _ (Nat.lt_of_lt_of_le hi h.contexts), ok_bind],
    ok_bind,
    forSlots_pure h.modifiers fun i _ hi => by
      rw [read_of_lt _ (Nat.lt_of_lt_of_le hi h.modifiers), ok_bind],
    ok_bind, hfaults, ok_bind,
    any_eq fun a ha => by rw [read_of_lt _ (Nat.lt_of_lt_of_le ha h.actuators), ok_bind],
    ok_bind, hinv.contents]
  rfl

end getState

end ThermalCore.Checked
