import ThermalCore.Checked.Sense

/-!
# thermal_core_step, steps 7 to 9, with every access checked

Arbitration, cap, detectors and overrides transcribed in `Exec`.  A zone's cooling
state indexes `state_pwm[]`; every other index is a loop variable below a
validated count, or a slot that a search has returned.

That the cooling state stays below `THERMAL_MAX_COOLING_STATES` is the one fact
about a step's own results: it comes from the trips, whose cooling states the
validator bounds.  The local array of demands never overflows, since each zone
adds at most one.  The detectors' loops write the slots they read.
-/

namespace ThermalCore.Checked

open MachineInt Exec

/-! ## Curves of the configuration -/

section curves

variable {cfg : Config}

/-- An actuator's linearization curve, where it has one, ascends. -/
theorem dutyLinearization_ascends (hr : ConfigRules cfg) {a : Nat} (ha : a < cfg.actuatorCount)
    (h0 : (cfg.actuators.slot a).dutyLinearizationCount > 0) :
    CurveAscends (cfg.actuators.slot a).dutyLinearization
      (cfg.actuators.slot a).dutyLinearizationCount := by
  have hv := (hr.actuator ha).linearization
  unfold ThermalCore.validateDutyLinearization at hv
  rw [if_pos (Nat.ne_of_gt h0)] at hv
  simp only [Check.bind_eq_ok, Check.each_eq_ok, Check.failIf_eq_ok, Check.ite_ok_eq_ok] at hv
  obtain ⟨hcount, hpoints, -, -⟩ := hv
  refine ⟨by omega, fun k hk hpos => ?_, fun k hk => ?_⟩
  · have hprev := (hpoints k hk).2 hpos
    omega
  · have hrange := (hpoints k hk).1
    unfold IsI32 i32Min i32Max
    omega

/-- The baseline of an enabled fan health block ascends. -/
theorem baseline_ascends (hr : ConfigRules cfg) {a : Nat} (ha : a < cfg.actuatorCount)
    (hen : (cfg.fanHealth.slot a).enable ≠ 0) :
    CurveAscends (cfg.fanHealth.slot a).baseline (cfg.fanHealth.slot a).baselineCount := by
  have hv := hr.fanHealth
  unfold ThermalCore.validateFanHealth at hv
  rw [Check.each_eq_ok] at hv
  have hslot := hv a ha
  unfold ThermalCore.validateFanHealthSlot at hslot
  rw [if_neg hen] at hslot
  simp only [Check.bind_eq_ok, Check.each_eq_ok, Check.failIf_eq_ok, Check.ite_ok_eq_ok] at hslot
  obtain ⟨-, -, hcount, -, hpoints, -⟩ := hslot
  refine ⟨by omega, fun k hk hpos => ?_, fun k hk => ?_⟩
  · have hprev := ((hpoints k hk).2.2 hpos).1
    omega
  · have hrange := (hpoints k hk).1
    unfold IsI32 i32Min i32Max
    omega

end curves

/-! ## Step 7 -/

/-- Whether a zone lists an actuator's id. -/
def refsActuator (zc : ZoneCfg) (id : Nat) : Exec ThermalStatus Bool :=
  any zc.actuatorCount fun k => do
    let aid ← read zc.actuatorIds k
    .ok (aid == id)

/-- A step zone's demand: the cooling state indexes `state_pwm[]`. -/
def governorDemandStep (zr : ZoneRuntime) (actuator : ActuatorCfg) : Exec ThermalStatus Nat :=
  read actuator.statePwm zr.coolingState

/-- A demand mapped through the actuator's linearization curve. -/
def linearizeDemand (actuator : ActuatorCfg) (demand : Nat) : Exec ThermalStatus Nat :=
  if actuator.dutyLinearizationCount > 0 then do
    let mapped ← curveEvalAxis actuator.dutyLinearization actuator.dutyLinearizationCount demand
      CurvePoint.value0
    let mapped := if mapped < 0 then 0 else mapped
    let mapped := if mapped > 255 then 255 else mapped
    .ok (toU8 mapped)
  else .ok demand

/-- A PID zone's demand: never below `state_pwm[]` at the floor state. -/
def governorDemandPid (zr : ZoneRuntime) (actuator : ActuatorCfg) : Exec ThermalStatus Nat := do
  let floor ← read actuator.statePwm zr.coolingState
  let demand ← linearizeDemand actuator zr.pwmThisTick
  .ok (if floor > demand then floor else demand)

/-- The call through the governor's function pointer. -/
def actuatorDemand (g : Governor) (zr : ZoneRuntime) (actuator : ActuatorCfg) :
    Exec ThermalStatus Nat :=
  match g with
  | .stepWise => governorDemandStep zr actuator
  | .pid => governorDemandPid zr actuator

/-- `demands[]` with its count. -/
abbrev Demands := Buffer Nat maxZones

/-- One iteration of the zone loop. -/
def demandZone (cfg : Config) (core : Core) (ac : ActuatorCfg) (demands : Demands) (z : Nat) :
    Exec ThermalStatus Demands := do
  let zc ← read cfg.zones z
  let referenced ← refsActuator zc ac.id
  if referenced then do
    let ops ← governorOpsFor zc.governor
    match ops with
    | none => demands.push 0
    | some ops => do
        let zr ← read core.zones z
        let d ← actuatorDemand ops zr ac
        demands.push d
  else .ok demands

/-- The demands of all zones that list the actuator, in a local array. -/
def actuatorDemands (cfg : Config) (core : Core) (a : Nat) : Exec ThermalStatus Demands := do
  let ac ← read cfg.actuators a
  fold cfg.zoneCount (Buffer.empty : Demands) (demandZone cfg core ac)

/-- `thermal_arbitrator_max_wins`: the greatest demand. -/
def thermalArbitratorMaxWins (demands : Demands) : Exec ThermalStatus Nat :=
  fold demands.count 0 fun winner i => do
    let d ← read demands.items i
    .ok (if d > winner then d else winner)

/-- Step 7: a request for each actuator. -/
def step7Arbitrate (cfg : Config) (p : Pass) : Exec ThermalStatus Pass := do
  let ticks ← forSlots p.ticks cfg.actuatorCount fun a t => do
    let demands ← actuatorDemands cfg p.core a
    let pwm ← thermalArbitratorMaxWins demands
    .ok { t with arbPwm := pwm }
  let actuators ← forSlots p.core.actuators cfg.actuatorCount fun a ar => do
    let t ← read ticks a
    .ok { ar with prevRequested := t.arbPwm }
  .ok { p with core := { p.core with actuators := actuators }, ticks := ticks }

section step7

variable {cfg : Config} {core : Core}

/-- The search of a zone's actuator list stays within the list. -/
theorem refsActuator_eq {zc : ZoneCfg} (hc : zc.actuatorCount ≤ maxActuatorsPerZone) (id : Nat) :
    refsActuator zc id = .ok (zc.refsActuator id) := by
  refine any_eq fun k hk => ?_
  rw [read_of_lt _ (Nat.lt_of_lt_of_le hk hc), ok_bind]

/-- The linearization is evaluated on an ascending curve. -/
theorem linearizeDemand_eq {ac : ActuatorCfg} (h : ac.dutyLinearizationCount > 0 →
    CurveAscends ac.dutyLinearization ac.dutyLinearizationCount) (demand : Nat) :
    linearizeDemand ac demand = .ok (ThermalCore.linearizeDemand ac demand) := by
  unfold linearizeDemand ThermalCore.linearizeDemand
  by_cases h0 : ac.dutyLinearizationCount > 0
  · rw [if_pos h0, if_pos h0, curveEvalAxis_eq (h h0), ok_bind]
    rfl
  · rw [if_neg h0, if_neg h0]

/-- A cooling state below the maximum indexes `state_pwm[]`. -/
theorem actuatorDemand_eq (g : Governor) {zr : ZoneRuntime} {ac : ActuatorCfg}
    (hcs : zr.coolingState < maxCoolingStates) (hcurve : ac.dutyLinearizationCount > 0 →
      CurveAscends ac.dutyLinearization ac.dutyLinearizationCount) :
    actuatorDemand g zr ac = .ok (g.actuatorDemand zr ac) := by
  cases g with
  | stepWise => exact read_of_lt _ hcs
  | pid =>
      unfold actuatorDemand governorDemandPid
      dsimp only
      rw [read_of_lt _ hcs, ok_bind, linearizeDemand_eq hcurve, ok_bind]
      rfl

/-- The demand a zone puts on an actuator, if it references it. -/
def zoneDemand (cfg : Config) (core : Core) (ac : ActuatorCfg) (z : Nat) : Option Nat :=
  if (cfg.zones.slot z).refsActuator ac.id then
    match ThermalCore.governorOpsFor (cfg.zones.slot z).governor with
    | none => some 0
    | some ops => some (ops.actuatorDemand (core.zones.slot z) ac)
  else none

/-- `demands[]` after the scan of the first `count` zones. -/
def demandsOf (cfg : Config) (core : Core) (ac : ActuatorCfg) (count : Nat) : Demands :=
  Loop.fold count (Buffer.empty : Demands) fun demands z =>
    match zoneDemand cfg core ac z with
    | none => demands
    | some d => demands.append d

/-- Not more than one demand a zone: the buffer has room for all. -/
theorem demandsOf_spec (cfg : Config) (core : Core) (ac : ActuatorCfg) {count : Nat} (hc : count ≤ maxZones) :
    (demandsOf cfg core ac count).count ≤ count ∧ (demandsOf cfg core ac count).contents =
      (List.range count).filterMap (zoneDemand cfg core ac) := by
  induction count with
  | zero => exact ⟨Nat.le_refl _, rfl⟩
  | succ count ih =>
      obtain ⟨hle, hcontents⟩ := ih (Nat.le_of_succ_le hc)
      have hstep : demandsOf cfg core ac (count + 1) = match zoneDemand cfg core ac count with
          | none => demandsOf cfg core ac count
          | some d => (demandsOf cfg core ac count).append d := Loop.fold_succ
      have hroom : (demandsOf cfg core ac count).count < maxZones := Nat.lt_of_le_of_lt hle hc
      rw [hstep, List.range_succ, List.filterMap_append, ← hcontents]
      cases hd : zoneDemand cfg core ac count with
      | none =>
          dsimp only
          exact ⟨Nat.le_succ_of_le hle, by simp [hd]⟩
      | some d =>
          dsimp only
          exact ⟨Nat.succ_le_succ hle, by rw [Buffer.contents_append _ hroom]; simp [hd]⟩

/-- A zone adds at most one demand, into an array that has room. -/
theorem demandZone_eq (hr : ConfigRules cfg) {ac : ActuatorCfg}
    (hcurve : ac.dutyLinearizationCount > 0 →
      CurveAscends ac.dutyLinearization ac.dutyLinearizationCount)
    {demands : Demands} (hroom : demands.count < maxZones) {z : Nat} (hz : z < cfg.zoneCount)
    (hcs : (core.zones.slot z).coolingState < maxCoolingStates) :
    demandZone cfg core ac demands z = .ok (match zoneDemand cfg core ac z with
      | none => demands
      | some d => demands.append d) := by
  have hlt := Nat.lt_of_lt_of_le hz (countRules hr).zones
  unfold demandZone zoneDemand
  rw [read_of_lt _ hlt, ok_bind, refsActuator_eq (hr.zone hz).actuatorCount.2, ok_bind]
  cases (cfg.zones.slot z).refsActuator ac.id with
  | false => rfl
  | true =>
      rw [if_pos rfl, if_pos rfl, governorOpsFor_eq, ok_bind]
      cases ThermalCore.governorOpsFor (cfg.zones.slot z).governor with
      | none => exact Buffer.push_of_lt _ hroom
      | some ops =>
          dsimp only
          rw [read_of_lt _ hlt, ok_bind, actuatorDemand_eq ops hcs hcurve, ok_bind,
            Buffer.push_of_lt _ hroom]

/-- The array of demands has a place for every zone. -/
theorem actuatorDemands_eq (hr : ConfigRules cfg)
    (hcs : ∀ z < cfg.zoneCount, (core.zones.slot z).coolingState < maxCoolingStates) {a : Nat}
    (ha : a < cfg.actuatorCount) :
    actuatorDemands cfg core a = .ok (demandsOf cfg core (cfg.actuators.slot a) cfg.zoneCount) := by
  have hcurve := dutyLinearization_ascends hr ha
  have hscan (count : Nat) (hc : count ≤ cfg.zoneCount) :
      fold count (Buffer.empty : Demands) (demandZone cfg core (cfg.actuators.slot a)) =
        .ok (demandsOf cfg core (cfg.actuators.slot a) count) := by
    induction count with
    | zero => rfl
    | succ count ih =>
        have hle := Nat.le_trans (Nat.le_of_succ_le hc) (countRules hr).zones
        have hroom := Nat.lt_of_le_of_lt (demandsOf_spec cfg core (cfg.actuators.slot a) hle).1
          (Nat.lt_of_lt_of_le hc (countRules hr).zones)
        rw [fold_succ, ih (Nat.le_of_succ_le hc), ok_bind, demandZone_eq hr hcurve hroom hc (hcs count hc)]
        unfold demandsOf
        rw [Loop.fold_succ]
  unfold actuatorDemands
  rw [read_of_lt _ (Nat.lt_of_lt_of_le ha hr.actuatorCount_le), ok_bind]
  exact hscan cfg.zoneCount (Nat.le_refl _)

/-- The maximum is taken over the demands collected. -/
theorem thermalArbitratorMaxWins_eq {demands : Demands} (hc : demands.count ≤ maxZones) :
    thermalArbitratorMaxWins demands =
      .ok (ThermalCore.thermalArbitratorMaxWins demands.contents) :=
  fold_read hc fun winner d => if d > winner then d else winner

/-- Every access of step 7 is in bounds. -/
theorem step7Arbitrate_eq (hr : ConfigRules cfg) {p : Pass}
    (hcs : ∀ z < cfg.zoneCount, (p.core.zones.slot z).coolingState < maxCoolingStates) :
    step7Arbitrate cfg p = .ok (ThermalCore.step7Arbitrate cfg p) := by
  have hle := hr.actuatorCount_le
  have hticks : (forSlots p.ticks cfg.actuatorCount fun a t => do
      let demands ← actuatorDemands cfg p.core a
      let pwm ← thermalArbitratorMaxWins demands
      .ok { t with arbPwm := pwm }) = .ok (ThermalCore.step7Arbitrate cfg p).ticks := by
    refine forSlots_pure hle fun a t ha => ?_
    obtain ⟨hcount, hcontents⟩ := demandsOf_spec cfg p.core (cfg.actuators.slot a)
      (countRules hr).zones
    rw [actuatorDemands_eq hr hcs ha, ok_bind,
      thermalArbitratorMaxWins_eq (Nat.le_trans hcount (countRules hr).zones), ok_bind, hcontents]
    rfl
  unfold step7Arbitrate
  rw [hticks, ok_bind, forSlots_eq (g := fun a ar => { ar with
      prevRequested := ThermalCore.thermalArbitratorMaxWins (ThermalCore.actuatorDemands cfg p.core a) })
    hle fun a ha => by
      rw [read_of_lt _ (Nat.lt_of_lt_of_le ha hle), ok_bind]
      congr 2
      exact congrArg ActuatorTick.arbPwm (Vector.slot_forSlots_lt _ _ hle ha),
    ok_bind]
  rfl

end step7

/-! ## Step 8 and the severity flags -/

/-- The highest severity among a zone's active trips. -/
def zoneMaxSeverity (zr : ZoneRuntime) (zc : ZoneCfg) : Exec ThermalStatus Nat :=
  fold zc.tripCount 0 fun maxSev t =>
    if zr.activeTripMask.testBit t then do
      let trip ← read zc.trips t
      .ok (if trip.severity > maxSev then trip.severity else maxSev)
    else .ok maxSev

/-- The highest severity among the zones that list an actuator. -/
def actuatorMaxSeverity (cfg : Config) (core : Core) (a : Nat) : Exec ThermalStatus Nat := do
  let ac ← read cfg.actuators a
  fold cfg.zoneCount 0 fun maxSev z => do
    let zc ← read cfg.zones z
    let referenced ← refsActuator zc ac.id
    if referenced then do
      let zr ← read core.zones z
      let s ← zoneMaxSeverity zr zc
      .ok (if s > maxSev then s else maxSev)
    else .ok maxSev

/-- The cap that the modifier puts on an actuator. -/
def pwmCapFor (cfg : Config) (core : Core) (ac : ActuatorCfg) : Exec ThermalStatus (Option Nat) :=
  if cfg.modifierCount > 0 then do
    let mr ← read core.modifiers 0
    let m ← read cfg.modifiers 0
    .ok (if mr.active = true ∧ m.hasStage .postGovernorPwmCap = true ∧ mr.pwmCap ≥ 0 ∧
        mr.pwmCap < ac.pwmMax then some (toU8 mr.pwmCap)
      else none)
  else .ok none

/-- Step 8: the cap, unless a severity stands above it. -/
def step8PwmCap (cfg : Config) (p : Pass) : Exec ThermalStatus Pass := do
  let ticks ← forSlots p.ticks cfg.actuatorCount fun a t => do
    let ac ← read cfg.actuators a
    let sev ← actuatorMaxSeverity cfg p.core a
    let cap ← pwmCapFor cfg p.core ac
    .ok (capTick sev cap t)
  .ok { p with ticks := ticks }

/-- The flags that a request's severity raises. -/
def stepSeverity (cfg : Config) (p : Pass) : Exec ThermalStatus Pass := do
  let ticks ← forSlots p.ticks cfg.actuatorCount fun _ t => .ok (severityTick t)
  .ok { p with ticks := ticks }

section step8

variable {cfg : Config}

/-- An active trip is a counted one. -/
theorem zoneMaxSeverity_eq (zr : ZoneRuntime) {zc : ZoneCfg} (hc : zc.tripCount ≤ maxTripsPerZone) :
    zoneMaxSeverity zr zc = .ok (ThermalCore.zoneMaxSeverity zr zc) := by
  refine fold_eq fun t maxSev ht => ?_
  rw [read_of_lt _ (Nat.lt_of_lt_of_le ht hc), ok_bind, ite_ok]

/-- The severity scan stays within the zones and their lists. -/
theorem actuatorMaxSeverity_eq (hr : ConfigRules cfg) (core : Core) {a : Nat}
    (ha : a < cfg.actuatorCount) :
    actuatorMaxSeverity cfg core a = .ok (ThermalCore.actuatorMaxSeverity cfg core a) := by
  unfold actuatorMaxSeverity
  rw [read_of_lt _ (Nat.lt_of_lt_of_le ha hr.actuatorCount_le), ok_bind]
  refine fold_eq fun z maxSev hz => ?_
  have hlt := Nat.lt_of_lt_of_le hz hr.zoneCount_le
  rw [read_of_lt _ hlt, ok_bind, refsActuator_eq (hr.zone hz).actuatorCount.2, ok_bind,
    read_of_lt _ hlt, ok_bind, zoneMaxSeverity_eq _ (hr.zone hz).tripCount, ok_bind, ite_ok]

/-- The first modifier is read only when there is one. -/
theorem pwmCapFor_eq (cfg : Config) (core : Core) (ac : ActuatorCfg) :
    pwmCapFor cfg core ac = .ok (ThermalCore.pwmCapFor cfg core ac) := by
  unfold pwmCapFor ThermalCore.pwmCapFor
  by_cases h0 : cfg.modifierCount > 0
  · rw [if_pos h0, read_of_lt _ (by decide), ok_bind, read_of_lt _ (by decide), ok_bind]
    simp only [h0, true_and]
  · rw [if_neg h0, if_neg fun h => h0 h.1]

/-- Every access of step 8 is in bounds. -/
theorem step8PwmCap_eq (hr : ConfigRules cfg) (p : Pass) :
    step8PwmCap cfg p = .ok (ThermalCore.step8PwmCap cfg p) := by
  unfold step8PwmCap
  rw [forSlots_pure hr.actuatorCount_le fun a t ha => by
    rw [read_of_lt _ (Nat.lt_of_lt_of_le ha hr.actuatorCount_le), ok_bind,
      actuatorMaxSeverity_eq hr _ ha, ok_bind, pwmCapFor_eq, ok_bind], ok_bind]
  rfl

/-- The severity flags are written for counted actuators. -/
theorem stepSeverity_eq (hc : cfg.actuatorCount ≤ maxActuators) (p : Pass) :
    stepSeverity cfg p = .ok (ThermalCore.stepSeverity cfg p) := by
  unfold stepSeverity
  rw [forSlots_pure hc fun _ _ _ => rfl, ok_bind]
  rfl

end step8

/-! ## Step 9: the loops over a zone's actuators -/

/-- The loop over the actuators a zone drives; an id that does not resolve is
skipped. -/
def forZoneActuators (cfg : Config) (zc : ZoneCfg) (acc : σ) (f : σ → Nat → Exec ThermalStatus σ) :
    Exec ThermalStatus σ :=
  fold zc.actuatorCount acc fun s k => do
    let aid ← read zc.actuatorIds k
    let slot ← findActuatorSlot cfg aid
    match slot with
    | none => .ok s
    | some slot => f s slot

/-- What a step keeps for each actuator until it drives it. -/
abbrev Ticks := Vector ActuatorTick maxActuators

/-- The duty that stands for a zone: the greatest of its actuators' requests. -/
def zoneRepPwm (cfg : Config) (ticks : Ticks) (zc : ZoneCfg) : Exec ThermalStatus Nat :=
  forZoneActuators cfg zc 0 fun rep slot => do
    let t ← read ticks slot
    .ok (if t.arbPwm > rep then t.arbPwm else rep)

/-- A zone's detector marks the zone's actuators. -/
def respondZone (kind : FaultType) (r : FaultResponse) (cfg : Config) (zc : ZoneCfg) (ticks : Ticks) :
    Exec ThermalStatus Ticks :=
  forZoneActuators cfg zc ticks fun ticks slot => edit ticks slot (ActuatorTick.respond kind r)

section zoneActuators

variable {cfg : Config} {zc : ZoneCfg}

/-- The slots the searches return are slots of actuators. -/
theorem forZoneActuators_eq (hc : zc.actuatorCount ≤ maxActuatorsPerZone)
    (ha : cfg.actuatorCount ≤ maxActuators) {acc : σ} {f : σ → Nat → Exec ThermalStatus σ}
    {g : σ → Nat → σ} (hf : ∀ s, ∀ a < maxActuators, f s a = .ok (g s a)) :
    forZoneActuators cfg zc acc f = .ok ((zoneActuatorSlots cfg zc).foldl g acc) := by
  have hbody (k : Nat) (s : σ) (hk : k < zc.actuatorCount) : (do
      let aid ← read zc.actuatorIds k
      let slot ← findActuatorSlot cfg aid
      match slot with
      | none => .ok s
      | some slot => f s slot : Exec ThermalStatus σ) =
      .ok (((ThermalCore.findActuatorSlot cfg (zc.actuatorIds.slot k)).map (g s)).getD s) := by
    rw [read_of_lt _ (Nat.lt_of_lt_of_le hk hc), ok_bind, findActuatorSlot_eq ha, ok_bind]
    cases hslot : ThermalCore.findActuatorSlot cfg (zc.actuatorIds.slot k) with
    | none => rfl
    | some slot => exact hf s slot (Nat.lt_of_lt_of_le (Loop.first_eq_some hslot).1 ha)
  unfold forZoneActuators
  rw [fold_eq hbody]
  congr 1
  unfold zoneActuatorSlots Loop.fold
  rw [List.foldl_filterMap]
  refine List.foldl_ext _ _ _ fun s k _ => ?_
  cases ThermalCore.findActuatorSlot cfg (zc.actuatorIds.slot k) <;> rfl

/-- A zone's actuators are reached by slots that a lookup returned. -/
theorem zoneRepPwm_eq (hc : zc.actuatorCount ≤ maxActuatorsPerZone)
    (ha : cfg.actuatorCount ≤ maxActuators) (ticks : Ticks) :
    zoneRepPwm cfg ticks zc = .ok (ThermalCore.zoneRepPwm cfg ticks zc) := by
  refine forZoneActuators_eq hc ha fun rep a hlt => ?_
  rw [read_of_lt _ hlt, ok_bind]

/-- Marking a zone's actuators writes counted slots only. -/
theorem respondZone_eq (hc : zc.actuatorCount ≤ maxActuatorsPerZone)
    (ha : cfg.actuatorCount ≤ maxActuators) (kind : FaultType) (r : FaultResponse) (ticks : Ticks) :
    respondZone kind r cfg zc ticks =
      .ok (respondSlots kind r (zoneActuatorSlots cfg zc) ticks) :=
  forZoneActuators_eq hc ha fun ticks _ hlt => edit_of_lt ticks _ hlt

end zoneActuators

/-! ## Step 9: stall -/

/-- The spin-up time in ticks: it divides by the control period. -/
def spinupTicks (cfg : Config) (ac : ActuatorCfg) : Exec ThermalStatus Nat :=
  if cfg.controlPeriodMs > 0 then do
    let quot ← div (u32 (ac.spinupMs + cfg.controlPeriodMs - 1)) cfg.controlPeriodMs
    .ok (u16 quot)
  else .ok 0

/-- The stall detectors' stage. -/
def stepStall (cfg : Config) (cb : Callbacks) (inp : InputSnapshot) (p : Pass) :
    Exec ThermalStatus Pass :=
  let fc := cfg.faults.stallDefaults
  if fc.enabled = 0 then .ok p
  else do
    let states ← forSlots p.core.stallStates cfg.actuatorCount fun a st => do
      let ac ← read cfg.actuators a
      let ar ← read p.core.actuators a
      let t ← read p.ticks a
      let spinup ← spinupTicks cfg ac
      .ok (thermalFaultStallStep st fc t.arbPwm ar.tachRpm ar.tachValid spinup inp.nowMs)
    let ticks ← forSlots p.ticks cfg.actuatorCount fun a t => do
      let st ← read states a
      .ok (t.respond .stall (detectorResponse st.fsm.state fc.action false))
    let calls ← emit cfg.actuatorCount fun a => do
      let prev ← read p.core.stallStates a
      let new ← read states a
      let ac ← read cfg.actuators a
      .ok (emitFaultTransition cb .stall ac.id prev.fsm.state new.fsm.state inp.nowMs ++
        emitShutdownRequest cb .stall ac.id prev.fsm.state new.fsm.state fc.action inp.nowMs)
    .ok { core := { p.core with stallStates := states }, ticks := ticks, calls := p.calls ++ calls }

section stall

variable {cfg : Config}

/-- The period is tested before it divides. -/
theorem spinupTicks_eq (cfg : Config) (ac : ActuatorCfg) :
    spinupTicks cfg ac = .ok (ThermalCore.spinupTicks cfg ac) := by
  unfold spinupTicks ThermalCore.spinupTicks
  by_cases h0 : cfg.controlPeriodMs > 0
  · rw [if_pos h0, if_pos h0, div_of_pos h0, ok_bind]
  · rw [if_neg h0, if_neg h0]

/-- The stall detectors' stage stays within the actuators. -/
theorem stepStall_eq (h : CountRules cfg) (cb : Callbacks) (inp : InputSnapshot) (p : Pass) :
    stepStall cfg cb inp p = .ok (ThermalCore.stepStall cfg cb inp p) := by
  have hlt {a : Nat} (ha : a < cfg.actuatorCount) := Nat.lt_of_lt_of_le ha h.actuators
  unfold stepStall ThermalCore.stepStall
  dsimp only
  split
  · rfl
  · rw [forSlots_pure h.actuators fun a _ ha => by
        rw [read_of_lt _ (hlt ha), ok_bind, read_of_lt _ (hlt ha), ok_bind, read_of_lt _ (hlt ha),
          ok_bind, spinupTicks_eq, ok_bind],
      ok_bind,
      forSlots_pure h.actuators fun a _ ha => by rw [read_of_lt _ (hlt ha), ok_bind],
      ok_bind,
      emit_eq fun a ha => by
        rw [read_of_lt _ (hlt ha), ok_bind, read_of_lt _ (hlt ha), ok_bind, read_of_lt _ (hlt ha),
          ok_bind],
      ok_bind]

end stall

/-! ## Step 9: runaway -/

/-- One zone's runaway detector and its count of latched ticks. -/
def runawayZoneStep (cb : Callbacks) (fc : FaultDetectorCfg) (rr : RunawayRuntime) (tempMc : Int)
    (repPwm nowMs : Nat) : Exec ThermalStatus RunawayRuntime := do
  let detector ← thermalFaultRunawayStep rr.detector fc tempMc repPwm nowMs
  let ticks := latchedActiveTicksNext fc detector.fsm rr.latchedActiveTicks
  .ok { detector := detector
        latchedActiveTicks := ticks
        escalatedShutdown :=
          faultStateActive detector.fsm.state &&
            (rr.escalatedShutdown || (runawayEscalates fc detector.fsm ticks && cb.logEvent)) }

/-- The runaway detectors' stage. -/
def stepRunaway (cfg : Config) (cb : Callbacks) (inp : InputSnapshot) (p : Pass) :
    Exec ThermalStatus Pass :=
  let fc := cfg.faults.runawayDefaults
  if fc.enabled = 0 then .ok p
  else do
    let runaways ← forSlots p.core.runaways cfg.zoneCount fun z rr => do
      let zc ← read cfg.zones z
      let zr ← read p.core.zones z
      let rep ← zoneRepPwm cfg p.ticks zc
      runawayZoneStep cb fc rr zr.tempMc rep inp.nowMs
    let ticks ← fold cfg.zoneCount p.ticks fun ticks z => do
      let zc ← read cfg.zones z
      let rr ← read runaways z
      respondZone .runaway (runawayResponse fc rr) cfg zc ticks
    let calls ← emit cfg.zoneCount fun z => do
      let prev ← read p.core.runaways z
      let new ← read runaways z
      .ok (runawayCalls cb fc z prev new inp.nowMs)
    .ok { core := { p.core with runaways := runaways }, ticks := ticks, calls := p.calls ++ calls }

section runaway

variable {cfg : Config}

/-- A ring head inside the ring keeps the zone's detector in bounds. -/
theorem runawayZoneStep_eq {rr : RunawayRuntime} (h : rr.detector.windowHead < faultRunawayWindowMax)
    (cb : Callbacks) (fc : FaultDetectorCfg) (tempMc : Int) (repPwm nowMs : Nat) :
    runawayZoneStep cb fc rr tempMc repPwm nowMs =
      .ok (ThermalCore.runawayZoneStep cb fc rr tempMc repPwm nowMs) := by
  unfold runawayZoneStep
  rw [thermalFaultRunawayStep_eq h, ok_bind]
  rfl

/-- The runaway detectors' stage is in bounds when every head is inside its ring. -/
theorem stepRunaway_eq (hr : ConfigRules cfg) (cb : Callbacks) (inp : InputSnapshot) {p : Pass}
    (hheads : ∀ z < cfg.zoneCount,
      (p.core.runaways.slot z).detector.windowHead < faultRunawayWindowMax) :
    stepRunaway cfg cb inp p = .ok (ThermalCore.stepRunaway cfg cb inp p) := by
  have hle := hr.zoneCount_le
  have hlt {z : Nat} (hz : z < cfg.zoneCount) := Nat.lt_of_lt_of_le hz hle
  have hids {z : Nat} (hz : z < cfg.zoneCount) := (hr.zone hz).actuatorCount.2
  have hrunaways : (forSlots p.core.runaways cfg.zoneCount fun z rr => do
      let zc ← read cfg.zones z
      let zr ← read p.core.zones z
      let rep ← zoneRepPwm cfg p.ticks zc
      runawayZoneStep cb cfg.faults.runawayDefaults rr zr.tempMc rep inp.nowMs) =
      .ok (p.core.runaways.forSlots cfg.zoneCount fun z rr =>
        ThermalCore.runawayZoneStep cb cfg.faults.runawayDefaults rr (p.core.zones.slot z).tempMc
          (ThermalCore.zoneRepPwm cfg p.ticks (cfg.zones.slot z)) inp.nowMs) := by
    refine forSlots_eq hle fun z hz => ?_
    rw [read_of_lt _ (hlt hz), ok_bind, read_of_lt _ (hlt hz), ok_bind,
      zoneRepPwm_eq (hids hz) hr.actuatorCount_le, ok_bind, runawayZoneStep_eq (hheads z hz)]
  unfold stepRunaway ThermalCore.stepRunaway
  dsimp only
  split
  · rfl
  · rw [hrunaways, ok_bind,
      fold_eq fun z ticks hz => by
        rw [read_of_lt _ (hlt hz), ok_bind, read_of_lt _ (hlt hz), ok_bind,
          respondZone_eq (hids hz) hr.actuatorCount_le],
      ok_bind,
      emit_eq fun z hz => by
        rw [read_of_lt _ (hlt hz), ok_bind, read_of_lt _ (hlt hz), ok_bind],
      ok_bind]

end runaway

/-! ## Step 9: stale context -/

/-- The stale-context detectors' stage. -/
def stepStaleContext (cfg : Config) (cb : Callbacks) (inp : InputSnapshot) (p : Pass) :
    Exec ThermalStatus Pass :=
  let fc := cfg.faults.staleContextDefaults
  if fc.enabled = 0 then .ok p
  else do
    let states ← forSlots p.core.staleContextStates cfg.contextCount fun c st => do
      let cr ← read p.core.contexts c
      let cc ← read cfg.contexts c
      .ok (thermalFaultStaleContextStep st fc (msSinceLastValid cr inp.nowMs) cc.timeoutMs inp.nowMs)
    let ticks ← fold cfg.contextCount p.ticks fun ticks c => do
      let st ← read states c
      fold cfg.actuatorCount ticks fun ticks a => edit ticks a
        (ActuatorTick.respond .staleContext (detectorResponse st.fsm.state fc.action false))
    let calls ← emit cfg.contextCount fun c => do
      let prev ← read p.core.staleContextStates c
      let new ← read states c
      let cc ← read cfg.contexts c
      .ok (emitFaultTransition cb .staleContext cc.id prev.fsm.state new.fsm.state inp.nowMs ++
        emitShutdownRequest cb .staleContext cc.id prev.fsm.state new.fsm.state fc.action inp.nowMs)
    .ok { core := { p.core with staleContextStates := states }, ticks := ticks,
          calls := p.calls ++ calls }

section staleContext

variable {cfg : Config}

/-- The stale-context detectors' stage stays within the context signals. -/
theorem stepStaleContext_eq (h : CountRules cfg) (cb : Callbacks) (inp : InputSnapshot) (p : Pass) :
    stepStaleContext cfg cb inp p = .ok (ThermalCore.stepStaleContext cfg cb inp p) := by
  have hlt {c : Nat} (hc : c < cfg.contextCount) := Nat.lt_of_lt_of_le hc h.contexts
  have hall (r : FaultResponse) (ticks : Ticks) : (fold cfg.actuatorCount ticks fun ticks a =>
      edit ticks a (ActuatorTick.respond .staleContext r) : Exec ThermalStatus Ticks) =
      .ok (respondSlots .staleContext r (List.range cfg.actuatorCount) ticks) :=
    fold_eq fun a ticks ha => edit_of_lt ticks _ (Nat.lt_of_lt_of_le ha h.actuators)
  unfold stepStaleContext ThermalCore.stepStaleContext
  dsimp only
  split
  · rfl
  · rw [forSlots_pure h.contexts fun c _ hc => by
        rw [read_of_lt _ (hlt hc), ok_bind, read_of_lt _ (hlt hc), ok_bind],
      ok_bind,
      fold_eq fun c ticks hc => by rw [read_of_lt _ (hlt hc), ok_bind, hall],
      ok_bind,
      emit_eq fun c hc => by
        rw [read_of_lt _ (hlt hc), ok_bind, read_of_lt _ (hlt hc), ok_bind, read_of_lt _ (hlt hc),
          ok_bind],
      ok_bind]

end staleContext

/-! ## Step 9: actions of the stuck-sensor detectors -/

/-- The actions of the stuck sensors on the actuators of their zones. -/
def stepStuckActions (cfg : Config) (p : Pass) : Exec ThermalStatus Pass :=
  let fc := cfg.faults.stuckSensorDefaults
  if fc.enabled = 0 then .ok p
  else do
    let ticks ← fold cfg.sensorCount p.ticks fun ticks s => do
      let st ← read p.core.stuckSensorStates s
      let sc ← read cfg.sensors s
      fold cfg.zoneCount ticks fun ticks z => do
        let zc ← read cfg.zones z
        let hit ← sensorIndex zc sc.id
        if hit.isSome then
          respondZone .stuckSensor (detectorResponse st.fsm.state fc.action false) cfg zc ticks
        else .ok ticks
    .ok { p with ticks := ticks }

/-- The stuck sensors' actions reach listed sensors and actuators only. -/
theorem stepStuckActions_eq {cfg : Config} (hr : ConfigRules cfg) (p : Pass) :
    stepStuckActions cfg p = .ok (ThermalCore.stepStuckActions cfg p) := by
  have h := countRules hr
  unfold stepStuckActions ThermalCore.stepStuckActions
  dsimp only
  split
  · rfl
  · rw [fold_eq fun s ticks hs => by
        have hlt := Nat.lt_of_lt_of_le hs h.sensors
        rw [read_of_lt _ hlt, ok_bind, read_of_lt _ hlt, ok_bind,
          fold_eq fun z ticks hz => by
            rw [read_of_lt _ (Nat.lt_of_lt_of_le hz h.zones), ok_bind,
              sensorIndex_eq (hr.zone hz).sensorCount.2, ok_bind,
              respondZone_eq (hr.zone hz).actuatorCount.2 h.actuators, ite_ok]],
      ok_bind]

/-! ## Step 9: shutdown and force -/

/-- `zone_max_severity(&core->zones[z], &cfg->zones[z])`. -/
def zoneSeverity (cfg : Config) (core : Core) (z : Nat) : Exec ThermalStatus Nat := do
  let zr ← read core.zones z
  let zc ← read cfg.zones z
  zoneMaxSeverity zr zc

/-- A shutdown request for each zone that has just reached the severity. -/
def stepZoneShutdown (cfg : Config) (cb : Callbacks) (inp : InputSnapshot) (p : Pass) :
    Exec ThermalStatus Pass := do
  let calls ← emit cfg.zoneCount fun z => do
    let sev ← zoneSeverity cfg p.core z
    let prev ← read p.core.prevZoneMaxSeverity z
    .ok (if sev ≥ TripSeverity.shutdown.code ∧ prev < TripSeverity.shutdown.code then
        cb.log inp.nowMs .shutdownRequest z sev 0 0
      else [])
  let latches ← any cfg.zoneCount fun z => do
    let sev ← zoneSeverity cfg p.core z
    .ok (decide (sev ≥ TripSeverity.shutdown.code))
  let sevs ← forSlots p.core.prevZoneMaxSeverity cfg.zoneCount fun z _ => zoneSeverity cfg p.core z
  .ok { p with
    core := { p.core with
      shutdownRequestLatched := p.core.shutdownRequestLatched || latches
      prevZoneMaxSeverity := sevs }
    calls := p.calls ++ calls }

/-- The latch over the actuators' marks. -/
def stepShutdownLatch (cfg : Config) (p : Pass) : Exec ThermalStatus Pass := do
  let latches ← any cfg.actuatorCount fun a => do
    let t ← read p.ticks a
    .ok t.shutdownAction
  .ok { p with
    core := { p.core with shutdownRequestLatched := p.core.shutdownRequestLatched || latches } }

/-- The forced duties, and the events about them. -/
def stepForceMax (cfg : Config) (cb : Callbacks) (inp : InputSnapshot) (p : Pass) :
    Exec ThermalStatus Pass := do
  let ticks ← forSlots p.ticks cfg.actuatorCount fun a t => do
    let ac ← read cfg.actuators a
    .ok (if t.forcePwmMax then { t with arbPwm := ac.pwmMax } else t)
  let calls ← emit cfg.actuatorCount fun a => do
    let t ← read p.ticks a
    let ar ← read p.core.actuators a
    let ac ← read cfg.actuators a
    .ok (if t.slewOverrideUp = true ∧ ar.prevSafetyOverride = false then
        cb.log inp.nowMs .safetyOverride ac.id t.maxZoneSev 0 0
      else [])
  .ok { p with ticks := ticks, calls := p.calls ++ calls }

section shutdown

variable {cfg : Config}

/-- The zones' shutdown requests read and write counted zones. -/
theorem stepZoneShutdown_eq (hr : ConfigRules cfg) (cb : Callbacks) (inp : InputSnapshot) (p : Pass) :
    stepZoneShutdown cfg cb inp p = .ok (ThermalCore.stepZoneShutdown cfg cb inp p) := by
  have hle := hr.zoneCount_le
  have hsev {z : Nat} (hz : z < cfg.zoneCount) : zoneSeverity cfg p.core z =
      .ok (ThermalCore.zoneMaxSeverity (p.core.zones.slot z) (cfg.zones.slot z)) := by
    have hlt := Nat.lt_of_lt_of_le hz hle
    unfold zoneSeverity
    rw [read_of_lt _ hlt, ok_bind, read_of_lt _ hlt, ok_bind,
      zoneMaxSeverity_eq _ (hr.zone hz).tripCount]
  unfold stepZoneShutdown
  rw [emit_eq fun z hz => by
      rw [hsev hz, ok_bind, read_of_lt _ (Nat.lt_of_lt_of_le hz hle), ok_bind],
    ok_bind,
    any_eq fun z hz => by rw [hsev hz, ok_bind],
    ok_bind,
    forSlots_pure hle fun z _ hz => hsev hz,
    ok_bind]
  rfl

/-- The latch reads counted actuators. -/
theorem stepShutdownLatch_eq (hc : cfg.actuatorCount ≤ maxActuators) (p : Pass) :
    stepShutdownLatch cfg p = .ok (ThermalCore.stepShutdownLatch cfg p) := by
  unfold stepShutdownLatch
  rw [any_eq fun a ha => by rw [read_of_lt _ (Nat.lt_of_lt_of_le ha hc), ok_bind], ok_bind]
  rfl

/-- The forced duties are written for counted actuators. -/
theorem stepForceMax_eq (hc : cfg.actuatorCount ≤ maxActuators) (cb : Callbacks) (inp : InputSnapshot)
    (p : Pass) : stepForceMax cfg cb inp p = .ok (ThermalCore.stepForceMax cfg cb inp p) := by
  have hlt {a : Nat} (ha : a < cfg.actuatorCount) := Nat.lt_of_lt_of_le ha hc
  unfold stepForceMax
  rw [forSlots_pure hc fun a _ ha => by rw [read_of_lt _ (hlt ha), ok_bind],
    ok_bind,
    emit_eq fun a ha => by
      rw [read_of_lt _ (hlt ha), ok_bind, read_of_lt _ (hlt ha), ok_bind, read_of_lt _ (hlt ha), ok_bind],
    ok_bind]
  rfl

end shutdown

/-! ## Fan health -/

/-- The fan health stage. -/
def stepFanHealth (cfg : Config) (p : Pass) : Exec ThermalStatus Pass := do
  let states ← forSlots p.core.fanHealthStates cfg.actuatorCount fun a fh => do
    let ac ← read cfg.actuators a
    let spinup ← spinupTicks cfg ac
    let fc ← read cfg.fanHealth a
    let ar ← read p.core.actuators a
    let t ← read p.ticks a
    thermalFanHealthStep fh fc ar.prevDuty ar.tachRpm ar.tachValid ar.prevSlewLimited
      (t.forcePwmMax || t.shutdownAction) spinup
  .ok { p with core := { p.core with fanHealthStates := states } }

/-- The fan health stage is in bounds: an enabled block has an ascending baseline. -/
theorem stepFanHealth_eq {cfg : Config} (hr : ConfigRules cfg) (p : Pass) :
    stepFanHealth cfg p = .ok (ThermalCore.stepFanHealth cfg p) := by
  have hle := hr.actuatorCount_le
  unfold stepFanHealth
  rw [forSlots_pure hle fun a fh ha => by
      have hlt := Nat.lt_of_lt_of_le ha hle
      rw [read_of_lt _ hlt, ok_bind, spinupTicks_eq, ok_bind, read_of_lt _ hlt, ok_bind,
        read_of_lt _ hlt, ok_bind, read_of_lt _ hlt, ok_bind,
        thermalFanHealthStep_eq (baseline_ascends hr ha)],
    ok_bind]
  rfl

end ThermalCore.Checked
