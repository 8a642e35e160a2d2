import ThermalCore.Sense

/-!
# Control loop, stuck-sensor pre-pass and step 6

The detector that runs before aggregation, so that it can take a sensor out of
its zones, and the zones themselves: aggregation with fallback, offset-adjusted
trips, governor.  From here on a stage also marks actuators and calls back to
the platform, so the stages work on a `Pass`.

Masks, aggregates and trips are local to the step in the source; here each is a function
of the core at that point, so that later modules can speak of them by name.
-/

namespace ThermalCore

open MachineInt

/-! ## The pass -/

/-- The per-actuator locals of `thermal_core_step`, one record for each entry of
the parallel arrays `arb_pwm[]`, `actuator_max_zone_sev[]`,
`modifier_cap_applied[]`, `slew_override_up[]`, and so on. -/
structure ActuatorTick where
  arbPwm : Nat
  maxZoneSev : Nat
  modifierCapApplied : Bool
  slewOverrideUp : Bool
  forcePwmMax : Bool
  shutdownAction : Bool
  causeStall : Bool
  causeRunaway : Bool
  causeStuck : Bool
  causeStale : Bool
deriving DecidableEq, Inhabited

/-- The state of one step in progress: the core, the per-actuator locals, and
the callbacks made so far. -/
structure Pass where
  core : Core
  ticks : Vector ActuatorTick maxActuators
  calls : List Call
deriving DecidableEq

def Pass.start (core : Core) : Pass := ⟨core, .replicate _ default, []⟩

/-! ## Detector events -/

def faultStateActive (state : FaultState) : Bool := decide (state ≠ .normal)

/-- `emit_fault_transition`: the event a change of state calls for. -/
def faultTransitionCode (prev new : FaultState) : Option EventCode :=
  if prev = new then none
  else if new = .recovering then some .faultRecovering
  else if new = .normal then some .faultClear
  else if prev = .normal then some .faultEnter
  else none

def emitFaultTransition (cb : Callbacks) (faultType : FaultType) (targetId : Nat)
    (prev new : FaultState) (nowMs : Nat) : List Call :=
  match faultTransitionCode prev new with
  | none => []
  | some code => cb.log nowMs code faultType.code targetId new.code 0

/-- The shutdown request of a detector that left NORMAL on this tick under the
action REQUEST_SHUTDOWN. -/
def emitShutdownRequest (cb : Callbacks) (faultType : FaultType) (targetId : Nat)
    (prev new : FaultState) (action nowMs : Nat) : List Call :=
  if prev = .normal ∧ faultStateActive new = true ∧ action = FaultAction.requestShutdown.code then
    cb.log nowMs .shutdownRequest targetId faultType.code 0 0
  else []

/-! ## Stuck-sensor pre-pass -/

/-- `correlated_context_valid` and `correlated_context_value`. -/
def correlatedContext (cfg : Config) (core : Core) : Bool × Int :=
  let fc := cfg.faults.stuckSensorDefaults
  if fc.correlatedContextId ≠ 0xFFFF then
    match findContextSlot cfg fc.correlatedContextId with
    | none => (false, 0)
    | some ctxSlot =>
        let f := (core.contexts.slot ctxSlot).filter
        (f.valid, f.filteredValue)
  else (false, 0)

def stuckSensorPrepass (cfg : Config) (cb : Callbacks) (inp : InputSnapshot) (p : Pass) : Pass :=
  let fc := cfg.faults.stuckSensorDefaults
  if fc.enabled = 0 then p
  else
    let ctx := correlatedContext cfg p.core
    let core :=
      { p.core with
        stuckSensorStates := p.core.stuckSensorStates.forSlots cfg.sensorCount fun s st =>
          let f := p.core.filters.slot s
          thermalFaultStuckSensorStep st fc f.filteredValue f.valid ctx.1 ctx.2 inp.nowMs }
    { p with
      core := core
      calls := p.calls ++ Loop.emit cfg.sensorCount fun s =>
        let prev := (p.core.stuckSensorStates.slot s).fsm.state
        let new := (core.stuckSensorStates.slot s).fsm.state
        let id := (cfg.sensors.slot s).id
        emitFaultTransition cb .stuckSensor id prev new inp.nowMs ++
          emitShutdownRequest cb .stuckSensor id prev new fc.action inp.nowMs }

/-- `zone_stuck_mask[z]`: the positions in the zone's sensor list whose sensor
is held stuck under the action USE_ZONE_FALLBACK. -/
def zoneStuckMask (cfg : Config) (core : Core) (z : Nat) : Nat :=
  let fc := cfg.faults.stuckSensorDefaults
  if fc.enabled = 0 then 0
  else
    Loop.fold cfg.sensorCount 0 fun mask s =>
      if faultStateActive (core.stuckSensorStates.slot s).fsm.state = true ∧
          fc.action = FaultAction.useZoneFallback.code then
        match (cfg.zones.slot z).sensorIndex (cfg.sensors.slot s).id with
        | none => mask
        | some k => mask ||| (1 <<< k)
      else mask

/-! ## Step 6: aggregation and governors -/

/-- The columns of `filter_values[]`, `filter_valid[]` and `weights[]`. -/
def zoneReadings (core : Core) (zc : ZoneCfg) (zr : ZoneRuntime) (stuckMask : Nat) : List Reading :=
  (List.range zc.sensorCount).map fun k =>
    let f := core.filters.slot (zr.sensorSlots.slot k)
    ⟨f.filteredValue, f.valid && !stuckMask.testBit k, zc.sensorWeightsQ16.slot k⟩

def zoneAggregate (cfg : Config) (core : Core) (z : Nat) : ZoneAggregateResult :=
  let zc := cfg.zones.slot z
  thermalZoneAggregate zc.aggregation
    (zoneReadings core zc (core.zones.slot z) (zoneStuckMask cfg core z)) zc.fallbackTempMc

/-- The runtime trips, shifted by the modifier's offset. -/
def tripsEff (zr : ZoneRuntime) (tripCount : Nat) (offsetMc : Int) : Vector TripCfg maxTripsPerZone :=
  if offsetMc ≠ 0 then
    zr.shadowTrips.forSlots tripCount fun _ t => { t with tempMc := i32 (t.tempMc + offsetMc) }
  else zr.shadowTrips

/-- One zone of step 6, given its aggregation result. -/
def zoneStep (zc : ZoneCfg) (agg : ZoneAggregateResult) (offsetMc : Int) (nowMs : Nat)
    (zr : ZoneRuntime) : ZoneRuntime :=
  let zr :=
    { zr with tempMc := agg.tempMc, aggregationValid := agg.valid, aggregationSeen := true }
  match governorOpsFor zc.governor with
  | none => zr
  | some ops => ops.evaluate zr zc (tripsEff zr zc.tripCount offsetMc) offsetMc nowMs

/-- The fallback enter and exit events of one zone. -/
def zoneFallbackCalls (cb : Callbacks) (z : Nat) (zc : ZoneCfg) (zr : ZoneRuntime)
    (agg : ZoneAggregateResult) (nowMs : Nat) : List Call :=
  if (!zr.aggregationSeen && !agg.valid) || (zr.aggregationSeen && zr.aggregationValid != agg.valid) then
    cb.log nowMs (if agg.valid then .zoneFallbackExit else .zoneFallbackEnter) z
      (toU32 zc.fallbackTempMc) 0 0
  else []

def step6Zones (cfg : Config) (cb : Callbacks) (inp : InputSnapshot) (p : Pass) : Pass :=
  { p with
    core := { p.core with
      zones := p.core.zones.forSlots cfg.zoneCount fun z zr =>
        zoneStep (cfg.zones.slot z) (zoneAggregate cfg p.core z) (tripOffsetMc cfg p.core)
          inp.nowMs zr }
    calls := p.calls ++ Loop.emit cfg.zoneCount fun z =>
      zoneFallbackCalls cb z (cfg.zones.slot z) (p.core.zones.slot z) (zoneAggregate cfg p.core z)
        inp.nowMs }

end ThermalCore
