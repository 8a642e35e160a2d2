import ThermalCore.Checked.Validate
import ThermalCore.IncrementalChecks

/-!
# thermal_core_step, steps 3 to 6, with every access checked

The preflight and the stages that end with every zone's temperature and trips,
transcribed in `Exec`.  Their accesses rest on the validated counts and on
`CoreSafe`, what a core keeps between calls.

The preflight runs on any snapshot, so its own tests must come before its reads:
the sample count is compared with the array's size first, and the pointer with
null.  The stages behind it index by loop variables below a validated count, by
slots that a lookup has returned, and by the sensor slots that init has cached.
-/

namespace ThermalCore.Checked

open MachineInt Exec
open Check (failIf)

/-! ## What the accesses of a step rest on -/

/-- The part of a core's state that is used as an index or as a divisor. -/
structure CoreSafe (cfg : Config) (core : Core) : Prop where
  sensorSlots : ∀ z < cfg.zoneCount, ∀ k < (cfg.zones.slot z).sensorCount,
    (core.zones.slot z).sensorSlots.slot k < maxSensors
  coolingStates : ∀ z < cfg.zoneCount, ∀ t < (cfg.zones.slot z).tripCount,
    ((core.zones.slot z).shadowTrips.slot t).coolingState < maxCoolingStates
  pidDt : ∀ z < cfg.zoneCount, ThermalCore.governorOpsFor (cfg.zones.slot z).governor = some .pid →
    0 < (core.zones.slot z).shadowPid.dtMinMs ∧ 0 < (core.zones.slot z).shadowPid.dtMaxMs
  curves : ∀ m < cfg.modifierCount,
    CurveAscends (core.modifiers.slot m).shadow.curve (core.modifiers.slot m).shadow.curveCount
  heads : ∀ z < cfg.zoneCount, (core.runaways.slot z).detector.windowHead < faultRunawayWindowMax

/-- An accepted configuration has its counts within their arrays. -/
theorem countRules {cfg : Config} (hr : ConfigRules cfg) : CountRules cfg :=
  (validateCounts_iff cfg).mp hr.counts

/-! ## Preflight -/

/-- The lookup that `thermal_core_step` makes for a sample's id, by its kind. -/
def sampleSlot (cfg : Config) (smp : Sample) : Exec ThermalStatus (Option Nat) :=
  if smp.kind = SampleKind.tempMc.code then findSensorSlot cfg smp.id
  else if smp.kind = SampleKind.tachRpm.code then findActuatorSlot cfg smp.id
  else if smp.kind = SampleKind.contextI32.code then findContextSlot cfg smp.id
  else .ok none

/-- `in->samples[i]`; NULL has no entry. -/
def readSample (inp : InputSnapshot) (i : Nat) : Exec ThermalStatus Sample :=
  match inp.samples with
  | none => .error (.fault .outOfBounds)
  | some v => read v i

/-- `seen[]` with its count. -/
abbrev Seen := Buffer Nat maxSamplesPerSnapshot

/-- One iteration of the scan. -/
def scanSample (cfg : Config) (seen : Seen) (smp : Sample) : Exec ThermalStatus Seen := do
  let slot ← sampleSlot cfg smp
  match slot with
  | none => test (.error .errInvalidArg)
  | some slot => do
      let duplicate ← any seen.count fun k => do
        let key ← read seen.items k
        .ok (key == sampleKey smp.kind slot)
      if duplicate then test (.error .errInvalidArg) else seen.push (sampleKey smp.kind slot)

/-- The preflight of `thermal_core_step`: samples are read only after their count has passed. -/
def preflightSnapshot (cfg : Config) (inp : InputSnapshot) : Exec ThermalStatus Unit := do
  test (failIf (inp.sampleCount > maxSamplesPerSnapshot) .errNoSpace)
  test (failIf (inp.sampleCount > 0 ∧ inp.samples.isNone = true) .errInvalidArg)
  let _ ← fold inp.sampleCount (Buffer.empty : Seen) fun seen s => do
    let smp ← readSample inp s
    scanSample cfg seen smp
  .ok ()

section preflight

variable {cfg : Config}

/-- The lookup of a sample's id stays within the counted entries. -/
theorem sampleSlot_eq (h : CountRules cfg) (smp : Sample) :
    sampleSlot cfg smp = .ok (ThermalCore.sampleSlot cfg smp) := by
  unfold sampleSlot ThermalCore.sampleSlot
  rw [findSensorSlot_eq h.sensors, findActuatorSlot_eq h.actuators, findContextSlot_eq h.contexts]
  simp only [ite_ok]

/-- Scanning the keys seen so far tells whether one of them is the new key. -/
theorem any_contents (seen : Seen) (key : Nat) (hc : seen.count ≤ maxSamplesPerSnapshot) :
    (any seen.count fun k => do
        let key' ← read seen.items k
        .ok (key' == key) : Exec ThermalStatus Bool) = .ok (decide (key ∈ seen.contents)) := by
  rw [any_eq fun k hk => by rw [read_of_lt _ (Nat.lt_of_lt_of_le hk hc), ok_bind]]
  congr 1
  rw [Bool.eq_iff_iff, Loop.any_iff, decide_eq_true_eq]
  unfold Buffer.contents
  simp only [List.mem_map, List.mem_range, beq_iff_eq]

/-- One iteration rejects the sample or keeps its key. -/
theorem scanSample_eq (h : CountRules cfg) {seen : Seen} (smp : Sample)
    (hroom : seen.count < maxSamplesPerSnapshot) :
    scanSample cfg seen smp =
      match ThermalCore.sampleSlot cfg smp with
      | none => test (.error .errInvalidArg)
      | some slot =>
          if sampleKey smp.kind slot ∈ seen.contents then test (.error .errInvalidArg)
          else .ok (seen.append (sampleKey smp.kind slot)) := by
  unfold scanSample
  rw [sampleSlot_eq h, ok_bind]
  cases ThermalCore.sampleSlot cfg smp with
  | none => rfl
  | some slot =>
      dsimp only
      rw [any_contents seen _ (Nat.le_of_lt hroom), ok_bind, Buffer.push_of_lt _ hroom]
      simp only [decide_eq_true_eq]

/-- The scan over the rest of the samples, `seen` holding the keys of the earlier
ones, is the model's. -/
theorem scanSample_foldlM (h : CountRules cfg) (smps : List Sample) (seen : Seen)
    (hroom : seen.count + smps.length ≤ maxSamplesPerSnapshot) :
    (smps.foldlM (scanSample cfg) seen >>= fun _ => .ok ()) =
      test (scanSamples cfg seen.contents smps) := by
  induction smps generalizing seen with
  | nil => rfl
  | cons smp rest ih =>
      rw [List.length_cons] at hroom
      have hlt : seen.count < maxSamplesPerSnapshot := by omega
      rw [List.foldlM_cons, scanSample_eq h smp hlt]
      unfold scanSamples
      cases ThermalCore.sampleSlot cfg smp with
      | none => rfl
      | some slot =>
          dsimp only
          by_cases hdup : sampleKey smp.kind slot ∈ seen.contents
          · rw [if_pos hdup, if_pos hdup]
            rfl
          · have hnext : (seen.append (sampleKey smp.kind slot)).count + rest.length ≤
                maxSamplesPerSnapshot := by
              show seen.count + 1 + rest.length ≤ maxSamplesPerSnapshot
              omega
            rw [if_neg hdup, if_neg hdup, ok_bind, ih _ hnext, Buffer.contents_append _ hlt]

/-- The preflight refuses what the model's refuses, on any snapshot, and reads nothing outside it.
-/
theorem preflightSnapshot_eq (h : CountRules cfg) (inp : InputSnapshot) :
    preflightSnapshot cfg inp = test (ThermalCore.preflightSnapshot cfg inp) := by
  obtain ⟨nowMs, sampleCount, samples⟩ := inp
  refine bind_test rfl fun _ hcount => bind_test rfl fun _ hnull => ?_
  have hle : sampleCount ≤ maxSamplesPerSnapshot := Nat.le_of_not_lt (Check.failIf_eq_ok.mp hcount)
  unfold InputSnapshot.entries readSample
  cases samples with
  | none =>
      have h0 : sampleCount = 0 := by simpa using Check.failIf_eq_ok.mp hnull
      subst h0
      rfl
  | some v =>
      have hroom : (Buffer.empty : Seen).count + v.toList.length ≤ maxSamplesPerSnapshot := by
        show 0 + v.toList.length ≤ maxSamplesPerSnapshot
        rw [Vector.length_toList, Nat.zero_add]
        exact hle
      dsimp only
      rw [fold_toList]
      exact scanSample_foldlM h v.toList Buffer.empty hroom

end preflight

/-! ## Steps 3 to 5 -/

/-- The search for the sample of a kind and an id. -/
def findSample (inp : InputSnapshot) (kind : SampleKind) (id : Nat) :
    Exec ThermalStatus (Option Sample) := do
  let hit ← first inp.sampleCount fun k => do
    let smp ← readSample inp k
    .ok (smp.kind == kind.code && smp.id == id)
  match hit with
  | none => .ok none
  | some k => do
      let smp ← readSample inp k
      .ok (some smp)

/-- Step 3: one filter for each sensor. -/
def step3SensorFilters (cfg : Config) (inp : InputSnapshot) (core : Core) :
    Exec ThermalStatus Core := do
  let filters ← forSlots core.filters cfg.sensorCount fun s f => do
    let sc ← read cfg.sensors s
    let smp ← findSample inp .tempMc sc.id
    .ok (thermalFilterStep f sc.iirAlphaQ16 (sampleValue smp) (decide (sampleValid smp ≠ 0)))
  .ok { core with filters := filters }

/-- The tachometer readings: one for each actuator. -/
def step3bTach (cfg : Config) (inp : InputSnapshot) (core : Core) : Exec ThermalStatus Core := do
  let actuators ← forSlots core.actuators cfg.actuatorCount fun a ar => do
    let ac ← read cfg.actuators a
    let smp ← findSample inp .tachRpm ac.id
    .ok { ar with tachRpm := clampTach (sampleValue smp), tachValid := sampleValid smp }
  .ok { core with actuators := actuators }

/-- Step 4: one filter for each context signal. -/
def step4ContextFilters (cfg : Config) (inp : InputSnapshot) (core : Core) :
    Exec ThermalStatus Core := do
  let contexts ← forSlots core.contexts cfg.contextCount fun c cr => do
    let cc ← read cfg.contexts c
    let smp ← findSample inp .contextI32 cc.id
    .ok (contextFilterStep cc smp inp.nowMs cr)
  .ok { core with contexts := contexts }

/-- The outputs of all modifiers and contexts are cleared, to the arrays' full size. -/
def clearModifierOutputs (core : Core) : Exec ThermalStatus Core := do
  let modifiers ← forSlots core.modifiers maxModifiers fun _ mr =>
    .ok { mr with active := false, pwmCap := 0, tripOffset := 0 }
  let contexts ← forSlots core.contexts maxContextSignals fun _ cr =>
    .ok { cr with failSafeActive := false, effectiveValue := 0 }
  .ok { core with modifiers := modifiers, contexts := contexts }

/-- Step 5: the only modifier reads the context that a lookup returns. -/
def step5ModifierEval (cfg : Config) (core : Core) : Exec ThermalStatus Core := do
  let core ← clearModifierOutputs core
  if cfg.modifierCount = 0 then .ok core
  else do
    let mr ← read core.modifiers 0
    let slot ← findContextSlot cfg mr.shadow.contextId
    match slot with
    | none => .ok core
    | some ctxSlot => do
        let cc ← read cfg.contexts ctxSlot
        let cr ← read core.contexts ctxSlot
        let ctx := effectiveContext cc cr
        let contexts ← edit core.contexts ctxSlot fun cr =>
          { cr with failSafeActive := ctx.2, effectiveValue := ctx.1 }
        let r ← thermalModifierEval mr.shadow ctx.1
        let modifiers ← edit core.modifiers 0 fun mr =>
          { mr with
            pwmCap := r.pwmCap
            tripOffset := r.tripOffsetMc
            active := decide (r.tripOffsetMc ≠ 0) || decide (r.pwmCap < 255) }
        .ok { core with contexts := contexts, modifiers := modifiers }

/-- Steps 3 to 5 in a row. -/
def senseCore (cfg : Config) (inp : InputSnapshot) (core : Core) : Exec ThermalStatus Core := do
  let core ← step3SensorFilters cfg inp core
  let core ← step3bTach cfg inp core
  let core ← step4ContextFilters cfg inp core
  step5ModifierEval cfg core

section sense

variable {cfg : Config} {inp : InputSnapshot} {core : Core}

/-- A snapshot whose announced samples are there to be read. -/
def Readable (inp : InputSnapshot) : Prop := inp.samples.isNone = true → inp.sampleCount = 0

/-- A snapshot that passed the preflight can be searched. -/
theorem readable_of_admissible (h : Admissible cfg inp) : Readable inp := by
  unfold Admissible ThermalCore.preflightSnapshot at h
  simp only [Check.bind_eq_ok, Check.failIf_eq_ok, not_and] at h
  intro hnone
  by_contra h0
  exact h.2.1 (Nat.pos_of_ne_zero h0) hnone

/-- The search stays within the samples. -/
theorem findSample_eq (h : Readable inp) (kind : SampleKind) (id : Nat) :
    findSample inp kind id = .ok (inp.find kind id) := by
  obtain ⟨nowMs, sampleCount, samples⟩ := inp
  unfold findSample InputSnapshot.find InputSnapshot.entries readSample
  cases samples with
  | none =>
      have h0 : sampleCount = 0 := h rfl
      subst h0
      rfl
  | some v =>
      dsimp only
      rw [first_eq fun k hk => by rw [read_of_lt _ hk, ok_bind], ok_bind, Vector.toList_eq_map_slot,
        List.find?_map]
      unfold Function.comp
      cases hhit : Loop.first sampleCount fun k =>
          (v.slot k).kind == kind.code && (v.slot k).id == id with
      | none =>
          unfold Loop.first at hhit
          rw [hhit]
          rfl
      | some k =>
          have hk := (Loop.first_eq_some hhit).1
          unfold Loop.first at hhit
          rw [hhit]
          dsimp only
          rw [read_of_lt _ hk, ok_bind]
          rfl

/-- The clearing loops run over the arrays' own sizes. -/
theorem clearModifierOutputs_eq (core : Core) :
    clearModifierOutputs core = .ok (ThermalCore.clearModifierOutputs core) := by
  unfold clearModifierOutputs
  rw [forSlots_pure (Nat.le_refl _) fun _ _ _ => rfl, ok_bind,
    forSlots_pure (Nat.le_refl _) fun _ _ _ => rfl, ok_bind]
  rfl

/-- Clearing the outputs keeps the runtime curves. -/
theorem shadow_clearModifierOutputs (core : Core) (m : Nat) :
    ((ThermalCore.clearModifierOutputs core).modifiers.slot m).shadow =
      (core.modifiers.slot m).shadow := by
  unfold ThermalCore.clearModifierOutputs
  dsimp only
  rw [Vector.slot_forSlots]
  split <;> rfl

/-- The runtime curve of the modifier ascends, so its evaluation is in bounds. -/
theorem step5ModifierEval_eq (h : CountRules cfg) (hcurves : ∀ m < cfg.modifierCount,
    CurveAscends (core.modifiers.slot m).shadow.curve (core.modifiers.slot m).shadow.curveCount) :
    step5ModifierEval cfg core = .ok (ThermalCore.step5ModifierEval cfg core) := by
  unfold step5ModifierEval ThermalCore.step5ModifierEval
  rw [clearModifierOutputs_eq, ok_bind]
  dsimp only
  by_cases h0 : cfg.modifierCount = 0
  · rw [if_pos h0, if_pos h0]
  · have hcurve := hcurves 0 (Nat.pos_of_ne_zero h0)
    rw [← shadow_clearModifierOutputs] at hcurve
    rw [if_neg h0, if_neg h0, read_of_lt _ (by decide), ok_bind, findContextSlot_eq h.contexts, ok_bind]
    generalize ThermalCore.clearModifierOutputs core = core at hcurve ⊢
    cases hslot : ThermalCore.findContextSlot cfg (core.modifiers.slot 0).shadow.contextId with
    | none => rfl
    | some ctxSlot =>
        have hlt : ctxSlot < maxContextSignals :=
          Nat.lt_of_lt_of_le (Loop.first_eq_some hslot).1 h.contexts
        dsimp only
        rw [read_of_lt _ hlt, ok_bind, read_of_lt _ hlt, ok_bind, edit_of_lt _ _ hlt, ok_bind,
          thermalModifierEval_eq hcurve, ok_bind, edit_of_lt _ _ (by decide), ok_bind]

/-- Step 3 stays within the sensors. -/
theorem step3SensorFilters_eq (h : CountRules cfg) (hin : Readable inp) (core : Core) :
    step3SensorFilters cfg inp core = .ok (ThermalCore.step3SensorFilters cfg inp core) := by
  unfold step3SensorFilters
  rw [forSlots_pure h.sensors fun s _ hs => by
    rw [read_of_lt _ (Nat.lt_of_lt_of_le hs h.sensors), ok_bind, findSample_eq hin, ok_bind], ok_bind]
  rfl

/-- The tachometer loop stays within the actuators. -/
theorem step3bTach_eq (h : CountRules cfg) (hin : Readable inp) (core : Core) :
    step3bTach cfg inp core = .ok (ThermalCore.step3bTach cfg inp core) := by
  unfold step3bTach
  rw [forSlots_pure h.actuators fun a _ ha => by
    rw [read_of_lt _ (Nat.lt_of_lt_of_le ha h.actuators), ok_bind, findSample_eq hin, ok_bind], ok_bind]
  rfl

/-- Step 4 stays within the context signals. -/
theorem step4ContextFilters_eq (h : CountRules cfg) (hin : Readable inp) (core : Core) :
    step4ContextFilters cfg inp core = .ok (ThermalCore.step4ContextFilters cfg inp core) := by
  unfold step4ContextFilters
  rw [forSlots_pure h.contexts fun c _ hc => by
    rw [read_of_lt _ (Nat.lt_of_lt_of_le hc h.contexts), ok_bind, findSample_eq hin, ok_bind], ok_bind]
  rfl

/-- Every access of steps 3 to 5 is in bounds. -/
theorem senseCore_eq (h : CountRules cfg) (hin : Readable inp) (hs : CoreSafe cfg core) :
    senseCore cfg inp core = .ok (ThermalCore.senseCore cfg inp core) := by
  unfold senseCore
  rw [step3SensorFilters_eq h hin, ok_bind, step3bTach_eq h hin, ok_bind, step4ContextFilters_eq h hin,
    ok_bind]
  exact step5ModifierEval_eq h hs.curves

/-- Steps 3 to 5 write nothing that is used as an index or a divisor later. -/
theorem CoreSafe.senseCore (hs : CoreSafe cfg core) :
    CoreSafe cfg (ThermalCore.senseCore cfg inp core) where
  sensorSlots z hz k hk := by
    rw [senseCore_core]
    exact hs.sensorSlots z hz k hk
  coolingStates z hz t ht := by
    rw [senseCore_core]
    exact hs.coolingStates z hz t ht
  pidDt z hz hops := by
    rw [senseCore_core]
    exact hs.pidDt z hz hops
  curves m hm := by
    rw [senseCore_shadow]
    exact hs.curves m hm
  heads z hz := by
    rw [senseCore_core]
    exact hs.heads z hz

end sense

/-! ## Stuck-sensor pre-pass -/

/-- The context that the stuck-sensor detector correlates with. -/
def correlatedContext (cfg : Config) (core : Core) : Exec ThermalStatus (Bool × Int) :=
  let fc := cfg.faults.stuckSensorDefaults
  if fc.correlatedContextId ≠ 0xFFFF then do
    let slot ← findContextSlot cfg fc.correlatedContextId
    match slot with
    | none => .ok (false, 0)
    | some ctxSlot => do
        let cr ← read core.contexts ctxSlot
        .ok (cr.filter.valid, cr.filter.filteredValue)
  else .ok (false, 0)

/-- The pre-pass over the stuck-sensor detectors. -/
def stuckSensorPrepass (cfg : Config) (cb : Callbacks) (inp : InputSnapshot) (p : Pass) :
    Exec ThermalStatus Pass :=
  let fc := cfg.faults.stuckSensorDefaults
  if fc.enabled = 0 then .ok p
  else do
    let ctx ← correlatedContext cfg p.core
    let states ← forSlots p.core.stuckSensorStates cfg.sensorCount fun s st => do
      let f ← read p.core.filters s
      .ok (thermalFaultStuckSensorStep st fc f.filteredValue f.valid ctx.1 ctx.2 inp.nowMs)
    let calls ← emit cfg.sensorCount fun s => do
      let prev ← read p.core.stuckSensorStates s
      let new ← read states s
      let sc ← read cfg.sensors s
      .ok (emitFaultTransition cb .stuckSensor sc.id prev.fsm.state new.fsm.state inp.nowMs ++
        emitShutdownRequest cb .stuckSensor sc.id prev.fsm.state new.fsm.state fc.action inp.nowMs)
    .ok { p with
      core := { p.core with stuckSensorStates := states }
      calls := p.calls ++ calls }

/-- The place of a sensor's id in a zone's list. -/
def sensorIndex (zc : ZoneCfg) (id : Nat) : Exec ThermalStatus (Option Nat) :=
  first zc.sensorCount fun k => do
    let sid ← read zc.sensorIds k
    .ok (sid == id)

/-- The bits of a zone's sensors that are stuck and excluded. -/
def zoneStuckMask (cfg : Config) (core : Core) (z : Nat) : Exec ThermalStatus Nat :=
  let fc := cfg.faults.stuckSensorDefaults
  if fc.enabled = 0 then .ok 0
  else
    fold cfg.sensorCount 0 fun mask s => do
      let st ← read core.stuckSensorStates s
      if faultStateActive st.fsm.state = true ∧ fc.action = FaultAction.useZoneFallback.code then do
        let zc ← read cfg.zones z
        let sc ← read cfg.sensors s
        let hit ← sensorIndex zc sc.id
        match hit with
        | none => .ok mask
        | some k => .ok (mask ||| (1 <<< k))
      else .ok mask

/-- `zone_stuck_mask[]`. -/
def zoneStuckMasks (cfg : Config) (core : Core) : Exec ThermalStatus (Vector Nat maxZones) :=
  forSlots (.replicate _ 0) cfg.zoneCount fun z _ => zoneStuckMask cfg core z

section prepass

variable {cfg : Config}

/-- The correlated context is indexed by a slot that a lookup returned. -/
theorem correlatedContext_eq (hc : cfg.contextCount ≤ maxContextSignals) (core : Core) :
    correlatedContext cfg core = .ok (ThermalCore.correlatedContext cfg core) := by
  unfold correlatedContext ThermalCore.correlatedContext
  dsimp only
  split
  · rw [findContextSlot_eq hc, ok_bind]
    cases hslot : ThermalCore.findContextSlot cfg
        cfg.faults.stuckSensorDefaults.correlatedContextId with
    | none => rfl
    | some ctxSlot =>
        have hlt := Nat.lt_of_lt_of_le (Loop.first_eq_some hslot).1 hc
        dsimp only
        rw [read_of_lt _ hlt, ok_bind]
  · rfl

/-- The pre-pass stays within the sensors. -/
theorem stuckSensorPrepass_eq (h : CountRules cfg) (cb : Callbacks) (inp : InputSnapshot)
    (p : Pass) :
    stuckSensorPrepass cfg cb inp p = .ok (ThermalCore.stuckSensorPrepass cfg cb inp p) := by
  unfold stuckSensorPrepass ThermalCore.stuckSensorPrepass
  dsimp only
  split
  · rfl
  · rw [correlatedContext_eq h.contexts, ok_bind,
      forSlots_pure h.sensors fun s _ hs => by
        rw [read_of_lt _ (Nat.lt_of_lt_of_le hs h.sensors), ok_bind],
      ok_bind,
      emit_eq fun s hs => by
        have hlt := Nat.lt_of_lt_of_le hs h.sensors
        rw [read_of_lt _ hlt, ok_bind, read_of_lt _ hlt, ok_bind, read_of_lt _ hlt, ok_bind],
      ok_bind]

/-- The search of a zone's list stays within the list. -/
theorem sensorIndex_eq {zc : ZoneCfg} (hc : zc.sensorCount ≤ maxSensorsPerZone) (id : Nat) :
    sensorIndex zc id = .ok (zc.sensorIndex id) := by
  refine first_eq fun k hk => ?_
  rw [read_of_lt _ (Nat.lt_of_lt_of_le hk hc), ok_bind]

/-- A mask reads the counted zones and sensors only. -/
theorem zoneStuckMask_eq (hr : ConfigRules cfg) (core : Core) {z : Nat} (hz : z < cfg.zoneCount) :
    zoneStuckMask cfg core z = .ok (ThermalCore.zoneStuckMask cfg core z) := by
  have h := countRules hr
  unfold zoneStuckMask ThermalCore.zoneStuckMask
  dsimp only
  split
  · rfl
  · refine fold_eq fun s mask hs => ?_
    have hlt := Nat.lt_of_lt_of_le hs h.sensors
    rw [read_of_lt _ hlt, ok_bind, read_of_lt _ (Nat.lt_of_lt_of_le hz h.zones), ok_bind,
      read_of_lt _ hlt, ok_bind, sensorIndex_eq (hr.zone hz).sensorCount.2, ok_bind]
    split
    · cases (cfg.zones.slot z).sensorIndex (cfg.sensors.slot s).id <;> rfl
    · rfl

/-- The masks of all zones are computed in bounds. -/
theorem zoneStuckMasks_eq (hr : ConfigRules cfg) (core : Core) :
    zoneStuckMasks cfg core = .ok ((Vector.replicate maxZones 0).forSlots cfg.zoneCount fun z _ =>
      ThermalCore.zoneStuckMask cfg core z) :=
  forSlots_pure (countRules hr).zones fun _ _ hz => zoneStuckMask_eq hr core hz

end prepass

/-! ## Step 6 -/

/-- The three local arrays of step 6, filled from the filters of the zone's sensors. -/
def zoneReadings (core : Core) (zc : ZoneCfg) (zr : ZoneRuntime) (stuckMask : Nat) :
    Exec ThermalStatus Readings :=
  forSlots default zc.sensorCount fun k _ => do
    let slot ← read zr.sensorSlots k
    let f ← read core.filters slot
    let weight ← read zc.sensorWeightsQ16 k
    .ok ⟨f.filteredValue, f.valid && !stuckMask.testBit k, weight⟩

/-- The zone's temperature from its sensors' filters. -/
def zoneAggregate (core : Core) (zc : ZoneCfg) (zr : ZoneRuntime) (stuckMask : Nat) :
    Exec ThermalStatus ZoneAggregateResult := do
  let readings ← zoneReadings core zc zr stuckMask
  thermalZoneAggregate zc.aggregation readings zc.sensorCount zc.fallbackTempMc

/-- The offset that the modifier puts on the trips. -/
def tripOffsetMc (cfg : Config) (core : Core) : Exec ThermalStatus Int :=
  if cfg.modifierCount > 0 then do
    let mr ← read core.modifiers 0
    .ok (if mr.active = true ∧ mr.shadow.hasStage .preGovernorTripOffset = true then mr.tripOffset
      else 0)
  else .ok 0

/-- The trips with the offset added, a copy of the runtime trips. -/
def tripsEff (zr : ZoneRuntime) (tripCount : Nat) (offsetMc : Int) :
    Exec ThermalStatus (Vector TripCfg maxTripsPerZone) :=
  if offsetMc ≠ 0 then
    forSlots zr.shadowTrips tripCount fun _ t => .ok { t with tempMc := i32 (t.tempMc + offsetMc) }
  else .ok zr.shadowTrips

/-- The step governor's evaluation. -/
def governorEvalStep (zr : ZoneRuntime) (zc : ZoneCfg) (trips : Vector TripCfg maxTripsPerZone) :
    Exec ThermalStatus ZoneRuntime := do
  let gr ← thermalGovernorStepWise zr.tempMc trips zc.tripCount zr.activeTripMask
  .ok { zr with
    activeTripMask := gr.activeTripMask
    coolingState := gr.coolingState
    pwmThisTick := 0
    effectiveSetpointMc := 0
    pidErrorMc := 0
    pidPTermQ16 := 0
    pidITermQ16 := 0
    pidDTermQ16 := 0 }

/-- The PID governor's evaluation. -/
def governorEvalPid (zr : ZoneRuntime) (zc : ZoneCfg) (trips : Vector TripCfg maxTripsPerZone)
    (tripOffsetMc : Int) (nowMs : Nat) : Exec ThermalStatus ZoneRuntime := do
  let setpointEff := i32 (zr.shadowPid.setpointMc + tripOffsetMc)
  let pr ← thermalPidStepFiltered zr.pid zr.shadowPid.kpQ16 zr.shadowPid.kiQ16 zr.shadowPid.kdQ16
    zr.shadowPid.dFilterAlphaQ16 setpointEff zr.tempMc nowMs zr.shadowPid.dtMinMs
    zr.shadowPid.dtMaxMs 0 255
  let gr ← thermalGovernorStepWise zr.tempMc trips zc.tripCount zr.activeTripMask
  let floor ← pidFloorState trips zc.tripCount gr.activeTripMask
  .ok { zr with
    pid := pr.1
    pwmThisTick := toU8 pr.2.outputPwm
    effectiveSetpointMc := setpointEff
    pidErrorMc := i32 (zr.tempMc - setpointEff)
    pidPTermQ16 := pr.2.pTermQ16
    pidITermQ16 := pr.2.iTermQ16
    pidDTermQ16 := pr.2.dTermQ16
    activeTripMask := gr.activeTripMask
    coolingState := floor }

/-- The call through the governor's function pointer. -/
def governorEvaluate (g : Governor) (zr : ZoneRuntime) (zc : ZoneCfg)
    (trips : Vector TripCfg maxTripsPerZone) (tripOffsetMc : Int) (nowMs : Nat) :
    Exec ThermalStatus ZoneRuntime :=
  match g with
  | .stepWise => governorEvalStep zr zc trips
  | .pid => governorEvalPid zr zc trips tripOffsetMc nowMs

/-- What step 6 does to one zone once its temperature is known. -/
def zoneStep (zc : ZoneCfg) (agg : ZoneAggregateResult) (offsetMc : Int) (nowMs : Nat)
    (zr : ZoneRuntime) : Exec ThermalStatus ZoneRuntime := do
  let zr :=
    { zr with tempMc := agg.tempMc, aggregationValid := agg.valid, aggregationSeen := true }
  let trips ← tripsEff zr zc.tripCount offsetMc
  let ops ← governorOpsFor zc.governor
  match ops with
  | none => .ok zr
  | some ops => governorEvaluate ops zr zc trips offsetMc nowMs

/-- Step 6: every zone in turn. -/
def step6Zones (cfg : Config) (cb : Callbacks) (inp : InputSnapshot) (p : Pass) :
    Exec ThermalStatus Pass := do
  let masks ← zoneStuckMasks cfg p.core
  let offset ← tripOffsetMc cfg p.core
  let zones ← forSlots p.core.zones cfg.zoneCount fun z zr => do
    let zc ← read cfg.zones z
    let mask ← read masks z
    let agg ← zoneAggregate p.core zc zr mask
    zoneStep zc agg offset inp.nowMs zr
  let calls ← emit cfg.zoneCount fun z => do
    let zc ← read cfg.zones z
    let zr ← read p.core.zones z
    let mask ← read masks z
    let agg ← zoneAggregate p.core zc zr mask
    .ok (zoneFallbackCalls cb z zc zr agg inp.nowMs)
  .ok { p with core := { p.core with zones := zones }, calls := p.calls ++ calls }

section step6

variable {cfg : Config} {core : Core}

/-- The sensor slots cached at init index the filters: aggregation is in bounds. -/
theorem zoneAggregate_eq (hr : ConfigRules cfg) (hs : CoreSafe cfg core) {z : Nat}
    (hz : z < cfg.zoneCount) :
    zoneAggregate core (cfg.zones.slot z) (core.zones.slot z)
        (ThermalCore.zoneStuckMask cfg core z) =
      .ok (ThermalCore.zoneAggregate cfg core z) := by
  have hcount := (hr.zone hz).sensorCount.2
  let column : Nat → Reading := fun k =>
    let f := core.filters.slot ((core.zones.slot z).sensorSlots.slot k)
    ⟨f.filteredValue, f.valid && !(ThermalCore.zoneStuckMask cfg core z).testBit k,
      (cfg.zones.slot z).sensorWeightsQ16.slot k⟩
  have hreadings : zoneReadings core (cfg.zones.slot z) (core.zones.slot z)
      (ThermalCore.zoneStuckMask cfg core z) =
      .ok ((default : Readings).forSlots (cfg.zones.slot z).sensorCount fun k _ => column k) := by
    refine forSlots_pure hcount fun k _ hk => ?_
    have hlt := Nat.lt_of_lt_of_le hk hcount
    rw [read_of_lt _ hlt, ok_bind, read_of_lt _ (hs.sensorSlots z hz k hk), ok_bind,
      read_of_lt _ hlt, ok_bind]
  have hlist : (List.range (cfg.zones.slot z).sensorCount).map
      ((default : Readings).forSlots (cfg.zones.slot z).sensorCount fun k _ => column k).slot =
      ThermalCore.zoneReadings core (cfg.zones.slot z) (core.zones.slot z)
        (ThermalCore.zoneStuckMask cfg core z) := by
    refine List.map_congr_left fun k hk => ?_
    rw [Vector.slot_forSlots_lt _ _ hcount (List.mem_range.mp hk)]
  unfold zoneAggregate ThermalCore.zoneAggregate
  rw [hreadings, ok_bind, thermalZoneAggregate_eq _ hcount, hlist]

/-- The first modifier is read only when there is one. -/
theorem tripOffsetMc_eq (cfg : Config) (core : Core) :
    tripOffsetMc cfg core = .ok (ThermalCore.tripOffsetMc cfg core) := by
  unfold tripOffsetMc ThermalCore.tripOffsetMc
  by_cases h0 : cfg.modifierCount > 0
  · rw [if_pos h0, read_of_lt _ (by decide), ok_bind]
    simp only [h0, true_and]
  · rw [if_neg h0, if_neg fun h => h0 h.1]

/-- The offset trips are a copy of as many entries as count. -/
theorem tripsEff_eq (zr : ZoneRuntime) {tripCount : Nat} (hc : tripCount ≤ maxTripsPerZone)
    (offsetMc : Int) :
    tripsEff zr tripCount offsetMc = .ok (ThermalCore.tripsEff zr tripCount offsetMc) := by
  unfold tripsEff
  rw [forSlots_pure hc fun _ _ _ => rfl, ite_ok]
  rfl

/-- Either governor is evaluated in bounds; the PID needs its period limits positive. -/
theorem governorEvaluate_eq (g : Governor) (zr : ZoneRuntime) {zc : ZoneCfg}
    (hc : zc.tripCount ≤ maxTripsPerZone) (trips : Vector TripCfg maxTripsPerZone) (offsetMc : Int)
    (nowMs : Nat) (hdt : g = .pid → 0 < zr.shadowPid.dtMinMs ∧ 0 < zr.shadowPid.dtMaxMs) :
    governorEvaluate g zr zc trips offsetMc nowMs = .ok (g.evaluate zr zc trips offsetMc nowMs) := by
  cases g with
  | stepWise =>
      unfold governorEvaluate governorEvalStep
      dsimp only
      rw [thermalGovernorStepWise_eq _ _ _ hc, ok_bind]
      rfl
  | pid =>
      obtain ⟨hmin, hmax⟩ := hdt rfl
      unfold governorEvaluate governorEvalPid
      dsimp only
      rw [thermalPidStepFiltered_eq _ _ _ _ _ _ _ _ _ _ hmin hmax, ok_bind,
        thermalGovernorStepWise_eq _ _ _ hc, ok_bind, pidFloorState_eq _ _ hc, ok_bind]
      rfl

/-- A zone's step is in bounds, with the period limits needed for a PID zone only. -/
theorem zoneStep_eq {zc : ZoneCfg} (hc : zc.tripCount ≤ maxTripsPerZone) {zr : ZoneRuntime}
    (hdt : ThermalCore.governorOpsFor zc.governor = some .pid →
      0 < zr.shadowPid.dtMinMs ∧ 0 < zr.shadowPid.dtMaxMs)
    (agg : ZoneAggregateResult) (offsetMc : Int) (nowMs : Nat) :
    zoneStep zc agg offsetMc nowMs zr = .ok (ThermalCore.zoneStep zc agg offsetMc nowMs zr) := by
  unfold zoneStep ThermalCore.zoneStep
  dsimp only
  rw [tripsEff_eq _ hc, ok_bind, governorOpsFor_eq, ok_bind]
  cases hops : ThermalCore.governorOpsFor zc.governor with
  | none => rfl
  | some ops =>
      dsimp only
      exact governorEvaluate_eq ops _ hc _ _ _ fun hpid => hdt (by rw [hops, hpid])

/-- Every access of step 6 is in bounds on a safe core. -/
theorem step6Zones_eq (hr : ConfigRules cfg) (cb : Callbacks) (inp : InputSnapshot) {p : Pass}
    (hs : CoreSafe cfg p.core) :
    step6Zones cfg cb inp p = .ok (ThermalCore.step6Zones cfg cb inp p) := by
  have h := countRules hr
  have hmask {z : Nat} (hz : z < cfg.zoneCount) :
      ((Vector.replicate maxZones 0).forSlots cfg.zoneCount fun z _ =>
        ThermalCore.zoneStuckMask cfg p.core z).slot z = ThermalCore.zoneStuckMask cfg p.core z :=
    Vector.slot_forSlots_lt _ _ h.zones hz
  unfold step6Zones
  rw [zoneStuckMasks_eq hr, ok_bind, tripOffsetMc_eq, ok_bind]
  generalize hm : ((Vector.replicate maxZones 0).forSlots cfg.zoneCount fun z _ =>
    ThermalCore.zoneStuckMask cfg p.core z) = masks at hmask ⊢
  have hzones : (forSlots p.core.zones cfg.zoneCount fun z zr => do
      let zc ← read cfg.zones z
      let mask ← read masks z
      let agg ← zoneAggregate p.core zc zr mask
      zoneStep zc agg (ThermalCore.tripOffsetMc cfg p.core) inp.nowMs zr :
        Exec ThermalStatus (Vector ZoneRuntime maxZones)) =
      .ok (ThermalCore.step6Zones cfg cb inp p).core.zones := by
    refine forSlots_eq h.zones fun z hz => ?_
    have hlt := Nat.lt_of_lt_of_le hz h.zones
    rw [read_of_lt _ hlt, ok_bind, read_of_lt _ hlt, ok_bind, hmask hz, zoneAggregate_eq hr hs hz,
      ok_bind, zoneStep_eq (hr.zone hz).tripCount (hs.pidDt z hz)]
  rw [hzones, ok_bind,
    emit_eq fun z hz => by
      have hlt := Nat.lt_of_lt_of_le hz h.zones
      rw [read_of_lt _ hlt, ok_bind, read_of_lt _ hlt, ok_bind, read_of_lt _ hlt, ok_bind, hmask hz,
        zoneAggregate_eq hr hs hz, ok_bind],
    ok_bind]
  rfl

/-- After step 6 the cooling state of every zone indexes `state_pwm[]`. -/
theorem coolingState_step6Zones_lt (hr : ConfigRules cfg) (cb : Callbacks) (inp : InputSnapshot)
    {p : Pass} (hs : CoreSafe cfg p.core) {z : Nat} (hz : z < cfg.zoneCount) :
    ((ThermalCore.step6Zones cfg cb inp p).core.zones.slot z).coolingState < maxCoolingStates := by
  obtain ⟨ops, hops⟩ := (hr.zone hz).ops
  have hzone : (ThermalCore.step6Zones cfg cb inp p).core.zones.slot z =
      ThermalCore.zoneStep (cfg.zones.slot z) (ThermalCore.zoneAggregate cfg p.core z)
        (ThermalCore.tripOffsetMc cfg p.core) inp.nowMs (p.core.zones.slot z) :=
    Vector.slot_forSlots_lt _ _ hr.zoneCount_le hz
  rw [hzone]
  unfold ThermalCore.zoneStep
  rw [hops]
  dsimp only
  obtain h0 | ⟨t, ht, hcs⟩ := evaluate_coolingState_cases ops
    { p.core.zones.slot z with
      tempMc := (ThermalCore.zoneAggregate cfg p.core z).tempMc
      aggregationValid := (ThermalCore.zoneAggregate cfg p.core z).valid
      aggregationSeen := true }
    (cfg.zones.slot z) (ThermalCore.tripsEff (p.core.zones.slot z) (cfg.zones.slot z).tripCount
      (ThermalCore.tripOffsetMc cfg p.core)) (ThermalCore.tripOffsetMc cfg p.core) inp.nowMs
  · exact Nat.lt_of_le_of_lt (Nat.le_of_eq h0) (by decide)
  · refine Nat.lt_of_le_of_lt (Nat.le_of_eq hcs) ?_
    unfold ThermalCore.tripsEff
    split
    · rw [Vector.slot_forSlots_lt _ _ (hr.zone hz).tripCount ht]
      exact hs.coolingStates z hz t ht
    · exact hs.coolingStates z hz t ht

end step6

end ThermalCore.Checked
