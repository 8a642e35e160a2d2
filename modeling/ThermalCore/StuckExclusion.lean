import ThermalCore.Comparison
import ThermalCore.ClearGate

/-!
# Excluding a stuck sensor

Under the action USE_ZONE_FALLBACK the pre-pass masks a sensor whose detector is
not NORMAL out of every zone.  It masks the first position the zone lists the
sensor at.  A zone that lists a sensor once does not see an excluded sensor: its
temperature is independent of that sensor's sample.  The validator also lets a
zone list a sensor twice, and then the second position stays in.

Two snapshots that differ in the stuck sensor's sample only are compared through a
step.  Zones that list the sensor once, or not at all, get the same temperature.
-/

namespace ThermalCore

open MachineInt Check

/-! ## Aggregation without the invalid readings -/

/-- Two columns aggregation cannot tell apart: an invalid one only counts as
invalid. -/
structure SameReading (r r' : Reading) : Prop where
  valid : r.valid = r'.valid
  weight : r.weightQ16 = r'.weightQ16
  value : r.valid = true → r.value = r'.value

/-- A loop over two lists of such columns that skips the invalid ones. -/
theorem foldl_sameReading {σ : Type*} {body : σ → Reading → σ} {rs rs' : List Reading}
    (hskip : ∀ acc r, r.valid = false → body acc r = acc)
    (h : List.Forall₂ SameReading rs rs') (acc : σ) : rs.foldl body acc = rs'.foldl body acc := by
  induction h generalizing acc with
  | nil => rfl
  | @cons r r' _ _ hr _ ih =>
      rw [List.foldl_cons, List.foldl_cons]
      cases hv : r.valid with
      | false =>
          rw [hskip acc r hv, hskip acc r' (hr.valid ▸ hv)]
          exact ih acc
      | true =>
          have heq : r = r' := by
            obtain ⟨value, valid, weight⟩ := r
            obtain ⟨value', valid', weight'⟩ := r'
            obtain ⟨hvalid, hweight, hvalue⟩ := hr
            dsimp only at hv hvalid hweight hvalue
            rw [hvalid, hweight, hvalue hv]
          rw [heq]
          exact ih _

theorem thermalZoneAggregate_sameReading (mode : Nat) {rs rs' : List Reading} (fallback : Int)
    (h : List.Forall₂ SameReading rs rs') :
    thermalZoneAggregate mode rs fallback = thermalZoneAggregate mode rs' fallback := by
  have hmax : aggMax rs = aggMax rs' := foldl_sameReading (by simp +contextual) h none
  have hsum : aggSum rs = aggSum rs' := foldl_sameReading (by simp +contextual) h (0, 0)
  have hweighted : aggWeighted rs = aggWeighted rs' :=
    foldl_sameReading (by simp +contextual) h (0, 0)
  unfold thermalZoneAggregate
  rw [hmax, hsum, hweighted]

/-! ## The mask -/

/-- The detector of a sensor is not NORMAL. -/
def Stuck (core : Core) (s : Nat) : Prop := (core.stuckSensorStates.slot s).fsm.state ≠ .normal

instance (core : Core) (s : Nat) : Decidable (Stuck core s) := inferInstanceAs (Decidable (_ ≠ _))

/-- The pre-pass takes stuck sensors out of their zones. -/
def ExcludesStuck (cfg : Config) : Prop :=
  cfg.faults.stuckSensorDefaults.enabled ≠ 0 ∧
    cfg.faults.stuckSensorDefaults.action = FaultAction.useZoneFallback.code

/-- The zone lists a sensor at most once. -/
def ZoneCfg.ListsOnce (zc : ZoneCfg) (id : Nat) : Prop :=
  ∀ j < zc.sensorCount, ∀ k < zc.sensorCount,
    zc.sensorIds.slot j = id → zc.sensorIds.slot k = id → j = k

instance (zc : ZoneCfg) (id : Nat) : Decidable (zc.ListsOnce id) :=
  inferInstanceAs (Decidable (∀ j < _, ∀ k < _, _ → _ → j = k))

theorem ZoneCfg.ListsOnce.sensorIndex {zc : ZoneCfg} {id k : Nat} (h : zc.ListsOnce id)
    (hk : k < zc.sensorCount) (hid : zc.sensorIds.slot k = id) : zc.sensorIndex id = some k := by
  refine Loop.first_eq_of_unique hk (by simpa using hid) fun j hj hjid => ?_
  exact h j hj k hk (by simpa using hjid) hid

/-- **What is masked**: the first position of each excluded sensor. -/
theorem testBit_zoneStuckMask {cfg : Config} (hex : ExcludesStuck cfg) (core : Core) (z k : Nat) :
    (zoneStuckMask cfg core z).testBit k = true ↔
      ∃ s < cfg.sensorCount, Stuck core s ∧
        (cfg.zones.slot z).sensorIndex (cfg.sensors.slot s).id = some k := by
  unfold zoneStuckMask
  dsimp only
  rw [if_neg hex.1, Loop.fold_or (P := fun mask => Nat.testBit mask k = true)
    (Q := fun s => Stuck core s ∧ (cfg.zones.slot z).sensorIndex (cfg.sensors.slot s).id = some k)]
  · simp
  · intro s mask _
    have hactive : faultStateActive (core.stuckSensorStates.slot s).fsm.state = true ↔ Stuck core s := by
      simp [faultStateActive, Stuck]
    by_cases hstuck : Stuck core s
    · rw [if_pos ⟨hactive.mpr hstuck, hex.2⟩]
      cases hindex : (cfg.zones.slot z).sensorIndex (cfg.sensors.slot s).id with
      | none => simp
      | some j => simp [hstuck, Nat.testBit_or, Nat.one_shiftLeft, Nat.testBit_two_pow]
    · rw [if_neg fun h => hstuck (hactive.mp h.1)]
      simp [hstuck]

/-! ## Two snapshots -/

/-- Two samples of one signal; the value may differ in a temperature of the sensor. -/
structure SameButValue (sensor : Nat) (x y : Sample) : Prop where
  id : x.id = y.id
  kind : x.kind = y.kind
  valid : x.valid = y.valid
  value : ¬(x.kind = SampleKind.tempMc.code ∧ x.id = sensor) → x.value = y.value

/-- Two snapshots that differ only in the value of one sensor's sample. -/
structure SameButSensor (sensor : Nat) (inp inp' : InputSnapshot) : Prop where
  nowMs : inp.nowMs = inp'.nowMs
  sampleCount : inp.sampleCount = inp'.sampleCount
  null : inp.samples.isNone = inp'.samples.isNone
  entries : List.Forall₂ (SameButValue sensor) inp.entries inp'.entries

theorem SameButSensor.find_eq {sensor : Nat} {inp inp' : InputSnapshot}
    (h : SameButSensor sensor inp inp') {kind : SampleKind} {id : Nat}
    (hother : ¬(kind = .tempMc ∧ id = sensor)) : inp.find kind id = inp'.find kind id := by
  have hentries := h.entries
  unfold InputSnapshot.find
  generalize inp.entries = xs at hentries ⊢
  generalize inp'.entries = ys at hentries ⊢
  induction hentries with
  | nil => rfl
  | @cons x y _ _ hxy _ ih =>
      rw [List.find?_cons, List.find?_cons, ← hxy.kind, ← hxy.id, ih]
      split
      · next heq =>
          simp only [Bool.and_eq_true, beq_iff_eq] at heq
          have hvalue : x.value = y.value := by
            refine hxy.value fun hthis => hother ⟨?_, heq.2.symm.trans hthis.2⟩
            rw [heq.1] at hthis
            cases kind <;> simp [SampleKind.code] at hthis ⊢
          obtain ⟨xid, xkind, xvalid, xvalue⟩ := x
          obtain ⟨yid, ykind, yvalid, yvalue⟩ := y
          obtain ⟨rfl, rfl, rfl, -⟩ := hxy
          rw [show xvalue = yvalue from hvalue]
      · rfl

section step

variable {cfg : Config} {cb : Callbacks} {inp inp' : InputSnapshot} {core : Core} {s : Nat}

/-- What step 6 reads of a core, apart from the zones, when sensor `s` does not count. -/
structure AgreeBut (cfg : Config) (s : Nat) (core core' : Core) : Prop where
  filters : ∀ t < cfg.sensorCount, t ≠ s → core.filters.slot t = core'.filters.slot t
  stuck : ∀ t < cfg.sensorCount, t ≠ s → core.stuckSensorStates.slot t = core'.stuckSensorStates.slot t
  zones : core.zones = core'.zones

/-- The pre-pass on the two snapshots. -/
theorem prepassCore_agreeBut (hr : ConfigRules cfg) (hs : s < cfg.sensorCount)
    (h : SameButSensor (cfg.sensors.slot s).id inp inp') :
    AgreeBut cfg s (prepassCore cfg cb inp core) (prepassCore cfg cb inp' core) := by
  have hcount : cfg.sensorCount ≤ maxSensors := ((validateCounts_iff cfg).mp hr.counts).sensors
  have hctx : (senseCore cfg inp core).contexts = (senseCore cfg inp' core).contexts :=
    (senseCore_shared h.nowMs (fun c _ => h.find_eq (by simp)) rfl rfl).1
  have hfilters : ∀ t < cfg.sensorCount, t ≠ s →
      (senseCore cfg inp core).filters.slot t = (senseCore cfg inp' core).filters.slot t := by
    intro t ht hne
    have hid : (cfg.sensors.slot t).id ≠ (cfg.sensors.slot s).id :=
      fun heq => hne (hr.sensor_ids t ht s hs heq)
    rw [senseCore_core cfg inp core, senseCore_core cfg inp' core]
    unfold step3SensorFilters
    dsimp only
    rw [Vector.slot_forSlots_lt _ _ hcount ht, Vector.slot_forSlots_lt _ _ hcount ht,
      h.find_eq fun heq => hid heq.2]
  refine ⟨fun t ht hne => ?_, fun t ht hne => ?_, ?_⟩
  · rw [prepassCore_eq cfg cb inp core, prepassCore_eq cfg cb inp' core]
    exact hfilters t ht hne
  · have hcorrelated : correlatedContext cfg (senseCore cfg inp core) =
        correlatedContext cfg (senseCore cfg inp' core) := by
      unfold correlatedContext
      rw [hctx]
    unfold prepassCore
    rw [slot_stuckSensorPrepass_states hcount ht, slot_stuckSensorPrepass_states hcount ht]
    unfold Pass.start
    dsimp only
    rw [senseCore_stuckSensorStates, senseCore_stuckSensorStates, hfilters t ht hne, hcorrelated,
      h.nowMs]
  · rw [prepassCore_eq cfg cb inp core, prepassCore_eq cfg cb inp' core, senseCore_core,
      senseCore_core cfg inp' core]

/-- With `s` excluded in both, the two masks are equal. -/
theorem zoneStuckMask_agreeBut {core core' : Core} (hex : ExcludesStuck cfg)
    (h : AgreeBut cfg s core core') (hstuck : Stuck core s) (hstuck' : Stuck core' s) (z : Nat) :
    zoneStuckMask cfg core z = zoneStuckMask cfg core' z := by
  have hsame : ∀ t < cfg.sensorCount, (Stuck core t ↔ Stuck core' t) := by
    intro t ht
    by_cases hts : t = s
    · rw [hts]
      exact iff_of_true hstuck hstuck'
    · unfold Stuck
      rw [h.stuck t ht hts]
  apply Nat.eq_of_testBit_eq
  intro k
  rw [Bool.eq_iff_iff, testBit_zoneStuckMask hex, testBit_zoneStuckMask hex]
  grind

/-- **Aggregation does not see an excluded sensor** the zone lists once. -/
theorem zoneAggregate_agreeBut {core core' : Core} (hr : ConfigRules cfg) (hshadow : ShadowInv cfg core)
    (hex : ExcludesStuck cfg) (h : AgreeBut cfg s core core') (hs : s < cfg.sensorCount)
    (hstuck : Stuck core s) (hstuck' : Stuck core' s) {z : Nat} (hz : z < cfg.zoneCount)
    (honce : (cfg.zones.slot z).ListsOnce (cfg.sensors.slot s).id) :
    zoneAggregate cfg core z = zoneAggregate cfg core' z := by
  unfold zoneAggregate
  apply thermalZoneAggregate_sameReading
  unfold zoneReadings
  rw [← zoneStuckMask_agreeBut hex h hstuck hstuck' z, ← h.zones, List.forall₂_map_left_iff,
    List.forall₂_map_right_iff, List.forall₂_same]
  intro k hk
  have hk' := List.mem_range.mp hk
  obtain ⟨ht, hid⟩ := (findSensorSlot_eq_some hr).mp ((hshadow.zones z hz).sensorSlots k hk')
  by_cases hts : (core.zones.slot z).sensorSlots.slot k = s
  · have hbit : (zoneStuckMask cfg core z).testBit k = true :=
      (testBit_zoneStuckMask hex core z k).mpr
        ⟨s, hs, hstuck, honce.sensorIndex hk' (by rw [← hid, hts])⟩
    dsimp only
    rw [hbit]
    exact ⟨by simp, rfl, by simp⟩
  · rw [h.filters _ ht hts]
    exact ⟨rfl, rfl, fun _ => rfl⟩

/-- **All masked is the fallback**: every sensor the zone lists is invalid, or
excluded and listed once. -/
theorem zoneAggregate_of_leftOut {core : Core} (hr : ConfigRules cfg) (hshadow : ShadowInv cfg core)
    (hex : ExcludesStuck cfg) {z : Nat} (hz : z < cfg.zoneCount)
    (hall : ∀ k < (cfg.zones.slot z).sensorCount, ∀ t < cfg.sensorCount,
      (cfg.sensors.slot t).id = (cfg.zones.slot z).sensorIds.slot k →
        (core.filters.slot t).valid = false ∨
          Stuck core t ∧ (cfg.zones.slot z).ListsOnce (cfg.sensors.slot t).id) :
    zoneAggregate cfg core z = ⟨(cfg.zones.slot z).fallbackTempMc, false⟩ := by
  unfold zoneAggregate
  apply thermalZoneAggregate_of_invalid
  intro r hmem
  obtain ⟨k, hk, rfl⟩ := List.mem_map.mp hmem
  have hk' := List.mem_range.mp hk
  obtain ⟨ht, hid⟩ := (findSensorSlot_eq_some hr).mp ((hshadow.zones z hz).sensorSlots k hk')
  dsimp only
  rcases hall k hk' _ ht hid with hinvalid | ⟨hstuck, honce⟩
  · rw [hinvalid, Bool.false_and]
  · have hbit : (zoneStuckMask cfg core z).testBit k = true :=
      (testBit_zoneStuckMask hex core z k).mpr ⟨_, ht, hstuck, honce.sensorIndex hk' hid.symm⟩
    rw [hbit, Bool.not_true, Bool.and_false]

/-- A detector that is switched off never leaves NORMAL. -/
theorem enabled_of_stuck (hr : ConfigRules cfg) (hreach : Reachable cfg cb core)
    (hs : s < cfg.sensorCount) (hstuck : Stuck (passDone cfg cb inp core).core s) :
    cfg.faults.stuckSensorDefaults.enabled ≠ 0 := by
  intro hoff
  have hticks : ¬detectorTicks cfg .stuckSensor = true := by simp [detectorTicks, detectorCfg, hoff]
  have hkeeps (c : Core) (i : InputSnapshot) :
      detectorFsm (passDone cfg cb i c).core .stuckSensor s = detectorFsm c .stuckSensor s := by
    rw [detectorFsm_passDone hr hs, if_neg hticks]
  have hreset : detectorFsm core .stuckSensor s = Fsm.reset := by
    refine hreach.induct (P := fun c => detectorFsm c .stuckSensor s = Fsm.reset)
      (initCore_detectorFsm ..) (fun c i _ hc => (hkeeps c i).trans hc) fun c cmd hc => ?_
    by_cases hclear : ClearsDetector cfg c cmd .stuckSensor s
    · exact detectorFsm_of_clears hr hs hclear
    · exact (detectorFsm_of_not_clears hr hclear).trans hc
  have hnormal : detectorFsm (passDone cfg cb inp core).core .stuckSensor s = Fsm.reset :=
    (hkeeps core inp).trans hreset
  exact hstuck (congrArg Fsm.state hnormal)

/-- The temperature of a zone after an accepted step. -/
theorem passDone_tempMc (hr : ConfigRules cfg) {z : Nat} (hz : z < cfg.zoneCount) :
    ((passDone cfg cb inp core).core.zones.slot z).tempMc =
      (zoneAggregate cfg (prepassCore cfg cb inp core) z).tempMc := by
  rw [slot_passDone_zones hr hz]
  unfold zoneStep
  dsimp only
  split
  · rfl
  · next ops _ => cases ops <;> rfl

/-- **An excluded sensor is out of every zone that lists it once**: two snapshots
that differ in its sample only give the zone one temperature.  A zone all of
whose other sensors are invalid, or excluded and listed once, uses its fallback
temperature. -/
theorem stuck_sensor_excluded (hcfg : Accepted cfg) (hreach : Reachable cfg cb core)
    (haction : cfg.faults.stuckSensorDefaults.action = FaultAction.useZoneFallback.code)
    (hs : s < cfg.sensorCount) (hin : Admissible cfg inp) (hin' : Admissible cfg inp')
    (hsame : SameButSensor (cfg.sensors.slot s).id inp inp') (out out' : OutputFrame)
    (hstuck : Stuck (thermalCoreStep cfg cb core inp out).core s)
    (hstuck' : Stuck (thermalCoreStep cfg cb core inp' out').core s) {z : Nat}
    (hz : z < cfg.zoneCount) (honce : (cfg.zones.slot z).ListsOnce (cfg.sensors.slot s).id) :
    let zc := cfg.zones.slot z
    let after := (thermalCoreStep cfg cb core inp out).core
    let after' := (thermalCoreStep cfg cb core inp' out').core
    (after.zones.slot z).tempMc = (after'.zones.slot z).tempMc ∧
      ((∀ k < zc.sensorCount, ∀ t < cfg.sensorCount, (cfg.sensors.slot t).id = zc.sensorIds.slot k →
          t = s ∨ (after.filters.slot t).valid = false ∨
            Stuck after t ∧ zc.ListsOnce (cfg.sensors.slot t).id) →
        (after.zones.slot z).tempMc = zc.fallbackTempMc) := by
  have hr : ConfigRules cfg := (accepted_iff cfg).mp hcfg
  rw [thermalCoreStep_accepted hin] at hstuck ⊢
  rw [thermalCoreStep_accepted hin'] at hstuck' ⊢
  dsimp only
  have hex : ExcludesStuck cfg := ⟨enabled_of_stuck hr hreach hs hstuck, haction⟩
  have hshadow (i : InputSnapshot) : ShadowInv cfg (prepassCore cfg cb i core) := by
    have hzones : (prepassCore cfg cb i core).zones = core.zones := by
      rw [prepassCore_eq, senseCore_core]
    refine ⟨fun z hz => ?_, fun m hm => ?_⟩
    · rw [hzones]
      exact (reachable_shadowInv hr hreach).zones z hz
    · rw [prepassCore_eq, senseCore_shadow]
      exact (reachable_shadowInv hr hreach).modifiers m hm
  have hstates (i : InputSnapshot) (t : Nat) :
      Stuck (passDone cfg cb i core).core t ↔ Stuck (prepassCore cfg cb i core) t := by
    unfold Stuck
    rw [passDone_stuckSensorStates]
    rfl
  rw [hstates] at hstuck hstuck'
  rw [passDone_tempMc hr hz, passDone_tempMc hr hz]
  constructor
  · rw [zoneAggregate_agreeBut hr (hshadow inp) hex (prepassCore_agreeBut hr hs hsame) hs hstuck
      hstuck' hz honce]
  · intro hall
    rw [zoneAggregate_of_leftOut hr (hshadow inp) hex hz]
    intro k hk t ht hid
    rcases hall k hk t ht hid with rfl | hinvalid | ⟨hout, hone⟩
    · exact Or.inr ⟨hstuck, honce⟩
    · rw [passDone_filters] at hinvalid
      rw [prepassCore_eq, senseCore_core]
      exact Or.inl hinvalid
    · exact Or.inr ⟨(hstates inp t).mp hout, hone⟩

/-! ## A sensor listed twice -/

/-- The one zone lists its sensor at the positions below `count`; four flat ticks
of the sensor exclude it, three others are needed to take it back. -/
def fallbackConfig (count : Nat) : Config :=
  { oneFanConfig with
    zones := oneFanConfig.zones.edit 0 fun zc =>
      { zc with sensorIds := .replicate _ 1, sensorCount := count }
    faults := { (default : FaultDetectionCfg) with
      stuckSensorDefaults := { (default : FaultDetectorCfg) with
        enabled := 1, severity := FaultSeverity.degraded.code
        action := FaultAction.useZoneFallback.code, persistTicks := 1, recoveryTicks := 3
        threshold0 := 100, threshold1 := 4, correlatedContextId := 0xFFFF } } }

/-- The state after the four flat ticks. -/
def excludedCore (count : Nat) : Core :=
  Machine.after (call (fallbackConfig count) ⟨true, false⟩) (initCore (fallbackConfig count))
    (flatRun.take 4)

theorem sameButSensor_tempSnapshot (nowMs sensor : Nat) (x y : Int) :
    SameButSensor sensor (tempSnapshot nowMs sensor x) (tempSnapshot nowMs sensor y) where
  nowMs := rfl
  sampleCount := rfl
  null := rfl
  entries := .cons ⟨rfl, rfl, rfl, fun h => absurd ⟨rfl, rfl⟩ h⟩ .nil

/-- Listed once, the excluded sensor leaves the zone with its fallback. -/
theorem stuck_sensor_excluded_listed_once :
    let step := fun temp : Int => thermalCoreStep (fallbackConfig 1) ⟨true, false⟩ (excludedCore 1)
      (tempSnapshot 500 1 temp) default
    ((step 60000).core.zones.slot 0).tempMc = ((step 95000).core.zones.slot 0).tempMc ∧
      ((step 60000).core.zones.slot 0).tempMc = 90000 := by
  have hreach : Reachable (fallbackConfig 1) ⟨true, false⟩ (excludedCore 1) := ⟨flatRun.take 4, rfl⟩
  obtain ⟨hsame, hfallback⟩ := stuck_sensor_excluded
    (by decide +kernel : Accepted (fallbackConfig 1)) hreach rfl
    (by decide : 0 < (fallbackConfig 1).sensorCount)
    (thermalCoreStep_status_iff.mp (by decide +kernel :
      (thermalCoreStep (fallbackConfig 1) ⟨true, false⟩ (excludedCore 1) (tempSnapshot 500 1 60000)
        default).status = .ok))
    (thermalCoreStep_status_iff.mp (by decide +kernel :
      (thermalCoreStep (fallbackConfig 1) ⟨true, false⟩ (excludedCore 1) (tempSnapshot 500 1 95000)
        default).status = .ok))
    (sameButSensor_tempSnapshot 500 1 60000 95000) default default (by decide +kernel)
    (by decide +kernel) (by decide : 0 < (fallbackConfig 1).zoneCount) (by decide +kernel)
  exact ⟨hsame, hfallback fun k _ t ht _ => Or.inl (Nat.lt_one_iff.mp ht)⟩

/-- **The second position stays in**: the zone lists its one sensor twice, and the
excluded sensor's sample is still the zone's temperature. -/
theorem stuck_sensor_listed_twice_seen :
    let step := fun temp : Int => thermalCoreStep (fallbackConfig 2) ⟨true, false⟩ (excludedCore 2)
      (tempSnapshot 500 1 temp) default
    Accepted (fallbackConfig 2) ∧ Reachable (fallbackConfig 2) ⟨true, false⟩ (excludedCore 2) ∧
      SameButSensor 1 (tempSnapshot 500 1 60000) (tempSnapshot 500 1 90000) ∧
      (step 60000).status = .ok ∧ (step 90000).status = .ok ∧
      Stuck (step 60000).core 0 ∧ Stuck (step 90000).core 0 ∧
      ((step 60000).core.zones.slot 0).tempMc = 60000 ∧
      ((step 90000).core.zones.slot 0).tempMc = 90000 := by
  refine ⟨by decide +kernel, ⟨flatRun.take 4, rfl⟩, sameButSensor_tempSnapshot 500 1 60000 90000, ?_⟩
  dsimp only
  decide +kernel

end step

end ThermalCore
