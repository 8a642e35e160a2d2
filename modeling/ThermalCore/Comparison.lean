import ThermalCore.Monotone
import ThermalCore.Detectors
import ThermalCore.Fallback

/-!
# Hotter never means less cooling

Two runs that get the same calls except for their temperatures, one at least as
hot as the other on every step.  `CoreHotter` relates the states the two runs
are in; every call keeps it, and an accepted step under it writes duties at
least as high.

The relation asks for nothing but what the later stages read: temperatures, trips that
are active, duties and counters.  The lemmas of `Monotone` give each stage; this module
follows them through the step, the commands and the run.
-/

namespace ThermalCore

open MachineInt Check

/-! ## Hotter inputs -/

/-- A zone whose path from temperature to demand is monotone: trips with
hysteresis over a maximum or an average. -/
structure MonotoneZone (zc : ZoneCfg) : Prop where
  governor : zc.governor = 1
  aggregation : zc.aggregation = Aggregation.max.code ∨ zc.aggregation = Aggregation.avg.code

instance (zc : ZoneCfg) : Decidable (MonotoneZone zc) :=
  decidable_of_iff
    (zc.governor = 1 ∧
      (zc.aggregation = Aggregation.max.code ∨ zc.aggregation = Aggregation.avg.code))
    ⟨fun ⟨h1, h2⟩ => ⟨h1, h2⟩, fun ⟨h1, h2⟩ => ⟨h1, h2⟩⟩

/-- Only temperatures drive the actuators: no detector, no dwell, no boost. -/
structure ComparableConfig (cfg : Config) : Prop where
  zones : ∀ z < cfg.zoneCount, MonotoneZone (cfg.zones.slot z)
  detectors : ∀ kind, (detectorCfg cfg kind).enabled = 0
  actuators : ∀ a < cfg.actuatorCount, DirectDrive (cfg.actuators.slot a)

/-- The sample of a sensor, `none` unless it is valid. -/
def validTemp (inp : InputSnapshot) (id : Nat) : Option Int :=
  let smp := inp.find .tempMc id
  if sampleValid smp ≠ 0 then some (sampleValue smp) else none

/-- Two snapshots of the same instant and the same contexts.  The same sensors
are valid in both, and each of them is at least as hot in the first. -/
structure HotterSnapshot (cfg : Config) (inp inp' : InputSnapshot) : Prop where
  nowMs : inp.nowMs = inp'.nowMs
  contexts : ∀ c < cfg.contextCount, inp.find .contextI32 (cfg.contexts.slot c).id =
    inp'.find .contextI32 (cfg.contexts.slot c).id
  temps : ∀ s < cfg.sensorCount,
    Option.Rel (fun x y => y ≤ x ∧ InBand x ∧ InBand y) (validTemp inp (cfg.sensors.slot s).id)
      (validTemp inp' (cfg.sensors.slot s).id)

/-- Matching calls of the two runs.  Snapshots that differ in temperatures only
are accepted alike (`hotterCall_of_samples`); a rejected one changes nothing. -/
inductive HotterCall (cfg : Config) : Input → Input → Prop where
  | accepted {inp inp' : InputSnapshot} {out out' : OutputFrame} (hin : Admissible cfg inp)
      (hin' : Admissible cfg inp') (h : HotterSnapshot cfg inp inp') :
      HotterCall cfg (.step inp out) (.step inp' out')
  | rejected {inp inp' : InputSnapshot} {out out' : OutputFrame} (hin : ¬Admissible cfg inp)
      (hin' : ¬Admissible cfg inp') : HotterCall cfg (.step inp out) (.step inp' out')
  | command (nowMs : Nat) (cmd : Command) : HotterCall cfg (.command nowMs cmd) (.command nowMs cmd)

/-- What matching calls show: the same kind of answer, and from a step every duty
of the first at least that of the second. -/
inductive DutiesAtLeast (cfg : Config) : Effect → Effect → Prop where
  | accepted {out out' : OutputFrame} {calls calls' : List Call}
      (h : ∀ a < cfg.actuatorCount,
        (out'.actuatorCmds.slot a).duty ≤ (out.actuatorCmds.slot a).duty) :
      DutiesAtLeast cfg (.step .ok out calls) (.step .ok out' calls')
  | rejected {st st' : ThermalStatus} {out out' : OutputFrame} (hst : st ≠ .ok) (hst' : st' ≠ .ok) :
      DutiesAtLeast cfg (.step st out []) (.step st' out' [])
  | command {r r' : CommandResult} {calls calls' : List Call} :
      DutiesAtLeast cfg (.command r calls) (.command r' calls')

/-! ## Snapshots that differ in temperatures only -/

/-- Two samples of one signal; a valid temperature is at least as hot in the
first. -/
structure HotterSample (s s' : Sample) : Prop where
  id : s.id = s'.id
  kind : s.kind = s'.kind
  valid : s.valid = s'.valid
  value : s.kind ≠ SampleKind.tempMc.code → s.value = s'.value
  temp : s.kind = SampleKind.tempMc.code → s.valid ≠ 0 →
    s'.value ≤ s.value ∧ InBand s.value ∧ InBand s'.value

section samples

variable {ss ss' : List Sample}

theorem find?_hotter (h : List.Forall₂ HotterSample ss ss') (kind : SampleKind) (id : Nat) :
    Option.Rel (fun s s' => HotterSample s s' ∧ s.kind = kind.code)
      (ss.find? fun smp => smp.kind == kind.code && smp.id == id)
      (ss'.find? fun smp => smp.kind == kind.code && smp.id == id) := by
  induction h with
  | nil => exact Option.Rel.none
  | cons hs _ ih =>
      rw [List.find?_cons, List.find?_cons, ← hs.kind, ← hs.id]
      split
      · next heq =>
          simp only [Bool.and_eq_true, beq_iff_eq] at heq
          exact Option.Rel.some ⟨hs, heq.1⟩
      · exact ih

theorem scanSamples_hotter (cfg : Config) (seen : List Nat) (h : List.Forall₂ HotterSample ss ss') :
    scanSamples cfg seen ss = scanSamples cfg seen ss' := by
  induction h generalizing seen with
  | nil => rfl
  | cons hs _ ih =>
      unfold scanSamples sampleSlot
      rw [hs.kind, hs.id]
      split
      · rfl
      · rw [ih]

/-- **Snapshots sample by sample**: the same samples in the same order, some of
the temperatures hotter, make a pair of matching calls. -/
theorem hotterCall_of_samples {cfg : Config} {inp inp' : InputSnapshot} (out out' : OutputFrame)
    (hnow : inp.nowMs = inp'.nowMs) (hcount : inp.sampleCount = inp'.sampleCount)
    (hnull : inp.samples.isNone = inp'.samples.isNone)
    (h : List.Forall₂ HotterSample inp.entries inp'.entries) :
    HotterCall cfg (.step inp out) (.step inp' out') := by
  have hpre : preflightSnapshot cfg inp = preflightSnapshot cfg inp' := by
    unfold preflightSnapshot
    simp only [hcount, hnull, scanSamples_hotter cfg [] h]
  have hfind (kind : SampleKind) (id : Nat) : Option.Rel
      (fun s s' => HotterSample s s' ∧ s.kind = kind.code) (inp.find kind id) (inp'.find kind id) :=
    find?_hotter h kind id
  by_cases hin : Admissible cfg inp
  · have hin' : Admissible cfg inp' := hpre.symm.trans hin
    refine .accepted hin hin' ⟨hnow, fun c _ => ?_, fun s _ => ?_⟩
    · generalize (cfg.contexts.slot c).id = id
      have hctx := hfind .contextI32 id
      generalize inp.find .contextI32 id = x at hctx ⊢
      generalize inp'.find .contextI32 id = y at hctx ⊢
      cases hctx with
      | none => rfl
      | @some s s' hs =>
          obtain ⟨⟨hid, hkind, hvalid, hvalue, -⟩, hcode⟩ := hs
          have hsame : s.value = s'.value := hvalue (by rw [hcode]; decide)
          cases s
          cases s'
          simp_all
    · unfold validTemp
      have htemp := hfind .tempMc (cfg.sensors.slot s).id
      generalize inp.find .tempMc (cfg.sensors.slot s).id = x at htemp ⊢
      generalize inp'.find .tempMc (cfg.sensors.slot s).id = y at htemp ⊢
      cases htemp with
      | none => exact Option.Rel.none
      | @some s s' hs =>
          obtain ⟨hs, hcode⟩ := hs
          show Option.Rel _ (if s.valid ≠ 0 then some s.value else none)
            (if s'.valid ≠ 0 then some s'.value else none)
          rw [← hs.valid]
          by_cases hv : s.valid ≠ 0
          · rw [if_pos hv, if_pos hv]
            exact Option.Rel.some (hs.temp hcode hv)
          · rw [if_neg hv, if_neg hv]
            exact Option.Rel.none
  · exact .rejected hin fun hin' => hin (hpre.trans hin')

end samples

/-! ## Hotter cores -/

/-- What a zone carries from tick to tick. -/
structure ZoneHotter (zr zr' : ZoneRuntime) : Prop where
  sensorSlots : zr.sensorSlots = zr'.sensorSlots
  shadowPid : zr.shadowPid = zr'.shadowPid
  shadowTrips : zr.shadowTrips = zr'.shadowTrips
  mask : MaskHotter zr.activeTripMask zr'.activeTripMask

/-- Two cores after matching runs: alike but for what temperatures touch, and
there the first at least as hot and at least as fast. -/
structure CoreHotter (cfg : Config) (core core' : Core) : Prop where
  filters : ∀ s < cfg.sensorCount, FilterHotter (core.filters.slot s) (core'.filters.slot s)
  zones : ∀ z, ZoneHotter (core.zones.slot z) (core'.zones.slot z)
  contexts : core.contexts = core'.contexts
  modifiers : core.modifiers = core'.modifiers
  duties : ∀ a < cfg.actuatorCount,
    (core'.actuators.slot a).prevDuty ≤ (core.actuators.slot a).prevDuty

theorem ZoneHotter.refl (zr : ZoneRuntime) : ZoneHotter zr zr := ⟨rfl, rfl, rfl, fun _ h => h⟩

theorem coreHotter_init {cfg : Config} (hr : ConfigRules cfg) :
    CoreHotter cfg (initCore cfg) (initCore cfg) where
  filters s hs := by
    have hcount : cfg.sensorCount ≤ maxSensors := ((validateCounts_iff cfg).mp hr.counts).sensors
    have hreset : (initCore cfg).filters.slot s = thermalFilterReset :=
      Vector.slot_replicate _ (Nat.lt_of_lt_of_le hs hcount)
    rw [hreset]
    exact ⟨rfl, rfl, Int.le_refl _, by decide, by decide⟩
  zones z := ZoneHotter.refl _
  contexts := rfl
  modifiers := rfl
  duties a _ := Nat.le_refl _

/-- The relation reads five fields. -/
theorem CoreHotter.congr {cfg : Config} {core core' c c' : Core} (h : CoreHotter cfg core core')
    (hc : c.filters = core.filters ∧ c.zones = core.zones ∧ c.contexts = core.contexts ∧
      c.modifiers = core.modifiers ∧ c.actuators = core.actuators)
    (hc' : c'.filters = core'.filters ∧ c'.zones = core'.zones ∧ c'.contexts = core'.contexts ∧
      c'.modifiers = core'.modifiers ∧ c'.actuators = core'.actuators) : CoreHotter cfg c c' := by
  obtain ⟨h1, h2, h3, h4, h5⟩ := hc
  obtain ⟨h1', h2', h3', h4', h5'⟩ := hc'
  refine ⟨?_, ?_, ?_, ?_, ?_⟩
  · rw [h1, h1']
    exact h.filters
  · rw [h2, h2']
    exact h.zones
  · rw [h3, h3']
    exact h.contexts
  · rw [h4, h4']
    exact h.modifiers
  · rw [h5, h5']
    exact h.duties

/-! ## Samples, contexts and zones -/

section step

variable {cfg : Config} {inp inp' : InputSnapshot} {core core' : Core}

/-- Contexts and modifier see nothing of the temperatures. -/
theorem senseCore_shared (hnow : inp.nowMs = inp'.nowMs)
    (hfind : ∀ c < cfg.contextCount, inp.find .contextI32 (cfg.contexts.slot c).id =
      inp'.find .contextI32 (cfg.contexts.slot c).id)
    (hctx : core.contexts = core'.contexts) (hmod : core.modifiers = core'.modifiers) :
    (senseCore cfg inp core).contexts = (senseCore cfg inp' core').contexts ∧
      (senseCore cfg inp core).modifiers = (senseCore cfg inp' core').modifiers := by
  have heval (c c' : Core) (hcc : c.contexts = c'.contexts) (hcm : c.modifiers = c'.modifiers) :
      (step5ModifierEval cfg c).contexts = (step5ModifierEval cfg c').contexts ∧
        (step5ModifierEval cfg c).modifiers = (step5ModifierEval cfg c').modifiers := by
    unfold step5ModifierEval clearModifierOutputs
    dsimp only
    rw [hcc, hcm]
    by_cases hm : cfg.modifierCount = 0
    · rw [if_pos hm, if_pos hm]
      exact ⟨rfl, rfl⟩
    · rw [if_neg hm, if_neg hm]
      split <;> exact ⟨rfl, rfl⟩
  unfold senseCore
  refine heval _ _ ?_ hmod
  show core.contexts.forSlots cfg.contextCount _ = core'.contexts.forSlots cfg.contextCount _
  rw [← hctx]
  refine Vector.forSlots_congr _ fun c hc _ => ?_
  dsimp only
  rw [hfind c hc, hnow]

theorem step3SensorFilters_hotter (hr : ConfigRules cfg) (h : HotterSnapshot cfg inp inp')
    (hc : CoreHotter cfg core core') {s : Nat} (hs : s < cfg.sensorCount) :
    FilterHotter ((step3SensorFilters cfg inp core).filters.slot s)
      ((step3SensorFilters cfg inp' core').filters.slot s) := by
  have hcount : cfg.sensorCount ≤ maxSensors := ((validateCounts_iff cfg).mp hr.counts).sensors
  obtain ⟨h0, h1⟩ := (hr.sensor hs).alpha
  have htemp := h.temps s hs
  unfold step3SensorFilters
  dsimp only
  rw [Vector.slot_forSlots_lt _ _ hcount hs, Vector.slot_forSlots_lt _ _ hcount hs]
  unfold validTemp at htemp
  dsimp only at htemp
  by_cases hv : sampleValid (inp.find .tempMc (cfg.sensors.slot s).id) ≠ 0
  · rw [if_pos hv] at htemp
    by_cases hv' : sampleValid (inp'.find .tempMc (cfg.sensors.slot s).id) ≠ 0
    · rw [if_pos hv'] at htemp
      obtain hrel := Option.rel_some_some.mp htemp
      rw [decide_eq_true hv, decide_eq_true hv']
      exact (hc.filters s hs).step h0 h1 fun _ => hrel
    · rw [if_neg hv'] at htemp
      cases htemp
  · rw [if_neg hv] at htemp
    by_cases hv' : sampleValid (inp'.find .tempMc (cfg.sensors.slot s).id) ≠ 0
    · rw [if_pos hv'] at htemp
      cases htemp
    · rw [decide_eq_false hv, decide_eq_false hv']
      exact (hc.filters s hs).step h0 h1 fun hfalse => absurd hfalse Bool.false_ne_true

/-- The temperature of a zone. -/
theorem zoneAggregate_hotter (cb : Callbacks) (hr : ConfigRules cfg) (hcmp : ComparableConfig cfg)
    (h : HotterSnapshot cfg inp inp') (hc : CoreHotter cfg core core') (hshadow : ShadowInv cfg core)
    {z : Nat} (hz : z < cfg.zoneCount) :
    (zoneAggregate cfg (prepassCore cfg cb inp' core') z).tempMc ≤
      (zoneAggregate cfg (prepassCore cfg cb inp core) z).tempMc := by
  have hstuck (c : Core) : zoneStuckMask cfg c z = 0 := by
    have hoff : cfg.faults.stuckSensorDefaults.enabled = 0 := hcmp.detectors .stuckSensor
    unfold zoneStuckMask
    dsimp only
    rw [if_pos hoff]
  have hpre (i : InputSnapshot) (c : Core) :
      (prepassCore cfg cb i c).filters = (step3SensorFilters cfg i c).filters ∧
        (prepassCore cfg cb i c).zones = c.zones := by
    rw [prepassCore_eq, senseCore_core]
    exact ⟨rfl, rfl⟩
  unfold zoneAggregate
  rw [hstuck, hstuck, (hpre inp core).2, (hpre inp' core').2]
  refine thermalZoneAggregate_hotter _ (hcmp.zones z hz).aggregation ?_
  unfold zoneReadings
  rw [(hpre inp core).1, (hpre inp' core').1, ← (hc.zones z).sensorSlots]
  rw [List.forall₂_map_left_iff, List.forall₂_map_right_iff, List.forall₂_same]
  intro k hk
  obtain ⟨hs, -⟩ := (findSensorSlot_eq_some hr).mp
    ((hshadow.zones z hz).sensorSlots k (List.mem_range.mp hk))
  obtain ⟨hvalid, -, hvalue, hband⟩ := step3SensorFilters_hotter hr h hc hs
  refine ⟨?_, hvalue, hband⟩
  show (_ && _) = (_ && _)
  rw [hvalid]

theorem zoneStep_hotter {zc : ZoneCfg} {zr zr' : ZoneRuntime} {agg agg' : ZoneAggregateResult}
    (hzc : MonotoneZone zc) (h : ZoneHotter zr zr') (htemp : agg'.tempMc ≤ agg.tempMc) (offset : Int)
    (nowMs nowMs' : Nat) :
    ZoneHotter (zoneStep zc agg offset nowMs zr) (zoneStep zc agg' offset nowMs' zr') ∧
      (zoneStep zc agg' offset nowMs' zr').coolingState ≤
        (zoneStep zc agg offset nowMs zr).coolingState := by
  have hops : governorOpsFor zc.governor = some .stepWise := by
    rw [hzc.governor]
    rfl
  unfold zoneStep
  simp only [hops, Governor.evaluate, governorEvalStep, tripsEff, ← h.shadowTrips]
  exact ⟨⟨h.sensorSlots, h.shadowPid, rfl, activeTripMask_mono htemp h.mask⟩,
    coolingState_mono htemp h.mask⟩

/-- The zones after an accepted step. -/
theorem passDone_zones_hotter (cb : Callbacks) (hr : ConfigRules cfg) (hcmp : ComparableConfig cfg)
    (h : HotterSnapshot cfg inp inp') (hc : CoreHotter cfg core core') (hshadow : ShadowInv cfg core)
    (z : Nat) :
    ZoneHotter ((passDone cfg cb inp core).core.zones.slot z)
        ((passDone cfg cb inp' core').core.zones.slot z) ∧
      (z < cfg.zoneCount → ((passDone cfg cb inp' core').core.zones.slot z).coolingState ≤
        ((passDone cfg cb inp core).core.zones.slot z).coolingState) := by
  by_cases hz : z < cfg.zoneCount
  · have hoffset : tripOffsetMc cfg (prepassCore cfg cb inp' core') =
        tripOffsetMc cfg (prepassCore cfg cb inp core) := by
      obtain ⟨-, hmod⟩ := senseCore_shared h.nowMs h.contexts hc.contexts hc.modifiers
      unfold tripOffsetMc
      rw [prepassCore_eq, prepassCore_eq cfg cb inp core]
      dsimp only
      rw [hmod]
    have htemp := zoneAggregate_hotter cb hr hcmp h hc hshadow hz
    obtain ⟨hzone, hstate⟩ := zoneStep_hotter (hcmp.zones z hz) (hc.zones z) htemp
      (tripOffsetMc cfg (prepassCore cfg cb inp core)) inp.nowMs inp'.nowMs
    rw [slot_passDone_zones hr hz, slot_passDone_zones hr hz, hoffset]
    exact ⟨hzone, fun _ => hstate⟩
  · rw [passDone_zones_eq, passDone_zones_eq, Vector.slot_forSlots_ge _ _ (by omega),
      Vector.slot_forSlots_ge _ _ (by omega)]
    exact ⟨hc.zones z, fun hlt => absurd hlt hz⟩

/-! ## Requests and duties -/

theorem arbitratedPwm_hotter (cb : Callbacks) (hr : ConfigRules cfg) (hcmp : ComparableConfig cfg)
    (h : HotterSnapshot cfg inp inp') (hc : CoreHotter cfg core core') (hshadow : ShadowInv cfg core)
    {a : Nat} (ha : a < cfg.actuatorCount) :
    arbitratedPwm cfg cb inp' core' a ≤ arbitratedPwm cfg cb inp core a := by
  refine thermalArbitratorMaxWins_le fun d hd => ?_
  unfold actuatorDemands at hd
  obtain ⟨z, hz, hdz⟩ := List.mem_filterMap.mp hd
  have hz' := List.mem_range.mp hz
  have hops : governorOpsFor (cfg.zones.slot z).governor = some .stepWise := by
    rw [(hcmp.zones z hz').governor]
    rfl
  by_cases href : (cfg.zones.slot z).refsActuator (cfg.actuators.slot a).id = true
  · simp only [href, hops, if_true, Option.some.injEq] at hdz
    subst hdz
    obtain ⟨-, hstate⟩ := passDone_zones_hotter cb hr hcmp h hc hshadow z
    calc (cfg.actuators.slot a).statePwm.slot
          ((passDone cfg cb inp' core').core.zones.slot z).coolingState
        ≤ (cfg.actuators.slot a).statePwm.slot
          ((passDone cfg cb inp core).core.zones.slot z).coolingState :=
          statePwm_le_of_coolingState hr hshadow hz' ha href (hstate hz')
      _ ≤ arbitratedPwm cfg cb inp core a :=
          le_thermalArbitratorMaxWins (mem_actuatorDemands hz' href hops)
  · simp [href] at hdz

/-- Without detectors nothing responds. -/
theorem not_responds (hcmp : ComparableConfig cfg) (c : Core) (a : Nat) : ¬Responds cfg c a := by
  have hnone (kind : FaultType) (state : FaultState) (escalates : Bool) :
      enabledResponse (detectorCfg cfg kind) state escalates = .none := by
    unfold enabledResponse
    rw [if_pos (hcmp.detectors kind)]
  intro hresp
  cases hresp with
  | stall h => exact h (hnone .stall _ _)
  | runaway z _ _ h => exact h (hnone .runaway _ _)
  | staleContext c _ h => exact h (hnone .staleContext _ _)
  | stuckSensor s z _ _ _ _ h => exact h (hnone .stuckSensor _ _)

/-- **One step**: the duties written. -/
theorem finalPwm_hotter (cb : Callbacks) (hr : ConfigRules cfg) (hcmp : ComparableConfig cfg)
    (h : HotterSnapshot cfg inp inp') (hc : CoreHotter cfg core core') (hshadow : ShadowInv cfg core)
    {a : Nat} (ha : a < cfg.actuatorCount)
    (hinv : ActuatorInv (cfg.actuators.slot a) (core.actuators.slot a))
    (hinv' : ActuatorInv (cfg.actuators.slot a) (core'.actuators.slot a)) :
    finalPwm cfg (cfg.actuators.slot a) (core'.actuators.slot a) (decidedTick cfg cb inp' core' a) ≤
      finalPwm cfg (cfg.actuators.slot a) (core.actuators.slot a) (decidedTick cfg cb inp core a) := by
  have hsev : actuatorMaxSeverity cfg (passDone cfg cb inp' core').core a ≤
      actuatorMaxSeverity cfg (passDone cfg cb inp core).core a :=
    actuatorMaxSeverity_mono a fun z _ =>
      (passDone_zones_hotter cb hr hcmp h hc hshadow z).1.mask
  have hforce : (decidedTick cfg cb inp core a).forcePwmMax = true ↔ _ := decided_forcePwmMax hr ha
  have hforce' : (decidedTick cfg cb inp' core' a).forcePwmMax = true ↔ _ := decided_forcePwmMax hr ha
  have hup : (decidedTick cfg cb inp core a).slewOverrideUp = true ↔ _ := decided_slewOverrideUp hr ha
  have hup' : (decidedTick cfg cb inp' core' a).slewOverrideUp = true ↔ _ :=
    decided_slewOverrideUp hr ha
  simp only [not_responds hcmp, or_false] at hforce hforce' hup hup'
  by_cases hshutdown : TripSeverity.shutdown.code ≤
      actuatorMaxSeverity cfg (passDone cfg cb inp core).core a
  · -- the hotter side is forced to the maximum, which no duty exceeds
    have hmax : (decidedTick cfg cb inp core a).arbPwm = (cfg.actuators.slot a).pwmMax := by
      rw [decided_arbPwm hr.actuatorCount_le ha, if_pos (hforce.mpr hshutdown)]
    rw [finalPwm_of_force (hup.mpr (Nat.le_trans (by decide) hshutdown)) hmax]
    exact finalClamp_le _ _ _
  · have hnot : ¬(decidedTick cfg cb inp core a).forcePwmMax = true := fun hf =>
      hshutdown (hforce.mp hf)
    have hnot' : ¬(decidedTick cfg cb inp' core' a).forcePwmMax = true := fun hf =>
      hshutdown (Nat.le_trans (hforce'.mp hf) hsev)
    have hcap : pwmCapFor cfg (passDone cfg cb inp' core').core (cfg.actuators.slot a) =
        pwmCapFor cfg (passDone cfg cb inp core).core (cfg.actuators.slot a) := by
      obtain ⟨-, hmod⟩ := senseCore_shared h.nowMs h.contexts hc.contexts hc.modifiers
      unfold pwmCapFor
      rw [passDone_modifiers, passDone_modifiers, hmod]
    refine (hcmp.actuators a ha).finalPwm_mono hinv hinv' (hc.duties a ha) ?_ fun hf =>
      hup.mpr (Nat.le_trans (hup'.mp hf) hsev)
    rw [decided_arbPwm hr.actuatorCount_le ha, decided_arbPwm hr.actuatorCount_le ha, if_neg hnot,
      if_neg hnot']
    unfold cappedTick
    rw [hcap]
    exact capTick_mono _ hsev (arbitratedPwm_hotter cb hr hcmp h hc hshadow ha)

/-- **One step**: the state left behind. -/
theorem passDone_hotter (cb : Callbacks) (hr : ConfigRules cfg) (hcmp : ComparableConfig cfg)
    (h : HotterSnapshot cfg inp inp') (hin : Admissible cfg inp) (hin' : Admissible cfg inp')
    (hc : CoreHotter cfg core core') (hcore : Reachable cfg cb core)
    (hcore' : Reachable cfg cb core') :
    CoreHotter cfg (passDone cfg cb inp core).core (passDone cfg cb inp' core').core where
  filters s hs := by
    rw [passDone_filters, passDone_filters]
    exact step3SensorFilters_hotter hr h hc hs
  zones z := (passDone_zones_hotter cb hr hcmp h hc (reachable_shadowInv hr hcore) z).1
  contexts := by
    rw [passDone_contexts, passDone_contexts]
    exact (senseCore_shared h.nowMs h.contexts hc.contexts hc.modifiers).1
  modifiers := by
    rw [passDone_modifiers, passDone_modifiers]
    exact (senseCore_shared h.nowMs h.contexts hc.contexts hc.modifiers).2
  duties a ha := by
    have hduty : ((thermalCoreStep cfg cb core inp default).core.actuators.slot a).prevDuty = _ :=
      step_prevDuty hr hin ha
    have hduty' : ((thermalCoreStep cfg cb core' inp' default).core.actuators.slot a).prevDuty = _ :=
      step_prevDuty hr hin' ha
    rw [thermalCoreStep_accepted hin] at hduty
    rw [thermalCoreStep_accepted hin'] at hduty'
    rw [hduty, hduty']
    exact finalPwm_hotter cb hr hcmp h hc (reachable_shadowInv hr hcore) ha
      (reachable_actuatorInv hr hcore ha) (reachable_actuatorInv hr hcore' ha)

end step

/-! ## Commands -/

section command

variable {cfg : Config} {core core' : Core}

/-- CLEAR_FAULT writes detectors only. -/
theorem clearFault_frame (cfg : Config) (core : Core) (ftype tid : Nat) :
    (runCommand cfg core (.clearFault ftype tid)).2.zones = core.zones ∧
      (runCommand cfg core (.clearFault ftype tid)).2.modifiers = core.modifiers := by
  obtain ⟨-, h⟩ | ⟨-, h⟩ := runCommand_cases cfg core (.clearFault ftype tid)
  · rw [h]
    exact ⟨rfl, rfl⟩
  · generalize (runCommand cfg core (.clearFault ftype tid)).2 = c at h ⊢
    cases h <;> exact ⟨rfl, rfl⟩

theorem CoreHotter.editZone (h : CoreHotter cfg core core') (z : Nat)
    (f : ZoneRuntime → ZoneRuntime) (hf : ∀ zr zr', ZoneHotter zr zr' → ZoneHotter (f zr) (f zr')) :
    CoreHotter cfg { core with zones := core.zones.edit z f }
      { core' with zones := core'.zones.edit z f } where
  filters := h.filters
  zones i := by
    show ZoneHotter ((core.zones.edit z f).slot i) ((core'.zones.edit z f).slot i)
    rw [Vector.slot_edit, Vector.slot_edit]
    split
    · exact hf _ _ (h.zones i)
    · exact h.zones i
  contexts := h.contexts
  modifiers := h.modifiers
  duties := h.duties

/-- A command is judged by what the two cores share, and writes the same to both. -/
theorem runCommand_hotter (hcmp : ComparableConfig cfg) (h : CoreHotter cfg core core')
    (cmd : Command) : CoreHotter cfg (runCommand cfg core cmd).2 (runCommand cfg core' cmd).2 := by
  have hpid (z : Nat) : pidZone cfg z = false := by
    unfold pidZone
    by_cases hz : z < cfg.zoneCount
    · rw [(hcmp.zones z hz).governor]
      simp [governorOpsFor, Governor.supportsPidCommands]
    · simp [hz]
  cases cmd with
  | setPid z kp ki kd =>
      simp only [runCommand, cmdSetPid, hpid, if_true]
      exact h
  | setSetpoint z sp =>
      simp only [runCommand, cmdSetSetpoint, hpid, if_true]
      exact h
  | setTrip z t temp hyst =>
      have htrip : tripAcceptable cfg core z t temp hyst = tripAcceptable cfg core' z t temp hyst := by
        unfold tripAcceptable runtimeTripsWithModifierOffsetsValid allOffsetPoints
        rw [(h.zones z).shadowTrips, h.modifiers]
      simp only [runCommand, cmdSetTrip, htrip]
      split
      · exact h
      · split
        · exact h
        · split
          · exact h
          · refine h.editZone z _ fun zr zr' hz => ⟨hz.sensorSlots, hz.shadowPid, ?_, hz.mask⟩
            unfold ZoneRuntime.withTrip
            dsimp only
            rw [hz.shadowTrips]
  | setCurvePoint m p x v0 v1 =>
      have hpoint : pointAcceptable cfg core m p ⟨x, v0, v1⟩ =
          pointAcceptable cfg core' m p ⟨x, v0, v1⟩ := by
        have htrips : (fun z => (core.zones.slot z).shadowTrips) =
            fun z => (core'.zones.slot z).shadowTrips := funext fun z => (h.zones z).shadowTrips
        have hsetpoint : (fun z => (core.zones.slot z).shadowPid.setpointMc) =
            fun z => (core'.zones.slot z).shadowPid.setpointMc :=
          funext fun z => by rw [(h.zones z).shadowPid]
        unfold pointAcceptable modifierCurveValuesValidRuntime
        rw [htrips, hsetpoint, h.modifiers]
      simp only [runCommand, cmdSetCurvePoint, hpoint]
      split
      · exact h
      · split
        · exact h
        · split
          · exact h
          · refine ⟨h.filters, h.zones, h.contexts, ?_, h.duties⟩
            dsimp only
            rw [h.modifiers]
  | clearFault ftype tid =>
      have hkept := runCommand_untouched cfg core (.clearFault ftype tid)
      have hkept' := runCommand_untouched cfg core' (.clearFault ftype tid)
      obtain ⟨hz, hm⟩ := clearFault_frame cfg core ftype tid
      obtain ⟨hz', hm'⟩ := clearFault_frame cfg core' ftype tid
      exact h.congr ⟨hkept.filters, hz, hkept.contexts, hm, hkept.actuators⟩
        ⟨hkept'.filters, hz', hkept'.contexts, hm', hkept'.actuators⟩
  | unknown id => exact h

end command

/-! ## Runs -/

section run

variable {cfg : Config} {cb : Callbacks} {core core' : Core}

/-- Matching calls keep the cores related and answer with duties in order. -/
theorem call_hotter (hr : ConfigRules cfg) (hcmp : ComparableConfig cfg) {i i' : Input}
    (hi : HotterCall cfg i i') (hc : CoreHotter cfg core core') (hcore : Reachable cfg cb core)
    (hcore' : Reachable cfg cb core') :
    CoreHotter cfg (call cfg cb core i).1 (call cfg cb core' i').1 ∧
      DutiesAtLeast cfg (call cfg cb core i).2 (call cfg cb core' i').2 := by
  cases hi with
  | @accepted inp inp' out out' hin hin' h =>
      constructor
      · rw [call_step_core, call_step_core, thermalCoreStep_accepted hin,
          thermalCoreStep_accepted hin']
        exact passDone_hotter cb hr hcmp h hin hin' hc hcore hcore'
      · have hduties (a : Nat) (ha : a < cfg.actuatorCount) :
            ((thermalCoreStep cfg cb core' inp' out').out.actuatorCmds.slot a).duty ≤
              ((thermalCoreStep cfg cb core inp out).out.actuatorCmds.slot a).duty := by
          rw [step_duty hr hin ha, step_duty hr hin' ha]
          exact finalPwm_hotter cb hr hcmp h hc (reachable_shadowInv hr hcore) ha
            (reachable_actuatorInv hr hcore ha) (reachable_actuatorInv hr hcore' ha)
        show DutiesAtLeast cfg (.step _ _ _) (.step _ _ _)
        rw [thermalCoreStep_status_iff.mpr hin, thermalCoreStep_status_iff.mpr hin']
        exact .accepted hduties
  | @rejected inp inp' out out' hin hin' =>
      obtain ⟨e, he, hrej⟩ := thermalCoreStep_rejected cb core out hin
      obtain ⟨e', he', hrej'⟩ := thermalCoreStep_rejected cb core' out' hin'
      unfold call
      dsimp only
      rw [hrej, hrej']
      exact ⟨hc, .rejected he he'⟩
  | command nowMs cmd => exact ⟨runCommand_hotter hcmp hc cmd, .command⟩

/-- **Comparison principle.**  Of two runs from init that differ in temperatures
only, the one that is at least as hot on every step drives every actuator at
least as hard on every step. -/
theorem hotter_never_cools_less (hcfg : Accepted cfg) (hcmp : ComparableConfig cfg)
    {is is' : List Input} (h : List.Forall₂ (HotterCall cfg) is is') :
    List.Forall₂ (DutiesAtLeast cfg) (Machine.outputs (call cfg cb) (initCore cfg) is)
      (Machine.outputs (call cfg cb) (initCore cfg) is') := by
  have hr := (accepted_iff cfg).mp hcfg
  let Related : Core → Core → Prop := fun c c' =>
    CoreHotter cfg c c' ∧ Reachable cfg cb c ∧ Reachable cfg cb c'
  have hinit : Related (initCore cfg) (initCore cfg) := ⟨coreHotter_init hr, .init, .init⟩
  refine Machine.outputs_rel (R := Related) ?_ hinit h
  intro c c' i i' ⟨hc, hreach, hreach'⟩ hi
  obtain ⟨hnext, hduty⟩ := call_hotter hr hcmp hi hc hreach hreach'
  exact ⟨⟨hnext, hreach.call i, hreach'.call i'⟩, hduty⟩

/-- Two snapshots of one valid temperature. -/
theorem hotterCall_tempSnapshot (nowMs id : Nat) {x y : Int} (hle : y ≤ x) (hx : InBand x)
    (hy : InBand y) (out out' : OutputFrame) :
    HotterCall cfg (.step (tempSnapshot nowMs id x) out) (.step (tempSnapshot nowMs id y) out') := by
  refine hotterCall_of_samples out out' rfl rfl rfl (List.Forall₂.cons ?_ List.Forall₂.nil)
  exact ⟨rfl, rfl, rfl, fun hkind => absurd rfl hkind, fun _ _ => ⟨hle, hx, hy⟩⟩

/-- The fan that a modifier quietens, without boost. -/
def directFanConfig : Config :=
  { maskedFanConfig with actuators := #v[{ fanActuator with spinupMs := 0 }, default] }

/-- A zone heating up through its trips, one of which is lowered on the way. -/
def heatingRun (temps : List Int) : List Input :=
  .command 0 (.setTrip 0 0 48000 1000) :: temps.map fun temp => .step (tempSnapshot 0 1 temp) default

theorem directFan_comparison :
    List.Forall₂ (DutiesAtLeast directFanConfig)
      (Machine.outputs (call directFanConfig ⟨true, false⟩) (initCore directFanConfig)
        (heatingRun [52000, 80000, 99000]))
      (Machine.outputs (call directFanConfig ⟨true, false⟩) (initCore directFanConfig)
        (heatingRun [46000, 74000, 99000])) := by
  have hcfg : Accepted directFanConfig := by decide +kernel
  have hcmp : ComparableConfig directFanConfig :=
    ⟨by decide +kernel, fun kind => by cases kind <;> rfl, by decide +kernel⟩
  refine hotter_never_cools_less hcfg hcmp (.cons (.command _ _) (.cons ?_ (.cons ?_ (.cons ?_ .nil))))
  all_goals exact hotterCall_tempSnapshot 0 1 (by decide) (by decide) (by decide) _ _

end run

end ThermalCore
