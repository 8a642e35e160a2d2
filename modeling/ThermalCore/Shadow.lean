import ThermalCore.Reach

/-!
# The shadowed configuration

Commands change copies of the configuration kept in the core.  The invariant
here says what those copies still have in common with the configuration: only
the tunable fields (PID gains and setpoint, trip temperature and hysteresis,
curve points) can differ.

Init establishes the invariant, a step does not touch the copies, and a command changes
the one field it names.  So an index or a count read from a copy is the configuration's.
-/

namespace ThermalCore

open MachineInt Check

/-! ## What a step does to a zone -/

section zones

variable (cfg : Config) (cb : Callbacks) (inp : InputSnapshot) (core : Core)

/-- The core step 6 aggregates from: samples taken in, modifier evaluated,
stuck-sensor detectors stepped. -/
def prepassCore : Core :=
  (stuckSensorPrepass cfg cb inp (Pass.start (senseCore cfg inp core))).core

/-- The prepass writes the stuck-sensor detectors and nothing else. -/
theorem prepassCore_eq :
    prepassCore cfg cb inp core =
      { senseCore cfg inp core with
        stuckSensorStates := (prepassCore cfg cb inp core).stuckSensorStates } :=
  stuckSensorPrepass_core ..

variable {cfg cb inp core}

/-- All that a step does to the zones, in one loop. -/
theorem passDone_zones_eq :
    (passDone cfg cb inp core).core.zones =
      core.zones.forSlots cfg.zoneCount fun z zr =>
        zoneStep (cfg.zones.slot z) (zoneAggregate cfg (prepassCore cfg cb inp core) z)
          (tripOffsetMc cfg (prepassCore cfg cb inp core)) inp.nowMs zr := by
  have hzones : (prepassCore cfg cb inp core).zones = core.zones := by
    rw [prepassCore_eq, senseCore_core]
  have hstep : (passZones cfg cb inp core).core.zones =
      (prepassCore cfg cb inp core).zones.forSlots cfg.zoneCount fun z zr =>
        zoneStep (cfg.zones.slot z) (zoneAggregate cfg (prepassCore cfg cb inp core) z)
          (tripOffsetMc cfg (prepassCore cfg cb inp core)) inp.nowMs zr := rfl
  rw [passDone_zones, hstep, hzones]

/-- What a step does to one zone. -/
theorem slot_passDone_zones (hr : ConfigRules cfg) {z : Nat} (hz : z < cfg.zoneCount) :
    (passDone cfg cb inp core).core.zones.slot z =
      zoneStep (cfg.zones.slot z) (zoneAggregate cfg (prepassCore cfg cb inp core) z)
        (tripOffsetMc cfg (prepassCore cfg cb inp core)) inp.nowMs (core.zones.slot z) := by
  rw [passDone_zones_eq, Vector.slot_forSlots_lt _ _ hr.zoneCount_le hz]

end zones

/-- The fields of a zone's record that commands may write and a step does not. -/
structure ZoneShadowKept (zr zr' : ZoneRuntime) : Prop where
  sensorSlots : zr'.sensorSlots = zr.sensorSlots
  shadowPid : zr'.shadowPid = zr.shadowPid
  shadowTrips : zr'.shadowTrips = zr.shadowTrips

/-- A zone's step does not touch its copies. -/
theorem zoneStep_shadow (zc : ZoneCfg) (agg : ZoneAggregateResult) (offsetMc : Int) (nowMs : Nat)
    (zr : ZoneRuntime) : ZoneShadowKept zr (zoneStep zc agg offsetMc nowMs zr) := by
  unfold zoneStep
  dsimp only
  split
  · exact ⟨rfl, rfl, rfl⟩
  · next ops _ => cases ops <;> exact ⟨rfl, rfl, rfl⟩

/-! ## The invariant -/

/-- A PID block with the tunable fields of another. -/
def PidCfg.tunedAs (p q : PidCfg) : PidCfg :=
  { p with kpQ16 := q.kpQ16, kiQ16 := q.kiQ16, kdQ16 := q.kdQ16, setpointMc := q.setpointMc }

/-- A zone's shadow differs from its configuration in tunable fields only. -/
structure ZoneShadowInv (cfg : Config) (zc : ZoneCfg) (zr : ZoneRuntime) : Prop where
  sensorSlots : ∀ k < zc.sensorCount,
    findSensorSlot cfg (zc.sensorIds.slot k) = some (zr.sensorSlots.slot k)
  pid : zr.shadowPid = zc.pid.tunedAs zr.shadowPid
  trips : ∀ t < zc.tripCount, zr.shadowTrips.slot t =
    (zc.trips.slot t).withTemp (zr.shadowTrips.slot t).tempMc (zr.shadowTrips.slot t).hystMc

/-- The invariant stays where the copies do. -/
theorem ZoneShadowInv.kept {cfg : Config} {zc : ZoneCfg} {zr zr' : ZoneRuntime}
    (h : ZoneShadowInv cfg zc zr) (hk : ZoneShadowKept zr zr') : ZoneShadowInv cfg zc zr' := by
  obtain ⟨h1, h2, h3⟩ := hk
  exact ⟨by rw [h1]; exact h.sensorSlots, by rw [h2]; exact h.pid, by rw [h3]; exact h.trips⟩

/-- Init copies the configuration. -/
theorem initZone_shadowInv {cfg : Config} {zc : ZoneCfg} (h : ZoneRules cfg zc) :
    ZoneShadowInv cfg zc (initZone cfg zc) where
  sensorSlots k hk := by
    have hslot : (initZone cfg zc).sensorSlots.slot k =
        (findSensorSlot cfg (zc.sensorIds.slot k)).getD 255 :=
      Vector.slot_forSlots_lt _ _ h.sensorCount.2 hk
    rw [hslot]
    cases hs : findSensorSlot cfg (zc.sensorIds.slot k) with
    | none => exact absurd hs (h.sensorIds k hk)
    | some s => rfl
  pid := rfl
  trips t ht := by
    have hslot : (initZone cfg zc).shadowTrips.slot t = zc.trips.slot t :=
      Vector.slot_forSlots_lt _ _ h.tripCount ht
    rw [hslot]
    rfl

/-- New gains keep it. -/
theorem withGains_shadowInv {cfg : Config} {zc : ZoneCfg} {zr : ZoneRuntime}
    (h : ZoneShadowInv cfg zc zr) (kp ki kd : Int) :
    ZoneShadowInv cfg zc (zr.withGains kp ki kd) where
  sensorSlots := h.sensorSlots
  pid := by
    unfold ZoneRuntime.withGains
    dsimp only
    rw [h.pid]
    rfl
  trips := h.trips

/-- A new setpoint keeps it. -/
theorem withSetpoint_shadowInv {cfg : Config} {zc : ZoneCfg} {zr : ZoneRuntime}
    (h : ZoneShadowInv cfg zc zr) (sp : Int) : ZoneShadowInv cfg zc (zr.withSetpoint sp) where
  sensorSlots := h.sensorSlots
  pid := by
    unfold ZoneRuntime.withSetpoint
    dsimp only
    rw [h.pid]
    rfl
  trips := h.trips

/-- A new temperature and hysteresis keep it. -/
theorem withTrip_shadowInv {cfg : Config} {zc : ZoneCfg} {zr : ZoneRuntime}
    (h : ZoneShadowInv cfg zc zr) (t : Nat) (temp hyst : Int) :
    ZoneShadowInv cfg zc (zr.withTrip t temp hyst) where
  sensorSlots := h.sensorSlots
  pid := h.pid
  trips i hi := by
    unfold ZoneRuntime.withTrip
    dsimp only
    rw [Vector.slot_edit]
    split
    · rw [h.trips i hi]
      rfl
    · exact h.trips i hi

/-- A modifier's shadow differs from its configuration in its first
`curveCount` curve points only. -/
structure ModifierShadowInv (mc : ModifierCfg) (m : ModifierCfg) : Prop where
  others : m = { mc with curve := m.curve }
  tail : ∀ p, mc.curveCount ≤ p → m.curve.slot p = mc.curve.slot p

/-- The invariant of the whole core. -/
structure ShadowInv (cfg : Config) (core : Core) : Prop where
  zones : ∀ z < cfg.zoneCount, ZoneShadowInv cfg (cfg.zones.slot z) (core.zones.slot z)
  modifiers : ∀ m < cfg.modifierCount,
    ModifierShadowInv (cfg.modifiers.slot m) (core.modifiers.slot m).shadow

/-- The invariant holds at init. -/
theorem initCore_shadowInv {cfg : Config} (hr : ConfigRules cfg) : ShadowInv cfg (initCore cfg) where
  zones z hz := by
    have hslot : (initCore cfg).zones.slot z = initZone cfg (cfg.zones.slot z) :=
      Vector.slot_forSlots_lt _ _ hr.zoneCount_le hz
    rw [hslot]
    exact initZone_shadowInv (hr.zone hz)
  modifiers m hm := by
    have hle : cfg.modifierCount ≤ maxModifiers := ((validateCounts_iff cfg).mp hr.counts).modifiers
    have hslot : ((initCore cfg).modifiers.slot m).shadow = cfg.modifiers.slot m := by
      have := Vector.slot_forSlots_lt (default : Vector ModifierRuntime maxModifiers)
        (fun i mr => { mr with shadow := cfg.modifiers.slot i }) hle hm
      exact congrArg ModifierRuntime.shadow this
    rw [hslot]
    exact ⟨rfl, fun _ _ => rfl⟩

/-- Step 5 writes the outputs of the modifiers and leaves their shadows alone. -/
theorem senseCore_shadow (cfg : Config) (inp : InputSnapshot) (core : Core) (m : Nat) :
    ((senseCore cfg inp core).modifiers.slot m).shadow = (core.modifiers.slot m).shadow := by
  have hclear (c : Core) (i : Nat) :
      ((clearModifierOutputs c).modifiers.slot i).shadow = (c.modifiers.slot i).shadow := by
    unfold clearModifierOutputs
    dsimp only
    rw [Vector.slot_forSlots]
    split <;> rfl
  have h5 (c : Core) : ((step5ModifierEval cfg c).modifiers.slot m).shadow =
      (c.modifiers.slot m).shadow := by
    unfold step5ModifierEval
    dsimp only
    split
    · exact hclear c m
    · split
      · exact hclear c m
      · dsimp only
        rw [Vector.slot_edit]
        split <;> exact hclear c m
  unfold senseCore
  rw [h5]
  rfl

/-- **Step**: an accepted step keeps the invariant. -/
theorem passDone_shadowInv {cfg : Config} {cb : Callbacks} {inp : InputSnapshot} {core : Core}
    (hr : ConfigRules cfg) (h : ShadowInv cfg core) :
    ShadowInv cfg (passDone cfg cb inp core).core where
  zones z hz := by
    rw [slot_passDone_zones hr hz]
    exact (h.zones z hz).kept (zoneStep_shadow ..)
  modifiers m hm := by
    rw [passDone_modifiers, senseCore_shadow]
    exact h.modifiers m hm

/-- An edit of one zone keeps the invariant when it keeps it there. -/
theorem ShadowInv.editZone {cfg : Config} {core : Core} (h : ShadowInv cfg core) (z : Nat)
    (f : ZoneRuntime → ZoneRuntime)
    (hf : ∀ zr, ZoneShadowInv cfg (cfg.zones.slot z) zr → ZoneShadowInv cfg (cfg.zones.slot z) (f zr)) :
    ShadowInv cfg { core with zones := core.zones.edit z f } where
  zones i hi := by
    dsimp only
    rw [Vector.slot_edit]
    split
    · next hzi =>
        obtain ⟨rfl, -⟩ := hzi
        exact hf _ (h.zones z hi)
    · exact h.zones i hi
  modifiers := h.modifiers

/-- So does a write of one curve point in use. -/
theorem ShadowInv.editPoint {cfg : Config} {core : Core} (h : ShadowInv cfg core) {m p : Nat}
    (hp : p < (cfg.modifiers.slot m).curveCount) (pt : CurvePoint) :
    ShadowInv cfg { core with modifiers := core.modifiers.edit m fun mr =>
      { mr with shadow := mr.shadow.withPoint p pt } } where
  zones := h.zones
  modifiers i hi := by
    dsimp only
    rw [Vector.slot_edit]
    split
    · next hmi =>
        obtain ⟨rfl, -⟩ := hmi
        have hold := h.modifiers m hi
        refine ⟨?_, fun q hq => ?_⟩
        · rw [hold.others]
          rfl
        · unfold ModifierCfg.withPoint
          dsimp only
          rw [Vector.slot_put_ne _ _ (by omega)]
          exact hold.tail q hq
    · exact h.modifiers i hi

/-- **Step**: an accepted command keeps the invariant. -/
theorem CommandWrite.shadowInv {cfg : Config} {core core' : Core} {cmd : Command}
    (hw : CommandWrite cfg core cmd core') (h : ShadowInv cfg core) : ShadowInv cfg core' := by
  cases hw with
  | setPid z kp ki kd => exact h.editZone z _ fun zr hz => withGains_shadowInv hz kp ki kd
  | setSetpoint z sp => exact h.editZone z _ fun zr hz => withSetpoint_shadowInv hz sp
  | setTrip z t temp hyst => exact h.editZone z _ fun zr hz => withTrip_shadowInv hz t temp hyst
  | setCurvePoint m p x v0 v1 _ hp => exact h.editPoint hp ⟨x, v0, v1⟩
  | clearNothing => exact h
  | clearStall => exact ⟨h.zones, h.modifiers⟩
  | clearStuckSensor => exact ⟨h.zones, h.modifiers⟩
  | clearRunaway => exact ⟨h.zones, h.modifiers⟩
  | clearStaleContext => exact ⟨h.zones, h.modifiers⟩

/-- **Shadow invariant.** -/
theorem reachable_shadowInv {cfg : Config} {cb : Callbacks} {core : Core} (hr : ConfigRules cfg)
    (h : Reachable cfg cb core) : ShadowInv cfg core := by
  refine h.induct (initCore_shadowInv hr) (fun c inp _ hc => passDone_shadowInv hr hc) fun c cmd hc => ?_
  obtain ⟨-, hrej⟩ | ⟨-, hw⟩ := runCommand_cases cfg c cmd
  · rw [hrej]
    exact hc
  · exact hw.shadowInv hc

end ThermalCore
