import Mathlib.Data.List.TakeWhile
import Mathlib.Tactic.MkIffOfInductiveProp
import ThermalCore.Hash.Writers
import ThermalCore.Accepted
import ThermalCore.Typed

/-!
# The stream is canonical and injective

Two configurations have one stream exactly when they agree on every scalar,
every count, every counted entry, the whole of each `state_pwm` and every name
as a string.  The only premise is that each field holds a value of its C type.

The argument is by layers.  A primitive writer is injective on the values its
type has.  A record's writer is a chain of writers of fixed length, so two of its
outputs agree exactly when each field does, and for an array exactly when the
counted entries do, since the count is written too.  `hashStream_canonical` puts
the records together.
-/

namespace ThermalCore

open MachineInt FixedCode

/-! ## Agreement -/

/-- Agreement of two sensors as `w_sensor` sees them: names as strings. -/
@[mk_iff]
structure SensorCfg.Same (c c' : SensorCfg) : Prop where
  id : c.id = c'.id
  name : nameString c.name = nameString c'.name
  iirAlphaQ16 : c.iirAlphaQ16 = c'.iirAlphaQ16
  maxStalenessMs : c.maxStalenessMs = c'.maxStalenessMs

instance (c c' : SensorCfg) : Decidable (c.Same c') := decidable_of_iff' _ (SensorCfg.same_iff _ _)

/-- Agreement of two context signals as `w_context` sees them: names as strings. -/
@[mk_iff]
structure ContextCfg.Same (c c' : ContextCfg) : Prop where
  id : c.id = c'.id
  name : nameString c.name = nameString c'.name
  unit : c.unit = c'.unit
  iirAlphaQ16 : c.iirAlphaQ16 = c'.iirAlphaQ16
  timeoutMs : c.timeoutMs = c'.timeoutMs
  failSafe : c.failSafe = c'.failSafe

instance (c c' : ContextCfg) : Decidable (c.Same c') := decidable_of_iff' _ (ContextCfg.same_iff _ _)

/-- Agreement of two actuators as `w_actuator` sees them: the counted curve points, all of
`state_pwm`. -/
@[mk_iff]
structure ActuatorCfg.Same (c c' : ActuatorCfg) : Prop where
  id : c.id = c'.id
  name : nameString c.name = nameString c'.name
  pwmMin : c.pwmMin = c'.pwmMin
  pwmMax : c.pwmMax = c'.pwmMax
  slewPerTick : c.slewPerTick = c'.slewPerTick
  spinupPwm : c.spinupPwm = c'.spinupPwm
  spinupMs : c.spinupMs = c'.spinupMs
  minOnTicks : c.minOnTicks = c'.minOnTicks
  minOffTicks : c.minOffTicks = c'.minOffTicks
  statePwm : c.statePwm = c'.statePwm
  dutyLinearizationCount : c.dutyLinearizationCount = c'.dutyLinearizationCount
  dutyLinearization : ∀ i < c.dutyLinearizationCount,
    c.dutyLinearization.slot i = c'.dutyLinearization.slot i

instance (c c' : ActuatorCfg) : Decidable (c.Same c') := decidable_of_iff' _ (ActuatorCfg.same_iff _ _)

/-- Agreement of two zones as `w_zone` sees them: the counted sensors, actuators and trips. -/
@[mk_iff]
structure ZoneCfg.Same (z z' : ZoneCfg) : Prop where
  name : nameString z.name = nameString z'.name
  sensorCount : z.sensorCount = z'.sensorCount
  sensorIds : ∀ k < z.sensorCount, z.sensorIds.slot k = z'.sensorIds.slot k
  sensorWeightsQ16 : ∀ k < z.sensorCount, z.sensorWeightsQ16.slot k = z'.sensorWeightsQ16.slot k
  aggregation : z.aggregation = z'.aggregation
  fallbackTempMc : z.fallbackTempMc = z'.fallbackTempMc
  governor : z.governor = z'.governor
  pid : z.pid = z'.pid
  actuatorCount : z.actuatorCount = z'.actuatorCount
  actuatorIds : ∀ k < z.actuatorCount, z.actuatorIds.slot k = z'.actuatorIds.slot k
  tripCount : z.tripCount = z'.tripCount
  trips : ∀ t < z.tripCount, z.trips.slot t = z'.trips.slot t

instance (z z' : ZoneCfg) : Decidable (z.Same z') := decidable_of_iff' _ (ZoneCfg.same_iff _ _)

/-- Agreement of two modifiers as `w_modifier` sees them: the counted curve points. -/
@[mk_iff]
structure ModifierCfg.Same (m m' : ModifierCfg) : Prop where
  name : nameString m.name = nameString m'.name
  contextId : m.contextId = m'.contextId
  stages : m.stages = m'.stages
  curveCount : m.curveCount = m'.curveCount
  curve : ∀ k < m.curveCount, m.curve.slot k = m'.curve.slot k
  failSafe : m.failSafe = m'.failSafe

instance (m m' : ModifierCfg) : Decidable (m.Same m') := decidable_of_iff' _ (ModifierCfg.same_iff _ _)

/-- Agreement of two telemetry blocks: the counted signal ids. -/
@[mk_iff]
structure TelemetryCfg.Same (t t' : TelemetryCfg) : Prop where
  enable : t.enable = t'.enable
  periodTicks : t.periodTicks = t'.periodTicks
  enabledSignalCount : t.enabledSignalCount = t'.enabledSignalCount
  enabledSignalIds : ∀ k < t.enabledSignalCount, t.enabledSignalIds.slot k = t'.enabledSignalIds.slot k

instance (t t' : TelemetryCfg) : Decidable (t.Same t') := decidable_of_iff' _ (TelemetryCfg.same_iff _ _)

/-- Agreement of two fan health blocks: the counted baseline points. -/
@[mk_iff]
structure FanHealthCfg.Same (f f' : FanHealthCfg) : Prop where
  enable : f.enable = f'.enable
  baselineSource : f.baselineSource = f'.baselineSource
  baselineCount : f.baselineCount = f'.baselineCount
  baseline : ∀ k < f.baselineCount, f.baseline.slot k = f'.baseline.slot k
  stablePwmTicks : f.stablePwmTicks = f'.stablePwmTicks
  stablePwmTolerance : f.stablePwmTolerance = f'.stablePwmTolerance
  stableRpmTicks : f.stableRpmTicks = f'.stableRpmTicks
  stableRpmTolerancePct : f.stableRpmTolerancePct = f'.stableRpmTolerancePct
  minPointsObserved : f.minPointsObserved = f'.minPointsObserved
  agingPct : f.agingPct = f'.agingPct
  degradedPct : f.degradedPct = f'.degradedPct
  failingPct : f.failingPct = f'.failingPct

instance (f f' : FanHealthCfg) : Decidable (f.Same f') := decidable_of_iff' _ (FanHealthCfg.same_iff _ _)

/-- Equal but for entries past a count and bytes past the end of a name. -/
@[mk_iff]
structure Config.Same (cfg cfg' : Config) : Prop where
  configVersion : cfg.configVersion = cfg'.configVersion
  controlPeriodMs : cfg.controlPeriodMs = cfg'.controlPeriodMs
  periodRelativeToMs : cfg.periodRelativeToMs = cfg'.periodRelativeToMs
  sensorCount : cfg.sensorCount = cfg'.sensorCount
  sensors : ∀ s < cfg.sensorCount, (cfg.sensors.slot s).Same (cfg'.sensors.slot s)
  contextCount : cfg.contextCount = cfg'.contextCount
  contexts : ∀ c < cfg.contextCount, (cfg.contexts.slot c).Same (cfg'.contexts.slot c)
  actuatorCount : cfg.actuatorCount = cfg'.actuatorCount
  actuators : ∀ a < cfg.actuatorCount, (cfg.actuators.slot a).Same (cfg'.actuators.slot a)
  zoneCount : cfg.zoneCount = cfg'.zoneCount
  zones : ∀ z < cfg.zoneCount, (cfg.zones.slot z).Same (cfg'.zones.slot z)
  modifierCount : cfg.modifierCount = cfg'.modifierCount
  modifiers : ∀ m < cfg.modifierCount, (cfg.modifiers.slot m).Same (cfg'.modifiers.slot m)
  faults : cfg.faults = cfg'.faults
  telemetry : cfg.telemetry.Same cfg'.telemetry
  fanHealth : ∀ a < cfg.actuatorCount, (cfg.fanHealth.slot a).Same (cfg'.fanHealth.slot a)

instance (cfg cfg' : Config) : Decidable (cfg.Same cfg') := decidable_of_iff' _ (Config.same_iff _ _)

/-! ## Primitive writers -/

/-- A byte is read back from what `w_u8` writes. -/
theorem wU8_inj_iff {v v' : Nat} (h : v < 2 ^ 8) (h' : v' < 2 ^ 8) : wU8 v = wU8 v' ↔ v = v' := by
  exact put_inj_iff (n := 1) h h'

/-- A `uint16_t` is read back from its two bytes. -/
theorem wU16_inj_iff {v v' : Nat} (h : v < 2 ^ 16) (h' : v' < 2 ^ 16) : wU16 v = wU16 v' ↔ v = v' := by
  have heq (v : Nat) : wU16 v = LittleEndian.put 2 v := putU16LE_eq v
  rw [heq, heq, put_inj_iff h h']

/-- A `uint32_t` is read back from its four bytes. -/
theorem wU32_inj_iff {v v' : Nat} (h : v < 2 ^ 32) (h' : v' < 2 ^ 32) : wU32 v = wU32 v' ↔ v = v' := by
  have heq (v : Nat) : wU32 v = LittleEndian.put 4 v := putU32LE_eq v
  rw [heq, heq, put_inj_iff h h']

/-- An `int32_t` is read back from the bytes of its bit pattern. -/
theorem wI32_inj_iff {v v' : Int} (h : IsI32 v) (h' : IsI32 v') : wI32 v = wI32 v' ↔ v = v' := by
  unfold IsI32 i32Min i32Max at h h'
  unfold wI32
  rw [wU32_inj_iff (by unfold toU32; omega) (by unfold toU32; omega)]
  unfold toU32
  omega

/-- An `int8_t` is read back from the byte its cast to `uint8_t` gives. -/
theorem wI8_inj_iff {v v' : Int} (h : IsI8 v) (h' : IsI8 v') : wU8 (toU8 v) = wU8 (toU8 v') ↔ v = v' := by
  unfold IsI8 at h h'
  rw [wU8_inj_iff (by unfold toU8; omega) (by unfold toU8; omega)]
  unfold toU8
  omega

/-- A character of a name's string is a byte and not the terminator. -/
theorem mem_nameString {name : Name} (h : NameTyped name) {b : Nat} (hb : b ∈ nameString name) :
    b ≠ 0 ∧ b < 2 ^ 8 := by
  refine ⟨by simpa using List.mem_takeWhile_imp hb, h b ?_⟩
  exact (List.takeWhile_sublist _).mem hb

/-- The padded name determines the string, since no character of it is a zero. -/
theorem wName_inj_iff {name name' : Name} (h : NameTyped name) (h' : NameTyped name') :
    wName name = wName name' ↔ nameString name = nameString name' := by
  constructor
  · intro heq
    have hne {name : Name} (ht : NameTyped name) : ∀ x ∈ (nameString name).map UInt8.ofNat, x ≠ 0 := by
      intro x hx
      obtain ⟨b, hb, rfl⟩ := List.mem_map.mp hx
      obtain ⟨hzero, hlt⟩ := mem_nameString ht hb
      intro hof
      have htoNat := congrArg UInt8.toNat hof
      rw [UInt8.toNat_ofNat', Nat.mod_eq_of_lt hlt] at htoNat
      exact hzero htoNat
    have hback {name : Name} (ht : NameTyped name) :
        ((nameString name).map UInt8.ofNat).map UInt8.toNat = nameString name := by
      rw [List.map_map]
      refine (List.map_congr_left fun b hb => ?_).trans (List.map_id _)
      exact (UInt8.toNat_ofNat' ..).trans (Nat.mod_eq_of_lt (mem_nameString ht hb).2)
    have hbytes := padded_inj (hne h) (hne h') heq
    rw [← hback h, hbytes, hback h']
  · intro heq
    rw [wName, heq, wName]

section arrays

variable {n : Nat} (count : Nat)

/-- A counted array goes out alike exactly when the counted entries agree up to `R`. -/
theorem counted_eq_iff {α : Type} [Inhabited α] {w : α → Bool → List UInt8} {m : Nat} {arr arr' : Vector α n}
    {R : α → α → Prop} (hlen : ∀ x active, (w x active).length = m) (hoff : ∀ x y, w x false = w y false)
    (heq : ∀ i < n, w (arr.slot i) true = w (arr'.slot i) true ↔ R (arr.slot i) (arr'.slot i))
    (hdefault : R default default) :
    (slots n fun i => w (arr.slot i) (decide (i < count))) =
        (slots n fun i => w (arr'.slot i) (decide (i < count))) ↔
      ∀ i < count, R (arr.slot i) (arr'.slot i) := by
  rw [counted_inj_iff hlen hoff]
  constructor
  · intro h i hi
    rcases Nat.lt_or_ge i n with hin | hin
    · exact (heq i hin).mp (h i hin hi)
    · rw [Vector.slot_of_ge arr hin, Vector.slot_of_ge arr' hin]
      exact hdefault
  · exact fun h i hin hi => (heq i hin).mpr (h i hi)

/-- Two arrays of `uint16_t` with one count go out alike exactly when the counted entries agree. -/
theorem wU16Array_inj_iff {arr arr' : Vector Nat n} (h : ∀ i < n, arr.slot i < 2 ^ 16)
    (h' : ∀ i < n, arr'.slot i < 2 ^ 16) :
    wU16Array arr count n = wU16Array arr' count n ↔ ∀ i < count, arr.slot i = arr'.slot i := by
  have hiff := counted_eq_iff (w := fun x active => wU16 (if active then x else 0)) (R := (· = ·)) count
    (fun _ _ => length_wU16 _) (fun _ _ => rfl) (fun i hi => wU16_inj_iff (h i hi) (h' i hi)) rfl
  simpa [wU16Array] using hiff

/-- Two arrays of `int32_t` with one count go out alike exactly when the counted entries agree. -/
theorem wI32Array_inj_iff {arr arr' : Vector Int n} (h : ∀ i < n, IsI32 (arr.slot i))
    (h' : ∀ i < n, IsI32 (arr'.slot i)) :
    wI32Array arr count n = wI32Array arr' count n ↔ ∀ i < count, arr.slot i = arr'.slot i := by
  have hiff := counted_eq_iff (w := fun x active => wI32 (if active then x else 0)) (R := (· = ·)) count
    (fun _ _ => length_wI32 _) (fun _ _ => rfl) (fun i hi => wI32_inj_iff (h i hi) (h' i hi)) rfl
  simpa [wI32Array] using hiff

/-- A byte array written whole, as `state_pwm` is, goes out alike only when it is the same array. -/
theorem wU8Array_inj_iff {arr arr' : Vector Nat n} (h : ∀ i < n, arr.slot i < 2 ^ 8)
    (h' : ∀ i < n, arr'.slot i < 2 ^ 8) : wU8Array arr n n = wU8Array arr' n n ↔ arr = arr' := by
  rw [wU8Array, wU8Array, slots_inj_iff (fun _ _ => length_wU8 _) (fun _ _ => length_wU8 _)]
  constructor
  · intro heq
    refine Vector.ext_slot fun i hi => ?_
    have hi' := heq i hi
    rwa [if_pos hi, if_pos hi, wU8_inj_iff (h i hi) (h' i hi)] at hi'
  · rintro rfl i _
    rfl

end arrays

/-! ## Records -/

/-- An active point is read back whole. -/
theorem wCurvePoint_inj_iff {c c' : CurvePoint} (h : c.Typed) (h' : c'.Typed) :
    wCurvePoint c true = wCurvePoint c' true ↔ c = c' := by
  show wI32 c.x ++ wI32 c.value0 ++ wI32 c.value1 = wI32 c'.x ++ wI32 c'.value0 ++ wI32 c'.value1 ↔ _
  repeat rw [append_inj_iff (by simp)]
  rw [wI32_inj_iff h.x h'.x, wI32_inj_iff h.value0 h'.value0, wI32_inj_iff h.value1 h'.value1]
  cases c
  cases c'
  simp [and_assoc]

/-- An active sensor's bytes say exactly what `SensorCfg.Same` compares. -/
theorem wSensor_inj_iff {c c' : SensorCfg} (h : c.Typed) (h' : c'.Typed) :
    wSensor c true = wSensor c' true ↔ c.Same c' := by
  simp only [wSensor, Bool.true_eq_false, ite_false]
  repeat rw [append_inj_iff (by simp)]
  rw [wU16_inj_iff h.id h'.id, wName_inj_iff h.name h'.name,
    wI32_inj_iff h.iirAlphaQ16 h'.iirAlphaQ16, wU32_inj_iff h.maxStalenessMs h'.maxStalenessMs]
  constructor
  · rintro ⟨⟨⟨id, name⟩, iirAlphaQ16⟩, maxStalenessMs⟩
    exact ⟨id, name, iirAlphaQ16, maxStalenessMs⟩
  · rintro ⟨id, name, iirAlphaQ16, maxStalenessMs⟩
    exact ⟨⟨⟨id, name⟩, iirAlphaQ16⟩, maxStalenessMs⟩

/-- An active signal's bytes say exactly what `ContextCfg.Same` compares. -/
theorem wContext_inj_iff {c c' : ContextCfg} (h : c.Typed) (h' : c'.Typed) :
    wContext c true = wContext c' true ↔ c.Same c' := by
  simp only [wContext, Bool.true_eq_false, ite_false]
  repeat rw [append_inj_iff (by simp)]
  rw [wU16_inj_iff h.id h'.id, wName_inj_iff h.name h'.name, wU8_inj_iff h.unit h'.unit,
    wI32_inj_iff h.iirAlphaQ16 h'.iirAlphaQ16, wU32_inj_iff h.timeoutMs h'.timeoutMs,
    wU8_inj_iff h.failSafe h'.failSafe]
  simp only [and_assoc]
  constructor
  · rintro ⟨id, name, unit, iirAlphaQ16, timeoutMs, failSafe⟩
    exact ⟨id, name, unit, iirAlphaQ16, timeoutMs, failSafe⟩
  · rintro ⟨id, name, unit, iirAlphaQ16, timeoutMs, failSafe⟩
    exact ⟨id, name, unit, iirAlphaQ16, timeoutMs, failSafe⟩

/-- The curve of an actuator, a modifier or a baseline. -/
theorem wCurve_eq_iff {n : Nat} (count : Nat) {curve curve' : Vector CurvePoint n}
    (h : ∀ i < n, (curve.slot i).Typed) (h' : ∀ i < n, (curve'.slot i).Typed) :
    (slots n fun i => wCurvePoint (curve.slot i) (decide (i < count))) =
        (slots n fun i => wCurvePoint (curve'.slot i) (decide (i < count))) ↔
      ∀ i < count, curve.slot i = curve'.slot i :=
  counted_eq_iff count length_wCurvePoint (fun _ _ => rfl)
    (fun i hi => wCurvePoint_inj_iff (h i hi) (h' i hi)) rfl

/-- An active actuator's bytes say exactly what `ActuatorCfg.Same` compares. -/
theorem wActuator_inj_iff {c c' : ActuatorCfg} (h : c.Typed) (h' : c'.Typed) :
    wActuator c true = wActuator c' true ↔ c.Same c' := by
  simp only [wActuator, Bool.true_eq_false, ite_false]
  repeat rw [append_inj_iff (by simp)]
  rw [wU16_inj_iff h.id h'.id, wName_inj_iff h.name h'.name, wU8_inj_iff h.pwmMin h'.pwmMin,
    wU8_inj_iff h.pwmMax h'.pwmMax, wU8_inj_iff h.slewPerTick h'.slewPerTick,
    wU8_inj_iff h.spinupPwm h'.spinupPwm, wU32_inj_iff h.spinupMs h'.spinupMs,
    wU16_inj_iff h.minOnTicks h'.minOnTicks, wU16_inj_iff h.minOffTicks h'.minOffTicks,
    wU8Array_inj_iff h.statePwm h'.statePwm,
    wU8_inj_iff h.dutyLinearizationCount h'.dutyLinearizationCount]
  simp only [and_assoc]
  have hcurve := wCurve_eq_iff c.dutyLinearizationCount h.dutyLinearization h'.dutyLinearization
  constructor
  · rintro ⟨id, name, pwmMin, pwmMax, slew, spinupPwm, spinupMs, minOn, minOff, statePwm, curve, count⟩
    rw [← count] at curve
    exact ⟨id, name, pwmMin, pwmMax, slew, spinupPwm, spinupMs, minOn, minOff, statePwm, count,
      hcurve.mp curve⟩
  · rintro ⟨id, name, pwmMin, pwmMax, slew, spinupPwm, spinupMs, minOn, minOff, statePwm, count, curve⟩
    rw [← count]
    exact ⟨id, name, pwmMin, pwmMax, slew, spinupPwm, spinupMs, minOn, minOff, statePwm,
      hcurve.mpr curve, rfl⟩

/-- The PID block is read back whole. -/
theorem wPid_inj_iff {p p' : PidCfg} (h : p.Typed) (h' : p'.Typed) : wPid p = wPid p' ↔ p = p' := by
  unfold wPid
  repeat rw [append_inj_iff (by simp)]
  rw [wI32_inj_iff h.kpQ16 h'.kpQ16, wI32_inj_iff h.kiQ16 h'.kiQ16, wI32_inj_iff h.kdQ16 h'.kdQ16,
    wI32_inj_iff h.dFilterAlphaQ16 h'.dFilterAlphaQ16, wI32_inj_iff h.setpointMc h'.setpointMc,
    wI32_inj_iff h.kpMinQ16 h'.kpMinQ16, wI32_inj_iff h.kpMaxQ16 h'.kpMaxQ16,
    wI32_inj_iff h.kiMinQ16 h'.kiMinQ16, wI32_inj_iff h.kiMaxQ16 h'.kiMaxQ16,
    wI32_inj_iff h.kdMinQ16 h'.kdMinQ16, wI32_inj_iff h.kdMaxQ16 h'.kdMaxQ16,
    wI32_inj_iff h.setpointMinMc h'.setpointMinMc, wI32_inj_iff h.setpointMaxMc h'.setpointMaxMc,
    wU16_inj_iff h.dtMinMs h'.dtMinMs, wU16_inj_iff h.dtMaxMs h'.dtMaxMs]
  cases p
  cases p'
  simp only [and_assoc, PidCfg.mk.injEq]

/-- An active trip is read back whole. -/
theorem wTrip_inj_iff {t t' : TripCfg} (h : t.Typed) (h' : t'.Typed) :
    wTrip t true = wTrip t' true ↔ t = t' := by
  simp only [wTrip, Bool.true_eq_false, ite_false]
  repeat rw [append_inj_iff (by simp)]
  rw [wI32_inj_iff h.tempMc h'.tempMc, wI32_inj_iff h.hystMc h'.hystMc,
    wU8_inj_iff h.severity h'.severity, wU8_inj_iff h.coolingState h'.coolingState]
  cases t
  cases t'
  simp only [and_assoc, TripCfg.mk.injEq]

/-- An active zone's bytes say exactly what `ZoneCfg.Same` compares. -/
theorem wZone_inj_iff {z z' : ZoneCfg} (h : z.Typed) (h' : z'.Typed) :
    wZone z true = wZone z' true ↔ z.Same z' := by
  simp only [wZone, Bool.true_eq_false, ite_false]
  repeat rw [append_inj_iff (by simp)]
  rw [wName_inj_iff h.name h'.name, wU8_inj_iff h.sensorCount h'.sensorCount,
    wU8_inj_iff h.aggregation h'.aggregation, wI32_inj_iff h.fallbackTempMc h'.fallbackTempMc,
    wU8_inj_iff h.governor h'.governor, wPid_inj_iff h.pid h'.pid,
    wU8_inj_iff h.actuatorCount h'.actuatorCount, wU8_inj_iff h.tripCount h'.tripCount]
  simp only [and_assoc]
  have hids := wU16Array_inj_iff z.sensorCount h.sensorIds h'.sensorIds
  have hweights := wI32Array_inj_iff z.sensorCount h.sensorWeightsQ16 h'.sensorWeightsQ16
  have hactuators := wU16Array_inj_iff z.actuatorCount h.actuatorIds h'.actuatorIds
  have htrips := counted_eq_iff z.tripCount (R := Eq) length_wTrip (fun _ _ => rfl)
    (fun t ht => wTrip_inj_iff (h.trips t ht) (h'.trips t ht)) rfl
  constructor
  · rintro ⟨name, ids, weights, sensorCount, aggregation, fallback, governor, pid, actuators,
      actuatorCount, trips, tripCount⟩
    rw [← sensorCount] at ids weights
    rw [← actuatorCount] at actuators
    rw [← tripCount] at trips
    exact ⟨name, sensorCount, hids.mp ids, hweights.mp weights, aggregation, fallback, governor, pid,
      actuatorCount, hactuators.mp actuators, tripCount, htrips.mp trips⟩
  · rintro ⟨name, sensorCount, ids, weights, aggregation, fallback, governor, pid, actuatorCount,
      actuators, tripCount, trips⟩
    rw [← sensorCount, ← actuatorCount, ← tripCount]
    exact ⟨name, hids.mpr ids, hweights.mpr weights, rfl, aggregation, fallback, governor, pid,
      hactuators.mpr actuators, rfl, htrips.mpr trips, rfl⟩

/-- An active modifier's bytes say exactly what `ModifierCfg.Same` compares. -/
theorem wModifier_inj_iff {m m' : ModifierCfg} (h : m.Typed) (h' : m'.Typed) :
    wModifier m true = wModifier m' true ↔ m.Same m' := by
  simp only [wModifier, Bool.true_eq_false, ite_false]
  repeat rw [append_inj_iff (by simp)]
  rw [wName_inj_iff h.name h'.name, wU16_inj_iff h.contextId h'.contextId,
    wU8_inj_iff h.stages h'.stages, wU8_inj_iff h.curveCount h'.curveCount,
    wU8_inj_iff h.failSafe h'.failSafe]
  simp only [and_assoc]
  have hcurve := wCurve_eq_iff m.curveCount h.curve h'.curve
  constructor
  · rintro ⟨name, contextId, stages, curve, curveCount, failSafe⟩
    rw [← curveCount] at curve
    exact ⟨name, contextId, stages, curveCount, hcurve.mp curve, failSafe⟩
  · rintro ⟨name, contextId, stages, curveCount, curve, failSafe⟩
    rw [← curveCount]
    exact ⟨name, contextId, stages, hcurve.mpr curve, rfl, failSafe⟩

/-- A detector's defaults are read back whole. -/
theorem wFaultDetector_inj_iff {f f' : FaultDetectorCfg} (h : f.Typed) (h' : f'.Typed) :
    wFaultDetector f = wFaultDetector f' ↔ f = f' := by
  unfold wFaultDetector
  repeat rw [append_inj_iff (by simp)]
  rw [wU8_inj_iff h.enabled h'.enabled, wU8_inj_iff h.severity h'.severity, wU8_inj_iff h.action h'.action,
    wU16_inj_iff h.persistTicks h'.persistTicks, wU16_inj_iff h.recoveryTicks h'.recoveryTicks,
    wI32_inj_iff h.threshold0 h'.threshold0, wI32_inj_iff h.threshold1 h'.threshold1,
    wI32_inj_iff h.threshold2 h'.threshold2, wU16_inj_iff h.correlatedContextId h'.correlatedContextId]
  cases f
  cases f'
  simp only [and_assoc, FaultDetectorCfg.mk.injEq]

/-- An active fan health block's bytes say exactly what `FanHealthCfg.Same` compares. -/
theorem wFanHealth_inj_iff {f f' : FanHealthCfg} (h : f.Typed) (h' : f'.Typed) :
    wFanHealth f true = wFanHealth f' true ↔ f.Same f' := by
  simp only [wFanHealth, Bool.true_eq_false, ite_false]
  repeat rw [append_inj_iff (by simp)]
  rw [wU8_inj_iff h.enable h'.enable, wU8_inj_iff h.baselineSource h'.baselineSource,
    wU8_inj_iff h.baselineCount h'.baselineCount, wU16_inj_iff h.stablePwmTicks h'.stablePwmTicks,
    wU8_inj_iff h.stablePwmTolerance h'.stablePwmTolerance,
    wU16_inj_iff h.stableRpmTicks h'.stableRpmTicks,
    wU8_inj_iff h.stableRpmTolerancePct h'.stableRpmTolerancePct,
    wU8_inj_iff h.minPointsObserved h'.minPointsObserved, wI8_inj_iff h.agingPct h'.agingPct,
    wI8_inj_iff h.degradedPct h'.degradedPct, wI8_inj_iff h.failingPct h'.failingPct]
  simp only [and_assoc]
  have hcurve := wCurve_eq_iff f.baselineCount h.baseline h'.baseline
  constructor
  · rintro ⟨enable, source, baseline, count, rest⟩
    rw [← count] at baseline
    obtain ⟨pwmTicks, pwmTolerance, rpmTicks, rpmTolerance, points, aging, degraded, failing⟩ := rest
    exact ⟨enable, source, count, hcurve.mp baseline, pwmTicks, pwmTolerance, rpmTicks, rpmTolerance,
      points, aging, degraded, failing⟩
  · rintro ⟨enable, source, count, baseline, pwmTicks, pwmTolerance, rpmTicks, rpmTolerance, points,
      aging, degraded, failing⟩
    rw [← count]
    exact ⟨enable, source, hcurve.mpr baseline, rfl, pwmTicks, pwmTolerance, rpmTicks, rpmTolerance,
      points, aging, degraded, failing⟩

/-! ## The stream -/

/-- The length of every stream. -/
def hashStreamLength : Nat := 2147

/-- The stream has one length for every configuration. -/
theorem length_hashStream (cfg : Config) : (hashStream cfg).length = hashStreamLength := by
  unfold hashStream hashStreamLength
  simp only [List.length_append]
  simp only [length_wU8, length_wU16, length_wU16Array, length_wFaultDetector, length_slots_wSensor,
    length_slots_wContext, length_slots_wActuator, length_slots_wZone, length_slots_wModifier,
    length_slots_wFanHealth]
  norm_num [maxSensors, maxContextSignals, maxActuators, maxZones, maxModifiers, maxTelemetrySignals]

/-- Part by part. -/
theorem hashStream_eq_iff_same {cfg cfg' : Config} (h : cfg.Typed) (h' : cfg'.Typed) :
    hashStream cfg = hashStream cfg' ↔ cfg.Same cfg' := by
  unfold hashStream
  repeat rw [append_inj_iff (by simp)]
  rw [wU16_inj_iff h.configVersion h'.configVersion, wU16_inj_iff h.controlPeriodMs h'.controlPeriodMs,
    wU16_inj_iff h.periodRelativeToMs h'.periodRelativeToMs, wU8_inj_iff h.sensorCount h'.sensorCount,
    wU8_inj_iff h.contextCount h'.contextCount, wU8_inj_iff h.actuatorCount h'.actuatorCount,
    wU8_inj_iff h.zoneCount h'.zoneCount, wU8_inj_iff h.modifierCount h'.modifierCount,
    wFaultDetector_inj_iff h.stallDefaults h'.stallDefaults,
    wFaultDetector_inj_iff h.stuckSensorDefaults h'.stuckSensorDefaults,
    wFaultDetector_inj_iff h.runawayDefaults h'.runawayDefaults,
    wFaultDetector_inj_iff h.staleContextDefaults h'.staleContextDefaults,
    wU8_inj_iff h.telemetry.enable h'.telemetry.enable,
    wU16_inj_iff h.telemetry.periodTicks h'.telemetry.periodTicks,
    wU8_inj_iff h.telemetry.enabledSignalCount h'.telemetry.enabledSignalCount]
  simp only [and_assoc]
  have hsensors := counted_eq_iff cfg.sensorCount length_wSensor (fun _ _ => rfl)
    (fun s hs => wSensor_inj_iff (h.sensors s hs) (h'.sensors s hs)) ⟨rfl, rfl, rfl, rfl⟩
  have hcontexts := counted_eq_iff cfg.contextCount length_wContext (fun _ _ => rfl)
    (fun c hc => wContext_inj_iff (h.contexts c hc) (h'.contexts c hc)) ⟨rfl, rfl, rfl, rfl, rfl, rfl⟩
  have hactuators := counted_eq_iff cfg.actuatorCount length_wActuator (fun _ _ => rfl)
    (fun a ha => wActuator_inj_iff (h.actuators a ha) (h'.actuators a ha))
    ⟨rfl, rfl, rfl, rfl, rfl, rfl, rfl, rfl, rfl, rfl, rfl, fun _ _ => rfl⟩
  have hzones := counted_eq_iff cfg.zoneCount length_wZone (fun _ _ => rfl)
    (fun z hz => wZone_inj_iff (h.zones z hz) (h'.zones z hz))
    ⟨rfl, rfl, fun _ _ => rfl, fun _ _ => rfl, rfl, rfl, rfl, rfl, rfl, fun _ _ => rfl, rfl, fun _ _ => rfl⟩
  have hmodifiers := counted_eq_iff cfg.modifierCount length_wModifier (fun _ _ => rfl)
    (fun m hm => wModifier_inj_iff (h.modifiers m hm) (h'.modifiers m hm))
    ⟨rfl, rfl, rfl, rfl, fun _ _ => rfl, rfl⟩
  have hfanHealth := counted_eq_iff cfg.actuatorCount length_wFanHealth (fun _ _ => rfl)
    (fun a ha => wFanHealth_inj_iff (h.fanHealth a ha) (h'.fanHealth a ha))
    ⟨rfl, rfl, rfl, fun _ _ => rfl, rfl, rfl, rfl, rfl, rfl, rfl, rfl, rfl⟩
  have hsignals := wU16Array_inj_iff cfg.telemetry.enabledSignalCount h.telemetry.enabledSignalIds
    h'.telemetry.enabledSignalIds
  constructor
  · rintro ⟨version, period, relative, sensors, sensorCount, contexts, contextCount, actuators,
      actuatorCount, zones, zoneCount, modifiers, modifierCount, stall, stuck, runaway, stale, enable,
      periodTicks, signals, signalCount, fanHealth⟩
    rw [← sensorCount] at sensors
    rw [← contextCount] at contexts
    rw [← actuatorCount] at actuators fanHealth
    rw [← zoneCount] at zones
    rw [← modifierCount] at modifiers
    rw [← signalCount] at signals
    have faults : cfg.faults = cfg'.faults := by
      cases hf : cfg.faults
      cases hf' : cfg'.faults
      rw [hf, hf'] at stall stuck runaway stale
      simp only [FaultDetectionCfg.mk.injEq]
      exact ⟨stall, stuck, runaway, stale⟩
    exact ⟨version, period, relative, sensorCount, hsensors.mp sensors, contextCount,
      hcontexts.mp contexts, actuatorCount, hactuators.mp actuators, zoneCount, hzones.mp zones,
      modifierCount, hmodifiers.mp modifiers, faults,
      ⟨enable, periodTicks, signalCount, hsignals.mp signals⟩, hfanHealth.mp fanHealth⟩
  · intro same
    rw [← same.sensorCount, ← same.contextCount, ← same.actuatorCount, ← same.zoneCount,
      ← same.modifierCount, ← same.telemetry.enabledSignalCount, ← same.faults]
    exact ⟨same.configVersion, same.controlPeriodMs, same.periodRelativeToMs, hsensors.mpr same.sensors,
      rfl, hcontexts.mpr same.contexts, rfl, hactuators.mpr same.actuators, rfl, hzones.mpr same.zones,
      rfl, hmodifiers.mpr same.modifiers, rfl, rfl, rfl, rfl, rfl, same.telemetry.enable,
      same.telemetry.periodTicks, hsignals.mpr same.telemetry.enabledSignalIds, rfl,
      hfanHealth.mpr same.fanHealth⟩

/-- **The hash is over a canonical injective encoding**: streams of one length,
equal exactly for configurations that agree on what is in use. -/
theorem hashStream_canonical :
    (∀ cfg, (hashStream cfg).length = hashStreamLength) ∧
      ∀ cfg cfg' : Config, cfg.Typed → cfg'.Typed → (hashStream cfg = hashStream cfg' ↔ cfg.Same cfg') :=
  ⟨length_hashStream, fun _ _ h h' => hashStream_eq_iff_same h h'⟩

/-- A sixth sensor where one is counted, and a letter after the end of its name. -/
def cfgWithGarbage : Config :=
  { oneFanConfig with
    sensors := (oneFanConfig.sensors.put 5 { (default : SensorCfg) with id := 77 }).put 0
      { oneFanConfig.sensors.slot 0 with name := (default : Name).put 3 65 } }

/-- Bytes behind a count and behind a name's terminator do not show in the stream. -/
theorem hashStream_ignores_garbage :
    Accepted oneFanConfig ∧ Accepted cfgWithGarbage ∧
      hashStream oneFanConfig = hashStream cfgWithGarbage :=
  ⟨accepted_oneFanConfig, by decide +kernel,
    (hashStream_canonical.2 oneFanConfig cfgWithGarbage (by decide +kernel) (by decide +kernel)).mpr
      (by decide +kernel)⟩

end ThermalCore
