import ThermalCore.Config
import ThermalCore.Lib.FixedCode
import ThermalCore.Wire.RoundTrip

/-!
# The canonical stream of a configuration

`support/thermal_config_hash.c` up to the digest: a writer returns the bytes it
feeds to SHA-256, and `hashStream` is what `thermal_config_hash` feeds in
all.  Numbers go out little-endian, one field after the other with no padding, so
the stream does not depend on the compiler's struct layout.

Arrays go out to their full size, with zeros past the count, and names to their
full size, with zeros from the terminator on.  Every record therefore has a fixed
length whatever it holds, which is what the second half of the module proves: the
place of each field in the stream is known without reading the fields before it.
-/

namespace ThermalCore

open MachineInt FixedCode

/-! ## Primitive writers -/

/-- `w_u8`: one byte. -/
def wU8 (v : Nat) : List UInt8 := [UInt8.ofNat v]

/-- `w_u16`: two bytes, the low one first. -/
def wU16 (v : Nat) : List UInt8 := [UInt8.ofNat (v &&& 0xFF), UInt8.ofNat (v >>> 8 &&& 0xFF)]

/-- `w_u32`: four bytes, the low one first. -/
def wU32 (v : Nat) : List UInt8 :=
  [UInt8.ofNat (v &&& 0xFF), UInt8.ofNat (v >>> 8 &&& 0xFF), UInt8.ofNat (v >>> 16 &&& 0xFF),
    UInt8.ofNat (v >>> 24 &&& 0xFF)]

/-- `w_i32`: the bit pattern of the two's complement, as `w_u32` writes it. -/
def wI32 (v : Int) : List UInt8 := wU32 (toU32 v)

/-- A zero-initialised buffer. -/
def zeros (n : Nat) : List UInt8 := List.replicate n 0

/-- The bytes of a name up to its terminator, or all of them without one. -/
def nameString (name : Name) : List Nat := name.toList.takeWhile (· ≠ 0)

/-- `w_name`: the bytes before the terminator, then zeros to the end of the array. -/
def wName (name : Name) : List UInt8 :=
  (nameString name).map UInt8.ofNat ++ zeros (nameMax - (nameString name).length)

/-- `w_u8_array`: `max` entries, zeros from `count` on. -/
def wU8Array {n : Nat} (arr : Vector Nat n) (count max : Nat) : List UInt8 :=
  slots max fun i => wU8 (if i < count then arr.slot i else 0)

/-- `w_u16_array`: `max` entries, zeros from `count` on. -/
def wU16Array {n : Nat} (arr : Vector Nat n) (count max : Nat) : List UInt8 :=
  slots max fun i => wU16 (if i < count then arr.slot i else 0)

/-- `w_i32_array`: `max` entries, zeros from `count` on. -/
def wI32Array {n : Nat} (arr : Vector Int n) (count max : Nat) : List UInt8 :=
  slots max fun i => wI32 (if i < count then arr.slot i else 0)

/-! ## Compound writers -/

/-- `w_curve_point`: an inactive point is twelve zeros. -/
def wCurvePoint (c : CurvePoint) (active : Bool) : List UInt8 :=
  if active = false then zeros (4 + 4 + 4) else wI32 c.x ++ wI32 c.value0 ++ wI32 c.value1

/-- `w_sensor`: an inactive sensor is as many zeros as an active one has bytes. -/
def wSensor (c : SensorCfg) (active : Bool) : List UInt8 :=
  if active = false then zeros (nameMax + 2 + 4 + 4)
  else wU16 c.id ++ wName c.name ++ wI32 c.iirAlphaQ16 ++ wU32 c.maxStalenessMs

/-- `w_context`: an inactive signal is as many zeros as an active one has bytes. -/
def wContext (c : ContextCfg) (active : Bool) : List UInt8 :=
  if active = false then zeros (nameMax + 2 + 1 + 4 + 4 + 1)
  else
    wU16 c.id ++ wName c.name ++ wU8 c.unit ++ wI32 c.iirAlphaQ16 ++ wU32 c.timeoutMs ++ wU8 c.failSafe

/-- `w_actuator`: an inactive actuator is zeros too, its curve written as inactive points. -/
def wActuator (c : ActuatorCfg) (active : Bool) : List UInt8 :=
  if active = false then
    zeros (nameMax + 2 + 1 + 1 + 1 + 1 + 4 + 2 + 2 + maxCoolingStates) ++
      slots maxCurvePoints (fun _ => wCurvePoint default false) ++ wU8 0
  else
    wU16 c.id ++ wName c.name ++ wU8 c.pwmMin ++ wU8 c.pwmMax ++ wU8 c.slewPerTick ++
      wU8 c.spinupPwm ++ wU32 c.spinupMs ++ wU16 c.minOnTicks ++ wU16 c.minOffTicks ++
      wU8Array c.statePwm maxCoolingStates maxCoolingStates ++
      slots maxCurvePoints (fun i =>
        wCurvePoint (c.dutyLinearization.slot i) (decide (i < c.dutyLinearizationCount))) ++
      wU8 c.dutyLinearizationCount

/-- `w_pid`: every field, in the order of the struct. -/
def wPid (p : PidCfg) : List UInt8 :=
  wI32 p.kpQ16 ++ wI32 p.kiQ16 ++ wI32 p.kdQ16 ++ wI32 p.dFilterAlphaQ16 ++ wI32 p.setpointMc ++
    wI32 p.kpMinQ16 ++ wI32 p.kpMaxQ16 ++ wI32 p.kiMinQ16 ++ wI32 p.kiMaxQ16 ++ wI32 p.kdMinQ16 ++
    wI32 p.kdMaxQ16 ++ wI32 p.setpointMinMc ++ wI32 p.setpointMaxMc ++ wU16 p.dtMinMs ++
    wU16 p.dtMaxMs

/-- `w_trip`: an inactive trip is ten zeros. -/
def wTrip (t : TripCfg) (active : Bool) : List UInt8 :=
  if active = false then zeros (4 + 4 + 1 + 1)
  else wI32 t.tempMc ++ wI32 t.hystMc ++ wU8 t.severity ++ wU8 t.coolingState

/-- The name and the arrays of an inactive zone are null pointers, its PID block
is cleared. -/
def wZone (z : ZoneCfg) (active : Bool) : List UInt8 :=
  if active = false then
    zeros nameMax ++ wU16Array (default : Vector Nat maxSensorsPerZone) 0 maxSensorsPerZone ++
      wI32Array (default : Vector Int maxSensorsPerZone) 0 maxSensorsPerZone ++ wU8 0 ++ wU8 0 ++
      wI32 0 ++ wU8 0 ++ wPid default ++
      wU16Array (default : Vector Nat maxActuatorsPerZone) 0 maxActuatorsPerZone ++ wU8 0 ++
      slots maxTripsPerZone (fun _ => wTrip default false) ++ wU8 0
  else
    wName z.name ++ wU16Array z.sensorIds z.sensorCount maxSensorsPerZone ++
      wI32Array z.sensorWeightsQ16 z.sensorCount maxSensorsPerZone ++ wU8 z.sensorCount ++
      wU8 z.aggregation ++ wI32 z.fallbackTempMc ++ wU8 z.governor ++ wPid z.pid ++
      wU16Array z.actuatorIds z.actuatorCount maxActuatorsPerZone ++ wU8 z.actuatorCount ++
      slots maxTripsPerZone (fun i => wTrip (z.trips.slot i) (decide (i < z.tripCount))) ++
      wU8 z.tripCount

/-- `w_modifier`: the curve's points past `curve_count` are inactive ones. -/
def wModifier (m : ModifierCfg) (active : Bool) : List UInt8 :=
  if active = false then
    zeros nameMax ++ wU16 0 ++ wU8 0 ++ slots maxCurvePoints (fun _ => wCurvePoint default false) ++
      wU8 0 ++ wU8 0
  else
    wName m.name ++ wU16 m.contextId ++ wU8 m.stages ++
      slots maxCurvePoints (fun i => wCurvePoint (m.curve.slot i) (decide (i < m.curveCount))) ++
      wU8 m.curveCount ++ wU8 m.failSafe

/-- `w_fault_detector`: the defaults of one detector family. -/
def wFaultDetector (f : FaultDetectorCfg) : List UInt8 :=
  wU8 f.enabled ++ wU8 f.severity ++ wU8 f.action ++ wU16 f.persistTicks ++ wU16 f.recoveryTicks ++
    wI32 f.threshold0 ++ wI32 f.threshold1 ++ wI32 f.threshold2 ++ wU16 f.correlatedContextId

/-- The percentages are `int8_t`. -/
def wFanHealth (f : FanHealthCfg) (active : Bool) : List UInt8 :=
  if active = false then
    wU8 0 ++ wU8 0 ++ slots maxFanHealthPoints (fun _ => wCurvePoint default false) ++ wU8 0 ++
      wU16 0 ++ wU8 0 ++ wU16 0 ++ wU8 0 ++ wU8 0 ++ wU8 0 ++ wU8 0 ++ wU8 0
  else
    wU8 f.enable ++ wU8 f.baselineSource ++
      slots maxFanHealthPoints (fun i => wCurvePoint (f.baseline.slot i) (decide (i < f.baselineCount))) ++
      wU8 f.baselineCount ++ wU16 f.stablePwmTicks ++ wU8 f.stablePwmTolerance ++
      wU16 f.stableRpmTicks ++ wU8 f.stableRpmTolerancePct ++ wU8 f.minPointsObserved ++
      wU8 (toU8 f.agingPct) ++ wU8 (toU8 f.degradedPct) ++ wU8 (toU8 f.failingPct)

/-- The bytes `thermal_config_hash` feeds to SHA-256. -/
def hashStream (cfg : Config) : List UInt8 :=
  wU16 cfg.configVersion ++ wU16 cfg.controlPeriodMs ++ wU16 cfg.periodRelativeToMs ++
    slots maxSensors (fun i => wSensor (cfg.sensors.slot i) (decide (i < cfg.sensorCount))) ++
    wU8 cfg.sensorCount ++
    slots maxContextSignals (fun i => wContext (cfg.contexts.slot i) (decide (i < cfg.contextCount))) ++
    wU8 cfg.contextCount ++
    slots maxActuators (fun i => wActuator (cfg.actuators.slot i) (decide (i < cfg.actuatorCount))) ++
    wU8 cfg.actuatorCount ++
    slots maxZones (fun i => wZone (cfg.zones.slot i) (decide (i < cfg.zoneCount))) ++
    wU8 cfg.zoneCount ++
    slots maxModifiers (fun i => wModifier (cfg.modifiers.slot i) (decide (i < cfg.modifierCount))) ++
    wU8 cfg.modifierCount ++
    wFaultDetector cfg.faults.stallDefaults ++ wFaultDetector cfg.faults.stuckSensorDefaults ++
    wFaultDetector cfg.faults.runawayDefaults ++ wFaultDetector cfg.faults.staleContextDefaults ++
    wU8 cfg.telemetry.enable ++ wU16 cfg.telemetry.periodTicks ++
    wU16Array cfg.telemetry.enabledSignalIds cfg.telemetry.enabledSignalCount maxTelemetrySignals ++
    wU8 cfg.telemetry.enabledSignalCount ++
    slots maxActuators (fun i => wFanHealth (cfg.fanHealth.slot i) (decide (i < cfg.actuatorCount)))

/-! ## Lengths -/

/-- A `uint8_t` takes one byte. -/
@[simp] theorem length_wU8 (v : Nat) : (wU8 v).length = 1 := rfl

/-- A `uint16_t` takes two bytes. -/
@[simp] theorem length_wU16 (v : Nat) : (wU16 v).length = 2 := rfl

/-- A `uint32_t` takes four bytes. -/
@[simp] theorem length_wU32 (v : Nat) : (wU32 v).length = 4 := rfl

/-- An `int32_t` takes four bytes. -/
@[simp] theorem length_wI32 (v : Int) : (wI32 v).length = 4 := rfl

/-- A run of padding has the length it was asked for. -/
@[simp] theorem length_zeros (n : Nat) : (zeros n).length = n := List.length_replicate

/-- The part of a name before its terminator fits in the array. -/
theorem length_nameString_le (name : Name) : (nameString name).length ≤ nameMax := by
  have hle := (List.takeWhile_sublist (p := fun b => decide (b ≠ 0)) (l := name.toList)).length_le
  rwa [Vector.length_toList] at hle

/-- A name takes its array's size, however long the string in it is. -/
@[simp] theorem length_wName (name : Name) : (wName name).length = nameMax := by
  have hle := length_nameString_le name
  simp only [wName, List.length_append, List.length_map, length_zeros]
  omega

/-- A byte array takes its full size, whatever the count. -/
@[simp] theorem length_wU8Array {n : Nat} (arr : Vector Nat n) (count max : Nat) :
    (wU8Array arr count max).length = max * 1 := length_slots fun _ _ => rfl

/-- An array of `uint16_t` takes its full size, whatever the count. -/
@[simp] theorem length_wU16Array {n : Nat} (arr : Vector Nat n) (count max : Nat) :
    (wU16Array arr count max).length = max * 2 := length_slots fun _ _ => rfl

/-- An array of `int32_t` takes its full size, whatever the count. -/
@[simp] theorem length_wI32Array {n : Nat} (arr : Vector Int n) (count max : Nat) :
    (wI32Array arr count max).length = max * 4 := length_slots fun _ _ => rfl

/-- A point takes twelve bytes, active or not. -/
@[simp] theorem length_wCurvePoint (c : CurvePoint) (active : Bool) : (wCurvePoint c active).length = 12 := by
  cases active <;> rfl

/-- A curve takes its full size, however many points count. -/
@[simp] theorem length_slots_wCurvePoint (max : Nat) (c : Nat → CurvePoint) (active : Nat → Bool) :
    (slots max fun i => wCurvePoint (c i) (active i)).length = max * 12 :=
  length_slots fun i _ => length_wCurvePoint (c i) (active i)

/-- A sensor takes 34 bytes, active or not. -/
@[simp] theorem length_wSensor (c : SensorCfg) (active : Bool) : (wSensor c active).length = 34 := by
  cases active <;> simp [wSensor, nameMax]

/-- The sensors take their array's size, however many count. -/
@[simp] theorem length_slots_wSensor (max : Nat) (c : Nat → SensorCfg) (active : Nat → Bool) :
    (slots max fun i => wSensor (c i) (active i)).length = max * 34 :=
  length_slots fun i _ => length_wSensor (c i) (active i)

/-- A context signal takes 36 bytes, active or not. -/
@[simp] theorem length_wContext (c : ContextCfg) (active : Bool) : (wContext c active).length = 36 := by
  cases active <;> simp [wContext, nameMax]

/-- The context signals take their array's size, however many count. -/
@[simp] theorem length_slots_wContext (max : Nat) (c : Nat → ContextCfg) (active : Nat → Bool) :
    (slots max fun i => wContext (c i) (active i)).length = max * 36 :=
  length_slots fun i _ => length_wContext (c i) (active i)

/-- An actuator takes 140 bytes, active or not. -/
@[simp] theorem length_wActuator (c : ActuatorCfg) (active : Bool) : (wActuator c active).length = 140 := by
  cases active <;> simp [wActuator, nameMax, maxCoolingStates, maxCurvePoints]

/-- The actuators take their array's size, however many count. -/
@[simp] theorem length_slots_wActuator (max : Nat) (c : Nat → ActuatorCfg) (active : Nat → Bool) :
    (slots max fun i => wActuator (c i) (active i)).length = max * 140 :=
  length_slots fun i _ => length_wActuator (c i) (active i)

/-- The PID block takes 56 bytes. -/
@[simp] theorem length_wPid (p : PidCfg) : (wPid p).length = 56 := by
  simp [wPid]

/-- A trip takes ten bytes, active or not. -/
@[simp] theorem length_wTrip (t : TripCfg) (active : Bool) : (wTrip t active).length = 10 := by
  cases active <;> simp [wTrip]

/-- A zone's trips take their array's size, however many count. -/
@[simp] theorem length_slots_wTrip (max : Nat) (t : Nat → TripCfg) (active : Nat → Bool) :
    (slots max fun i => wTrip (t i) (active i)).length = max * 10 :=
  length_slots fun i _ => length_wTrip (t i) (active i)

/-- A zone takes 157 bytes, active or not. -/
@[simp] theorem length_wZone (z : ZoneCfg) (active : Bool) : (wZone z active).length = 157 := by
  cases active <;> simp [wZone, nameMax, maxSensorsPerZone, maxActuatorsPerZone, maxTripsPerZone]

/-- The zones take their array's size, however many count. -/
@[simp] theorem length_slots_wZone (max : Nat) (z : Nat → ZoneCfg) (active : Nat → Bool) :
    (slots max fun i => wZone (z i) (active i)).length = max * 157 :=
  length_slots fun i _ => length_wZone (z i) (active i)

/-- A modifier takes 125 bytes, active or not. -/
@[simp] theorem length_wModifier (m : ModifierCfg) (active : Bool) : (wModifier m active).length = 125 := by
  cases active <;> simp [wModifier, nameMax, maxCurvePoints]

/-- The modifiers take their array's size, however many count. -/
@[simp] theorem length_slots_wModifier (max : Nat) (m : Nat → ModifierCfg) (active : Nat → Bool) :
    (slots max fun i => wModifier (m i) (active i)).length = max * 125 :=
  length_slots fun i _ => length_wModifier (m i) (active i)

/-- A detector's defaults take 21 bytes. -/
@[simp] theorem length_wFaultDetector (f : FaultDetectorCfg) : (wFaultDetector f).length = 21 := by
  simp [wFaultDetector]

/-- A fan health block takes 109 bytes, active or not. -/
@[simp] theorem length_wFanHealth (f : FanHealthCfg) (active : Bool) : (wFanHealth f active).length = 109 := by
  cases active <;> simp [wFanHealth, maxFanHealthPoints]

/-- The fan health blocks take their array's size, however many actuators count. -/
@[simp] theorem length_slots_wFanHealth (max : Nat) (f : Nat → FanHealthCfg) (active : Nat → Bool) :
    (slots max fun i => wFanHealth (f i) (active i)).length = max * 109 :=
  length_slots fun i _ => length_wFanHealth (f i) (active i)

end ThermalCore
