import ThermalCore.Validate

/-!
# Control loop, steps 3 to 5: samples, contexts, modifier

The first part of `thermal_core_step`: the preflight that rejects a malformed
snapshot, then the stages that turn an accepted snapshot into filtered sensors,
tach readings, context signals and the modifier's cap and offset.  Each stage
is a function from core to core.

An absent sample reads as an invalid one.  The filters keep their value through it, and
the contexts keep the time of their last valid sample, from which staleness is told.
-/

namespace ThermalCore

open MachineInt Check

/-! ## Preflight -/

/-- The slot a sample addresses, `none` for an unknown kind or id. -/
def sampleSlot (cfg : Config) (smp : Sample) : Option Nat :=
  if smp.kind = SampleKind.tempMc.code then findSensorSlot cfg smp.id
  else if smp.kind = SampleKind.tachRpm.code then findActuatorSlot cfg smp.id
  else if smp.kind = SampleKind.contextI32.code then findContextSlot cfg smp.id
  else none

/-- `(kind << 8) | slot`. -/
def sampleKey (kind slot : Nat) : Nat := u16 (u16 (kind * 256) ||| slot)

/-- The scan of the samples, `seen` holding the keys of the earlier ones. -/
def scanSamples (cfg : Config) (seen : List Nat) : List Sample → Validation
  | [] => .ok ()
  | smp :: rest =>
      match sampleSlot cfg smp with
      | none => .error .errInvalidArg
      | some slot =>
          if sampleKey smp.kind slot ∈ seen then .error .errInvalidArg
          else scanSamples cfg (seen ++ [sampleKey smp.kind slot]) rest

def preflightSnapshot (cfg : Config) (inp : InputSnapshot) : Validation := do
  failIf (inp.sampleCount > maxSamplesPerSnapshot) .errNoSpace
  failIf (inp.sampleCount > 0 ∧ inp.samples.isNone = true) .errInvalidArg
  scanSamples cfg [] inp.entries

/-! ## What a stage takes from the sample it looks up -/

/-- `value`, 0 when no sample was found. -/
def sampleValue (smp : Option Sample) : Int := (smp.map Sample.value).getD 0

/-- `found_valid`, 0 when no sample was found. -/
def sampleValid (smp : Option Sample) : Nat := (smp.map Sample.valid).getD 0

/-! ## Steps 3 and 3b: sensors and tachs -/

def step3SensorFilters (cfg : Config) (inp : InputSnapshot) (core : Core) : Core :=
  { core with
    filters := core.filters.forSlots cfg.sensorCount fun s f =>
      let sc := cfg.sensors.slot s
      let smp := inp.find .tempMc sc.id
      thermalFilterStep f sc.iirAlphaQ16 (sampleValue smp) (decide (sampleValid smp ≠ 0)) }

/-- A tach value clamped to `uint16_t`. -/
def clampTach (v : Int) : Nat :=
  let v := if v < 0 then 0 else v
  let v := if v > 0xFFFF then 0xFFFF else v
  toU16 v

def step3bTach (cfg : Config) (inp : InputSnapshot) (core : Core) : Core :=
  { core with
    actuators := core.actuators.forSlots cfg.actuatorCount fun a ar =>
      let smp := inp.find .tachRpm (cfg.actuators.slot a).id
      { ar with tachRpm := clampTach (sampleValue smp), tachValid := sampleValid smp } }

/-! ## Step 4: contexts -/

/-- One context signal: its filter, and the time of the last valid sample. -/
def contextFilterStep (cc : ContextCfg) (smp : Option Sample) (nowMs : Nat) (cr : ContextRuntime) :
    ContextRuntime :=
  let valid := decide (sampleValid smp ≠ 0)
  { cr with
    filter := thermalFilterStep cr.filter cc.iirAlphaQ16 (sampleValue smp) valid
    lastValidMs := if valid then nowMs else cr.lastValidMs
    everValid := cr.everValid || valid }

def step4ContextFilters (cfg : Config) (inp : InputSnapshot) (core : Core) : Core :=
  { core with
    contexts := core.contexts.forSlots cfg.contextCount fun c cr =>
      let cc := cfg.contexts.slot c
      contextFilterStep cc (inp.find .contextI32 cc.id) inp.nowMs cr }

/-! ## Step 5: modifier -/

/-- The value a modifier reads from its context, and whether it is a fail-safe
one. -/
def effectiveContext (cc : ContextCfg) (cr : ContextRuntime) : Int × Bool :=
  if cr.filter.valid then (cr.filter.filteredValue, false)
  else if cc.failSafe = ContextFailsafe.holdLast.code ∧ cr.everValid = true then
    (cr.filter.filteredValue, true)
  else (0, true)

/-- Every modifier output and every effective context value zeroed. -/
def clearModifierOutputs (core : Core) : Core :=
  { core with
    modifiers := core.modifiers.forSlots maxModifiers fun _ mr =>
      { mr with active := false, pwmCap := 0, tripOffset := 0 }
    contexts := core.contexts.forSlots maxContextSignals fun _ cr =>
      { cr with failSafeActive := false, effectiveValue := 0 } }

def step5ModifierEval (cfg : Config) (core : Core) : Core :=
  let core := clearModifierOutputs core
  if cfg.modifierCount = 0 then core
  else
    let m := (core.modifiers.slot 0).shadow
    match findContextSlot cfg m.contextId with
    | none => core
    | some ctxSlot =>
        let ctx := effectiveContext (cfg.contexts.slot ctxSlot) (core.contexts.slot ctxSlot)
        let r := thermalModifierEval m ctx.1
        { core with
          contexts := core.contexts.edit ctxSlot fun cr =>
            { cr with failSafeActive := ctx.2, effectiveValue := ctx.1 }
          modifiers := core.modifiers.edit 0 fun mr =>
            { mr with
              pwmCap := r.pwmCap
              tripOffset := r.tripOffsetMc
              active := decide (r.tripOffsetMc ≠ 0) || decide (r.pwmCap < 255) } }

/-- The modifier is active and its shadow copy has the trip-offset stage: the
offset of this tick, 0 otherwise. -/
def tripOffsetMc (cfg : Config) (core : Core) : Int :=
  let mr := core.modifiers.slot 0
  if cfg.modifierCount > 0 ∧ mr.active = true ∧ mr.shadow.hasStage .preGovernorTripOffset = true then
    mr.tripOffset
  else 0

/-- The core once steps 3 to 5 have run. -/
def senseCore (cfg : Config) (inp : InputSnapshot) (core : Core) : Core :=
  step5ModifierEval cfg
    (step4ContextFilters cfg inp (step3bTach cfg inp (step3SensorFilters cfg inp core)))

end ThermalCore
