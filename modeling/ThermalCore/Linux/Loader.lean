import ThermalCore.Linux.Json
import ThermalCore.FanHealth

/-!
# The JSON loader: object loops and the sections of pass A

`platform/linux/config_jsmn.c` up to `parse_actuator`.  Every object parser of
the source is one loop over the members that tries its keys in turn; here the
loop is `parseMembers` and each parser is its table of keys.  A parser receives
the struct it fills with what is there already and returns it filled.  Of the
runtime struct only its presence is kept, as `runtime`: it decides whether the
length of a platform-only string is checked.
-/

namespace ThermalCore

open MachineInt

/-! ## Errors -/

/-- The returned status and the text put into the caller's buffer. -/
structure LoadError where
  status : ThermalStatus
  text : Bytes

/-- A parser's result: the filled struct, or the status and text of its error. -/
abbrev Load := Except LoadError

variable {α σ : Type}

/-- `set_err`: the field path, a colon and the reason. -/
def setErr (code : ThermalStatus) (path : Bytes) (reason : String) : Load α :=
  .error ⟨code, path ++ ascii ": " ++ ascii reason⟩

/-- `set_errf`; every format of the source is `<reason> '%s'`. -/
def setErrf (code : ThermalStatus) (path : Bytes) (reason : String) (arg : Bytes) : Load α :=
  .error ⟨code, path ++ ascii ": " ++ ascii reason ++ ascii " '" ++ cString arg ++ ascii "'"⟩

/-- `"%s.%s"`. -/
def subPath (path key : Bytes) : Bytes := path ++ ascii "." ++ cString key

/-- `"%s[%d]"`. -/
def elemPath (path : Bytes) (j : Nat) : Bytes := path ++ ascii "[" ++ ascii (toString j) ++ ascii "]"

/-! ## Object and array loops -/

/-- One `else if (tok_str_eq(ctx, k, key))` of an object loop: what it does with
the path of the member, the value and the struct being filled. -/
structure Arm (σ : Type) where
  key : String
  parse : Bytes → Json → σ → Load σ

/-- The arm of a key: the first comparison that succeeds. -/
def findArm (arms : List (Arm σ)) (key : Bytes) : Option (Arm σ) :=
  arms.find? fun arm => ascii arm.key == key

/-- One round of an object loop: the key is copied, then compared. -/
def parseMember (arms : List (Arm σ)) (path : Bytes) (m : Member) (st : σ) : Load σ :=
  if m.1.length + 1 > 64 then setErr .errInvalidArg path "non-string key"
  else
    match findArm arms m.1 with
    | some arm => arm.parse (subPath path m.1) m.2 st
    | none => setErrf .errInvalidArg (subPath path m.1) "unknown key" m.1

/-- An object loop over the members. -/
def parseMembers (arms : List (Arm σ)) (path : Bytes) (ms : List Member) (st : σ) : Load σ :=
  ms.foldlM (fun st m => parseMember arms path m st) st

/-- `(seen & required) == required`: a loop that ran to its end has set the bit
of every key it passed. -/
def allSeen (required : List String) (ms : List Member) : Bool :=
  required.all fun key => ms.any fun m => m.1 == ascii key

/-- An object parser: its loop, then the required keys. -/
def parseObject (arms : List (Arm σ)) (required : List String) (path : Bytes) (v : Json) (st : σ) :
    Load σ :=
  match v with
  | .object ms => do
      let st ← parseMembers arms path ms st
      if allSeen required ms then .ok st
      else setErr .errInvalidArg path "required field missing"
  | _ => setErr .errInvalidArg path "expected object"

/-- The loop over the elements of an array. -/
def parseElems (elem : Nat → Bytes → Json → σ → Load σ) (path : Bytes) (elems : List Json) (st : σ) :
    Load σ :=
  elems.zipIdx.foldlM (fun st e => elem e.2 (elemPath path e.2) e.1 st) st

/-- An array of any length. -/
def parseList (elem : Nat → Bytes → Json → σ → Load σ) (path : Bytes) (v : Json) (st : σ) :
    Load σ :=
  match v with
  | .array elems => parseElems elem path elems st
  | _ => setErr .errInvalidArg path "expected array"

/-- An array of at most `limit` elements, whose number is stored at the end. -/
def parseArray (limit : Nat) (tooMany : String) (elem : Nat → Bytes → Json → σ → Load σ)
    (setCount : Nat → σ → σ) (path : Bytes) (v : Json) (st : σ) : Load σ :=
  match v with
  | .array elems =>
      if elems.length > limit then setErr .errNoSpace path tooMany
      else do
        let st ← parseElems elem path elems st
        .ok (setCount elems.length st)
  | _ => setErr .errInvalidArg path "expected array"

/-! ## Field parsers -/

/-- An integer field in a range, or its error text. -/
def intField (lo hi : Int) (reason : String) (path : Bytes) (v : Json) : Load Int :=
  match tokParseIntRange v lo hi with
  | some val => .ok val
  | none => setErr .errInvalidArg path reason

/-- An arm for an integer. -/
def intArm (key : String) (lo hi : Int) (reason : String) (set : Int → σ → σ) : Arm σ where
  key := key
  parse path v st := do
    let val ← intField lo hi reason path v
    .ok (set val st)

/-- An integer that is range-checked and goes to the runtime struct only. -/
def platformIntArm (key : String) (lo hi : Int) (reason : String) : Arm σ :=
  intArm key lo hi reason fun _ st => st

/-- An arm for a name of a table. -/
def enumArm (key : String) (map : EnumMap) (set : Nat → σ → σ) : Arm σ where
  key := key
  parse path v st :=
    match enumLookup v map with
    | some val => .ok (set val st)
    | none => setErr .errInvalidArg path "unknown enum"

/-- An arm for `true` or `false`. -/
def boolArm (key reason : String) (set : Nat → σ → σ) : Arm σ where
  key := key
  parse path v st :=
    match tokParseBool v with
    | some val => .ok (set val st)
    | none => setErr .errInvalidArg path reason

/-- `memcpy` of a string and its NUL into a name field. -/
def copyName (s : Bytes) (old : Name) : Name :=
  old.mapIdx fun i b => if i < s.length then s.getD i 0 else if i = s.length then 0 else b

/-- The arm for `name`, which overwrites the start of the array it is copied to. -/
def nameArm (set : (Name → Name) → σ → σ) : Arm σ where
  key := "name"
  parse path v st :=
    match tokStrCopy nameMax v with
    | some s => .ok (set (copyName s) st)
    | none => setErr .errInvalidArg path "string too long or wrong type"

/-- `THERMAL_PATH_MAX`. -/
abbrev thermalPathMax : Nat := 128

/-- A string for the runtime struct, not looked at when there is none. -/
def platformStrArm (runtime : Bool) (key reason : String) (set : σ → σ) : Arm σ where
  key := key
  parse path v st :=
    if runtime && (tokStrCopy thermalPathMax v).isNone then setErr .errInvalidArg path reason
    else .ok (set st)

/-! ## Sensors and context signals -/

/-- The keys of a sensor. -/
def sensorArms (runtime : Bool) : List (Arm SensorCfg) :=
  [intArm "id" 0 65535 "expected integer in [0, 65535]" fun val out => { out with id := val.toNat },
    nameArm fun copy out => { out with name := copy out.name },
    intArm "iir_alpha_q16" 0 i32Max "expected non-negative integer"
      fun val out => { out with iirAlphaQ16 := val },
    intArm "max_staleness_ms" 1 4294967295 "expected positive integer"
      fun val out => { out with maxStalenessMs := val.toNat },
    platformStrArm runtime "source" "path too long or wrong type" id]

/-- `parse_sensor`. -/
def parseSensor (runtime : Bool) : Bytes → Json → SensorCfg → Load SensorCfg :=
  parseObject (sensorArms runtime) ["id", "name", "iir_alpha_q16", "max_staleness_ms"]

/-- The keys of a context signal. -/
def contextSignalArms (runtime : Bool) : List (Arm ContextCfg) :=
  [intArm "id" 0 65535 "expected integer in [0, 65535]" fun val out => { out with id := val.toNat },
    nameArm fun copy out => { out with name := copy out.name },
    enumArm "unit" contextUnitMap fun val out => { out with unit := val },
    intArm "iir_alpha_q16" 0 i32Max "expected non-negative integer"
      fun val out => { out with iirAlphaQ16 := val },
    intArm "timeout_ms" 1 4294967295 "expected positive integer"
      fun val out => { out with timeoutMs := val.toNat },
    enumArm "fail_safe" failsafeMap fun val out => { out with failSafe := val },
    platformStrArm runtime "source" "path too long or wrong type" id,
    platformIntArm "fail_safe_value" i32Min i32Max "expected integer"]

/-- `parse_context_signal`. -/
def parseContextSignal (runtime : Bool) : Bytes → Json → ContextCfg → Load ContextCfg :=
  parseObject (contextSignalArms runtime)
    ["id", "name", "unit", "iir_alpha_q16", "timeout_ms", "fail_safe"]

/-! ## Fan health -/

/-- The names of the baseline sources. -/
def fanBaselineSrcMap : EnumMap :=
  [("field", FanBaselineSrc.field.code), ("factory", FanBaselineSrc.factory.code),
    ("model", FanBaselineSrc.model.code)]

/-- The keys of `severity_pct`. -/
def severityPctArms : List (Arm FanHealthCfg) :=
  [intArm "aging" (-100) (-1) "expected integer in [-100, -1]"
      fun val out => { out with agingPct := val },
    intArm "degraded" (-100) (-1) "expected integer in [-100, -1]"
      fun val out => { out with degradedPct := val },
    intArm "failing" (-100) (-1) "expected integer in [-100, -1]"
      fun val out => { out with failingPct := val }]

/-- `parse_severity_pct`. -/
def parseSeverityPct : Bytes → Json → FanHealthCfg → Load FanHealthCfg :=
  parseObject severityPctArms ["aging", "degraded", "failing"]

/-- A two-element array as a curve point: its first entry in `[0, 255]`, its
second in `[lo, hi]`. -/
def parsePair (shape xReason yReason : String) (lo hi : Int) (path : Bytes) (v : Json) :
    Load CurvePoint :=
  match v with
  | .array [first, second] => do
      let x ← intField 0 255 xReason path first
      let y ← intField lo hi yReason path second
      .ok { x := x, value0 := y, value1 := 0 }
  | _ => setErr .errInvalidArg path shape

/-- A pair of duty and speed. -/
def parseBaselinePoint : Bytes → Json → Load CurvePoint :=
  parsePair "expected [pwm, rpm] pair" "pwm must be an integer in [0, 255]"
    "rpm must be an integer in [1, 65535]" 1 65535

/-- The `baseline` array. -/
def parseBaseline : Bytes → Json → FanHealthCfg → Load FanHealthCfg :=
  parseArray maxFanHealthPoints "too many baseline points"
    (fun j path v out => do
      let pt ← parseBaselinePoint path v
      .ok { out with baseline := out.baseline.put j pt })
    (fun n out => { out with baselineCount := n })

/-- The local `enable` of the source is the field itself here: it stays 0 unless
the key is seen. -/
def fanHealthArms : List (Arm FanHealthCfg) :=
  [boolArm "enable" "expected boolean" fun val out => { out with enable := val },
    { key := "fan_model"
      parse := fun path v out =>
        if (tokStrCopy 64 v).isNone then setErr .errInvalidArg path "string too long or wrong type"
        else .ok out },
    enumArm "baseline_source" fanBaselineSrcMap fun val out => { out with baselineSource := val },
    { key := "baseline", parse := parseBaseline },
    intArm "stable_pwm_ticks" 1 65535 "expected integer in [1, 65535]"
      fun val out => { out with stablePwmTicks := val.toNat },
    intArm "stable_pwm_tolerance" 0 255 "expected integer in [0, 255]"
      fun val out => { out with stablePwmTolerance := val.toNat },
    intArm "stable_rpm_ticks" 1 65535 "expected integer in [1, 65535]"
      fun val out => { out with stableRpmTicks := val.toNat },
    intArm "stable_rpm_tolerance_pct" 0 100 "expected integer in [0, 100]"
      fun val out => { out with stableRpmTolerancePct := val.toNat },
    intArm "min_points_observed" 1 maxFanHealthPoints
      "expected integer in [1, THERMAL_MAX_FAN_HEALTH_POINTS]"
      fun val out => { out with minPointsObserved := val.toNat },
    { key := "severity_pct", parse := parseSeverityPct }]

/-- `memset(out, 0, sizeof(*out))`: the default of every field is 0. -/
def fanHealthZeroed : FanHealthCfg := default

/-- The keys an enabled block needs. -/
def fanHealthRequired : List String :=
  ["baseline_source", "baseline", "stable_pwm_ticks", "stable_pwm_tolerance", "stable_rpm_ticks",
    "stable_rpm_tolerance_pct", "min_points_observed", "severity_pct"]

/-- `parse_fan_health`. -/
def parseFanHealth (path : Bytes) (v : Json) : Load FanHealthCfg :=
  match v with
  | .object ms => do
      let out ← parseMembers fanHealthArms path ms fanHealthZeroed
      -- a disabled block needs no further field, and keeps the ones it has
      if out.enable = 0 then .ok out
      else if allSeen fanHealthRequired ms then .ok out
      else setErr .errInvalidArg path "required field missing"
  | _ => setErr .errInvalidArg path "expected object"

/-! ## Actuators -/

/-- `parse_duty_linearization`. -/
def parseDutyLinearization : Bytes → Json → ActuatorCfg → Load ActuatorCfg :=
  parseArray maxCurvePoints "too many curve points"
    (fun j path v out => do
      let pt ← parsePair "expected [input_pwm, output_pwm]" "expected input PWM in [0, 255]"
        "expected output PWM in [0, 255]" 0 255 path v
      .ok { out with dutyLinearization := out.dutyLinearization.put j pt })
    (fun n out => { out with dutyLinearizationCount := n })

/-- What `parse_actuator` fills: its two structs, the entry of `state_pwm_lens`
and its two flags. -/
structure ActuatorLoad where
  out : ActuatorCfg
  fanHealth : FanHealthCfg
  statePwmLen : Nat
  sawTach : Bool
  sawFanHealth : Bool

/-- The `state_pwm` array; its length is recorded for `parse_zone`. -/
def parseStatePwm : Bytes → Json → ActuatorLoad → Load ActuatorLoad :=
  parseArray maxCoolingStates "too many cooling states"
    (fun j path v st => do
      let val ← intField 0 255 "expected integer in [0, 255]" path v
      .ok { st with out := { st.out with statePwm := st.out.statePwm.put j val.toNat } })
    (fun n st => { st with statePwmLen := n })

/-- A field of the actuator struct proper. -/
def actuatorIntArm (key : String) (hi : Int) (reason : String)
    (set : Int → ActuatorCfg → ActuatorCfg) : Arm ActuatorLoad :=
  intArm key 0 hi reason fun val st => { st with out := set val st.out }

/-- The keys of an actuator. -/
def actuatorArms (runtime : Bool) : List (Arm ActuatorLoad) :=
  [actuatorIntArm "id" 65535 "expected integer in [0, 65535]"
      fun val out => { out with id := val.toNat },
    nameArm fun copy st => { st with out := { st.out with name := copy st.out.name } },
    actuatorIntArm "pwm_min" 255 "expected integer in [0, 255]"
      fun val out => { out with pwmMin := val.toNat },
    actuatorIntArm "pwm_max" 255 "expected integer in [0, 255]"
      fun val out => { out with pwmMax := val.toNat },
    actuatorIntArm "slew_per_tick" 255 "expected integer in [0, 255]"
      fun val out => { out with slewPerTick := val.toNat },
    actuatorIntArm "spinup_pwm" 255 "expected integer in [0, 255]"
      fun val out => { out with spinupPwm := val.toNat },
    actuatorIntArm "spinup_ms" 4294967295 "expected non-negative integer"
      fun val out => { out with spinupMs := val.toNat },
    actuatorIntArm "min_on_ticks" 65535 "expected integer in [0, 65535]"
      fun val out => { out with minOnTicks := val.toNat },
    actuatorIntArm "min_off_ticks" 65535 "expected integer in [0, 65535]"
      fun val out => { out with minOffTicks := val.toNat },
    { key := "state_pwm", parse := parseStatePwm },
    { key := "duty_linearization"
      parse := fun path v st => do
        let out ← parseDutyLinearization path v st.out
        .ok { st with out := out } },
    platformStrArm runtime "pwm" "path too long or wrong type" id,
    platformStrArm runtime "tach" "path too long or wrong type"
      fun st => { st with sawTach := true },
    platformIntArm "pwm_freq_hz" 0 4294967295 "expected non-negative integer",
    platformIntArm "tach_pulses_per_rev" 0 65535 "expected integer in [0, 65535]",
    { key := "fan_health"
      parse := fun path v st => do
        let fanHealth ← parseFanHealth path v
        .ok { st with fanHealth := fanHealth, sawFanHealth := true } }]

/-- `parse_actuator` on the actuator struct and the `state_pwm_lens` entry of one slot. -/
def parseActuator (runtime : Bool) (path : Bytes) (v : Json) (out : ActuatorCfg) (statePwmLen : Nat) :
    Load ActuatorLoad := do
  let st ← parseObject (actuatorArms runtime) ["id", "name", "pwm_min", "pwm_max", "state_pwm"] path v
    { out := out, fanHealth := fanHealthZeroed, statePwmLen := statePwmLen, sawTach := false,
      sawFanHealth := false }
  if st.sawFanHealth ∧ st.fanHealth.enable ≠ 0 ∧ st.sawTach = false then
    setErr .errInvalidArg path "fan_health enabled but actuator has no tach source"
  else .ok st

end ThermalCore
