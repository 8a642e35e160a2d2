import ThermalCore.Linux.TokenDocument

/-!
# The loader on the tokens of a document

Section by section, the parsers of `platform/linux/config_jsmn.c` on a token array
that holds a document end as the parsers on the document do, with the same struct or
the same error text.

Two things differ between the two sides.  On the tokens a value is an index, and a
parser that looks at it through the accessors sees a leaf only: type, text, and for
an object or an array nothing below.  So the first section shows which arms of the
key tables look no further (`Leaf`); for those the token and the document give the
same.  The other values are objects and arrays with parsers of their own, which agree
by the combinators' rules of `Linux.TokenDocument`, from the innermost outwards to
both passes over the top level.
-/

namespace ThermalCore

open MachineInt

/-! ## Arms that read through the accessors -/

section leaves

variable {σ : Type}

/-- An integer field is read off its token. -/
@[simp] theorem leaf_intArm (key : String) (lo hi : Int) (reason : String) (set : Int → σ → σ) :
    (intArm key lo hi reason set).Leaf := fun _ v _ => by cases v <;> rfl

/-- An enumeration's name is read off its token. -/
@[simp] theorem leaf_enumArm (key : String) (map : EnumMap) (set : Nat → σ → σ) :
    (enumArm key map set).Leaf := fun _ v _ => by cases v <;> rfl

/-- A boolean is read off its token. -/
@[simp] theorem leaf_boolArm (key reason : String) (set : Nat → σ → σ) : (boolArm key reason set).Leaf :=
  fun _ v _ => by cases v <;> rfl

/-- A name is copied from its token. -/
@[simp] theorem leaf_nameArm (set : (Name → Name) → σ → σ) : (nameArm set).Leaf :=
  fun _ v _ => by cases v <;> rfl

/-- A platform string is copied from its token or only checked. -/
@[simp] theorem leaf_platformStrArm (runtime : Bool) (key reason : String) (set : σ → σ) :
    (platformStrArm runtime key reason set).Leaf := fun _ v _ => by cases v <;> rfl

/-- A platform integer is read off its token. -/
@[simp] theorem leaf_platformIntArm (key : String) (lo hi : Int) (reason : String) :
    (platformIntArm key lo hi reason : Arm σ).Leaf := leaf_intArm key lo hi reason _

/-- An actuator's integer is read off its token. -/
@[simp] theorem leaf_actuatorIntArm (key : String) (hi : Int) (reason : String)
    (set : Int → ActuatorCfg → ActuatorCfg) : (actuatorIntArm key hi reason set).Leaf :=
  leaf_intArm key 0 hi reason _

/-- A PID parameter is read off its token. -/
@[simp] theorem leaf_pidIntArm (key : String) (set : Int → PidCfg → PidCfg) : (pidIntArm key set).Leaf :=
  leaf_intArm key i32Min i32Max _ set

/-- A top-level integer is read off its token. -/
@[simp] theorem leaf_topLevelIntArm (key : String) (set : Nat → Config → Config) :
    (topLevelIntArm key set).Leaf := leaf_intArm key 0 65535 _ _

/-- A key that pass A has handled does not look at its value again. -/
@[simp] theorem leaf_passADone (key : String) : (passADone key).Leaf := fun _ _ _ => rfl

/-- A detector's threshold is read off its token. -/
@[simp] theorem leaf_thresholdArm (kind owner : DetectorKind) (ownerName key : String) (lo : Int)
    (reason : String) (set : Int → FaultDetectorCfg → FaultDetectorCfg) :
    (thresholdArm kind owner ownerName key lo reason set).Leaf := fun _ v _ => by cases v <;> rfl

/-- An arm is a leaf when its parser gives the same on the leaf of any value. -/
@[simp] theorem leaf_mk {key : String} {parse : Bytes → Json → σ → Load σ} :
    ({ key := key, parse := parse } : Arm σ).Leaf ↔ ∀ path v st, parse path v.leaf st = parse path v st :=
  Iff.rfl

/-- A reference by name looks at its value's token only. -/
@[simp] theorem parseReference_leaf (resolve : Bytes → Option Nat) (wrongType unknown : String) (path : Bytes)
    (v : Json) :
    parseReference resolve wrongType unknown path v.leaf = parseReference resolve wrongType unknown path v := by
  cases v <;> rfl

/-- An integer looks at its value's token only. -/
@[simp] theorem intField_leaf (lo hi : Int) (reason : String) (path : Bytes) (v : Json) :
    intField lo hi reason path v.leaf = intField lo hi reason path v := by
  cases v <;> rfl

/-- A string is copied from its token only. -/
@[simp] theorem tokStrCopy_leaf (dstSz : Nat) (v : Json) : tokStrCopy dstSz v.leaf = tokStrCopy dstSz v := by
  cases v <;> rfl

/-- Whether a value is `null` shows in its token. -/
@[simp] theorem tokIsNull_leaf (v : Json) : tokIsNull v.leaf = tokIsNull v := by
  cases v <;> rfl

/-- A name is looked up from its token only. -/
@[simp] theorem enumLookup_leaf (v : Json) (map : EnumMap) : enumLookup v.leaf map = enumLookup v map := by
  cases v <;> rfl

/-- The key of an integer field. -/
@[simp] theorem key_intArm (key : String) (lo hi : Int) (reason : String) (set : Int → σ → σ) :
    (intArm key lo hi reason set).key = key := rfl

/-- The key of an enumeration. -/
@[simp] theorem key_enumArm (key : String) (map : EnumMap) (set : Nat → σ → σ) :
    (enumArm key map set).key = key := rfl

/-- The key of a boolean. -/
@[simp] theorem key_boolArm (key reason : String) (set : Nat → σ → σ) : (boolArm key reason set).key = key := rfl

/-- The key of a name is `name`. -/
@[simp] theorem key_nameArm (set : (Name → Name) → σ → σ) : (nameArm set).key = "name" := rfl

/-- The key of a platform string. -/
@[simp] theorem key_platformStrArm (runtime : Bool) (key reason : String) (set : σ → σ) :
    (platformStrArm runtime key reason set).key = key := rfl

/-- The key of a platform integer. -/
@[simp] theorem key_platformIntArm (key : String) (lo hi : Int) (reason : String) :
    (platformIntArm key lo hi reason : Arm σ).key = key := rfl

/-- The key of an actuator's integer. -/
@[simp] theorem key_actuatorIntArm (key : String) (hi : Int) (reason : String)
    (set : Int → ActuatorCfg → ActuatorCfg) : (actuatorIntArm key hi reason set).key = key := rfl

/-- The key of a top-level integer. -/
@[simp] theorem key_topLevelIntArm (key : String) (set : Nat → Config → Config) :
    (topLevelIntArm key set).key = key := rfl

/-- The key of what pass A has handled. -/
@[simp] theorem key_passADone (key : String) : (passADone key).key = key := rfl

end leaves

namespace ParseCtx

variable {c : ParseCtx}

/-! ## Sensors and context signals -/

/-- `parse_sensor` on the tokens: all its values are leaves. -/
theorem agreesAt_parseSensor (runtime : Bool) :
    c.AgreesAt (c.parseSensor runtime) (ThermalCore.parseSensor runtime) :=
  agreesAt_parseObject (agreesArms_leaves (by simp [sensorArms])) _

/-- `parse_context_signal` on the tokens: all its values are leaves. -/
theorem agreesAt_parseContextSignal (runtime : Bool) :
    c.AgreesAt (c.parseContextSignal runtime) (ThermalCore.parseContextSignal runtime) :=
  agreesAt_parseObject (agreesArms_leaves (by simp [contextSignalArms])) _

/-! ## Fan health -/

/-- `parse_severity_pct` on the tokens: all its values are leaves. -/
theorem agreesAt_parseSeverityPct : c.AgreesAt c.parseSeverityPct ThermalCore.parseSeverityPct :=
  agreesAt_parseObject (agreesArms_leaves (by simp [severityPctArms])) _

/-- A pair: its two elements, or the type or the size is another. -/
theorem Holds.pair {t : Int} {v : Json} (h : c.Holds t v.entries) :
    (∃ x y, v = .array [x, y] ∧ ¬((c.toks t).type ≠ .array ∨ (c.toks t).size ≠ 2) ∧ c.Holds (t + 1) x.entries ∧
        c.Holds (t + 1 + x.tokenCount) y.entries) ∨
      (∀ x y, v ≠ .array [x, y]) ∧ ((c.toks t).type ≠ .array ∨ (c.toks t).size ≠ 2) := by
  cases v with
  | array vs =>
      obtain - | ⟨x, - | ⟨y, - | ⟨z, vs⟩⟩⟩ := vs
      · exact .inr ⟨by simp, .inr (by simp [h.head.size])⟩
      · exact .inr ⟨by simp, .inr (by simp [h.head.size])⟩
      · refine .inl ⟨x, y, rfl, by simp [h.head.type, h.head.size], h.tail.left, ?_⟩
        have hrest : c.Holds (t + 1 + x.tokenCount) (y.entries ++ []) := h.tail.next
        exact hrest.left
      · refine .inr ⟨by simp, .inr ?_⟩
        rw [h.head.size]
        simp only [List.length_cons]
        omega
  | object ms => exact .inr ⟨by simp, .inl (by simp [h.head.type])⟩
  | string bytes => exact .inr ⟨by simp, .inl (by simp [h.head.type])⟩
  | primitive bytes => exact .inr ⟨by simp, .inl (by simp [h.head.type])⟩

/-- Whatever is no pair is refused. -/
theorem parsePair_of_ne {v : Json} (h : ∀ x y, v ≠ .array [x, y]) (shape xReason yReason : String) (lo hi : Int)
    (path : Bytes) : parsePair shape xReason yReason lo hi path v = setErr .errInvalidArg path shape := by
  unfold parsePair
  split
  · exact absurd rfl (h _ _)
  · rfl

/-- A token of the document is in range. -/
theorem result_checkedTok {t : Int} {v : Json} (h : c.Holds t v.entries) :
    (c.checkedTok t).result = .ok (some (c.toks t)) := by
  have hrange : c.tokInRange t = true := by cases v <;> exact h.inRange
  have hlt : t < c.nToks := h.first.1
  simp [checkedTok, h.start, hlt, hrange]

/-- A baseline point, tested through `tok_in_range` first. -/
theorem agreesElem_parseBaselinePoint :
    c.AgreesElem c.parseBaselinePoint fun j path v out =>
      ThermalCore.parseBaselinePoint path v >>= fun pt => .ok { out with baseline := out.baseline.put j pt } := by
  intro j path a v out hv
  rw [parseBaselinePoint, Logged.result_bind, result_checkedTok hv, Load.ok_bind]
  obtain ⟨x, y, rfl, hpair, hx, hy⟩ | ⟨hne, hpair⟩ := hv.pair
  · simp [hpair, hx.skipToken, hx.tokView, hy.tokView, ThermalCore.parseBaselinePoint, parsePair, bind_assoc]
  · simp [hpair, ThermalCore.parseBaselinePoint, parsePair_of_ne hne]

/-- `baseline` of `parse_fan_health` on the tokens. -/
theorem agreesAt_parseBaseline : c.AgreesAt c.parseBaseline ThermalCore.parseBaseline :=
  agreesAt_parseArray agreesElem_parseBaselinePoint _ fun n hn => by rw [count8_of_le (by decide) hn]

/-- The keys of a fan health block, two of them objects or arrays. -/
theorem agreesArms_fanHealthArms : c.AgreesArms c.fanHealthArms ThermalCore.fanHealthArms := by
  apply agreesArms_tokenArms
  · simp [ThermalCore.fanHealthArms]
  · simpa [ThermalCore.fanHealthArms] using
      And.intro (agreesArm_valueArm agreesAt_parseBaseline "baseline")
        (agreesArm_valueArm agreesAt_parseSeverityPct "severity_pct")

/-- `parse_fan_health` on the tokens: a disabled block is returned as it stands. -/
theorem result_parseFanHealth (path : Bytes) {t : Int} {v : Json} (hv : c.Holds t v.entries) :
    (c.parseFanHealth path t).result = ThermalCore.parseFanHealth path v := by
  rw [parseFanHealth, result_object agreesArms_fanHealthArms path _ _ hv]
  cases v with
  | object ms =>
      show (parseMembers ThermalCore.fanHealthArms path ms fanHealthZeroed >>= _) =
        parseMembers ThermalCore.fanHealthArms path ms fanHealthZeroed >>= _
      refine congrArg _ (funext fun out => ?_)
      rw [sawAll_eq_allSeen]
      split_ifs <;> rfl
  | array vs => rfl
  | string bytes => rfl
  | primitive bytes => rfl

/-! ## Actuators -/

/-- A point of a linearization curve. -/
theorem agreesElem_parseDutyPoint :
    c.AgreesElem c.parseDutyPoint fun j path v out =>
      parsePair "expected [input_pwm, output_pwm]" "expected input PWM in [0, 255]"
        "expected output PWM in [0, 255]" 0 255 path v >>= fun pt =>
          .ok { out with dutyLinearization := out.dutyLinearization.put j pt } := by
  intro j path a v out hv
  rw [parseDutyPoint, Logged.result_bind, result_readTok, Load.ok_bind]
  obtain ⟨x, y, rfl, hpair, hx, hy⟩ | ⟨hne, hpair⟩ := hv.pair
  · simp [hpair, hx.skipToken, hx.tokView, hy.tokView, parsePair, bind_assoc]
  · simp [hpair, parsePair_of_ne hne]

/-- `parse_duty_linearization` on the tokens. -/
theorem agreesAt_parseDutyLinearization :
    c.AgreesAt c.parseDutyLinearization ThermalCore.parseDutyLinearization :=
  agreesAt_parseArray (agreesElem_valueElem agreesElem_parseDutyPoint) _ fun n hn => by
    rw [count8_of_le (by decide) hn]

/-- `state_pwm` of `parse_actuator` on the tokens. -/
theorem agreesAt_parseStatePwm : c.AgreesAt c.parseStatePwm ThermalCore.parseStatePwm :=
  agreesAt_parseArray (agreesElem_leafElem fun j path v st => by simp) _ fun n hn => by
    rw [count8_of_le (by decide) hn]

/-- The keys of an actuator, three of them objects or arrays. -/
theorem agreesArms_actuatorArms (runtime : Bool) :
    c.AgreesArms (c.actuatorArms runtime) (ThermalCore.actuatorArms runtime) := by
  apply agreesArms_tokenArms
  · simp [ThermalCore.actuatorArms]
  · have hduty := agreesArm_store (c := c)
      (fun (st : ActuatorLoad) path _ v hv => agreesAt_parseDutyLinearization path _ v st.out hv)
      (fun st out => { st with out := out }) "duty_linearization"
    have hhealth := agreesArm_store (c := c) (fun (_ : ActuatorLoad) path _ _ hv => result_parseFanHealth path hv)
      (fun st fanHealth => { st with fanHealth := fanHealth, sawFanHealth := true }) "fan_health"
    simpa [ThermalCore.actuatorArms] using
      And.intro (agreesArm_valueArm agreesAt_parseStatePwm "state_pwm") (And.intro hduty hhealth)

/-- `parse_actuator` on the tokens, with its test of the tachometer behind. -/
theorem result_parseActuator (runtime : Bool) (path : Bytes) {t : Int} {v : Json} (out : ActuatorCfg)
    (statePwmLen : Nat) (hv : c.Holds t v.entries) :
    (c.parseActuator runtime path t out statePwmLen).result =
      ThermalCore.parseActuator runtime path v out statePwmLen := by
  rw [parseActuator, Logged.result_bind,
    agreesAt_parseObject (agreesArms_actuatorArms runtime) _ path t v _ hv]
  refine congrArg _ (funext fun st => ?_)
  rw [apply_ite Logged.result]
  rfl

/-! ## Zones -/

/-- `parse_trip` on the tokens: all its values are leaves. -/
theorem agreesAt_parseTrip : c.AgreesAt c.parseTrip ThermalCore.parseTrip :=
  agreesAt_parseObject (agreesArms_leaves (by simp [tripArms])) _

/-- `parse_pid` on the tokens: all its values are leaves. -/
theorem agreesAt_parsePid : c.AgreesAt c.parsePid ThermalCore.parsePid :=
  agreesAt_parseObject (agreesArms_leaves (by simp [pidArms])) _

/-- `sensors` of `parse_zone` on the tokens: names resolved among the sensors. -/
theorem agreesAt_parseZoneSensors (cfgView : Config) :
    c.AgreesAt (c.parseZoneSensors cfgView) (ThermalCore.parseZoneSensors cfgView) :=
  agreesAt_parseArray (agreesElem_leafElem fun j path v st => by simp) _ fun n hn => by
    rw [count8_of_le (by decide) hn]

/-- `sensor_weights_q16` of `parse_zone` on the tokens. -/
theorem agreesAt_parseZoneWeights : c.AgreesAt c.parseZoneWeights ThermalCore.parseZoneWeights :=
  agreesAt_parseArray (agreesElem_leafElem fun j path v st => by simp) _ fun n _ => by
    have hcount : ¬(n : Int) < 0 := by omega
    simp [hcount]

/-- `actuators` of `parse_zone` on the tokens: names resolved among the actuators. -/
theorem agreesAt_parseZoneActuators (cfgView : Config) :
    c.AgreesAt (c.parseZoneActuators cfgView) (ThermalCore.parseZoneActuators cfgView) :=
  agreesAt_parseArray (agreesElem_leafElem fun j path v st => by simp) _ fun n hn => by
    rw [count8_of_le (by decide) hn]

/-- `trips` of `parse_zone` on the tokens. -/
theorem agreesAt_parseZoneTrips : c.AgreesAt c.parseZoneTrips ThermalCore.parseZoneTrips := by
  have htrip := agreesElem_store (c := c)
    (fun j (st : ZoneLoad) path _ v hv => agreesAt_parseTrip path _ v (st.out.trips.slot j) hv)
    (fun j st trip => { st with out := { st.out with trips := st.out.trips.put j trip } })
  exact agreesAt_parseArray htrip _ fun n hn => by rw [count8_of_le (by decide) hn]

/-- The keys of a zone, five of them objects or arrays. -/
theorem agreesArms_zoneArms (cfgView : Config) :
    c.AgreesArms (c.zoneArms cfgView) (ThermalCore.zoneArms cfgView) := by
  apply agreesArms_tokenArms
  · simp [ThermalCore.zoneArms]
  · have hpid := agreesArm_store (c := c)
      (fun (st : ZoneLoad) path _ v hv => agreesAt_parsePid path _ v st.out.pid hv)
      (fun st pid => { st with out := { st.out with pid := pid } }) "pid"
    simpa [ThermalCore.zoneArms] using
      And.intro (agreesArm_valueArm (agreesAt_parseZoneSensors cfgView) "sensors")
        (And.intro (agreesArm_valueArm agreesAt_parseZoneWeights "sensor_weights_q16")
          (And.intro hpid
            (And.intro (agreesArm_valueArm (agreesAt_parseZoneActuators cfgView) "actuators")
              (agreesArm_valueArm agreesAt_parseZoneTrips "trips"))))

/-- `parse_zone` on the tokens, with its test of the weights behind. -/
theorem result_parseZone (statePwmLens : Vector Nat maxActuators) (cfgView : Config) (path : Bytes) {t : Int}
    {v : Json} (out : ZoneCfg) (hv : c.Holds t v.entries) :
    (c.parseZone statePwmLens cfgView path t out).result =
      ThermalCore.parseZone statePwmLens cfgView path v out := by
  rw [parseZone, Logged.result_bind, agreesAt_parseObject (agreesArms_zoneArms cfgView) _ path t v _ hv]
  refine congrArg _ (funext fun st => ?_)
  simp

/-! ## Modifiers -/

/-- `parse_curve_point` on the tokens: all its values are leaves. -/
theorem agreesAt_parseCurvePoint : c.AgreesAt c.parseCurvePoint ThermalCore.parseCurvePoint :=
  agreesAt_parseObject (agreesArms_leaves (by simp [curvePointArms])) _

/-- `stages` of `parse_modifier` on the tokens. -/
theorem result_parseStages (path : Bytes) {t : Int} {v : Json} (hv : c.Holds t v.entries) :
    (c.parseStages path t).result = ThermalCore.parseStages path v :=
  agreesAt_parseList (agreesElem_leafElem fun j path v st => by simp) path t v 0 hv

/-- `curve` of `parse_modifier` on the tokens. -/
theorem agreesAt_parseCurve : c.AgreesAt c.parseCurve ThermalCore.parseCurve := by
  have hpoint := agreesElem_store (c := c)
    (fun j (out : ModifierCfg) path _ v hv => agreesAt_parseCurvePoint path _ v (out.curve.slot j) hv)
    (fun j out pt => { out with curve := out.curve.put j pt })
  exact agreesAt_parseArray hpoint _ fun n hn => by rw [count8_of_le (by decide) hn]

/-- The keys of a modifier, two of them arrays. -/
theorem agreesArms_modifierArms (cfgView : Config) :
    c.AgreesArms (c.modifierArms cfgView) (ThermalCore.modifierArms cfgView) := by
  apply agreesArms_tokenArms
  · simp [ThermalCore.modifierArms]
  · have hstages := agreesArm_store (c := c) (fun (_ : ModifierCfg) path _ _ hv => result_parseStages path hv)
      (fun out mask => { out with stages := mask }) "stages"
    simpa [ThermalCore.modifierArms] using
      And.intro hstages (agreesArm_valueArm agreesAt_parseCurve "curve")

/-- `parse_modifier` on the tokens. -/
theorem agreesAt_parseModifier (cfgView : Config) :
    c.AgreesAt (c.parseModifier cfgView) (ThermalCore.parseModifier cfgView) :=
  agreesAt_parseObject (agreesArms_modifierArms cfgView) _

/-! ## Fault detectors -/

/-- The correlated context is read off its token, `null` included. -/
theorem parseCorrelatedContext_leaf (kind : DetectorKind) (cfgView : Config) (path : Bytes) (v : Json)
    (out : FaultDetectorCfg) :
    parseCorrelatedContext kind cfgView path v.leaf out = parseCorrelatedContext kind cfgView path v out := by
  simp [parseCorrelatedContext]

/-- `parse_fault_detector` on the tokens, with its test of the correlated context behind. -/
theorem result_parseFaultDetector (kind : DetectorKind) (cfgView : Config) (path : Bytes) {t : Int} {v : Json}
    (out : FaultDetectorCfg) (hv : c.Holds t v.entries) :
    (c.parseFaultDetector kind cfgView path t out).result =
      ThermalCore.parseFaultDetector kind cfgView path v out := by
  have harms : c.AgreesArms (c.tokenArms (faultDetectorArms kind cfgView) []) (faultDetectorArms kind cfgView) :=
    agreesArms_leaves (by simp [faultDetectorArms, parseCorrelatedContext_leaf])
  rw [parseFaultDetector, Logged.result_bind, agreesAt_parseObject harms _ path t v _ hv]
  refine congrArg _ (funext fun out' => ?_)
  rw [apply_ite Logged.result]
  rfl

/-- The keys of `fault_detection`: four objects. -/
theorem agreesArms_faultDetectionArms (cfgView : Config) :
    c.AgreesArms (c.faultDetectionArms cfgView) (ThermalCore.faultDetectionArms cfgView) := by
  have hdetector (kind : DetectorKind) (old : FaultDetectionCfg → FaultDetectorCfg)
      (put : FaultDetectionCfg → FaultDetectorCfg → FaultDetectionCfg) (key : String) :=
    agreesArm_store (c := c)
      (fun (out : FaultDetectionCfg) path _ _ hv => result_parseFaultDetector kind cfgView path (old out) hv) put key
  refine .cons ⟨rfl, ?_⟩ (.cons ⟨rfl, ?_⟩ (.cons ⟨rfl, ?_⟩ (.cons ⟨rfl, ?_⟩ .nil)))
  · exact hdetector .stall (·.stallDefaults) _ _
  · exact hdetector .stuckSensor (·.stuckSensorDefaults) _ _
  · exact hdetector .runaway (·.runawayDefaults) _ _
  · exact hdetector .staleContext (·.staleContextDefaults) _ _

/-- `parse_fault_detection_object` on the tokens. -/
theorem agreesAt_parseFaultDetectionObject (cfgView : Config) :
    c.AgreesAt (c.parseFaultDetectionObject cfgView) (ThermalCore.parseFaultDetectionObject cfgView) :=
  agreesAt_parseObject (agreesArms_faultDetectionArms cfgView) _

/-! ## Telemetry and platform-only objects -/

/-- `parse_telemetry_object` on the tokens: its signals are an array. -/
theorem agreesAt_parseTelemetryObject (runtime : Bool) (cfgView : Config) :
    c.AgreesAt (c.parseTelemetryObject runtime cfgView) (ThermalCore.parseTelemetryObject runtime cfgView) := by
  apply agreesAt_parseObject
  apply agreesArms_tokenArms
  · simp [ThermalCore.telemetryArms]
  · have hsignals : c.AgreesAt (c.parseList fun _ => c.leafElem (parseSelector cfgView))
        (ThermalCore.parseList fun _ => parseSelector cfgView) :=
      agreesAt_parseList (agreesElem_leafElem fun j path v st => by simp [parseSelector])
    simpa [ThermalCore.telemetryArms] using agreesArm_valueArm hsignals "signals"

/-- `parse_control_object` on the tokens: all its values are leaves. -/
theorem agreesAt_parseControlObject (runtime : Bool) :
    c.AgreesAt (c.parseControlObject runtime) fun path v _ => ThermalCore.parseControlObject runtime path v :=
  agreesAt_parseObject (agreesArms_leaves (by simp [controlArms])) _

/-- `parse_hil_object` on the tokens: all its values are leaves. -/
theorem agreesAt_parseHilObject (runtime : Bool) :
    c.AgreesAt (c.parseHilObject runtime) fun path v _ => ThermalCore.parseHilObject runtime path v :=
  agreesAt_parseObject (agreesArms_leaves (by simp [hilArms])) _

/-! ## Top-level passes -/

/-- The array of sensors. -/
theorem agreesAt_parseSensors (runtime : Bool) :
    c.AgreesAt (c.parseSensors runtime) (ThermalCore.parseSensors runtime) := by
  have hsensor := agreesElem_store (c := c)
    (fun j (st : LoadState) path _ v hv => agreesAt_parseSensor runtime path _ v (st.cfg.sensors.slot j) hv)
    (fun j st sensor => { st with cfg := { st.cfg with sensors := st.cfg.sensors.put j sensor } })
  exact agreesAt_parseArray hsensor _ fun n hn => by rw [count8_of_le (by decide) hn]

/-- The array of context signals. -/
theorem agreesAt_parseContextSignals (runtime : Bool) :
    c.AgreesAt (c.parseContextSignals runtime) (ThermalCore.parseContextSignals runtime) := by
  have hcontext := agreesElem_store (c := c)
    (fun j (st : LoadState) path _ v hv => agreesAt_parseContextSignal runtime path _ v (st.cfg.contexts.slot j) hv)
    (fun j st context => { st with cfg := { st.cfg with contexts := st.cfg.contexts.put j context } })
  exact agreesAt_parseArray hcontext _ fun n hn => by rw [count8_of_le (by decide) hn]

/-- The array of actuators. -/
theorem agreesAt_parseActuators (runtime : Bool) :
    c.AgreesAt (c.parseActuators runtime) (ThermalCore.parseActuators runtime) := by
  have hact := agreesElem_store (c := c)
    (fun j (st : LoadState) path _ _ hv =>
      result_parseActuator runtime path (st.cfg.actuators.slot j) (st.statePwmLens.slot j) hv)
    (fun j st act =>
      { cfg :=
          { st.cfg with
            actuators := st.cfg.actuators.put j act.out
            fanHealth := st.cfg.fanHealth.put j act.fanHealth }
        statePwmLens := st.statePwmLens.put j act.statePwmLen })
  exact agreesAt_parseArray hact _ fun n hn => by rw [count8_of_le (by decide) hn]

/-- The keys of pass A. -/
theorem agreesArms_passAArms (runtime : Bool) :
    c.AgreesArms (c.passAArms runtime) (ThermalCore.passAArms runtime) :=
  .cons ⟨rfl, agreesArm_valueArm (agreesAt_parseSensors runtime) _⟩
    (.cons ⟨rfl, agreesArm_valueArm (agreesAt_parseContextSignals runtime) _⟩
      (.cons ⟨rfl, agreesArm_valueArm (agreesAt_parseActuators runtime) _⟩ .nil))

/-- A member of the top-level object in pass A: other keys are skipped. -/
theorem result_passAMember (runtime : Bool) (k : Int) (m : Member) (st : LoadState)
    (hm : c.Holds k (memberEntries m)) :
    (c.passAMember runtime k st).result = ThermalCore.passAMember runtime st m := by
  obtain ⟨key, v⟩ := m
  have hkey : c.tokView k = .string key := Holds.tokView_string hm
  rw [passAMember, Logged.result_bind, result_view, hkey, ThermalCore.passAMember]
  obtain ⟨hnone, hnone'⟩ | ⟨arm, arm', hsome, hsome', hagree⟩ := (agreesArms_passAArms (c := c) runtime).find key
  · simp [hnone, hnone']
  · simp [hsome, hsome', hagree key k v st hm.tail]

/-- Pass A of a root object. -/
theorem result_passATopLevel (runtime : Bool) {ms : List Member} (hms : c.Holds 0 (Json.object ms).entries)
    (st : LoadState) : (c.passATopLevel runtime st).result = ThermalCore.passATopLevel runtime ms st := by
  have htype : (c.toks 0).type = .object := hms.head.type
  have hsize : (c.toks 0).size.toNat = ms.length := by simp [hms.head.size]
  rw [passATopLevel, Logged.result_bind, result_readTok, Load.ok_bind, if_neg (not_not.mpr htype), hsize]
  exact result_keyLoop (fun k m st hm => result_passAMember runtime k m st hm) hms.tail st

/-- The array of zones. -/
theorem agreesAt_parseZones : c.AgreesAt c.parseZones ThermalCore.parseZones := by
  have hzone := agreesElem_store (c := c)
    (fun j (st : LoadState) path _ _ hv =>
      result_parseZone st.statePwmLens st.cfg path (st.cfg.zones.slot j) hv)
    (fun j st zone => { st with cfg := { st.cfg with zones := st.cfg.zones.put j zone } })
  exact agreesAt_parseArray hzone _ fun n hn => by rw [count8_of_le (by decide) hn]

/-- The array of modifiers. -/
theorem agreesAt_parsePolicyModifiers : c.AgreesAt c.parsePolicyModifiers ThermalCore.parsePolicyModifiers := by
  have hmodifier := agreesElem_store (c := c)
    (fun j (st : LoadState) path _ v hv => agreesAt_parseModifier st.cfg path _ v (st.cfg.modifiers.slot j) hv)
    (fun j st modifier => { st with cfg := { st.cfg with modifiers := st.cfg.modifiers.put j modifier } })
  exact agreesAt_parseArray hmodifier _ fun n hn => by rw [count8_of_le (by decide) hn]

/-- The keys of pass B. -/
theorem agreesArms_passBArms (runtime : Bool) :
    c.AgreesArms (c.passBArms runtime) (ThermalCore.passBArms runtime) := by
  apply agreesArms_tokenArms
  · simp [ThermalCore.passBArms, telemetryArm]
  · have hfaults := agreesArm_store (c := c)
      (fun (st : LoadState) path _ v hv => agreesAt_parseFaultDetectionObject st.cfg path _ v st.cfg.faults hv)
      (fun st faults => { st with cfg := { st.cfg with faults := faults } }) "fault_detection"
    have htelemetry := agreesArm_store (c := c)
      (fun (st : LoadState) path _ v hv => agreesAt_parseTelemetryObject runtime st.cfg path _ v st.cfg.telemetry hv)
      (fun st telemetry => { st with cfg := { st.cfg with telemetry := telemetry } }) "telemetry"
    have hcontrol := agreesArm_store (c := c)
      (fun (_ : LoadState) path _ v hv => agreesAt_parseControlObject runtime path _ v () hv)
      (fun st _ => st) "control"
    have hhil := agreesArm_store (c := c)
      (fun (_ : LoadState) path _ v hv => agreesAt_parseHilObject runtime path _ v () hv)
      (fun st _ => st) "hil"
    simpa [ThermalCore.passBArms, telemetryArm] using
      And.intro (agreesArm_valueArm agreesAt_parseZones "zones")
        (And.intro (agreesArm_valueArm agreesAt_parsePolicyModifiers "policy_modifiers")
          (And.intro hfaults (And.intro htelemetry (And.intro hcontrol hhil))))

/-- One step of pass B, with the keys seen so far. -/
theorem result_passBMember (runtime : Bool) (k : Int) (m : Member) (st : LoadState × List Bytes)
    (hm : c.Holds k (memberEntries m)) :
    (c.passBMember runtime k st).result =
      ThermalCore.passBMember runtime st.1 m >>= fun out => .ok (out, m.1 :: st.2) := by
  rw [passBMember_eq_round, result_memberRound (agreesArms_passBArms runtime) _ _ _ hm st, ThermalCore.passBMember]
  cases findArm (ThermalCore.passBArms runtime) m.1 <;> rfl

/-- Pass B of a root object. -/
theorem result_passBTopLevel (runtime : Bool) {ms : List Member} (hms : c.Holds 0 (Json.object ms).entries)
    (st : LoadState) : (c.passBTopLevel runtime st).result = ThermalCore.passBTopLevel runtime ms st := by
  have hsize : (c.toks 0).size.toNat = ms.length := by simp [hms.head.size]
  have hloop := result_keyLoop (result_passBMember (c := c) runtime) hms.tail (st, [])
  have hseen := foldlM_seen (fun st m => ThermalCore.passBMember runtime st m) ms st []
  rw [passBTopLevel, Logged.result_bind, result_readTok, Load.ok_bind, hsize, Logged.result_bind]
  rw [show (0 : Int) + 1 = 1 from rfl] at hloop
  rw [hloop, hseen, ThermalCore.passBTopLevel, bind_assoc]
  refine congrArg _ (funext fun out => ?_)
  rw [Load.ok_bind, sawAll_eq_allSeen, sawAll_eq_allSeen, requireTopLevel]
  split_ifs <;> rfl

/-- **The passes over the tokens of a document** end as the passes over the document. -/
theorem result_loadConfig (runtime : Bool) {root : Json} (hroot : c.Holds 0 root.entries) :
    (c.loadConfig runtime).result =
      match root with
      | .object ms =>
          ThermalCore.passATopLevel runtime ms loadStateZeroed >>= fun st =>
            ThermalCore.passBTopLevel runtime ms st >>= fun st => validated st.cfg
      | _ => setErr .errInvalidArg (ascii "$") "expected root object" := by
  cases root with
  | object ms =>
      rw [loadConfig, Logged.result_bind, result_passATopLevel runtime hroot]
      refine congrArg _ (funext fun st => ?_)
      rw [Logged.result_bind, result_passBTopLevel runtime hroot]
      rfl
  | array vs => simp [loadConfig, passATopLevel, hroot.head.type]
  | string bytes => simp [loadConfig, passATopLevel, hroot.head.type]
  | primitive bytes => simp [loadConfig, passATopLevel, hroot.head.type]

end ParseCtx

end ThermalCore
