import ThermalCore.Lib.Footprint
import ThermalCore.Linux.LoaderPasses

/-!
# The sections of a configuration and who writes them

The load state taken apart into the sections a root key stands for.  A step of
either pass writes the section of its key or only tests; a step of pass A reads
no other section, a step of pass B other than telemetry only those of pass A.

`loadComponents` gives the state as components, and `Writes` of `Lib.Footprint` says
which of them a step reads and writes.  With these footprints two steps of different
keys commute, which is all that `Linux.KeyOrder` needs to know of the parsers.
-/

namespace ThermalCore

open Check Footprint

/-! ## Sections -/

/-- The sections of the load state, one for each root key that fills one. -/
inductive LoadSection where
  | configVersion
  | controlPeriodMs
  | periodRelativeToMs
  | sensors
  | contextSignals
  | actuators
  | zones
  | policyModifiers
  | faultDetection
  | telemetry
deriving DecidableEq

namespace LoadSection

/-- The root key of a section. -/
def key : LoadSection → String
  | configVersion => "config_version"
  | controlPeriodMs => "control_period_ms"
  | periodRelativeToMs => "period_relative_to_ms"
  | sensors => "sensors"
  | contextSignals => "context_signals"
  | actuators => "actuators"
  | zones => "zones"
  | policyModifiers => "policy_modifiers"
  | faultDetection => "fault_detection"
  | telemetry => "telemetry"

/-- What the loader keeps of an actuators section. -/
structure Actuators where
  actuators : Vector ActuatorCfg maxActuators
  actuatorCount : Nat
  fanHealth : Vector FanHealthCfg maxActuators
  statePwmLens : Vector Nat maxActuators

/-- What a section holds. -/
abbrev Value : LoadSection → Type
  | configVersion => Nat
  | controlPeriodMs => Nat
  | periodRelativeToMs => Nat
  | sensors => Vector SensorCfg maxSensors × Nat
  | contextSignals => Vector ContextCfg maxContextSignals × Nat
  | actuators => Actuators
  | zones => Vector ZoneCfg maxZones × Nat
  | policyModifiers => Vector ModifierCfg maxModifiers × Nat
  | faultDetection => FaultDetectionCfg
  | telemetry => TelemetryCfg

/-- A section of the load state. -/
def view : (i : LoadSection) → LoadState → i.Value
  | configVersion, st => st.cfg.configVersion
  | controlPeriodMs, st => st.cfg.controlPeriodMs
  | periodRelativeToMs, st => st.cfg.periodRelativeToMs
  | sensors, st => (st.cfg.sensors, st.cfg.sensorCount)
  | contextSignals, st => (st.cfg.contexts, st.cfg.contextCount)
  | actuators, st => ⟨st.cfg.actuators, st.cfg.actuatorCount, st.cfg.fanHealth, st.statePwmLens⟩
  | zones, st => (st.cfg.zones, st.cfg.zoneCount)
  | policyModifiers, st => (st.cfg.modifiers, st.cfg.modifierCount)
  | faultDetection, st => st.cfg.faults
  | telemetry, st => st.cfg.telemetry

/-- The load state with a section replaced. -/
def put : (i : LoadSection) → i.Value → LoadState → LoadState
  | configVersion, c, st => { st with cfg := { st.cfg with configVersion := c } }
  | controlPeriodMs, c, st => { st with cfg := { st.cfg with controlPeriodMs := c } }
  | periodRelativeToMs, c, st => { st with cfg := { st.cfg with periodRelativeToMs := c } }
  | sensors, c, st => { st with cfg := { st.cfg with sensors := c.1, sensorCount := c.2 } }
  | contextSignals, c, st => { st with cfg := { st.cfg with contexts := c.1, contextCount := c.2 } }
  | actuators, c, st =>
      { cfg :=
          { st.cfg with
            actuators := c.actuators, actuatorCount := c.actuatorCount, fanHealth := c.fanHealth }
        statePwmLens := c.statePwmLens }
  | zones, c, st => { st with cfg := { st.cfg with zones := c.1, zoneCount := c.2 } }
  | policyModifiers, c, st =>
      { st with cfg := { st.cfg with modifiers := c.1, modifierCount := c.2 } }
  | faultDetection, c, st => { st with cfg := { st.cfg with faults := c } }
  | telemetry, c, st => { st with cfg := { st.cfg with telemetry := c } }

end LoadSection

attribute [ext] Config LoadState

/-- States that agree on every section are equal. -/
theorem LoadState.ext_sections {s t : LoadState} (h : ∀ i, LoadSection.view i s = LoadSection.view i t) :
    s = t := by
  have hactuators : (⟨s.cfg.actuators, s.cfg.actuatorCount, s.cfg.fanHealth, s.statePwmLens⟩ :
      LoadSection.Actuators) =
      ⟨t.cfg.actuators, t.cfg.actuatorCount, t.cfg.fanHealth, t.statePwmLens⟩ := h .actuators
  rw [LoadSection.Actuators.mk.injEq] at hactuators
  obtain ⟨hact, hactCount, hfanHealth, hlens⟩ := hactuators
  apply LoadState.ext
  · exact Config.ext (h .configVersion) (h .controlPeriodMs) (h .periodRelativeToMs)
      (congrArg Prod.fst (h .sensors)) (congrArg Prod.snd (h .sensors))
      (congrArg Prod.fst (h .contextSignals)) (congrArg Prod.snd (h .contextSignals)) hact hactCount
      (congrArg Prod.fst (h .zones)) (congrArg Prod.snd (h .zones))
      (congrArg Prod.fst (h .policyModifiers)) (congrArg Prod.snd (h .policyModifiers))
      (h .faultDetection) (h .telemetry) hfanHealth
  · exact hlens

/-- The load state as its sections. -/
def loadComponents : Components LoadSection LoadSection.Value LoadState where
  view := LoadSection.view
  put := LoadSection.put
  view_put i c s := by cases i <;> rfl
  view_put_ne := by
    intro i j c s hij
    cases i <;> cases j <;> first | rfl | exact absurd rfl hij
  ext := LoadState.ext_sections

/-- Putting back what is there changes nothing. -/
theorem LoadSection.put_view (i : LoadSection) (st : LoadState) :
    LoadSection.put i (LoadSection.view i st) st = st := by
  cases i <;> rfl

/-! ## Acceptance -/

variable {α β σ τ : Type}

/-- Acceptance of a step and what follows it. -/
@[simp] theorem toOption_bind (x : Load α) (f : α → Load β) :
    (x >>= f).toOption = x.toOption.bind fun a => (f a).toOption := by
  cases x <;> rfl

/-- Acceptance of a step whose result is rebuilt. -/
@[simp] theorem toOption_map (x : Load α) (f : α → β) : (x.map f).toOption = x.toOption.map f := by
  cases x <;> rfl

/-- An error is no acceptance. -/
@[simp] theorem toOption_setErr (code : ThermalStatus) (path : Bytes) (reason : String) :
    (setErr code path reason : Load α).toOption = none := rfl

/-- An error with an argument is no acceptance. -/
@[simp] theorem toOption_setErrf (code : ThermalStatus) (path : Bytes) (reason : String) (arg : Bytes) :
    (setErrf code path reason arg : Load α).toOption = none := rfl

/-- A loop accepts as the run of its accepting steps. -/
theorem toOption_foldlM (f : σ → α → Load σ) (l : List α) (st : σ) :
    (l.foldlM f st).toOption = run (fun a st => (f st a).toOption) l st := by
  induction l generalizing st with
  | nil => rfl
  | cons a l ih =>
      rw [List.foldlM_cons, toOption_bind, run_cons]
      congr 1
      funext st'
      exact ih st'

/-- Rebuilding a result behind a last pure step. -/
theorem map_bind_ok (x : Load α) (g : α → τ) (put : τ → σ) :
    (x >>= fun a => .ok (g a)).map put = (x >>= fun a => .ok (put (g a))) := by
  cases x <;> rfl

/-- A last pure step rebuilds the result. -/
theorem bind_toOption_eq_map (x : Load α) (put : α → σ) :
    (x >>= fun a => .ok (put a)).toOption = x.toOption.map put := by
  cases x <;> rfl

/-! ## Loops that fill one section -/

/-- A loop whose steps work inside a part of the state does so itself. -/
theorem foldlM_map {put : τ → σ} {f : σ → α → Load σ} {g : τ → α → Load τ}
    (h : ∀ c a, f (put c) a = (g c a).map put) (l : List α) (c : τ) :
    l.foldlM f (put c) = (l.foldlM g c).map put := by
  induction l generalizing c with
  | nil => rfl
  | cons a l ih =>
      rw [List.foldlM_cons, List.foldlM_cons, h]
      cases g c a with
      | error e => rfl
      | ok c' => exact ih c'

/-- An array parser that fills one section does so in every state around it. -/
theorem parseArray_map {put : τ → σ} {limit : Nat} {tooMany : String}
    {elem : Nat → Bytes → Json → σ → Load σ} {elem' : Nat → Bytes → Json → τ → Load τ}
    {setCount : Nat → σ → σ} {setCount' : Nat → τ → τ}
    (helem : ∀ j path v c, elem j path v (put c) = (elem' j path v c).map put)
    (hcount : ∀ n c, setCount n (put c) = put (setCount' n c)) (path : Bytes) (v : Json) (c : τ) :
    parseArray limit tooMany elem setCount path v (put c) =
      (parseArray limit tooMany elem' setCount' path v c).map put := by
  cases v with
  | array elems =>
      have hloop : parseElems elem path elems (put c) = (parseElems elem' path elems c).map put :=
        foldlM_map (fun c e => helem _ _ _ c) _ c
      simp only [parseArray, hloop]
      split
      · rfl
      · cases parseElems elem' path elems c with
        | error e => rfl
        | ok c' => exact congrArg Except.ok (hcount _ c')
  | object ms => rfl
  | string s => rfl
  | primitive s => rfl

/-- An array section writes its own component when its elements do. -/
theorem writes_parseArray (i : LoadSection) {R : Set LoadSection} {limit : Nat} {tooMany : String}
    {elem : Nat → Bytes → Json → LoadState → Load LoadState} {setCount : Nat → LoadState → LoadState}
    (elem' : LoadState → Nat → Bytes → Json → i.Value → Load i.Value)
    (setCount' : Nat → i.Value → i.Value)
    (hreads : ∀ s t, (∀ j ∈ R, LoadSection.view j s = LoadSection.view j t) → elem' s = elem' t)
    (helem : ∀ s j path v c,
      elem j path v (LoadSection.put i c s) = (elem' s j path v c).map fun c => LoadSection.put i c s)
    (hcount : ∀ s n c, setCount n (LoadSection.put i c s) = LoadSection.put i (setCount' n c) s)
    (path : Bytes) (v : Json) :
    Writes loadComponents i R fun st => (parseArray limit tooMany elem setCount path v st).toOption := by
  refine ⟨fun st c => (parseArray limit tooMany (elem' st) setCount' path v c).toOption, ?_, ?_⟩
  · intro s t hst
    have hsame := hreads s t hst
    simp only [hsame]
  · intro st
    have h : parseArray limit tooMany elem setCount path v
        (LoadSection.put i (LoadSection.view i st) st) =
        (parseArray limit tooMany (elem' st) setCount' path v (LoadSection.view i st)).map
          fun c => LoadSection.put i c st :=
      parseArray_map (helem st) (hcount st) path v (LoadSection.view i st)
    rw [LoadSection.put_view] at h
    show (parseArray limit tooMany elem setCount path v st).toOption = _
    rw [h, toOption_map]
    rfl

/-! ## What the parsers of pass B read -/

/-- The sections pass A has read. -/
abbrev passASections : Set LoadSection := {.sensors, .contextSignals, .actuators}

/-- The configurations agree on what pass A reads. -/
structure SamePassA (cfg cfg' : Config) : Prop where
  sensors : cfg.sensors = cfg'.sensors
  sensorCount : cfg.sensorCount = cfg'.sensorCount
  contexts : cfg.contexts = cfg'.contexts
  contextCount : cfg.contextCount = cfg'.contextCount
  actuators : cfg.actuators = cfg'.actuators
  actuatorCount : cfg.actuatorCount = cfg'.actuatorCount

/-- States that agree on the sections of pass A give the parsers of pass B the same view. -/
theorem samePassA_of_view {s t : LoadState}
    (h : ∀ j ∈ passASections, LoadSection.view j s = LoadSection.view j t) :
    SamePassA s.cfg t.cfg ∧ s.statePwmLens = t.statePwmLens := by
  have hsensors := h .sensors (by simp)
  have hcontexts := h .contextSignals (by simp)
  have hactuators := h .actuators (by simp)
  constructor
  · constructor
    · exact congrArg Prod.fst hsensors
    · exact congrArg Prod.snd hsensors
    · exact congrArg Prod.fst hcontexts
    · exact congrArg Prod.snd hcontexts
    · exact congrArg LoadSection.Actuators.actuators hactuators
    · exact congrArg LoadSection.Actuators.actuatorCount hactuators
  · exact congrArg LoadSection.Actuators.statePwmLens hactuators

namespace SamePassA

variable {cfg cfg' : Config} (h : SamePassA cfg cfg')

include h

/-- Sensor names resolve alike. -/
theorem resolveNameInSensors : resolveNameInSensors cfg = resolveNameInSensors cfg' := by
  funext s
  simp only [ThermalCore.resolveNameInSensors, h.sensors, h.sensorCount]

/-- Context names resolve alike. -/
theorem resolveNameInContexts : resolveNameInContexts cfg = resolveNameInContexts cfg' := by
  funext s
  simp only [ThermalCore.resolveNameInContexts, h.contexts, h.contextCount]

/-- Actuator names resolve alike. -/
theorem resolveNameInActuators : resolveNameInActuators cfg = resolveNameInActuators cfg' := by
  funext s
  simp only [ThermalCore.resolveNameInActuators, h.actuators, h.actuatorCount]

/-- Actuator ids are found alike. -/
theorem findActuatorSlot : findActuatorSlot cfg = findActuatorSlot cfg' := by
  funext id
  simp only [ThermalCore.findActuatorSlot, h.actuators, h.actuatorCount]

/-- Zones are parsed alike. -/
theorem parseZone (lens : Vector Nat maxActuators) : parseZone lens cfg = parseZone lens cfg' := by
  have harms : zoneArms cfg = zoneArms cfg' := by
    simp only [zoneArms, parseZoneSensors, parseZoneActuators, h.resolveNameInSensors,
      h.resolveNameInActuators, h.sensors, h.actuators]
  have hcheck : checkCoolingStates lens cfg = checkCoolingStates lens cfg' := by
    funext path z
    simp only [checkCoolingStates, h.findActuatorSlot, h.actuators]
  funext path v out
  simp only [ThermalCore.parseZone, harms, hcheck]

/-- Modifiers are parsed alike. -/
theorem parseModifier : parseModifier cfg = parseModifier cfg' := by
  have harms : modifierArms cfg = modifierArms cfg' := by
    simp only [modifierArms, h.resolveNameInContexts, h.contexts]
  simp only [ThermalCore.parseModifier, harms]

/-- Detectors are parsed alike. -/
theorem parseFaultDetectionObject :
    parseFaultDetectionObject cfg = parseFaultDetectionObject cfg' := by
  have hdetector (kind : DetectorKind) : parseFaultDetector kind cfg = parseFaultDetector kind cfg' := by
    funext path v out
    have hcorrelated : parseCorrelatedContext kind cfg = parseCorrelatedContext kind cfg' := by
      funext path v out
      simp only [parseCorrelatedContext, h.resolveNameInContexts, h.contexts]
    simp only [parseFaultDetector, faultDetectorArms, hcorrelated]
  simp only [ThermalCore.parseFaultDetectionObject, faultDetectionArms, hdetector]

end SamePassA

/-- The configurations agree on what the telemetry selectors are expanded against. -/
structure SameSelectors (cfg cfg' : Config) : Prop extends SamePassA cfg cfg' where
  zones : cfg.zones = cfg'.zones
  zoneCount : cfg.zoneCount = cfg'.zoneCount
  modifierCount : cfg.modifierCount = cfg'.modifierCount

/-- A selector has the same signals. -/
theorem SameSelectors.selectorSignals {cfg cfg' : Config} (h : SameSelectors cfg cfg') :
    selectorSignals cfg = selectorSignals cfg' := by
  have hwildcards : wildcardSelectors cfg = wildcardSelectors cfg' := by
    simp only [wildcardSelectors, h.zoneCount, h.actuatorCount, h.modifierCount, h.sensorCount,
      h.contextCount]
  have hzones : resolveNameInZones cfg = resolveNameInZones cfg' := by
    funext s
    simp only [resolveNameInZones, h.zones, h.zoneCount]
  have hnamed : namedSignals cfg = namedSignals cfg' := by
    funext path sel
    simp only [namedSignals, namedSelectors, hzones, h.toSamePassA.resolveNameInContexts,
      h.toSamePassA.resolveNameInActuators]
  funext path sel
  simp only [ThermalCore.selectorSignals, hwildcards, hnamed]

/-- The telemetry block is parsed alike. -/
theorem SameSelectors.parseTelemetryObject {runtime : Bool} {cfg cfg' : Config}
    (h : SameSelectors cfg cfg') :
    parseTelemetryObject runtime cfg = parseTelemetryObject runtime cfg' := by
  have hselector : parseSelector cfg = parseSelector cfg' := by
    funext path v t
    simp only [parseSelector, telemetryExpandOne, h.selectorSignals]
  simp only [ThermalCore.parseTelemetryObject, telemetryArms, hselector]

/-! ## What the arms write -/

/-- The arm writes the section of its key and reads no section outside `R`. -/
def ArmWrites (R : Set LoadSection) (i : LoadSection) (arm : Arm LoadState) : Prop :=
  i.key = arm.key ∧
    ∀ path v, Writes loadComponents i R fun st => (arm.parse path v st).toOption

/-- The arm changes nothing. -/
def ArmTests (arm : Arm LoadState) : Prop :=
  ∀ path v, IsTest fun st => (arm.parse path v st).toOption

/-- A parser of platform-only data decides acceptance and nothing else. -/
theorem isTest_bind_ok (parse : Bytes → Json → Load Unit) (path : Bytes) (v : Json) :
    IsTest fun st : LoadState => (parse path v >>= fun _ => .ok st).toOption := by
  cases parse path v with
  | error e => exact Or.inr fun _ => rfl
  | ok u => exact Or.inl fun _ => rfl

/-- The sensors write their own section. -/
theorem writes_parseSensors (runtime : Bool) (path : Bytes) (v : Json) :
    Writes loadComponents .sensors ∅ fun st => (parseSensors runtime path v st).toOption := by
  apply writes_parseArray .sensors
    (fun _ j path v c => do
      let sensor ← parseSensor runtime path v (c.1.slot j)
      .ok (c.1.put j sensor, c.2))
    (fun n c => (c.1, n))
  · exact fun _ _ _ => rfl
  · intro s j path v c
    symm
    exact map_bind_ok _ _ _
  · exact fun _ _ _ => rfl

/-- The context signals write their own section. -/
theorem writes_parseContextSignals (runtime : Bool) (path : Bytes) (v : Json) :
    Writes loadComponents .contextSignals ∅
      fun st => (parseContextSignals runtime path v st).toOption := by
  apply writes_parseArray .contextSignals
    (fun _ j path v c => do
      let context ← parseContextSignal runtime path v (c.1.slot j)
      .ok (c.1.put j context, c.2))
    (fun n c => (c.1, n))
  · exact fun _ _ _ => rfl
  · intro s j path v c
    symm
    exact map_bind_ok _ _ _
  · exact fun _ _ _ => rfl

/-- The actuators write their own section, `state_pwm` lengths included. -/
theorem writes_parseActuators (runtime : Bool) (path : Bytes) (v : Json) :
    Writes loadComponents .actuators ∅ fun st => (parseActuators runtime path v st).toOption := by
  apply writes_parseArray .actuators
    (fun _ j path v c => do
      let act ← parseActuator runtime path v (c.actuators.slot j) (c.statePwmLens.slot j)
      .ok { c with
            actuators := c.actuators.put j act.out
            fanHealth := c.fanHealth.put j act.fanHealth
            statePwmLens := c.statePwmLens.put j act.statePwmLen })
    (fun n c => { c with actuatorCount := n })
  · exact fun _ _ _ => rfl
  · intro s j path v c
    symm
    exact map_bind_ok _ _ _
  · exact fun _ _ _ => rfl

/-- The zones write their own section and read those of pass A. -/
theorem writes_parseZones (path : Bytes) (v : Json) :
    Writes loadComponents .zones passASections fun st => (parseZones path v st).toOption := by
  apply writes_parseArray .zones
    (fun s j path v c => do
      let zone ← parseZone s.statePwmLens s.cfg path v (c.1.slot j)
      .ok (c.1.put j zone, c.2))
    (fun n c => (c.1, n))
  · intro s t hst
    obtain ⟨hsame, hlens⟩ := samePassA_of_view hst
    rw [hlens, hsame.parseZone]
  · intro s j path v c
    have hsame : SamePassA (LoadSection.put .zones c s).cfg s.cfg := ⟨rfl, rfl, rfl, rfl, rfl, rfl⟩
    rw [hsame.parseZone]
    symm
    exact map_bind_ok _ _ _
  · exact fun _ _ _ => rfl

/-- The modifiers write their own section and read those of pass A. -/
theorem writes_parsePolicyModifiers (path : Bytes) (v : Json) :
    Writes loadComponents .policyModifiers passASections
      fun st => (parsePolicyModifiers path v st).toOption := by
  apply writes_parseArray .policyModifiers
    (fun s j path v c => do
      let modifier ← parseModifier s.cfg path v (c.1.slot j)
      .ok (c.1.put j modifier, c.2))
    (fun n c => (c.1, n))
  · intro s t hst
    rw [(samePassA_of_view hst).1.parseModifier]
  · intro s j path v c
    have hsame : SamePassA (LoadSection.put .policyModifiers c s).cfg s.cfg :=
      ⟨rfl, rfl, rfl, rfl, rfl, rfl⟩
    rw [hsame.parseModifier]
    symm
    exact map_bind_ok _ _ _
  · exact fun _ _ _ => rfl

/-- The arms of pass A write their sections and read no other. -/
theorem armWrites_passA {runtime : Bool} {arm : Arm LoadState} (harm : arm ∈ passAArms runtime) :
    ∃ i ∈ passASections, ArmWrites ∅ i arm := by
  simp only [passAArms, List.mem_cons, List.not_mem_nil, or_false] at harm
  rcases harm with rfl | rfl | rfl
  · exact ⟨.sensors, by simp, rfl, writes_parseSensors runtime⟩
  · exact ⟨.contextSignals, by simp, rfl, writes_parseContextSignals runtime⟩
  · exact ⟨.actuators, by simp, rfl, writes_parseActuators runtime⟩

/-- A top-level integer writes its own section. -/
theorem armWrites_topLevelInt (i : LoadSection) {set : Nat → Config → Config} {R : Set LoadSection}
    (c : Nat → i.Value)
    (hset : ∀ n st, { st with cfg := set n st.cfg } = LoadSection.put i (c n) st) :
    ArmWrites R i (topLevelIntArm i.key set) := by
  refine ⟨rfl, fun path v => ⟨fun _ _ =>
    (intField 0 65535 "expected integer in [0, 65535]" path v).toOption.map fun val => c val.toNat,
    fun _ _ _ => rfl, ?_⟩⟩
  intro st
  simp only [topLevelIntArm, intArm, toOption_bind, hset, Option.map_map]
  cases (intField 0 65535 "expected integer in [0, 65535]" path v).toOption <;> rfl

/-- The arms of pass B other than telemetry: each changes nothing, or writes a
section of pass B and reads only those of pass A. -/
theorem armWrites_passB {runtime : Bool} {arm : Arm LoadState} (harm : arm ∈ passBArms runtime)
    (htelemetry : arm.key ≠ "telemetry") :
    ArmTests arm ∨ ∃ i, (i ∉ passASections ∧ i ≠ .telemetry) ∧ ArmWrites passASections i arm := by
  simp only [passBArms, List.mem_cons, List.not_mem_nil, or_false] at harm
  rcases harm with rfl | rfl | rfl | rfl | rfl | rfl | rfl | rfl | rfl | rfl | rfl | rfl
  · exact Or.inr ⟨.configVersion, by simp, armWrites_topLevelInt .configVersion id fun _ _ => rfl⟩
  · exact Or.inr ⟨.controlPeriodMs, by simp, armWrites_topLevelInt .controlPeriodMs id fun _ _ => rfl⟩
  · exact Or.inr
      ⟨.periodRelativeToMs, by simp, armWrites_topLevelInt .periodRelativeToMs id fun _ _ => rfl⟩
  · exact Or.inl fun _ _ => Or.inl fun _ => rfl
  · exact Or.inl fun _ _ => Or.inl fun _ => rfl
  · exact Or.inl fun _ _ => Or.inl fun _ => rfl
  · exact Or.inr ⟨.zones, by simp, rfl, writes_parseZones⟩
  · exact Or.inr ⟨.policyModifiers, by simp, rfl, writes_parsePolicyModifiers⟩
  · refine Or.inr ⟨.faultDetection, by simp, rfl, fun path v =>
      ⟨fun st c => (parseFaultDetectionObject st.cfg path v c).toOption, ?_, ?_⟩⟩
    · intro s t hst
      have hsame := (samePassA_of_view hst).1.parseFaultDetectionObject
      simp only [hsame]
    · intro st
      exact bind_toOption_eq_map _ _
  · exact absurd rfl htelemetry
  · exact Or.inl (isTest_bind_ok fun path v => parseControlObject runtime path v)
  · exact Or.inl (isTest_bind_ok fun path v => parseHilObject runtime path v)

end ThermalCore
