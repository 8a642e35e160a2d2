import Mathlib.Data.List.Forall2
import ThermalCore.Linux.TokenLoader

/-!
# Texts with all their tokens

Which texts make the parsers of `platform/linux/config_jsmn.c` read past the tokens
that were parsed.  The walk comes to a key whose value is a section, an object or an
array itself and reads the token behind it, or to an entry of an array and reads its
token, without `tok_in_range`.  The tokens are complete when such a token is there,
at every key and entry the walk comes to.  The walk goes from key to key and from
entry to entry as `skip_token` counts them, and comes to one only when the parsers
have accepted what stands before it.

This is a test of the parsed tokens alone.  On complete tokens the loader reads
nothing else, so it ends alike whatever the token array held before; on any others
it reads past them.
-/

namespace ThermalCore

open MachineInt

/-- What a parser needs of the value of a key: that there is a token, and `complete`,
with the path and the struct the parser gets. -/
structure ValueNeeds (σ : Type) where
  key : String
  complete : Bytes → Int → σ → Bool

/-- A value of which nothing but its first token is read without `tok_in_range`. -/
def leafNeeds (σ : Type) (key : String) : ValueNeeds σ := ⟨key, fun _ _ _ => true⟩

namespace ParseCtx

variable (c : ParseCtx) {σ τ α β : Type}

/-! ## Loops -/

/-- Where the walk goes on behind the value at `j`. -/
def behind (j : Int) : Int := (skipTokenN c.toks c.nToks c.skipFuel j).getD c.nToks

/-- The needs of the value of a key at `k`; a leaf has none. -/
def valueComplete (needs : List (ValueNeeds σ)) (key : String) (path : Bytes) (k : Int) (st : σ) : Bool :=
  match needs.find? fun n => n.key == key with
  | some n => decide (k + 1 < c.nToks) && n.complete path (k + 1) st
  | none => true

/-- The needs of a loop over keys, from the one at `k` on. -/
def keysComplete (complete : Int → σ → Bool) (round : Int → σ → Scan σ) : Nat → Int → σ → Bool
  | 0, _, _ => true
  | left + 1, k, st =>
      complete k st && (round k st).andThen fun st => keysComplete complete round left (c.behind (k + 1)) st

/-- The needs of one round of an object loop, its arms at `path`. -/
def memberComplete (needs : List (ValueNeeds σ)) (arms : List (TokenArm σ)) (path : Bytes → Bytes) (k : Int)
    (st : σ × List Bytes) : Bool :=
  match tokStrCopy 64 (c.tokView k) with
  | none => true
  | some key =>
      match findTokenArm arms key with
      | none => true
      | some arm => c.valueComplete needs arm.key (path key) k st.1

/-- The walk over an object, when the token at `t` is one. -/
def objectComplete (needs : List (ValueNeeds σ)) (arms : List (TokenArm σ)) (path : Bytes) (t : Int) (st : σ) :
    Bool :=
  if (c.toks t).type ≠ .object then true
  else c.keysComplete (c.memberComplete needs arms (subPath path)) (c.parseMember arms path)
    (c.toks t).size.toNat (t + 1) (st, [])

/-- The needs of an entry that is read without `tok_in_range`. -/
def elemComplete (complete : Nat → Bytes → Int → σ → Bool) (j : Nat) (path : Bytes) (a : Int) (st : σ) : Bool :=
  decide (a < c.nToks) && complete j path a st

/-- The needs of a loop over the elements of an array, from the one at `a` on. -/
def elemsComplete (complete : Nat → Bytes → Int → σ → Bool) (elem : Nat → Bytes → Int → σ → Scan σ)
    (path : Bytes) : Nat → Nat → Int → σ → Bool
  | 0, _, _, _ => true
  | left + 1, j, a, st =>
      complete j (elemPath path j) a st && (elem j (elemPath path j) a st).andThen fun st =>
        elemsComplete complete elem path left (j + 1) (c.behind a) st

/-- The walk over an array, when the token at `t` is one of no more entries than fit. -/
def arrayComplete (limit : Nat) (complete : Nat → Bytes → Int → σ → Bool)
    (elem : Nat → Bytes → Int → σ → Scan σ) (path : Bytes) (t : Int) (st : σ) : Bool :=
  if (c.toks t).type ≠ .array then true
  else if (c.toks t).size > limit then true
  else c.elemsComplete complete elem path (c.toks t).size.toNat 0 (t + 1) st

/-! ## Sections -/

/-- `parse_fan_health`: a baseline and the severity percentages hold no sections. -/
def fanHealthComplete (path : Bytes) (t : Int) : Bool :=
  c.objectComplete [leafNeeds FanHealthCfg "baseline", leafNeeds FanHealthCfg "severity_pct"] c.fanHealthArms
    path t fanHealthZeroed

/-- `parse_duty_linearization`: an entry behind each point. -/
def dutyLinearizationComplete : Bytes → Int → ActuatorCfg → Bool :=
  c.arrayComplete maxCurvePoints (c.elemComplete fun _ _ _ _ => true) (valueElem c.parseDutyPoint)

/-- The sections of an actuator. -/
def actuatorNeeds : List (ValueNeeds ActuatorLoad) :=
  [leafNeeds ActuatorLoad "state_pwm",
    ⟨"duty_linearization", fun path t st => c.dutyLinearizationComplete path t st.out⟩,
    ⟨"fan_health", fun path t _ => c.fanHealthComplete path t⟩]

/-- `parse_actuator`. -/
def actuatorComplete (runtime : Bool) (path : Bytes) (t : Int) (out : ActuatorCfg) (statePwmLen : Nat) : Bool :=
  c.objectComplete c.actuatorNeeds (c.actuatorArms runtime) path t
    { out := out, fanHealth := fanHealthZeroed, statePwmLen := statePwmLen, sawTach := false,
      sawFanHealth := false }

/-- `trips` of `parse_zone`: an entry behind each trip. -/
def zoneTripsComplete : Bytes → Int → ZoneLoad → Bool :=
  c.arrayComplete maxTripsPerZone (c.elemComplete fun _ _ _ _ => true) (valueElem c.parseZoneTrip)

/-- The sections of a zone. -/
def zoneNeeds : List (ValueNeeds ZoneLoad) :=
  [leafNeeds ZoneLoad "sensors", leafNeeds ZoneLoad "sensor_weights_q16", leafNeeds ZoneLoad "pid",
    leafNeeds ZoneLoad "actuators", ⟨"trips", c.zoneTripsComplete⟩]

/-- `parse_zone`. -/
def zoneComplete (cfgView : Config) (path : Bytes) (t : Int) (out : ZoneCfg) : Bool :=
  c.objectComplete c.zoneNeeds (c.zoneArms cfgView) path t { out := out, weightsExplicitLen := none }

/-- `curve` of `parse_modifier`: an entry behind each point. -/
def curveComplete : Bytes → Int → ModifierCfg → Bool :=
  c.arrayComplete maxCurvePoints (c.elemComplete fun _ _ _ _ => true) (valueElem c.parseCurveElem)

/-- `parse_modifier`. -/
def modifierComplete (cfgView : Config) : Bytes → Int → ModifierCfg → Bool :=
  c.objectComplete [leafNeeds ModifierCfg "stages", ⟨"curve", c.curveComplete⟩] (c.modifierArms cfgView)

/-- `parse_fault_detection_object`: four sections of leaves. -/
def faultDetectionComplete (cfgView : Config) : Bytes → Int → FaultDetectionCfg → Bool :=
  c.objectComplete
    [leafNeeds FaultDetectionCfg "stall", leafNeeds FaultDetectionCfg "stuck_sensor",
      leafNeeds FaultDetectionCfg "runaway", leafNeeds FaultDetectionCfg "stale_context"]
    (c.faultDetectionArms cfgView)

/-- `parse_telemetry_object`: the signals. -/
def telemetryComplete (runtime : Bool) (cfgView : Config) : Bytes → Int → TelemetryCfg → Bool :=
  c.objectComplete [leafNeeds TelemetryCfg "signals"] (c.telemetryArms runtime cfgView)

/-- The array of sensors. -/
def sensorsComplete (runtime : Bool) : Bytes → Int → LoadState → Bool :=
  c.arrayComplete maxSensors (c.elemComplete fun _ _ _ _ => true) (valueElem (c.parseSensorsElem runtime))

/-- The array of context signals. -/
def contextSignalsComplete (runtime : Bool) : Bytes → Int → LoadState → Bool :=
  c.arrayComplete maxContextSignals (c.elemComplete fun _ _ _ _ => true)
    (valueElem (c.parseContextSignalsElem runtime))

/-- The array of actuators, each with its sections. -/
def actuatorsComplete (runtime : Bool) : Bytes → Int → LoadState → Bool :=
  c.arrayComplete maxActuators
    (c.elemComplete fun j path t st =>
      c.actuatorComplete runtime path t (st.cfg.actuators.slot j) (st.statePwmLens.slot j))
    (valueElem (c.parseActuatorsElem runtime))

/-- The array of zones, each with its sections. -/
def zonesComplete : Bytes → Int → LoadState → Bool :=
  c.arrayComplete maxZones (c.elemComplete fun j path t st => c.zoneComplete st.cfg path t (st.cfg.zones.slot j))
    (valueElem c.parseZonesElem)

/-- The array of modifiers, each with its sections. -/
def policyModifiersComplete : Bytes → Int → LoadState → Bool :=
  c.arrayComplete maxModifiers
    (c.elemComplete fun j path t st => c.modifierComplete st.cfg path t (st.cfg.modifiers.slot j))
    (valueElem c.parsePolicyModifiersElem)

/-! ## Passes -/

/-- The sections that pass A walks into. -/
def passANeeds (runtime : Bool) : List (ValueNeeds LoadState) :=
  [⟨"sensors", c.sensorsComplete runtime⟩, ⟨"context_signals", c.contextSignalsComplete runtime⟩,
    ⟨"actuators", c.actuatorsComplete runtime⟩]

/-- A member of the top-level object in pass A. -/
def passAMemberComplete (runtime : Bool) (k : Int) (st : LoadState) : Bool :=
  match c.tokView k with
  | .string key =>
      match findTokenArm (c.passAArms runtime) key with
      | some arm => c.valueComplete (c.passANeeds runtime) arm.key key k st
      | none => true
  | _ => true

/-- `pass_a_top_level`, when the root token is an object. -/
def passAComplete (runtime : Bool) (st : LoadState) : Bool :=
  if (c.toks 0).type ≠ .object then true
  else c.keysComplete (c.passAMemberComplete runtime) (c.passAMember runtime) (c.toks 0).size.toNat 1 st

/-- The sections that pass B walks into. -/
def passBNeeds (runtime : Bool) : List (ValueNeeds LoadState) :=
  [⟨"zones", c.zonesComplete⟩, ⟨"policy_modifiers", c.policyModifiersComplete⟩,
    ⟨"fault_detection", fun path t st => c.faultDetectionComplete st.cfg path t st.cfg.faults⟩,
    ⟨"telemetry", fun path t st => c.telemetryComplete runtime st.cfg path t st.cfg.telemetry⟩,
    leafNeeds LoadState "control", leafNeeds LoadState "hil"]

/-- `pass_b_top_level`. -/
def passBComplete (runtime : Bool) (st : LoadState) : Bool :=
  c.keysComplete (c.memberComplete (c.passBNeeds runtime) (c.passBArms runtime) fun key => key)
    (c.passBMember runtime) (c.toks 0).size.toNat 1 (st, [])

/-- Wherever the walks of both passes read a token without `tok_in_range`, one was
parsed. -/
def complete (runtime : Bool) : Bool :=
  c.passAComplete runtime loadStateZeroed &&
    (c.passATopLevel runtime loadStateZeroed).andThen fun st => c.passBComplete runtime st

/-! ## Two arrays with the same tokens -/

/-- Two token arrays that agree on the parsed tokens. -/
structure SameTokens (c d : ParseCtx) : Prop where
  json : c.json = d.json
  nToks : c.nToks = d.nToks
  nonneg : 0 ≤ d.nToks
  toks : ∀ i, 0 ≤ i → i < d.nToks → c.toks i = d.toks i

/-- The test `ok` tells whether the scan `x` has a token wherever it announces one; and
`x` then does what `y` does. -/
abbrev Follows (ok : Bool) (x y : Scan α) : Prop := Logged.Follows (TokenEvent.Met c.nToks) ok x y

/-- A parser of objects or arrays, on a token that is there. -/
abbrev FollowsAt (complete : Bytes → Int → σ → Bool) (parse parse' : Bytes → Int → σ → Scan σ) : Prop :=
  ∀ path t st, 0 ≤ t → t < c.nToks → c.Follows (complete path t st) (parse path t st) (parse' path t st)

/-- An arm of an object loop. -/
abbrev FollowsArm (needs : List (ValueNeeds σ)) (arm arm' : TokenArm σ) : Prop :=
  arm.key = arm'.key ∧ ∀ path k st, 0 ≤ k →
    c.Follows (c.valueComplete needs arm'.key path k st) (arm.parse path k st) (arm'.parse path k st)

/-- Two tables of keys, arm by arm. -/
abbrev FollowsArms (needs : List (ValueNeeds σ)) (arms arms' : List (TokenArm σ)) : Prop :=
  List.Forall₂ (c.FollowsArm needs) arms arms'

/-- An element parser, as the array loops call it. -/
abbrev FollowsElem (complete : Nat → Bytes → Int → σ → Bool) (elem elem' : Nat → Bytes → Int → σ → Scan σ) :
    Prop :=
  ∀ j path a st, 0 ≤ a → c.Follows (complete j path a st) (elem j path a st) (elem' j path a st)

/-- The values of a table that are objects and arrays themselves, with what they need. -/
inductive Nested : List (TokenArm σ) → List (TokenArm σ) → List (ValueNeeds σ) → Prop
  | nil : Nested [] [] []
  | cons {parsers parsers' needs complete parse parse'} (key : String) (h : c.FollowsAt complete parse parse')
      (rest : Nested parsers parsers' needs) :
      Nested (valueArm key parse :: parsers) (valueArm key parse' :: parsers') (⟨key, complete⟩ :: needs)

section sameTokens

variable {c} {d : ParseCtx} {ok : Bool}

/-- `skip_token_n` looks at parsed tokens only. -/
theorem SameTokens.skipTokenN (h : c.SameTokens d) (fuel : Nat) :
    ThermalCore.skipTokenN c.toks c.nToks fuel = ThermalCore.skipTokenN d.toks d.nToks fuel := by
  rw [h.nToks]
  exact skipTokenN_congr h.toks fuel

/-- `skip_token` looks at parsed tokens only. -/
theorem SameTokens.skipToken (h : c.SameTokens d) (idx : Int) : c.skipToken idx = d.skipToken idx := by
  unfold ParseCtx.skipToken skipFuel
  rw [h.skipTokenN, h.nToks, skipReads_congr h.toks]

/-- The accessors look at parsed tokens only: they test `tok_in_range`. -/
theorem SameTokens.tokView (h : c.SameTokens d) (t : Int) : c.tokView t = d.tokView t := by
  unfold ParseCtx.tokView tokInRange tokBytes
  by_cases hin : 0 ≤ t ∧ t < d.nToks
  · rw [h.nToks, h.toks t hin.1 hin.2, h.json]
  · have hout : (decide (0 ≤ t) && decide (t < d.nToks)) = false := by simpa using hin
    simp [h.nToks, hout]

/-- Viewing a token logs the same reads and gives the same. -/
theorem SameTokens.view (h : c.SameTokens d) (t : Int) : c.view t = d.view t := by
  unfold ParseCtx.view
  rw [h.nToks, h.tokView]

/-- A token read behind `tok_in_range` is the same. -/
theorem SameTokens.checkedTok (h : c.SameTokens d) (t : Int) : c.checkedTok t = d.checkedTok t := by
  unfold ParseCtx.checkedTok tokInRange
  by_cases hin : 0 ≤ t ∧ t < d.nToks
  · rw [h.nToks, h.toks t hin.1 hin.2]
  · rw [h.nToks, if_neg hin, if_neg hin]

/-! ### Rules -/

/-- The place behind a subtree is not before the array. -/
theorem behind_nonneg (hnonneg : 0 ≤ d.nToks) {j : Int} (hj : 0 ≤ j) : 0 ≤ d.behind j := by
  unfold behind
  by_cases hlt : j < d.nToks
  · obtain ⟨r, hr, hgt, -⟩ := @skipTokenN_total d.nToks d.toks d.skipFuel j hj hlt (by simp [skipFuel]; omega)
    rw [hr]
    show 0 ≤ r
    omega
  · have hend : ThermalCore.skipTokenN d.toks d.nToks d.skipFuel j = some d.nToks := by
      simp [skipFuel, ThermalCore.skipTokenN]
      omega
    rw [hend]
    exact hnonneg

/-- `skip_token` gives the place behind the subtree. -/
theorem result_skipToken (j : Int) : (d.skipToken j).result = .ok (d.behind j) := by
  unfold ParseCtx.skipToken behind
  rw [Logged.result_emitAll_bind]
  cases ThermalCore.skipTokenN d.toks d.nToks d.skipFuel j <;> rfl

/-- What reads no token is the same on both arrays. -/
theorem follows_lift (x : Load α) : d.Follows true (lift x) (lift x) := Logged.follows_ofExcept x

/-- A token seen by the accessors. -/
theorem SameTokens.view_bind (h : c.SameTokens d) (k : Int) {f g : Json → Scan α}
    (hf : d.Follows ok (f (d.tokView k)) (g (d.tokView k))) : d.Follows ok (c.view k >>= f) (d.view k >>= g) := by
  have hmet : Logged.All (TokenEvent.Met d.nToks) (d.view k) := by
    rw [ParseCtx.view]
    split_ifs
    · exact (Logged.all_emit trivial).bind fun _ _ => Logged.all_pure _
    · exact Logged.all_pure _
  exact (Logged.follows_of_eq (h.view k) hmet).bind_value (d.result_view k) hf

/-- What follows a tested token follows on both arrays. -/
theorem SameTokens.checkedTok_bind (h : c.SameTokens d) (k : Int) {f g : Option JsmnTok → Scan α}
    (hf : ∀ tok, d.Follows true (f tok) (g tok)) : d.Follows true (c.checkedTok k >>= f) (d.checkedTok k >>= g) := by
  have hmet : Logged.All (TokenEvent.Met d.nToks) (d.checkedTok k) := by
    rw [ParseCtx.checkedTok]
    by_cases hin : 0 ≤ k ∧ k < d.nToks
    · rw [if_pos hin]
      exact (Logged.all_emit trivial).bind fun _ _ => Logged.all_pure _
    · rw [if_neg hin]
      exact Logged.all_pure _
  exact (Logged.follows_of_eq (h.checkedTok k) hmet).bind_true fun tok _ => hf tok

/-- The walk goes on behind a value. -/
theorem SameTokens.skip_bind (h : c.SameTokens d) (j : Int) {f g : Int → Scan α}
    (hf : d.Follows ok (f (d.behind j)) (g (d.behind j))) :
    d.Follows ok (c.skipToken j >>= f) (d.skipToken j >>= g) := by
  have hmet : Logged.All (TokenEvent.Met d.nToks) (d.skipToken j) := by
    refine (Logged.all_emitAll ?_).bind fun _ _ => ?_
    · simp [TokenEvent.Met]
    · cases ThermalCore.skipTokenN d.toks d.nToks d.skipFuel j <;> exact Logged.all_pure _
  exact (Logged.follows_of_eq (h.skipToken j) hmet).bind_value (result_skipToken j) hf

/-- A token read as it stands, where it is there. -/
theorem SameTokens.readTok_bind (h : c.SameTokens d) {t : Int} (ht : 0 ≤ t) (hlt : t < d.nToks)
    {f g : JsmnTok → Scan α} (hf : d.Follows ok (f (d.toks t)) (g (d.toks t))) :
    d.Follows ok (c.readTok t >>= f) (d.readTok t >>= g) := by
  have hmet : Logged.All (TokenEvent.Met d.nToks) (d.readTok t) :=
    (Logged.all_emit trivial).bind fun _ _ => Logged.all_pure _
  have heq : c.readTok t = d.readTok t := by
    unfold readTok
    rw [h.toks t ht hlt]
  exact (Logged.follows_of_eq heq hmet).bind_value (d.result_readTok t) hf

/-! ### Keys -/

/-- A leaf is viewed through the accessors. -/
theorem SameTokens.leafArm (h : c.SameTokens d) (arm : Arm σ) (path : Bytes) (k : Int) (st : σ) :
    d.Follows true ((c.leafArm arm).parse path k st) ((d.leafArm arm).parse path k st) :=
  h.view_bind (k + 1) (follows_lift _)

/-- A value that is announced by its key. -/
theorem followsArm_valueArm {needs : List (ValueNeeds σ)} {complete : Bytes → Int → σ → Bool}
    {parse parse' : Bytes → Int → σ → Scan σ} {key : String}
    (hfind : (needs.find? fun n => n.key == key) = some ⟨key, complete⟩) (hparse : d.FollowsAt complete parse parse') :
    d.FollowsArm needs (valueArm key parse) (valueArm key parse') := by
  refine ⟨rfl, fun path k st hk => ?_⟩
  have hcomplete : d.valueComplete needs (valueArm key parse').key path k st =
      (decide (k + 1 < d.nToks) && complete path (k + 1) st) := by
    show (match needs.find? fun n => n.key == key with | some n => _ | none => true) = _
    rw [hfind]
  rw [hcomplete]
  exact Logged.follows_announce Iff.rfl fun hlt => hparse path (k + 1) st (by omega) hlt

/-- A value handed to a parser whose result is stored in the struct. -/
theorem FollowsAt.store {complete : σ → Bytes → Int → Bool} {parse parse' : σ → Bytes → Int → Scan τ}
    (hparse : ∀ st path t, 0 ≤ t → t < d.nToks →
      d.Follows (complete st path t) (parse st path t) (parse' st path t)) (put : σ → τ → σ) :
    d.FollowsAt (fun path t st => complete st path t)
      (fun path t st => do
        let out ← parse st path t
        pure (put st out))
      (fun path t st => do
        let out ← parse' st path t
        pure (put st out)) :=
  fun path t st ht hlt => (hparse st path t ht hlt).bind_true fun _ _ => Logged.follows_pure _

/-- A key has a section on both sides and in the list of needs, or nowhere. -/
theorem Nested.find {parsers parsers' : List (TokenArm σ)} {needs : List (ValueNeeds σ)}
    (h : d.Nested parsers parsers' needs) (key : String) :
    ((parsers.find? fun p => p.key == key) = none ∧ (parsers'.find? fun p => p.key == key) = none ∧
        (needs.find? fun n => n.key == key) = none) ∨
      ∃ complete parse parse', d.FollowsAt complete parse parse' ∧
        (parsers.find? fun p => p.key == key) = some (valueArm key parse) ∧
        (parsers'.find? fun p => p.key == key) = some (valueArm key parse') ∧
        (needs.find? fun n => n.key == key) = some ⟨key, complete⟩ := by
  induction h with
  | nil => exact .inl ⟨rfl, rfl, rfl⟩
  | @cons _ _ _ complete parse parse' key' hat _ ih =>
      by_cases heq : key' = key
      · subst heq
        exact .inr ⟨complete, parse, parse', hat, by simp [valueArm], by simp [valueArm], by simp⟩
      · simpa [valueArm, heq] using ih

/-- The table of an object parser: the values that are not nested are leaves. -/
theorem SameTokens.tokenArms (h : c.SameTokens d) {parsers parsers' : List (TokenArm σ)}
    {needs : List (ValueNeeds σ)} (hnested : d.Nested parsers parsers' needs) (arms : List (Arm σ)) :
    d.FollowsArms needs (c.tokenArms arms parsers) (d.tokenArms arms parsers') := by
  unfold ParseCtx.tokenArms
  rw [FollowsArms, List.forall₂_map_left_iff, List.forall₂_map_right_iff, List.forall₂_same]
  intro arm _
  obtain ⟨hc, hd, hnone⟩ | ⟨complete, parse, parse', hat, hc, hd, hsome⟩ := hnested.find arm.key
  · rw [hc, hd]
    refine ⟨rfl, fun path k st _ => ?_⟩
    have hleaf : d.valueComplete needs (d.leafArm arm).key path k st = true := by
      show (match needs.find? fun n => n.key == arm.key with | some n => _ | none => true) = true
      rw [hnone]
    exact hleaf ▸ h.leafArm arm path k st
  · rw [hc, hd]
    exact followsArm_valueArm hsome hat

/-- A key has its arm in both tables, or in none. -/
theorem FollowsArms.find {needs : List (ValueNeeds σ)} {arms arms' : List (TokenArm σ)}
    (h : d.FollowsArms needs arms arms') (key : Bytes) :
    (findTokenArm arms key = none ∧ findTokenArm arms' key = none) ∨
      ∃ arm arm', d.FollowsArm needs arm arm' ∧ findTokenArm arms key = some arm ∧
        findTokenArm arms' key = some arm' := by
  unfold findTokenArm
  induction h with
  | nil => exact .inl ⟨rfl, rfl⟩
  | @cons arm arm' _ _ harm _ ih =>
      by_cases hkey : (ascii arm.key == key) = true
      · have hkey' : (ascii arm'.key == key) = true := harm.1 ▸ hkey
        exact .inr ⟨arm, arm', harm, by simp only [List.find?_cons, hkey], by simp only [List.find?_cons, hkey']⟩
      · have hkey' : ¬(ascii arm'.key == key) = true := harm.1 ▸ hkey
        simpa only [List.find?_cons, Bool.not_eq_true _ |>.mp hkey, Bool.not_eq_true _ |>.mp hkey'] using ih

/-! ### Objects and arrays -/

/-- **Run**: the loop over the keys of an object. -/
theorem SameTokens.keyLoop (h : c.SameTokens d) {complete : Int → σ → Bool} {round round' : Int → σ → Scan σ}
    (hround : ∀ k st, 0 ≤ k → d.Follows (complete k st) (round k st) (round' k st)) (left : Nat) {k : Int}
    (hk : 0 ≤ k) (st : σ) :
    d.Follows (d.keysComplete complete round' left k st) (c.keyLoop round left k st) (d.keyLoop round' left k st) := by
  induction left generalizing k st with
  | zero => exact Logged.follows_pure st
  | succ left ih =>
      rw [keysComplete, ParseCtx.keyLoop, ParseCtx.keyLoop]
      exact (hround k st hk).bind fun st' _ =>
        h.skip_bind (k + 1) (ih (behind_nonneg h.nonneg (by omega)) st')

/-- A round of an object loop: the arm of its key, when it has one. -/
theorem SameTokens.memberRound (h : c.SameTokens d) {needs : List (ValueNeeds σ)} {arms arms' : List (TokenArm σ)}
    (harms : d.FollowsArms needs arms arms') (path : Bytes → Bytes) (nonString : LoadError)
    (unknown : Bytes → LoadError) (k : Int) (st : σ × List Bytes) (hk : 0 ≤ k) :
    d.Follows (d.memberComplete needs arms' path k st) (c.memberRound arms path nonString unknown k st)
      (d.memberRound arms' path nonString unknown k st) := by
  unfold memberComplete ParseCtx.memberRound
  refine h.view_bind k ?_
  cases tokStrCopy 64 (d.tokView k) with
  | none => exact follows_lift _
  | some key =>
      obtain ⟨hc, hd⟩ | ⟨arm, arm', harm, hc, hd⟩ := harms.find key
      · simp only [hc, hd]
        exact follows_lift _
      · simp only [hc, hd]
        exact (harm.2 _ k st.1 hk).bind_true fun _ _ => Logged.follows_pure _

/-- What the parsers of an object share: the type, the keys, and the tests behind them. -/
theorem SameTokens.object (h : c.SameTokens d) {needs : List (ValueNeeds σ)} {arms arms' : List (TokenArm σ)}
    (harms : d.FollowsArms needs arms arms') (path : Bytes) {t : Int} (ht : 0 ≤ t) (hlt : t < d.nToks) (st : σ)
    {f g : σ × List Bytes → Scan β} (hf : ∀ st, d.Follows true (f st) (g st)) :
    d.Follows (d.objectComplete needs arms' path t st)
      (do
        let tok ← c.readTok t
        if tok.type ≠ .object then lift (setErr .errInvalidArg path "expected object")
        else do
          let st ← c.keyLoop (c.parseMember arms path) tok.size.toNat (t + 1) (st, [])
          f st)
      (do
        let tok ← d.readTok t
        if tok.type ≠ .object then lift (setErr .errInvalidArg path "expected object")
        else do
          let st ← d.keyLoop (d.parseMember arms' path) tok.size.toNat (t + 1) (st, [])
          g st) := by
  refine h.readTok_bind ht hlt ?_
  unfold objectComplete
  by_cases htype : (d.toks t).type ≠ .object
  · simp only [if_pos htype]
    exact follows_lift _
  · simp only [if_neg htype, parseMember_eq_round]
    exact (h.keyLoop (h.memberRound harms _ _ _) _ (by omega) (st, [])).bind_true fun st _ => hf st

/-- An object's keys, one after the other. -/
theorem SameTokens.parseObject (h : c.SameTokens d) {needs : List (ValueNeeds σ)} {arms arms' : List (TokenArm σ)}
    (harms : d.FollowsArms needs arms arms') (required : List String) :
    d.FollowsAt (d.objectComplete needs arms') (c.parseObject arms required) (d.parseObject arms' required) :=
  fun path t st ht hlt => h.object harms path ht hlt st fun st => by
    split_ifs
    · exact Logged.follows_pure _
    · exact follows_lift _

/-- Where no round needs anything, the loop does not. -/
theorem keysComplete_eq_true {complete : Int → σ → Bool} {round : Int → σ → Scan σ}
    (hround : ∀ k st, complete k st = true) (left : Nat) (k : Int) (st : σ) :
    d.keysComplete complete round left k st = true := by
  induction left generalizing k st with
  | zero => rfl
  | succ left ih =>
      rw [keysComplete, hround, Bool.true_and, Logged.andThen_eq_true]
      exact fun st' _ => ih _ st'

/-- An object whose values are all leaves. -/
theorem SameTokens.parseLeaves (h : c.SameTokens d) (arms : List (Arm σ)) (required : List String) :
    d.FollowsAt (fun _ _ _ => true) (c.parseObject (c.tokenArms arms []) required)
      (d.parseObject (d.tokenArms arms []) required) := by
  intro path t st ht hlt
  have hcomplete : d.objectComplete [] (d.tokenArms arms []) path t st = true := by
    unfold objectComplete
    split_ifs
    · rfl
    · refine keysComplete_eq_true (fun k st => ?_) _ _ _
      unfold memberComplete
      repeat' split
      all_goals rfl
  exact hcomplete ▸ h.parseObject (h.tokenArms .nil arms) required path t st ht hlt

/-- **Run**: the loop over the elements of an array. -/
theorem SameTokens.parseElems (h : c.SameTokens d) {complete : Nat → Bytes → Int → σ → Bool}
    {elem elem' : Nat → Bytes → Int → σ → Scan σ} (helem : d.FollowsElem complete elem elem') (path : Bytes)
    (left j : Nat) {a : Int} (ha : 0 ≤ a) (st : σ) :
    d.Follows (d.elemsComplete complete elem' path left j a st) (c.parseElems elem path left j a st)
      (d.parseElems elem' path left j a st) := by
  induction left generalizing j a st with
  | zero => exact Logged.follows_pure st
  | succ left ih =>
      rw [elemsComplete, ParseCtx.parseElems, ParseCtx.parseElems]
      exact (helem j (elemPath path j) a st ha).bind fun st' _ =>
        h.skip_bind a (ih (j + 1) (behind_nonneg h.nonneg ha) st')

/-- An array of leaves needs no token that is not tested. -/
theorem elemsComplete_eq_true (elem : Nat → Bytes → Int → σ → Scan σ) (path : Bytes) (left j : Nat) (a : Int)
    (st : σ) : d.elemsComplete (fun _ _ _ _ => true) elem path left j a st = true := by
  induction left generalizing j a st with
  | zero => rfl
  | succ left ih =>
      rw [elemsComplete, Bool.true_and, Logged.andThen_eq_true]
      exact fun st' _ => ih _ _ st'

/-- An array's entries, one after the other, when they fit. -/
theorem SameTokens.parseArray (h : c.SameTokens d) {complete : Nat → Bytes → Int → σ → Bool}
    {elem elem' : Nat → Bytes → Int → σ → Scan σ} (helem : d.FollowsElem complete elem elem') (limit : Nat)
    (tooMany : String) (setCount : Int → σ → σ) :
    d.FollowsAt (d.arrayComplete limit complete elem') (c.parseArray limit tooMany elem setCount)
      (d.parseArray limit tooMany elem' setCount) := by
  intro path t st ht hlt
  refine h.readTok_bind ht hlt ?_
  unfold arrayComplete
  by_cases htype : (d.toks t).type ≠ .array
  · simp only [if_pos htype]
    exact follows_lift _
  · simp only [if_neg htype]
    split_ifs
    · exact follows_lift _
    · exact (h.parseElems helem path _ 0 (by omega) st).bind_true fun _ _ => Logged.follows_pure _

/-- An element that is announced by the walk over the array. -/
theorem followsElem_valueElem {complete : Nat → Bytes → Int → σ → Bool}
    {elem elem' : Nat → Bytes → Int → σ → Scan σ} (helem : ∀ j, d.FollowsAt (complete j) (elem j) (elem' j)) :
    d.FollowsElem (d.elemComplete complete) (valueElem elem) (valueElem elem') := fun j path a st ha =>
  Logged.follows_announce Iff.rfl fun hlt => helem j path a st ha hlt

/-- An entry that is viewed through the accessors. -/
theorem SameTokens.leafElem (h : c.SameTokens d) (elem : Nat → Bytes → Json → σ → Load σ) :
    d.FollowsElem (fun _ _ _ _ => true) (fun j => c.leafElem (elem j)) fun j => d.leafElem (elem j) :=
  fun _ _ a _ _ => h.view_bind a (follows_lift _)

/-- An array whose elements need nothing. -/
theorem SameTokens.parseLeafArray (h : c.SameTokens d) {elem elem' : Nat → Bytes → Int → σ → Scan σ}
    (helem : d.FollowsElem (fun _ _ _ _ => true) elem elem') (limit : Nat) (tooMany : String)
    (setCount : Int → σ → σ) :
    d.FollowsAt (fun _ _ _ => true) (c.parseArray limit tooMany elem setCount)
      (d.parseArray limit tooMany elem' setCount) := by
  intro path t st ht hlt
  have hcomplete : d.arrayComplete limit (fun _ _ _ _ => true) elem' path t st = true := by
    unfold arrayComplete
    rw [elemsComplete_eq_true, ite_self, ite_self]
  exact hcomplete ▸ h.parseArray helem limit tooMany setCount path t st ht hlt

/-- A list of leaves. -/
theorem SameTokens.parseLeafList (h : c.SameTokens d) {elem elem' : Nat → Bytes → Int → σ → Scan σ}
    (helem : d.FollowsElem (fun _ _ _ _ => true) elem elem') :
    d.FollowsAt (fun _ _ _ => true) (c.parseList elem) (d.parseList elem') := by
  intro path t st ht hlt
  refine h.readTok_bind ht hlt ?_
  by_cases htype : (d.toks t).type ≠ .array
  · simp only [if_pos htype]
    exact follows_lift _
  · simp only [if_neg htype]
    exact elemsComplete_eq_true elem' path _ 0 (t + 1) st ▸
      h.parseElems helem path _ 0 (by omega) st

/-! ### Sections -/

/-- A baseline point, tested before it is read. -/
theorem SameTokens.parseBaselinePoint (h : c.SameTokens d) :
    d.FollowsElem (fun _ _ _ _ => true) c.parseBaselinePoint d.parseBaselinePoint := by
  intro j path ck out _
  refine h.checkedTok_bind ck fun pair => ?_
  cases pair with
  | none => exact follows_lift _
  | some pair =>
      dsimp only
      split_ifs
      · exact follows_lift _
      · exact h.skip_bind _ <| h.view_bind _ <| (follows_lift _).bind_true fun _ _ =>
          h.view_bind _ <| (follows_lift _).bind_true fun _ _ => Logged.follows_pure _

/-- The keys of a fan health block. -/
theorem SameTokens.fanHealthArms (h : c.SameTokens d) :
    d.FollowsArms [leafNeeds FanHealthCfg "baseline", leafNeeds FanHealthCfg "severity_pct"] c.fanHealthArms
      d.fanHealthArms :=
  h.tokenArms
    (.cons "baseline" (h.parseLeafArray h.parseBaselinePoint _ _ _) <|
      .cons "severity_pct" (h.parseLeaves _ _) .nil) _

/-- `parse_fan_health`. -/
theorem SameTokens.parseFanHealth (h : c.SameTokens d) (path : Bytes) {t : Int} (ht : 0 ≤ t) (hlt : t < d.nToks) :
    d.Follows (d.fanHealthComplete path t) (c.parseFanHealth path t) (d.parseFanHealth path t) :=
  h.object h.fanHealthArms path ht hlt fanHealthZeroed fun st => by
    split_ifs
    · exact Logged.follows_pure _
    · exact Logged.follows_pure _
    · exact follows_lift _

/-- A point of a linearization curve. -/
theorem SameTokens.parseDutyPoint (h : c.SameTokens d) (j : Nat) :
    d.FollowsAt (fun _ _ _ => true) (c.parseDutyPoint j) (d.parseDutyPoint j) := by
  intro path pk out ht hlt
  refine h.readTok_bind ht hlt ?_
  split_ifs
  · exact follows_lift _
  · exact h.view_bind _ <| (follows_lift _).bind_true fun _ _ => h.skip_bind _ <| h.view_bind _ <|
      (follows_lift _).bind_true fun _ _ => Logged.follows_pure _

/-- `parse_duty_linearization`. -/
theorem SameTokens.parseDutyLinearization (h : c.SameTokens d) :
    d.FollowsAt d.dutyLinearizationComplete c.parseDutyLinearization d.parseDutyLinearization :=
  h.parseArray (followsElem_valueElem h.parseDutyPoint) _ _ _

/-- The keys of an actuator. -/
theorem SameTokens.actuatorArms (h : c.SameTokens d) (runtime : Bool) :
    d.FollowsArms d.actuatorNeeds (c.actuatorArms runtime) (d.actuatorArms runtime) :=
  h.tokenArms
    (.cons "state_pwm" (h.parseLeafArray (h.leafElem _) _ _ _) <|
      .cons "duty_linearization"
        (FollowsAt.store (fun (st : ActuatorLoad) path t => h.parseDutyLinearization path t st.out) _) <|
      .cons "fan_health" (FollowsAt.store (fun _ path _ ht hlt => h.parseFanHealth path ht hlt) _) .nil) _

/-- `parse_actuator`. -/
theorem SameTokens.parseActuator (h : c.SameTokens d) (runtime : Bool) (path : Bytes) {t : Int} (ht : 0 ≤ t)
    (hlt : t < d.nToks) (out : ActuatorCfg) (statePwmLen : Nat) :
    d.Follows (d.actuatorComplete runtime path t out statePwmLen) (c.parseActuator runtime path t out statePwmLen)
      (d.parseActuator runtime path t out statePwmLen) := by
  refine (h.parseObject (h.actuatorArms runtime) _ path t _ ht hlt).bind_true fun st _ => ?_
  split_ifs
  · exact follows_lift _
  · exact Logged.follows_pure _

/-- A trip of a zone. -/
theorem SameTokens.parseZoneTrip (h : c.SameTokens d) (j : Nat) :
    d.FollowsAt (fun _ _ _ => true) (c.parseZoneTrip j) (d.parseZoneTrip j) := fun path t _ ht hlt =>
  (h.parseLeaves _ _ path t _ ht hlt).bind_true fun _ _ => Logged.follows_pure _

/-- The keys of a zone. -/
theorem SameTokens.zoneArms (h : c.SameTokens d) (cfgView : Config) :
    d.FollowsArms d.zoneNeeds (c.zoneArms cfgView) (d.zoneArms cfgView) :=
  h.tokenArms
    (.cons "sensors" (h.parseLeafArray (h.leafElem _) _ _ _) <|
      .cons "sensor_weights_q16" (h.parseLeafArray (h.leafElem _) _ _ _) <|
      .cons "pid" (FollowsAt.store (fun (st : ZoneLoad) path t => h.parseLeaves _ _ path t st.out.pid) _) <|
      .cons "actuators" (h.parseLeafArray (h.leafElem _) _ _ _) <|
      .cons "trips" (h.parseArray (followsElem_valueElem h.parseZoneTrip) _ _ _) .nil) _

/-- `parse_zone`. -/
theorem SameTokens.parseZone (h : c.SameTokens d) (statePwmLens : Vector Nat maxActuators) (cfgView : Config)
    (path : Bytes) {t : Int} (ht : 0 ≤ t) (hlt : t < d.nToks) (out : ZoneCfg) :
    d.Follows (d.zoneComplete cfgView path t out) (c.parseZone statePwmLens cfgView path t out)
      (d.parseZone statePwmLens cfgView path t out) :=
  (h.parseObject (h.zoneArms cfgView) _ path t _ ht hlt).bind_true fun _ _ =>
    (follows_lift _).bind_true fun _ _ => (follows_lift _).bind_true fun _ _ => Logged.follows_pure _

/-- A point of a modifier's curve. -/
theorem SameTokens.parseCurveElem (h : c.SameTokens d) (j : Nat) :
    d.FollowsAt (fun _ _ _ => true) (c.parseCurveElem j) (d.parseCurveElem j) := fun path t _ ht hlt =>
  (h.parseLeaves _ _ path t _ ht hlt).bind_true fun _ _ => Logged.follows_pure _

/-- `parse_modifier`. -/
theorem SameTokens.parseModifier (h : c.SameTokens d) (cfgView : Config) :
    d.FollowsAt (d.modifierComplete cfgView) (c.parseModifier cfgView) (d.parseModifier cfgView) :=
  h.parseObject
    (h.tokenArms
      (.cons "stages"
          (FollowsAt.store (fun _ path t =>
            h.parseLeafList (h.leafElem _) path t 0) fun (st : ModifierCfg) mask => { st with stages := mask }) <|
        .cons "curve" (h.parseArray (followsElem_valueElem h.parseCurveElem) _ _ _) .nil) _) _

/-- `parse_fault_detector`: all its values are leaves. -/
theorem SameTokens.parseFaultDetector (h : c.SameTokens d) (kind : DetectorKind) (cfgView : Config) (path : Bytes)
    {t : Int} (ht : 0 ≤ t) (hlt : t < d.nToks) (out : FaultDetectorCfg) :
    d.Follows true (c.parseFaultDetector kind cfgView path t out) (d.parseFaultDetector kind cfgView path t out) := by
  refine (h.parseLeaves _ _ path t _ ht hlt).bind_true fun out' _ => ?_
  split_ifs
  · exact follows_lift _
  · exact Logged.follows_pure _

/-- A detector's key of `fault_detection`, by the fields it reads and writes. -/
theorem SameTokens.faultDetectionArm (h : c.SameTokens d) {needs : List (ValueNeeds FaultDetectionCfg)}
    (kind : DetectorKind) (cfgView : Config) (get : FaultDetectionCfg → FaultDetectorCfg)
    (put : FaultDetectionCfg → FaultDetectorCfg → FaultDetectionCfg) {key : String}
    (hfind : (needs.find? fun n => n.key == key) = some (leafNeeds FaultDetectionCfg key)) :
    d.FollowsArm needs
      (valueArm key fun path t out => do
        let fc ← c.parseFaultDetector kind cfgView path t (get out)
        pure (put out fc))
      (valueArm key fun path t out => do
        let fc ← d.parseFaultDetector kind cfgView path t (get out)
        pure (put out fc)) :=
  followsArm_valueArm hfind
    (FollowsAt.store (fun out path _ ht hlt => h.parseFaultDetector kind cfgView path ht hlt (get out)) put)

/-- `parse_fault_detection_object`. -/
theorem SameTokens.parseFaultDetectionObject (h : c.SameTokens d) (cfgView : Config) :
    d.FollowsAt (d.faultDetectionComplete cfgView) (c.parseFaultDetectionObject cfgView)
      (d.parseFaultDetectionObject cfgView) :=
  h.parseObject
    (.cons (h.faultDetectionArm .stall cfgView FaultDetectionCfg.stallDefaults
        (fun out fc => { out with stallDefaults := fc }) (by simp [leafNeeds])) <|
      .cons (h.faultDetectionArm .stuckSensor cfgView FaultDetectionCfg.stuckSensorDefaults
        (fun out fc => { out with stuckSensorDefaults := fc }) (by simp [leafNeeds])) <|
      .cons (h.faultDetectionArm .runaway cfgView FaultDetectionCfg.runawayDefaults
        (fun out fc => { out with runawayDefaults := fc }) (by simp [leafNeeds])) <|
      .cons (h.faultDetectionArm .staleContext cfgView FaultDetectionCfg.staleContextDefaults
        (fun out fc => { out with staleContextDefaults := fc }) (by simp [leafNeeds])) .nil) _

/-- `parse_telemetry_object`. -/
theorem SameTokens.parseTelemetryObject (h : c.SameTokens d) (runtime : Bool) (cfgView : Config) :
    d.FollowsAt (d.telemetryComplete runtime cfgView) (c.parseTelemetryObject runtime cfgView)
      (d.parseTelemetryObject runtime cfgView) :=
  h.parseObject (h.tokenArms (.cons "signals" (h.parseLeafList (h.leafElem _)) .nil) _) _

/-! ### Passes -/

/-- The array of sensors. -/
theorem SameTokens.parseSensors (h : c.SameTokens d) (runtime : Bool) :
    d.FollowsAt (d.sensorsComplete runtime) (c.parseSensors runtime) (d.parseSensors runtime) :=
  h.parseArray (followsElem_valueElem fun _ path t _ ht hlt =>
    (h.parseLeaves _ _ path t _ ht hlt).bind_true fun _ _ => Logged.follows_pure _) _ _ _

/-- The array of context signals. -/
theorem SameTokens.parseContextSignals (h : c.SameTokens d) (runtime : Bool) :
    d.FollowsAt (d.contextSignalsComplete runtime) (c.parseContextSignals runtime)
      (d.parseContextSignals runtime) :=
  h.parseArray (followsElem_valueElem fun _ path t _ ht hlt =>
    (h.parseLeaves _ _ path t _ ht hlt).bind_true fun _ _ => Logged.follows_pure _) _ _ _

/-- The array of actuators. -/
theorem SameTokens.parseActuators (h : c.SameTokens d) (runtime : Bool) :
    d.FollowsAt (d.actuatorsComplete runtime) (c.parseActuators runtime) (d.parseActuators runtime) :=
  h.parseArray (followsElem_valueElem fun _ path _ _ ht hlt =>
    (h.parseActuator runtime path ht hlt _ _).bind_true fun _ _ => Logged.follows_pure _) _ _ _

/-- The keys of pass A. -/
theorem SameTokens.passAArms (h : c.SameTokens d) (runtime : Bool) :
    d.FollowsArms (d.passANeeds runtime) (c.passAArms runtime) (d.passAArms runtime) :=
  .cons (followsArm_valueArm (by simp [passANeeds]) (h.parseSensors runtime)) <|
    .cons (followsArm_valueArm (by simp [passANeeds]) (h.parseContextSignals runtime)) <|
    .cons (followsArm_valueArm (by simp [passANeeds]) (h.parseActuators runtime)) .nil

/-- A member of the top-level object in pass A. -/
theorem SameTokens.passAMember (h : c.SameTokens d) (runtime : Bool) (k : Int) (st : LoadState) (hk : 0 ≤ k) :
    d.Follows (d.passAMemberComplete runtime k st) (c.passAMember runtime k st) (d.passAMember runtime k st) := by
  unfold passAMemberComplete ParseCtx.passAMember
  refine h.view_bind k ?_
  cases d.tokView k with
  | string key =>
      obtain ⟨hc, hd⟩ | ⟨arm, arm', harm, hc, hd⟩ := (h.passAArms runtime).find key
      · simp only [hc, hd]
        exact Logged.follows_pure _
      · simp only [hc, hd]
        exact harm.2 key k st hk
  | object ms => exact Logged.follows_pure _
  | array vs => exact Logged.follows_pure _
  | primitive bytes => exact Logged.follows_pure _

/-- Pass A: a root that is no object is refused at once. -/
theorem SameTokens.passATopLevel (h : c.SameTokens d) (hpos : 0 < d.nToks) (runtime : Bool) (st : LoadState) :
    d.Follows (d.passAComplete runtime st) (c.passATopLevel runtime st) (d.passATopLevel runtime st) := by
  refine h.readTok_bind (Int.le_refl 0) hpos ?_
  unfold passAComplete
  by_cases htype : (d.toks 0).type ≠ .object
  · simp only [if_pos htype]
    exact follows_lift _
  · simp only [if_neg htype]
    exact h.keyLoop (h.passAMember runtime) _ (by omega) st

/-- The array of zones. -/
theorem SameTokens.parseZones (h : c.SameTokens d) : d.FollowsAt d.zonesComplete c.parseZones d.parseZones :=
  h.parseArray (followsElem_valueElem fun _ path _ _ ht hlt =>
    (h.parseZone _ _ path ht hlt _).bind_true fun _ _ => Logged.follows_pure _) _ _ _

/-- The array of modifiers. -/
theorem SameTokens.parsePolicyModifiers (h : c.SameTokens d) :
    d.FollowsAt d.policyModifiersComplete c.parsePolicyModifiers d.parsePolicyModifiers :=
  h.parseArray (followsElem_valueElem fun _ path t st ht hlt =>
    (h.parseModifier st.cfg path t _ ht hlt).bind_true fun _ _ => Logged.follows_pure _) _ _ _

/-- The keys of pass B. -/
theorem SameTokens.passBArms (h : c.SameTokens d) (runtime : Bool) :
    d.FollowsArms (d.passBNeeds runtime) (c.passBArms runtime) (d.passBArms runtime) :=
  h.tokenArms
    (.cons "zones" h.parseZones <|
      .cons "policy_modifiers" h.parsePolicyModifiers <|
      .cons "fault_detection"
        (FollowsAt.store (fun (st : LoadState) path t => h.parseFaultDetectionObject st.cfg path t st.cfg.faults) _) <|
      .cons "telemetry"
        (FollowsAt.store
          (fun (st : LoadState) path t => h.parseTelemetryObject runtime st.cfg path t st.cfg.telemetry) _) <|
      .cons "control" (FollowsAt.store (fun _ path t => h.parseLeaves _ _ path t ()) fun st _ => st) <|
      .cons "hil" (FollowsAt.store (fun _ path t => h.parseLeaves _ _ path t ()) fun st _ => st) .nil) _

/-- A member of the top-level object in pass B. -/
theorem SameTokens.passBMember (h : c.SameTokens d) (runtime : Bool) (k : Int) (st : LoadState × List Bytes)
    (hk : 0 ≤ k) :
    d.Follows (d.memberComplete (d.passBNeeds runtime) (d.passBArms runtime) (fun key => key) k st)
      (c.passBMember runtime k st) (d.passBMember runtime k st) := by
  rw [passBMember_eq_round, passBMember_eq_round]
  exact h.memberRound (h.passBArms runtime) _ _ _ k st hk

/-- Pass B. -/
theorem SameTokens.passBTopLevel (h : c.SameTokens d) (hpos : 0 < d.nToks) (runtime : Bool) (st : LoadState) :
    d.Follows (d.passBComplete runtime st) (c.passBTopLevel runtime st) (d.passBTopLevel runtime st) := by
  refine h.readTok_bind (Int.le_refl 0) hpos ?_
  refine (h.keyLoop (h.passBMember runtime) _ (by omega) (st, [])).bind_true fun st _ => ?_
  split_ifs
  · exact follows_lift _
  · exact follows_lift _
  · exact Logged.follows_pure _

/-- **Run**: both passes, on two token arrays with the same tokens. -/
theorem SameTokens.loadConfig (h : c.SameTokens d) (hpos : 0 < d.nToks) (runtime : Bool) :
    d.Follows (d.complete runtime) (c.loadConfig runtime) (d.loadConfig runtime) :=
  (h.passATopLevel hpos runtime loadStateZeroed).bind fun st _ =>
    (h.passBTopLevel hpos runtime st).bind_true fun _ _ => follows_lift _

end sameTokens

end ParseCtx

/-! ## Texts -/

/-- The tokens of a text are complete.  What the token array held before plays no part:
it is 0 here. -/
def tokensComplete (runtime : Bool) (json : Bytes) : Bool :=
  if (json.length : Int) > i32Max then true
  else
    match jsmnParse json jsmnMaxTokens with
    | .error _ => true
    | .ok (nToks, tokens) =>
        if nToks < 1 then true
        else
          { json := json, toks := tokenArray tokens fun _ => default, nToks := nToks : ParseCtx }.complete runtime

/-- A key that is not one of the loader's needs no value. -/
example : tokensComplete true (ascii "\x7b\"unknown\"\x7d") = true := by decide

/-- What the token array held before does not touch the parsed tokens. -/
theorem sameTokens_tokenArray {json : Bytes} {tokens : List JsmnTok} {nToks : Nat} (hlength : tokens.length = nToks)
    (stack stack' : Int → JsmnTok) :
    ParseCtx.SameTokens ⟨json, tokenArray tokens stack, nToks⟩ ⟨json, tokenArray tokens stack', nToks⟩ where
  json := rfl
  nToks := rfl
  nonneg := Int.natCast_nonneg nToks
  toks i hi hlt := by
    have hin : i.toNat < tokens.length := by
      have hlt : i < nToks := hlt
      omega
    simp [tokenArray, Int.not_lt.mpr hi, List.getD_eq_getElem?_getD, List.getElem?_eq_getElem hin]

/-- **Run**: the test tells whether the loader finds a token wherever it announces one,
and it then ends as it does on a token array that held 0. -/
theorem thermalConfigJsmnScan_follows (runtime : Bool) (stack : Int → JsmnTok) (json : Bytes) :
    Logged.Follows (TokenEvent.Met (parsedTokens json)) (tokensComplete runtime json)
      (thermalConfigJsmnScan runtime stack json) (thermalConfigJsmnScan runtime (fun _ => default) json) := by
  unfold thermalConfigJsmnScan tokensComplete parsedTokens
  by_cases hlong : (json.length : Int) > i32Max
  · simp only [if_pos hlong]
    exact Logged.follows_ofExcept _
  · simp only [if_neg hlong]
    cases hparse : jsmnParse json jsmnMaxTokens with
    | error e => cases e <;> exact Logged.follows_ofExcept _
    | ok parsed =>
        obtain ⟨nToks, tokens⟩ := parsed
        dsimp only
        split_ifs with hempty
        · exact Logged.follows_ofExcept _
        · exact (sameTokens_tokenArray (jsmnParse_count hparse).symm stack fun _ => default).loadConfig
            (show (0 : Int) < nToks by omega) runtime

/-- On complete tokens the loader ends alike, whatever the token array held before. -/
theorem thermalConfigJsmnScan_stack {runtime : Bool} {json : Bytes} (h : tokensComplete runtime json = true)
    (stack stack' : Int → JsmnTok) :
    thermalConfigJsmnScan runtime stack json = thermalConfigJsmnScan runtime stack' json :=
  ((thermalConfigJsmnScan_follows runtime stack json).same h).trans
    ((thermalConfigJsmnScan_follows runtime stack' json).same h).symm

/-- The tokens of a document are complete. -/
theorem tokensComplete_of_listing {nToks : Nat} {tokens : List JsmnTok} {root : Json} {json : Bytes}
    (hparse : jsmnParse json jsmnMaxTokens = .ok (nToks, tokens))
    (hlisting : tokens.map (fun t => (t.type, t.size)) = root.listing.map fun e => (e.1, e.2.1)) (runtime : Bool) :
    tokensComplete runtime json = true :=
  (thermalConfigJsmnScan_follows runtime (fun _ => default) json).all_iff.mp
    (thermalConfigJsmnScan_of_listing hparse hlisting runtime _)

end ThermalCore
