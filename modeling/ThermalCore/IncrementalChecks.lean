import ThermalCore.ShadowConfig

/-!
# The incremental tests of the command handlers

Each tuning command tests the edited value against its neighbours, its bounds
and the objects that refer to it, and leaves the rest of the configuration
alone.  Given that the runtime values passed the validator's tests before, the
handler's test holds exactly when they pass them after the edit.

One statement serves trips, setpoints and curve points: a list that was in order stays
so after an edit exactly when the edited entry fits between its neighbours.  The tests
against the modifier's offsets are the same quantifiers on both sides.
-/

namespace ThermalCore

open MachineInt Check

section edits

variable {cfg : Config} {core : Core}

/-! ## Edits of one zone -/

/-- After an edit of one zone the tests that can fail are that zone's own and
those of every trip offset in it. -/
theorem runtimeRules_editZone_iff (hr : ConfigRules cfg) (h : RuntimeRules cfg core) {z : Nat}
    (hz : z < cfg.zoneCount) (f : ZoneRuntime → ZoneRuntime) :
    RuntimeRules cfg { core with zones := core.zones.edit z f } ↔
      ZoneTuning (cfg.zones.slot z) (f (core.zones.slot z)).shadowPid
        (f (core.zones.slot z)).shadowTrips ∧
      ∀ m < cfg.modifierCount,
        (core.modifiers.slot m).shadow.hasStage .preGovernorTripOffset = true →
        ∀ p < (core.modifiers.slot m).shadow.curveCount,
          OffsetFits (cfg.zones.slot z) (f (core.zones.slot z)).shadowTrips
            (f (core.zones.slot z)).shadowPid.setpointMc
            ((core.modifiers.slot m).shadow.curve.slot p).value1 := by
  have hzn : z < maxZones := Nat.lt_of_lt_of_le hz hr.zoneCount_le
  have hself : (core.zones.edit z f).slot z = f (core.zones.slot z) := Vector.slot_edit_self _ _ hzn
  have hother {i : Nat} (hi : i ≠ z) : (core.zones.edit z f).slot i = core.zones.slot i :=
    Vector.slot_edit_ne _ _ hi.symm
  constructor
  · intro hnew
    have hzone := hnew.zones z hz
    dsimp only at hzone
    rw [hself] at hzone
    refine ⟨hzone, fun m hm hstage p hp => ?_⟩
    have hfits := ((hnew.curves m hm).points p hp).2 hstage z hz
    dsimp only at hfits
    rw [hself] at hfits
    exact hfits
  · intro ⟨hzone, hoffsets⟩
    constructor
    · intro i hi
      dsimp only
      by_cases hiz : i = z
      · subst hiz
        rw [hself]
        exact hzone
      · rw [hother hiz]
        exact h.zones i hi
    · intro m hm
      have hcurve := h.curves m hm
      refine ⟨hcurve.ascending, fun p hp => ⟨(hcurve.points p hp).1, fun hstage i hi => ?_⟩⟩
      dsimp only
      by_cases hiz : i = z
      · subst hiz
        rw [hself]
        exact hoffsets m hm hstage p hp
      · rw [hother hiz]
        exact (hcurve.points p hp).2 hstage i hi

theorem pidZone_iff {z : Nat} :
    pidZone cfg z = true ↔ z < cfg.zoneCount ∧ governorOpsFor (cfg.zones.slot z).governor = some .pid := by
  unfold pidZone
  rw [Bool.and_eq_true, decide_eq_true_eq]
  apply and_congr_right
  intro _
  cases hops : governorOpsFor (cfg.zones.slot z).governor with
  | none => simp
  | some ops => cases ops <;> simp [Governor.supportsPidCommands]

/-- SET_PID. -/
theorem runtimeRules_withGains_iff (hr : ConfigRules cfg) (h : RuntimeRules cfg core) {z : Nat}
    (hz : pidZone cfg z = true) (kp ki kd : Int) :
    RuntimeRules cfg { core with zones := core.zones.edit z fun zr => zr.withGains kp ki kd } ↔
      gainsInBounds (cfg.zones.slot z).pid kp ki kd = true := by
  obtain ⟨hzc, hops⟩ := pidZone_iff.mp hz
  have hold := h.zones z hzc
  rw [runtimeRules_editZone_iff hr h hzc]
  constructor
  · intro hnew
    exact hnew.1.gains hops
  · intro hgains
    exact ⟨⟨fun _ => hgains, hold.setpoint, hold.ascending, hold.fallback⟩,
      fun m hm hstage p hp => ((h.curves m hm).points p hp).2 hstage z hzc⟩

/-- SET_SETPOINT. -/
theorem runtimeRules_withSetpoint_iff (hr : ConfigRules cfg) (h : RuntimeRules cfg core) {z : Nat}
    (hz : pidZone cfg z = true) (sp : Int) :
    RuntimeRules cfg { core with zones := core.zones.edit z fun zr => zr.withSetpoint sp } ↔
      ((cfg.zones.slot z).pid.setpointMinMc ≤ sp ∧ sp ≤ (cfg.zones.slot z).pid.setpointMaxMc) ∧
        runtimeSetpointWithModifierOffsetsValid cfg core z sp = true := by
  obtain ⟨hzc, hops⟩ := pidZone_iff.mp hz
  have hold := h.zones z hzc
  rw [runtimeRules_editZone_iff hr h hzc]
  unfold runtimeSetpointWithModifierOffsetsValid
  rw [allOffsetPoints_iff]
  simp only [decide_eq_true_eq]
  constructor
  · intro ⟨hzone, hoffsets⟩
    exact ⟨hzone.setpoint hops,
      fun m hm hstage p hp => (hoffsets m hm hstage p hp).setpoint hops⟩
  · intro ⟨hbounds, hoffsets⟩
    refine ⟨⟨hold.gains, fun _ => hbounds, hold.ascending, hold.fallback⟩, fun m hm hstage p hp => ?_⟩
    have hfits := ((h.curves m hm).points p hp).2 hstage z hzc
    exact ⟨hfits.trips, fun _ => hoffsets m hm hstage p hp⟩

/-- SET_TRIP. -/
theorem runtimeRules_withTrip_iff (hr : ConfigRules cfg) (h : RuntimeRules cfg core) {z t : Nat}
    (hz : z < cfg.zoneCount) (ht : t < (cfg.zones.slot z).tripCount) {temp hyst : Int}
    (hhyst : 0 ≤ hyst) :
    RuntimeRules cfg { core with zones := core.zones.edit z fun zr => zr.withTrip t temp hyst } ↔
      tripAcceptable cfg core z t temp hyst = true := by
  have hold := h.zones z hz
  have hneighbours := Vector.neighbours_put_iff
    (R := fun a b : TripCfg => a.tempMc < b.tempMc ∧ a.tempMc ≤ b.tempMc - b.hystMc)
    (((core.zones.slot z).shadowTrips.slot t).withTemp temp hyst) (hr.zone hz).tripCount ht
    hold.ascending
  rw [runtimeRules_editZone_iff hr h hz]
  unfold tripAcceptable runtimeTripsWithModifierOffsetsValid
  dsimp only
  simp only [Bool.and_eq_true, Bool.or_eq_true, decide_eq_true_eq, allOffsetPoints_iff]
  constructor
  · intro ⟨hzone, hoffsets⟩
    obtain ⟨hprev, hnext⟩ := hneighbours.mp hzone.ascending
    refine ⟨⟨⟨⟨hhyst, ?_⟩, ?_⟩, hzone.fallback⟩,
      fun m hm hstage p hp => (hoffsets m hm hstage p hp).trips⟩
    · exact hprev.imp_right fun hlt => hlt
    · exact hnext.imp_right fun hlt => hlt
  · intro ⟨⟨⟨⟨_, hprev⟩, hnext⟩, hfallback⟩, hoffsets⟩
    have hascending := hneighbours.mpr ⟨hprev.imp_right fun hlt => hlt, hnext.imp_right fun hlt => hlt⟩
    refine ⟨⟨hold.gains, hold.setpoint, hascending, hfallback⟩, fun m hm hstage p hp => ?_⟩
    have hfits := ((h.curves m hm).points p hp).2 hstage z hz
    exact ⟨hoffsets m hm hstage p hp, hfits.setpoint⟩

/-! ## Edits of one curve -/

/-- SET_CURVE_POINT. -/
theorem runtimeRules_withPoint_iff (hr : ConfigRules cfg) (hinv : ShadowInv cfg core)
    (h : RuntimeRules cfg core) {m p : Nat} (hm : m < cfg.modifierCount)
    (hp : p < (cfg.modifiers.slot m).curveCount) (pt : CurvePoint) :
    RuntimeRules cfg { core with
        modifiers := core.modifiers.edit m fun mr => { mr with shadow := mr.shadow.withPoint p pt } } ↔
      pointAcceptable cfg core m p pt = true := by
  have hmn : m < maxModifiers :=
    Nat.lt_of_lt_of_le hm ((validateCounts_iff cfg).mp hr.counts).modifiers
  have hself : ((core.modifiers.edit m fun mr => { mr with shadow := mr.shadow.withPoint p pt }).slot
      m).shadow = (core.modifiers.slot m).shadow.withPoint p pt :=
    congrArg ModifierRuntime.shadow (Vector.slot_edit_self _ _ hmn)
  have hother {i : Nat} (hi : i ≠ m) :
      (core.modifiers.edit m fun mr => { mr with shadow := mr.shadow.withPoint p pt }).slot i =
        core.modifiers.slot i :=
    Vector.slot_edit_ne _ _ hi.symm
  have hcount : (core.modifiers.slot m).shadow.curveCount = (cfg.modifiers.slot m).curveCount := by
    rw [(hinv.modifiers m hm).others]
  have hmax : (core.modifiers.slot m).shadow.curveCount ≤ maxCurvePoints := by
    rw [hcount]
    exact ((validateModifiers_iff cfg).mp hr.modifiers m hm).1.2.2.1.2
  have hneighbours := Vector.neighbours_put_iff (R := fun a b : CurvePoint => a.x < b.x) pt hmax
    (hcount ▸ hp) (h.curves m hm).ascending
  unfold pointAcceptable modifierCurveValuesValidRuntime
  dsimp only
  simp only [Bool.and_eq_true, Bool.or_eq_true, decide_eq_true_eq, curvePointsValid_iff]
  rw [← hcount]
  constructor
  · intro hnew
    have hcurve := hnew.curves m hm
    dsimp only at hcurve
    rw [hself] at hcurve
    obtain ⟨hprev, hnext⟩ := hneighbours.mp hcurve.ascending
    exact ⟨⟨hprev, hnext⟩, hcurve.points⟩
  · intro ⟨⟨hprev, hnext⟩, hpoints⟩
    refine ⟨h.zones, fun i hi => ?_⟩
    dsimp only
    by_cases him : i = m
    · subst him
      rw [hself]
      exact ⟨hneighbours.mpr ⟨hprev, hnext⟩, hpoints⟩
    · rw [hother him]
      exact h.curves i hi

/-! ## The rules along a run -/

/-- Only the shadows matter. -/
theorem RuntimeRules.of_shadows {core' : Core} (h : RuntimeRules cfg core)
    (hpid : ∀ z < cfg.zoneCount, (core'.zones.slot z).shadowPid = (core.zones.slot z).shadowPid)
    (htrips : ∀ z < cfg.zoneCount, (core'.zones.slot z).shadowTrips = (core.zones.slot z).shadowTrips)
    (hmods : ∀ m < cfg.modifierCount,
      (core'.modifiers.slot m).shadow = (core.modifiers.slot m).shadow) :
    RuntimeRules cfg core' := by
  constructor
  · intro z hz
    rw [hpid z hz, htrips z hz]
    exact h.zones z hz
  · intro m hm
    have hcurve := h.curves m hm
    rw [hmods m hm]
    refine ⟨hcurve.ascending, fun p hp => ⟨(hcurve.points p hp).1, fun hstage z hz => ?_⟩⟩
    dsimp only
    rw [hpid z hz, htrips z hz]
    exact (hcurve.points p hp).2 hstage z hz

/-- Nothing is tuned at the start. -/
theorem substConfig_initCore (hr : ConfigRules cfg) : substConfig cfg (initCore cfg) = cfg := by
  have hzones : (substConfig cfg (initCore cfg)).zones = cfg.zones := by
    refine Vector.ext_slot fun z _ => ?_
    by_cases hz : z < cfg.zoneCount
    · have hinit : (initCore cfg).zones.slot z = initZone cfg (cfg.zones.slot z) :=
        Vector.slot_forSlots_lt _ _ hr.zoneCount_le hz
      have htrips : (substZone (cfg.zones.slot z) (initZone cfg (cfg.zones.slot z))).trips =
          (cfg.zones.slot z).trips := by
        refine Vector.ext_slot fun t _ => ?_
        by_cases ht : t < (cfg.zones.slot z).tripCount
        · have hslot : (initZone cfg (cfg.zones.slot z)).shadowTrips.slot t =
              (cfg.zones.slot z).trips.slot t :=
            Vector.slot_forSlots_lt _ _ (hr.zone hz).tripCount ht
          rw [substZone_trip (initZone_shadowInv (hr.zone hz)) (hr.zone hz).tripCount ht, hslot]
        · exact Vector.slot_forSlots_ge _ _ (Nat.le_of_not_lt ht)
      have hzone : substZone (cfg.zones.slot z) (initZone cfg (cfg.zones.slot z)) =
          { cfg.zones.slot z with
            trips := (substZone (cfg.zones.slot z) (initZone cfg (cfg.zones.slot z))).trips } := rfl
      rw [substConfig_zone hr hz, hinit, hzone, htrips]
    · exact Vector.slot_forSlots_ge _ _ (Nat.le_of_not_lt hz)
  have hmods : (substConfig cfg (initCore cfg)).modifiers = cfg.modifiers := by
    refine Vector.ext_slot fun m _ => ?_
    by_cases hm : m < cfg.modifierCount
    · rw [substConfig_modifier hr (initCore_shadowInv hr) hm]
      have hinit : (initCore cfg).modifiers.slot m = _ :=
        Vector.slot_forSlots_lt _ _ ((validateCounts_iff cfg).mp hr.counts).modifiers hm
      rw [hinit]
    · exact Vector.slot_forSlots_ge _ _ (Nat.le_of_not_lt hm)
  have hsame : substConfig cfg (initCore cfg) =
      { cfg with
        zones := (substConfig cfg (initCore cfg)).zones
        modifiers := (substConfig cfg (initCore cfg)).modifiers } := rfl
  rw [hsame, hzones, hmods]

/-- The write of an accepted command keeps the rules: its handler tested it. -/
theorem CommandWrite.runtimeRules {cmd : Command} {core' : Core} (hr : ConfigRules cfg)
    (hinv : ShadowInv cfg core) (h : RuntimeRules cfg core)
    (hw : CommandWrite cfg core cmd core') : RuntimeRules cfg core' := by
  cases hw with
  | setPid z kp ki kd hz hgains => exact (runtimeRules_withGains_iff hr h hz kp ki kd).mpr hgains
  | setSetpoint z sp hz hbounds hoffsets =>
      exact (runtimeRules_withSetpoint_iff hr h hz sp).mpr ⟨hbounds, hoffsets⟩
  | setTrip z t temp hyst hz ht htrip =>
      have hhyst : 0 ≤ hyst := by
        unfold tripAcceptable at htrip
        simp only [Bool.and_eq_true, decide_eq_true_eq] at htrip
        exact htrip.1.1.1.1
      exact (runtimeRules_withTrip_iff hr h hz ht hhyst).mpr htrip
  | setCurvePoint m p x v0 v1 hm hp hpoint =>
      exact (runtimeRules_withPoint_iff hr hinv h hm hp ⟨x, v0, v1⟩).mpr hpoint
  | clearNothing => exact h
  | clearStall | clearStuckSensor | clearRunaway | clearStaleContext =>
      exact h.of_shadows (fun _ _ => rfl) (fun _ _ => rfl) fun _ _ => rfl

theorem reachable_runtimeRules {cb : Callbacks} (hr : ConfigRules cfg) (h : Reachable cfg cb core) :
    RuntimeRules cfg core := by
  have hboth : ShadowInv cfg core ∧ RuntimeRules cfg core := by
    refine h.induct (P := fun c => ShadowInv cfg c ∧ RuntimeRules cfg c) ?_ ?_ ?_
    · refine ⟨initCore_shadowInv hr, (accepted_substConfig_iff hr (initCore_shadowInv hr)).mp ?_⟩
      rw [substConfig_initCore hr]
      exact (accepted_iff cfg).mpr hr
    · intro c inp _ ⟨hinv, hrules⟩
      refine ⟨passDone_shadowInv hr hinv, hrules.of_shadows ?_ ?_ ?_⟩
      · intro z hz
        rw [slot_passDone_zones hr hz]
        exact (zoneStep_shadow ..).shadowPid
      · intro z hz
        rw [slot_passDone_zones hr hz]
        exact (zoneStep_shadow ..).shadowTrips
      · intro m _
        rw [passDone_modifiers, senseCore_shadow]
    · intro c cmd ⟨hinv, hrules⟩
      obtain ⟨-, hrej⟩ | ⟨-, hw⟩ := runCommand_cases cfg c cmd
      · rw [hrej]
        exact ⟨hinv, hrules⟩
      · exact ⟨hw.shadowInv hinv, hw.runtimeRules hr hinv hrules⟩
  exact hboth.2

/-! ## Exactness -/

/-- The core after a tuning command's edit, made without any test. -/
def Command.edit (core : Core) : Command → Core
  | .setPid z kp ki kd => { core with zones := core.zones.edit z fun zr => zr.withGains kp ki kd }
  | .setSetpoint z sp => { core with zones := core.zones.edit z fun zr => zr.withSetpoint sp }
  | .setTrip z t temp hyst =>
      { core with zones := core.zones.edit z fun zr => zr.withTrip t temp hyst }
  | .setCurvePoint m p x v0 v1 =>
      { core with modifiers := core.modifiers.edit m fun mr =>
          { mr with shadow := mr.shadow.withPoint p ⟨x, v0, v1⟩ } }
  | .clearFault _ _ => core
  | .unknown _ => core

/-- A tuning command that names an existing target of the right kind, a trip with
a hysteresis that is not negative. -/
def Command.Tunes (cfg : Config) : Command → Prop
  | .setPid z _ _ _ => pidZone cfg z = true
  | .setSetpoint z _ => pidZone cfg z = true
  | .setTrip z t _ hyst => z < cfg.zoneCount ∧ t < (cfg.zones.slot z).tripCount ∧ 0 ≤ hyst
  | .setCurvePoint m p _ _ _ => m < cfg.modifierCount ∧ p < (cfg.modifiers.slot m).curveCount
  | .clearFault _ _ => False
  | .unknown _ => False

/-- The edit of a tuning command keeps the shadow invariant, accepted or not. -/
theorem Command.Tunes.shadowInv {cmd : Command} (htunes : cmd.Tunes cfg) (h : ShadowInv cfg core) :
    ShadowInv cfg (cmd.edit core) := by
  cases cmd with
  | setPid z kp ki kd => exact h.editZone z _ fun zr hz => withGains_shadowInv hz kp ki kd
  | setSetpoint z sp => exact h.editZone z _ fun zr hz => withSetpoint_shadowInv hz sp
  | setTrip z t temp hyst => exact h.editZone z _ fun zr hz => withTrip_shadowInv hz t temp hyst
  | setCurvePoint m p x v0 v1 => exact h.editPoint htunes.2 ⟨x, v0, v1⟩
  | clearFault => exact h
  | unknown => exact h

/-- **A handler accepts exactly the edits that keep the rules.** -/
theorem runCommand_ok_iff (hr : ConfigRules cfg) (hinv : ShadowInv cfg core)
    (h : RuntimeRules cfg core) {cmd : Command} (htunes : cmd.Tunes cfg) :
    (runCommand cfg core cmd).1 = .ok ↔ RuntimeRules cfg (cmd.edit core) := by
  cases cmd with
  | setPid z kp ki kd =>
      have hz : pidZone cfg z = true := htunes
      unfold Command.edit
      dsimp only
      rw [runtimeRules_withGains_iff hr h hz]
      unfold runCommand cmdSetPid
      dsimp only
      rw [if_neg (by simp [hz])]
      cases gainsInBounds (cfg.zones.slot z).pid kp ki kd <;> simp
  | setSetpoint z sp =>
      have hz : pidZone cfg z = true := htunes
      unfold Command.edit
      dsimp only
      rw [runtimeRules_withSetpoint_iff hr h hz]
      unfold runCommand cmdSetSetpoint
      dsimp only
      rw [if_neg (by simp [hz])]
      by_cases hout : sp < (cfg.zones.slot z).pid.setpointMinMc ∨
          sp > (cfg.zones.slot z).pid.setpointMaxMc
      · rw [if_pos hout]
        simp only [reduceCtorEq, false_iff]
        omega
      · rw [if_neg hout]
        have hin : (cfg.zones.slot z).pid.setpointMinMc ≤ sp ∧
            sp ≤ (cfg.zones.slot z).pid.setpointMaxMc := by omega
        cases runtimeSetpointWithModifierOffsetsValid cfg core z sp <;> simp [hin]
  | setTrip z t temp hyst =>
      obtain ⟨hz, ht, hhyst⟩ := htunes
      unfold Command.edit
      dsimp only
      rw [runtimeRules_withTrip_iff hr h hz ht hhyst]
      unfold runCommand cmdSetTrip
      dsimp only
      rw [if_neg (Nat.not_le.mpr hz), if_neg (Nat.not_le.mpr ht)]
      cases tripAcceptable cfg core z t temp hyst <;> simp
  | setCurvePoint m p x v0 v1 =>
      obtain ⟨hm, hp⟩ := htunes
      unfold Command.edit
      dsimp only
      rw [runtimeRules_withPoint_iff hr hinv h hm hp]
      unfold runCommand cmdSetCurvePoint
      dsimp only
      rw [if_neg (Nat.not_le.mpr hm), if_neg (Nat.not_le.mpr hp)]
      cases pointAcceptable cfg core m p ⟨x, v0, v1⟩ <;> simp
  | clearFault => exact absurd htunes id
  | unknown => exact absurd htunes id

/-- **The substituted configuration** is accepted in every reachable state, and a
tuning command is accepted exactly when it still is after the edit. -/
theorem substConfig_accepted_and_commands_exact (cfg : Config) (cb : Callbacks) (core : Core)
    (hacc : Accepted cfg) (hreach : Reachable cfg cb core) :
    Accepted (substConfig cfg core) ∧
      ∀ nowMs cmd, Command.Tunes cfg cmd →
        ((thermalCoreApplyCommand cfg cb core nowMs cmd).result.status = .ok ↔
          Accepted (substConfig cfg (cmd.edit core))) := by
  have hr : ConfigRules cfg := (accepted_iff cfg).mp hacc
  have hinv := reachable_shadowInv hr hreach
  have hrules := reachable_runtimeRules hr hreach
  refine ⟨(accepted_substConfig_iff hr hinv).mpr hrules, fun nowMs cmd htunes => ?_⟩
  rw [accepted_substConfig_iff hr (htunes.shadowInv hinv)]
  exact runCommand_ok_iff hr hinv hrules htunes

/-- Moving the CRITICAL trip of the one-fan configuration to 75 °C is accepted, so
the configuration with that trip is. -/
theorem accepted_oneFan_trip_at_75C :
    Accepted (substConfig oneFanConfig
      ((Command.setTrip 0 1 75000 2000).edit (initCore oneFanConfig))) :=
  ((substConfig_accepted_and_commands_exact oneFanConfig ⟨false, false⟩ (initCore oneFanConfig)
    accepted_oneFanConfig Reachable.init).2 0 (.setTrip 0 1 75000 2000)
    ⟨by decide, by decide, by decide⟩).mp (by decide +kernel)

end edits

end ThermalCore
