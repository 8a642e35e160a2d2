import Mathlib.Data.List.Forall2
import Mathlib.Data.Option.Basic
import ThermalCore.Safety

/-!
# The stages are monotone

Every stage between a temperature sample and a duty, compared on two inputs of
which one is the hotter: the filter, the two aggregations without weights, the
Schmitt triggers, arbitration, the cap, the slew limiter and the clamp.  A stage
that keeps something from the previous tick is monotone in that as well.

Each lemma compares two calls of one function of the source.  Nothing is said of runs
here; `Comparison` chains the stages.
-/

namespace ThermalCore

open MachineInt

/-! ## The filter -/

/-- Temperatures whose differences fit in `int32_t`. -/
def InBand (x : Int) : Prop := -2 ^ 30 ≤ x ∧ x < 2 ^ 30

instance (x : Int) : Decidable (InBand x) := inferInstanceAs (Decidable (_ ∧ _))

/-- Two filters with the same history of validity, the first the hotter. -/
structure FilterHotter (f g : FilterState) : Prop where
  valid : f.valid = g.valid
  initialized : f.initialized = g.initialized
  value : g.filteredValue ≤ f.filteredValue
  inBand : InBand f.filteredValue ∧ InBand g.filteredValue

/-- Inside the band neither the difference wraps nor the sum saturates, and the
update stays inside it: it lands between the old value and the sample. -/
theorem thermalFilterStep_inBand {f : FilterState} {alpha x : Int} (h0 : 0 ≤ alpha)
    (h1 : alpha ≤ 65536) (hinit : f.initialized = true) (hf : InBand f.filteredValue)
    (hx : InBand x) :
    thermalFilterStep f alpha x true =
        { f with
          filteredValue := f.filteredValue + roundQ16 (alpha * (x - f.filteredValue))
          valid := true } ∧
      InBand (f.filteredValue + roundQ16 (alpha * (x - f.filteredValue))) := by
  have htoward : Toward f.filteredValue x (approach alpha x f.filteredValue) := approach_toward h0 h1
  unfold InBand at *
  constructor
  · refine thermalFilterStep_of_fits h0 h1 hinit ?_ ?_ ?_ <;> unfold IsI32 i32Min i32Max <;> omega
  · unfold Toward approach at htoward
    omega

/-- The low-pass is monotone in its sample and in the value it holds. -/
theorem FilterHotter.step {f g : FilterState} (h : FilterHotter f g) {alpha x y : Int} {b : Bool}
    (h0 : 0 ≤ alpha) (h1 : alpha ≤ 65536)
    (hxy : b = true → y ≤ x ∧ InBand x ∧ InBand y) :
    FilterHotter (thermalFilterStep f alpha x b) (thermalFilterStep g alpha y b) := by
  cases b with
  | false => exact ⟨rfl, h.initialized, h.value, h.inBand⟩
  | true =>
      obtain ⟨hle, hx, hy⟩ := hxy rfl
      cases hinit : f.initialized with
      | false =>
          have hg : g.initialized = false := h.initialized ▸ hinit
          simp only [thermalFilterStep, hinit, hg]
          exact ⟨rfl, rfl, hle, hx, hy⟩
      | true =>
          have hg : g.initialized = true := h.initialized ▸ hinit
          obtain ⟨hfx, hfband⟩ := thermalFilterStep_inBand h0 h1 hinit h.inBand.1 hx
          obtain ⟨hgy, hgband⟩ := thermalFilterStep_inBand h0 h1 hg h.inBand.2 hy
          have hvalue : g.filteredValue + roundQ16 (alpha * (y - g.filteredValue)) ≤
              f.filteredValue + roundQ16 (alpha * (x - f.filteredValue)) :=
            calc g.filteredValue + roundQ16 (alpha * (y - g.filteredValue))
                ≤ f.filteredValue + roundQ16 (alpha * (y - f.filteredValue)) :=
                  add_roundQ16_mono h0 h1 h.value
              _ ≤ f.filteredValue + roundQ16 (alpha * (x - f.filteredValue)) := by
                  have hmul : alpha * (y - f.filteredValue) ≤ alpha * (x - f.filteredValue) :=
                    Int.mul_le_mul_of_nonneg_left (by omega) h0
                  have hround := roundQ16_mono hmul
                  omega
          rw [hfx, hgy]
          exact ⟨rfl, h.initialized, hvalue, hfband, hgband⟩

/-! ## Aggregation -/

/-- Two columns of the aggregation arrays, the first the hotter. -/
structure ReadingHotter (r s : Reading) : Prop where
  valid : r.valid = s.valid
  value : s.value ≤ r.value
  inBand : InBand r.value ∧ InBand s.value

/-- MAX over hotter readings. -/
theorem aggMax_hotter {rs ss : List Reading} (h : List.Forall₂ ReadingHotter rs ss) :
    Option.Rel (fun x y => y ≤ x) (aggMax rs) (aggMax ss) := by
  unfold aggMax
  refine List.rel_foldl (R := ReadingHotter) ?_ Option.Rel.none h
  intro best best' hbest r s hrs
  have hvalid := hrs.valid
  cases hr : r.valid with
  | false => simpa [hr, ← hvalid] using hbest
  | true =>
      have hs : s.valid = true := hvalid ▸ hr
      have hvalue := hrs.value
      cases hbest with
      | none => simpa [hr, hs] using Option.Rel.some hvalue
      | some hle =>
          simp only [hr, hs, Bool.not_true, Bool.false_eq_true, if_false]
          split <;> split <;> exact Option.Rel.some (by omega)

/-- What the sums of two averages have in common: the count, and a bound that
makes the quotient fit in `int32_t`. -/
structure SumHotter (p q : Int × Nat) : Prop where
  count : p.2 = q.2
  sum : q.1 ≤ p.1
  bound : -2 ^ 30 * (q.2 : Int) ≤ q.1 ∧ p.1 ≤ 2 ^ 30 * (p.2 : Int)

/-- The sums of AVG over hotter readings. -/
theorem aggSum_hotter {rs ss : List Reading} (h : List.Forall₂ ReadingHotter rs ss) :
    SumHotter (aggSum rs) (aggSum ss) := by
  unfold aggSum
  refine List.rel_foldl (R := ReadingHotter) ?_ ⟨rfl, Int.le_refl _, by simp⟩ h
  intro p q hpq r s hrs
  have hvalid := hrs.valid
  obtain ⟨hcount, hsum, hlo, hhi⟩ := hpq
  obtain ⟨-, hvalue, ⟨-, hr2⟩, hs1, -⟩ := hrs
  cases hr : r.valid with
  | false =>
      rw [hr] at hvalid
      simp only [hr, ← hvalid, Bool.not_false, if_true]
      exact ⟨hcount, hsum, hlo, hhi⟩
  | true =>
      rw [hr] at hvalid
      simp only [hr, ← hvalid, Bool.not_true, Bool.false_eq_true, if_false]
      refine ⟨by omega, ?_, ?_⟩
      · change q.1 + s.value ≤ p.1 + r.value
        omega
      · push_cast
        omega

/-- The average of values in the band is the quotient itself. -/
theorem i32_tdiv_of_bound {s : Int} {n : Nat} (hn : 0 < n) (hlo : -2 ^ 30 * (n : Int) ≤ s)
    (hhi : s ≤ 2 ^ 30 * (n : Int)) : i32 (s.tdiv n) = s.tdiv n := by
  have hpos : 0 < (n : Int) := Int.natCast_pos.mpr hn
  obtain ⟨hlow, hhigh⟩ := tdiv_mem hpos hlo hhi
  exact i32_of_isI32 (by unfold IsI32 i32Min i32Max; omega)

/-- MAX and AVG are monotone, and valid for the same reason. -/
theorem thermalZoneAggregate_hotter {mode : Nat} {rs ss : List Reading} (fallback : Int)
    (hmode : mode = Aggregation.max.code ∨ mode = Aggregation.avg.code)
    (h : List.Forall₂ ReadingHotter rs ss) :
    (thermalZoneAggregate mode ss fallback).tempMc ≤ (thermalZoneAggregate mode rs fallback).tempMc := by
  unfold thermalZoneAggregate
  obtain rfl | rfl := hmode
  · rw [if_pos rfl, if_pos rfl]
    have hmax := aggMax_hotter h
    generalize aggMax rs = best at hmax ⊢
    generalize aggMax ss = best' at hmax ⊢
    cases hmax with
    | none => exact Int.le_refl _
    | some hle => exact hle
  · obtain ⟨hcount, hsum, hlo, hhi⟩ := aggSum_hotter h
    have hne : ¬Aggregation.avg.code = Aggregation.max.code := by decide
    rw [if_neg hne, if_neg hne, if_pos rfl, if_pos rfl]
    simp only [hcount]
    split
    · exact Int.le_refl _
    · next hne =>
        have hn : 0 < (aggSum ss).2 := Nat.pos_of_ne_zero hne
        have hpos : 0 < ((aggSum ss).2 : Int) := Int.natCast_pos.mpr hn
        rw [hcount] at hhi
        have hA := i32_tdiv_of_bound hn (by omega) hhi
        have hB := i32_tdiv_of_bound hn hlo (by omega)
        change i32 _ ≤ i32 _
        rw [hA, hB]
        exact tdiv_mono hpos hsum

/-! ## The Schmitt triggers -/

/-- A hotter zone holds a trip that a cooler one holds. -/
theorem tripActive_mono {temp temp' : Int} {t : TripCfg} {prev prev' : Bool} (htemp : temp' ≤ temp)
    (hprev : prev' = true → prev = true) (h : tripActive temp' t prev' = true) :
    tripActive temp t prev = true := by
  unfold tripActive at h ⊢
  by_cases hon : temp ≥ t.tempMc
  · rw [if_pos hon]
  · rw [if_neg (by omega)] at h
    rw [if_neg hon]
    by_cases hoff : temp' < i32 (t.tempMc - t.hystMc)
    · rw [if_pos hoff] at h
      contradiction
    · rw [if_neg hoff] at h
      rw [if_neg (by omega)]
      exact hprev h

/-- The first of two masks has every bit of the second. -/
def MaskHotter (m m' : Nat) : Prop := ∀ i, m'.testBit i = true → m.testBit i = true

section governor

variable {temp temp' : Int} {trips : Vector TripCfg n} {tripCount mask mask' : Nat}

/-- So its mask holds all the trips of the other. -/
theorem activeTripMask_mono (htemp : temp' ≤ temp) (hmask : MaskHotter mask mask') :
    MaskHotter (thermalGovernorStepWise temp trips tripCount mask).activeTripMask
      (thermalGovernorStepWise temp' trips tripCount mask').activeTripMask := by
  intro i hi
  rw [testBit_thermalGovernorStepWise] at hi ⊢
  obtain ⟨hlt, hact⟩ := hi
  exact ⟨hlt, tripActive_mono htemp (hmask i) hact⟩

/-- And its cooling state is no lower. -/
theorem coolingState_mono (htemp : temp' ≤ temp) (hmask : MaskHotter mask mask') :
    (thermalGovernorStepWise temp' trips tripCount mask').coolingState ≤
      (thermalGovernorStepWise temp trips tripCount mask).coolingState := by
  obtain h0 | ⟨i, hi, hact, hcs⟩ := coolingState_thermalGovernorStepWise temp' trips tripCount mask'
  · rw [h0]
    exact Nat.zero_le _
  · rw [hcs]
    exact le_coolingState_thermalGovernorStepWise _ _ _ _ hi
      (tripActive_mono htemp (hmask i) hact)

end governor

/-! ## Severity, arbitration, cap -/

/-- More trips, no lower severity. -/
theorem zoneMaxSeverity_mono {zr zr' : ZoneRuntime} (zc : ZoneCfg)
    (h : MaskHotter zr.activeTripMask zr'.activeTripMask) :
    zoneMaxSeverity zr' zc ≤ zoneMaxSeverity zr zc := by
  unfold zoneMaxSeverity
  refine Loop.fold_rel (fun s s' : Nat => s ≤ s') (Nat.le_refl _) fun t s s' _ hs => ?_
  have hbit := h t
  by_cases hb : zr'.activeTripMask.testBit t = true
  · rw [if_pos hb, if_pos (hbit hb)]
    split <;> split <;> omega
  · rw [if_neg hb]
    split
    · split <;> omega
    · exact hs

/-- And no lower severity at an actuator. -/
theorem actuatorMaxSeverity_mono {cfg : Config} {core core' : Core} (a : Nat)
    (h : ∀ z < cfg.zoneCount,
      MaskHotter (core.zones.slot z).activeTripMask (core'.zones.slot z).activeTripMask) :
    actuatorMaxSeverity cfg core' a ≤ actuatorMaxSeverity cfg core a := by
  unfold actuatorMaxSeverity
  refine Loop.fold_rel (fun s s' : Nat => s ≤ s') (Nat.le_refl _) fun z s s' hz hs => ?_
  have hsev := zoneMaxSeverity_mono (cfg.zones.slot z) (h z hz)
  dsimp only
  split
  · split <;> split <;> omega
  · exact hs

/-- The arbitrated demand is no more than a bound on all. -/
theorem thermalArbitratorMaxWins_le {demands : List Nat} {m : Nat} (h : ∀ d ∈ demands, d ≤ m) :
    thermalArbitratorMaxWins demands ≤ m := by
  unfold thermalArbitratorMaxWins
  have hfold (ds : List Nat) (w : Nat) (hw : w ≤ m) (hds : ∀ d ∈ ds, d ≤ m) :
      ds.foldl (fun winner d => if d > winner then d else winner) w ≤ m := by
    induction ds generalizing w with
    | nil => exact hw
    | cons x ds ih =>
        have hx := hds x List.mem_cons_self
        rw [List.foldl_cons]
        refine ih _ ?_ fun d hd => hds d (List.mem_cons_of_mem _ hd)
        split
        · exact hx
        · exact hw
  exact hfold demands 0 (Nat.zero_le m) h

/-- The cap in closed form: not applied from CRITICAL on. -/
theorem capTick_arbPwm (sev : Nat) (cap : Option Nat) (t : ActuatorTick) :
    (capTick sev cap t).arbPwm =
      if sev ≥ TripSeverity.critical.code then t.arbPwm
      else cap.elim t.arbPwm fun c => min c t.arbPwm := by
  unfold capTick
  dsimp only
  split
  · rfl
  · cases cap with
    | none => rfl
    | some c =>
        rw [Option.elim_some]
        dsimp only
        split
        · next hlt => exact (Nat.min_eq_left (Nat.le_of_lt hlt)).symm
        · next hge => exact (Nat.min_eq_right (Nat.not_lt.mp hge)).symm

/-- A hotter actuator keeps a higher request through the cap, which it escapes
first. -/
theorem capTick_mono {sev sev' : Nat} (cap : Option Nat) {t t' : ActuatorTick} (hsev : sev' ≤ sev)
    (harb : t'.arbPwm ≤ t.arbPwm) : (capTick sev' cap t').arbPwm ≤ (capTick sev cap t).arbPwm := by
  have hcapped (u : ActuatorTick) : (cap.elim u.arbPwm fun c => min c u.arbPwm) ≤ u.arbPwm := by
    cases cap with
    | none => exact Nat.le_refl _
    | some c => exact Nat.min_le_right _ _
  rw [capTick_arbPwm, capTick_arbPwm]
  by_cases hcrit : sev ≥ TripSeverity.critical.code
  · rw [if_pos hcrit]
    split
    · exact harb
    · exact Nat.le_trans (hcapped t') harb
  · rw [if_neg hcrit, if_neg (by omega)]
    cases cap with
    | none => exact harb
    | some c =>
        rw [Option.elim_some, Option.elim_some]
        omega

/-! ## The drive stage -/

/-- The limiter keeps a request within one step of the old duty, unless it may
jump. -/
theorem thermalSlewStep_newDuty (prev req slew : Nat) (up : Bool) :
    (thermalSlewStep prev req slew up).newDuty =
      if (up = true ∧ req > prev) ∨ slew = 0 then req
      else max (prev - slew) (min req (prev + slew)) := by
  unfold thermalSlewStep
  by_cases hjump : up = true ∧ req > prev
  · rw [if_pos hjump, if_pos (Or.inl hjump)]
  · by_cases hslew : slew = 0
    · rw [if_neg hjump, if_pos hslew, if_pos (Or.inr hslew)]
    · have hneither : ¬((up = true ∧ req > prev) ∨ slew = 0) := by tauto
      rw [if_neg hjump, if_neg hslew, if_neg hneither]
      dsimp only
      split
      · show prev + slew = _
        omega
      · split
        · show prev - slew = _
          omega
        · show req = _
          omega

/-- The limiter is monotone in the duty it starts from and in the request, also
when only the hotter side may jump. -/
theorem thermalSlewStep_mono {prev prev' req req' slew : Nat} {up up' : Bool}
    (hprev : prev' ≤ prev) (hreq : req' ≤ req) (hup : up' = true → up = true) :
    (thermalSlewStep prev' req' slew up').newDuty ≤ (thermalSlewStep prev req slew up).newDuty := by
  rw [thermalSlewStep_newDuty, thermalSlewStep_newDuty]
  by_cases hslew : slew = 0
  · rw [if_pos (Or.inr hslew), if_pos (Or.inr hslew)]
    exact hreq
  · simp only [hslew, or_false]
    by_cases hjump : up = true ∧ req > prev
    · -- the hotter side reaches its request, which bounds both ends of the other's ramp
      rw [if_pos hjump]
      split <;> omega
    · rw [if_neg hjump]
      split
      · next hjump' =>
          -- only the cooler side jumps: the hotter one stands above its request already
          have hstay : req ≤ prev := by
            by_contra hlt
            exact hjump ⟨hup hjump'.1, by omega⟩
          omega
      · omega

/-- The clamp, in the request and in the duty. -/
theorem finalClamp_mono (ac : ActuatorCfg) {req req' duty duty' : Nat} (hreq : req' ≤ req)
    (hduty : duty' ≤ duty) : finalClamp ac req' duty' ≤ finalClamp ac req duty := by
  let lifted (r d : Nat) : Nat := if d ≠ 0 ∧ r ≠ 0 ∧ d < ac.pwmMin then ac.pwmMin else d
  have hmin (r d : Nat) : finalClamp ac r d = min (lifted r d) ac.pwmMax := by
    change (if lifted r d > ac.pwmMax then ac.pwmMax else lifted r d) = _
    split <;> omega
  have hlift : lifted req' duty' ≤ lifted req duty := by
    dsimp only [lifted]
    by_cases hlow : duty' ≠ 0 ∧ req' ≠ 0 ∧ duty' < ac.pwmMin
    · -- the cooler side is lifted to the minimum, and so is the hotter one if below it
      rw [if_pos hlow]
      split
      · exact Nat.le_refl _
      · omega
    · rw [if_neg hlow]
      split <;> omega
  rw [hmin, hmin]
  omega

/-- Neither dwell nor boost is configured: the limiter receives the request. -/
structure DirectDrive (ac : ActuatorCfg) : Prop where
  spinup : ac.spinupMs = 0
  minOn : ac.minOnTicks = 0
  minOff : ac.minOffTicks = 0

instance (ac : ActuatorCfg) : Decidable (DirectDrive ac) :=
  decidable_of_iff (ac.spinupMs = 0 ∧ ac.minOnTicks = 0 ∧ ac.minOffTicks = 0)
    ⟨fun ⟨h1, h2, h3⟩ => ⟨h1, h2, h3⟩, fun ⟨h1, h2, h3⟩ => ⟨h1, h2, h3⟩⟩

section direct

variable {cfg : Config} {ac : ActuatorCfg} {ar : ActuatorRuntime} {t : ActuatorTick}

/-- Without spin-up and dwell the duty is the slewed demand, clamped. -/
theorem DirectDrive.finalPwm_eq (h : DirectDrive ac) (hinv : ActuatorInv ac ar) :
    finalPwm cfg ac ar t = finalClamp ac t.arbPwm
      (thermalSlewStep ar.prevDuty t.arbPwm ac.slewPerTick t.slewOverrideUp).newDuty := by
  have hdwell : dwellRequest ac ar t = t.arbPwm := by
    unfold dwellRequest dwellHoldsOff dwellHoldsOn
    simp [h.minOn, h.minOff]
  have hboost (request : Nat) : spinupApplied ac (spinupArmed cfg ac ar request) request = false := by
    have harmed : ¬0 < spinupArmed cfg ac ar request := by
      intro hpos
      have hspin := spinupArmed_pos hinv hpos
      rw [h.spinup] at hspin
      exact absurd hspin (Nat.lt_irrefl 0)
    unfold spinupApplied
    simp [harmed]
  have hrequest : driveRequest cfg ac ar t = t.arbPwm := by
    unfold driveRequest
    simp only [hboost, hdwell, Bool.false_eq_true, if_false]
  have hboosted : driveBoosted cfg ac ar t = false := hboost _
  unfold finalPwm driveSlew
  rw [hrequest, hboosted, Bool.or_false]

/-- **A higher request, from a higher duty, ends in a higher duty.** -/
theorem DirectDrive.finalPwm_mono {cfg : Config} {ar' : ActuatorRuntime} {t' : ActuatorTick}
    (h : DirectDrive ac) (hinv : ActuatorInv ac ar) (hinv' : ActuatorInv ac ar')
    (hprev : ar'.prevDuty ≤ ar.prevDuty) (hreq : t'.arbPwm ≤ t.arbPwm)
    (hup : t'.slewOverrideUp = true → t.slewOverrideUp = true) :
    finalPwm cfg ac ar' t' ≤ finalPwm cfg ac ar t := by
  rw [h.finalPwm_eq hinv, h.finalPwm_eq hinv']
  exact finalClamp_mono ac hreq (thermalSlewStep_mono hprev hreq hup)

end direct

end ThermalCore
