import ThermalCore.Curve

/-!
# Governors

`core/thermal_governor.c` (trips with hysteresis) and `core/thermal_pid.c` (the
Q16.16 controller).

The trips of a zone are Schmitt triggers: active from the trip's temperature on, until the
temperature is below it by more than the hysteresis.  The controller keeps its integral
and its filtered derivative in Q16.16; products that the code does not saturate are
wrapped here where they leave `int64_t`.
-/

namespace ThermalCore

open MachineInt

/-! ## thermal_governor.c -/

structure GovernorStepResult where
  activeTripMask : Nat
  coolingState : Nat
deriving DecidableEq

/-- The Schmitt trigger of one trip: on at or above `temp`, off below
`temp - hyst`, held in between. -/
def tripActive (zoneTempMc : Int) (t : TripCfg) (prev : Bool) : Bool :=
  if zoneTempMc ≥ t.tempMc then true
  else if zoneTempMc < i32 (t.tempMc - t.hystMc) then false
  else prev

def thermalGovernorStepWise (zoneTempMc : Int) (trips : Vector TripCfg n) (tripCount : Nat)
    (prevActiveMask : Nat) : GovernorStepResult :=
  Loop.fold tripCount ⟨0, 0⟩ fun acc i =>
    let t := trips.slot i
    if tripActive zoneTempMc t (prevActiveMask.testBit i) then
      ⟨acc.activeTripMask ||| (1 <<< i),
        if t.coolingState > acc.coolingState then t.coolingState else acc.coolingState⟩
    else acc

section stepWise

variable (temp : Int) (trips : Vector TripCfg n) (tripCount prevMask : Nat)

/-- The mask has exactly the bits of the active trips. -/
theorem testBit_thermalGovernorStepWise (i : Nat) :
    (thermalGovernorStepWise temp trips tripCount prevMask).activeTripMask.testBit i = true ↔
      i < tripCount ∧ tripActive temp (trips.slot i) (prevMask.testBit i) = true := by
  let Set : GovernorStepResult → Prop := fun r => r.activeTripMask.testBit i = true
  let Fires : Nat → Prop := fun j =>
    j = i ∧ tripActive temp (trips.slot i) (prevMask.testBit i) = true
  have hloop : Set (thermalGovernorStepWise temp trips tripCount prevMask) ↔
      Set ⟨0, 0⟩ ∨ ∃ j < tripCount, Fires j := by
    refine Loop.fold_or (P := Set) (Q := Fires) ?_
    intro j acc hj
    have hbit : (acc.activeTripMask ||| (1 <<< j)).testBit i =
        (acc.activeTripMask.testBit i || decide (j = i)) := by
      rw [Nat.testBit_or, Nat.one_shiftLeft, Nat.testBit_two_pow]
    by_cases hact : tripActive temp (trips.slot j) (prevMask.testBit j) = true
    · by_cases hji : j = i
      · subst hji
        simp [Set, Fires, hact]
      · simp [Set, Fires, hact, hji, hbit]
    · by_cases hji : j = i
      · subst hji
        simp [Set, Fires, hact]
      · simp [Set, Fires, hact, hji]
  have hzero : ¬Set ⟨0, 0⟩ := by simp [Set]
  refine hloop.trans ?_
  constructor
  · rintro (h | ⟨j, hj, rfl, h⟩)
    · exact absurd h hzero
    · exact ⟨hj, h⟩
  · rintro ⟨hi, h⟩
    exact Or.inr ⟨i, hi, rfl, h⟩

/-- The cooling state reaches that of every active trip. -/
theorem le_coolingState_thermalGovernorStepWise {i : Nat} (hi : i < tripCount)
    (h : tripActive temp (trips.slot i) (prevMask.testBit i) = true) :
    (trips.slot i).coolingState ≤
      (thermalGovernorStepWise temp trips tripCount prevMask).coolingState := by
  refine Loop.fold_reaches
    (fun r : GovernorStepResult => (trips.slot i).coolingState ≤ r.coolingState) hi
    (fun r => ?_) fun j r hr => ?_
  · dsimp only
    rw [if_pos h]
    dsimp only
    split <;> omega
  · dsimp only
    split
    · dsimp only
      split <;> omega
    · exact hr

/-- The cooling state is 0 or that of an active trip. -/
theorem coolingState_thermalGovernorStepWise :
    (thermalGovernorStepWise temp trips tripCount prevMask).coolingState = 0 ∨
      ∃ i < tripCount, tripActive temp (trips.slot i) (prevMask.testBit i) = true ∧
        (thermalGovernorStepWise temp trips tripCount prevMask).coolingState =
          (trips.slot i).coolingState := by
  refine Loop.fold_induct (fun c (r : GovernorStepResult) => r.coolingState = 0 ∨
    ∃ i < c, tripActive temp (trips.slot i) (prevMask.testBit i) = true ∧
      r.coolingState = (trips.slot i).coolingState) (Or.inl rfl) fun j r _ hr => ?_
  have hold : r.coolingState = 0 ∨ ∃ i < j + 1,
      tripActive temp (trips.slot i) (prevMask.testBit i) = true ∧
        r.coolingState = (trips.slot i).coolingState := by
    refine hr.imp_right ?_
    rintro ⟨i, hi, h⟩
    exact ⟨i, Nat.lt_succ_of_lt hi, h⟩
  dsimp only
  split
  · next hact =>
      dsimp only
      split
      · exact Or.inr ⟨j, Nat.lt_succ_self j, hact, rfl⟩
      · exact hold
  · exact hold

end stepWise

/-! ## thermal_pid.c -/

structure PidState where
  integralQ16 : Int
  prevTempMc : Int
  dFilteredQ16 : Int
  prevNowMs : Nat
  initialized : Bool
  dFilterInitialized : Bool
deriving DecidableEq, Inhabited

structure PidStepResult where
  outputPwm : Int
  pTermQ16 : Int
  iTermQ16 : Int
  dTermQ16 : Int
  effectiveDtMs : Nat
  saturatedHigh : Bool
  saturatedLow : Bool
deriving DecidableEq

def thermalPidReset : PidState := ⟨0, 0, 0, 0, false, false⟩

def iirQ16Step (prev sample alphaQ16 : Int) : Int :=
  satI32 (prev + roundQ16 (alphaQ16 * (sample - prev)))

/-- Floor of a Q16.16 value, by shifts that are defined for both signs. -/
def q16FloorToI32 (v : Int) : Int := if v ≥ 0 then v / 65536 else -((-v + 65535) / 65536)

/-- `dt`: the first call takes the minimum, later ones the wrapped elapsed time,
clamped to the configured bounds. -/
def pidDt (state : PidState) (nowMs dtMinMs dtMaxMs : Nat) : Nat :=
  let dt := if state.initialized then subU32 nowMs state.prevNowMs else dtMinMs
  let dt := if dt < dtMinMs then dtMinMs else dt
  if dt > dtMaxMs then dtMaxMs else dt

/-- The derivative term with the filter state it leaves behind. -/
def pidDerivative (state : PidState) (kdQ16 dFilterAlphaQ16 tempMc : Int) (dtMs : Nat) :
    Int × PidState :=
  if state.initialized then
    let dTemp := i32 (tempMc - state.prevTempMc)
    let dTerm := (i64 (i64 (kdQ16 * dTemp) * 1000)).tdiv dtMs
    if dFilterAlphaQ16 > 0 then
      let raw := satI32 dTerm
      let filtered :=
        if !state.dFilterInitialized then raw
        else iirQ16Step state.dFilteredQ16 raw dFilterAlphaQ16
      (filtered, { state with dFilteredQ16 := filtered, dFilterInitialized := true })
    else
      (dTerm, { state with dFilterInitialized := false })
  else
    (0, { state with dFilterInitialized := false })

def thermalPidStepFiltered (state : PidState) (kpQ16 kiQ16 kdQ16 dFilterAlphaQ16 : Int)
    (setpointMc tempMc : Int) (nowMs dtMinMs dtMaxMs pwmMin pwmMax : Nat) :
    PidState × PidStepResult :=
  let dtMs := pidDt state nowMs dtMinMs dtMaxMs
  let errorMc := i32 (tempMc - setpointMc)
  let pTerm := kpQ16 * errorMc
  let iIncrement := (i64 (i64 (kiQ16 * errorMc) * dtMs)).tdiv 1000
  let iTentative := satI32 (i64 (state.integralQ16 + iIncrement))
  let d := pidDerivative state kdQ16 dFilterAlphaQ16 tempMc dtMs
  let outputQ16 := satI32 (i64 (i64 (pTerm + iTentative) + d.1))
  let raw := q16FloorToI32 outputQ16
  let satHi := decide (raw > pwmMax)
  let capped := if satHi then (pwmMax : Int) else raw
  let satLo := decide (capped < pwmMin)
  let outputPwm := if satLo then (pwmMin : Int) else capped
  let commitIntegral :=
    !(satHi && decide (iIncrement > 0)) && !(satLo && decide (iIncrement < 0))
  let integral := if commitIntegral then iTentative else state.integralQ16
  ({ d.2 with integralQ16 := integral, prevTempMc := tempMc, prevNowMs := nowMs, initialized := true },
    { outputPwm := outputPwm, pTermQ16 := satI32 pTerm, iTermQ16 := integral,
      dTermQ16 := satI32 d.1, effectiveDtMs := u16 dtMs, saturatedHigh := satHi,
      saturatedLow := satLo })

end ThermalCore
