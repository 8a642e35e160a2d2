import ThermalCore.Config

/-!
# Fault detectors

`core/thermal_fault.c`: the state machine the four detectors share, and for each
detector the condition it feeds to that machine.

A detector's step is its condition, then one tick of the machine.  The four conditions
keep different things: a grace count for the stall, a window of values for the stuck
sensor, a ring of temperatures and duties for runaway, and nothing for a stale context.
What a state means for the duty is decided by the core.
-/

namespace ThermalCore

open MachineInt

/-! ## The shared state machine -/

/-- The first four fields of every detector state. -/
structure Fsm where
  state : FaultState
  persistCount : Nat
  recoveryCount : Nat
  enteredTsMs : Nat
deriving DecidableEq, Inhabited

def Fsm.reset : Fsm := ⟨.normal, 0, 0, 0⟩

def actionToState (action severity : Nat) : FaultState :=
  if action = FaultAction.forcePwmMaxAndLatch.code ∨ action = FaultAction.requestShutdown.code then
    .latched
  else if severity = FaultSeverity.critical.code then .critical
  else .degraded

/-- One tick of the machine on a condition; `persistTicks` is passed apart from
the rest of the configuration because the runaway detector overrides it. -/
def fsmTick (s : Fsm) (conditionActive : Bool) (cfg : FaultDetectorCfg) (persistTicks nowMs : Nat) :
    Fsm :=
  match s.state with
  | .normal =>
      if conditionActive then
        let count := u16 (s.persistCount + 1)
        if count ≥ persistTicks then
          { state := actionToState cfg.action cfg.severity, persistCount := count,
            recoveryCount := 0, enteredTsMs := nowMs }
        else { s with persistCount := count }
      else { s with persistCount := 0 }
  | .degraded | .critical =>
      if conditionActive then { s with recoveryCount := 0 }
      else { s with state := .recovering, recoveryCount := 0, enteredTsMs := nowMs }
  | .recovering =>
      if conditionActive then
        { state := actionToState cfg.action cfg.severity, persistCount := 0, recoveryCount := 0,
          enteredTsMs := nowMs }
      else
        let count := u16 (s.recoveryCount + 1)
        if count ≥ cfg.recoveryTicks then ⟨.normal, 0, 0, nowMs⟩
        else { s with recoveryCount := count }
  | .latched =>
      if conditionActive then { s with recoveryCount := 0 }
      else if s.recoveryCount < 0xFFFF then { s with recoveryCount := s.recoveryCount + 1 }
      else s

/-- `thermal_fault_*_clear_allowed`: the same test for all four detectors. -/
def clearAllowed (s : Fsm) (cfg : FaultDetectorCfg) : Bool :=
  decide (s.state = .latched) && decide (s.recoveryCount ≥ cfg.recoveryTicks)

/-! ## Stall, per actuator -/

structure StallState where
  fsm : Fsm
  spinupRemaining : Nat
  prevPwmWasZero : Bool
deriving DecidableEq, Inhabited

def thermalFaultStallReset : StallState := ⟨Fsm.reset, 0, true⟩

/-- Ticks of spin-up grace left when this tick begins: a rise from zero re-arms
the countdown. -/
def stallGrace (s : StallState) (requestedPwm spinupTicks : Nat) : Nat :=
  if s.prevPwmWasZero && decide (requestedPwm ≠ 0) then spinupTicks else s.spinupRemaining

/-- Out of grace, a valid tach below `stall_rpm` while the request is at or
above `stall_pwm_threshold`. -/
def stallCondition (s : StallState) (cfg : FaultDetectorCfg) (requestedPwm tachRpm tachValid : Nat)
    (spinupTicks : Nat) : Bool :=
  decide (stallGrace s requestedPwm spinupTicks = 0) && decide (tachValid ≠ 0) &&
    decide (requestedPwm ≥ toU8 cfg.threshold1) && decide (tachRpm < toU16 cfg.threshold0)

def thermalFaultStallStep (s : StallState) (cfg : FaultDetectorCfg)
    (requestedPwm tachRpm tachValid spinupTicks nowMs : Nat) : StallState :=
  if cfg.enabled = 0 then s
  else
    { fsm := fsmTick s.fsm (stallCondition s cfg requestedPwm tachRpm tachValid spinupTicks) cfg
        cfg.persistTicks nowMs
      spinupRemaining := stallGrace s requestedPwm spinupTicks - 1
      prevPwmWasZero := decide (requestedPwm = 0) }

/-! ## Stuck sensor, per sensor -/

/-- The observation window of a stuck-sensor detector. -/
structure StuckWindow where
  valueMin : Int
  valueMax : Int
  contextMin : Int
  contextMax : Int
  tickCount : Nat
  contextCount : Nat
deriving DecidableEq, Inhabited

structure StuckSensorState where
  fsm : Fsm
  window : StuckWindow
deriving DecidableEq, Inhabited

def thermalFaultStuckSensorReset : StuckSensorState := ⟨Fsm.reset, ⟨0, 0, 0, 0, 0, 0⟩⟩

/-- `correlated_context_id == 0xFFFF`. -/
def FaultDetectorCfg.flatnessOnly (cfg : FaultDetectorCfg) : Bool :=
  cfg.correlatedContextId == 0xFFFF

/-- Window accumulation on a valid sample. -/
def StuckWindow.accumulate (w : StuckWindow) (cfg : FaultDetectorCfg) (value : Int)
    (contextValid : Bool) (contextValue : Int) : StuckWindow :=
  let w :=
    if w.tickCount = 0 then { w with valueMin := value, valueMax := value, contextCount := 0 }
    else { w with
      valueMin := if value < w.valueMin then value else w.valueMin
      valueMax := if value > w.valueMax then value else w.valueMax }
  let w :=
    if !cfg.flatnessOnly && contextValid then
      let w :=
        if w.contextCount = 0 then { w with contextMin := contextValue, contextMax := contextValue }
        else { w with
          contextMin := if contextValue < w.contextMin then contextValue else w.contextMin
          contextMax := if contextValue > w.contextMax then contextValue else w.contextMax }
      { w with contextCount := if w.contextCount < 0xFFFF then w.contextCount + 1 else w.contextCount }
    else w
  { w with tickCount := u16 (w.tickCount + 1) }

/-- The window is judged: `window_ticks` valid samples were accumulated. -/
def StuckWindow.full (w : StuckWindow) (cfg : FaultDetectorCfg) : Bool :=
  decide (toU16 cfg.threshold1 > 0) && decide (w.tickCount ≥ toU16 cfg.threshold1)

/-- The context moved by the correlated threshold inside the window. -/
def StuckWindow.contextMoved (w : StuckWindow) (cfg : FaultDetectorCfg) : Bool :=
  !cfg.flatnessOnly && decide (w.contextCount > 0) &&
    decide (toU32 (w.contextMax - w.contextMin) ≥ toU32 cfg.threshold2)

/-- The verdict on a full window. -/
def StuckWindow.flat (w : StuckWindow) (cfg : FaultDetectorCfg) : Bool :=
  (cfg.flatnessOnly || w.contextMoved cfg) && decide (i32 (w.valueMax - w.valueMin) < cfg.threshold0)

/-- The window after a verdict, seeded with the sample that closed it. -/
def StuckWindow.restart (w : StuckWindow) (cfg : FaultDetectorCfg) (value : Int) (valid : Bool)
    (contextValid : Bool) (contextValue : Int) : StuckWindow :=
  let seedContext := valid && !cfg.flatnessOnly && contextValid
  { valueMin := value
    valueMax := value
    contextMin := if seedContext then contextValue else w.contextMin
    contextMax := if seedContext then contextValue else w.contextMax
    tickCount := if valid then 1 else 0
    contextCount := if seedContext then 1 else 0 }

def thermalFaultStuckSensorStep (s : StuckSensorState) (cfg : FaultDetectorCfg) (value : Int)
    (valid contextValid : Bool) (contextValue : Int) (nowMs : Nat) : StuckSensorState :=
  if cfg.enabled = 0 then s
  else
    let w := if valid then s.window.accumulate cfg value contextValid contextValue else s.window
    { fsm := fsmTick s.fsm (w.full cfg && w.flat cfg) cfg cfg.persistTicks nowMs
      window :=
        if w.full cfg then w.restart cfg value valid contextValid contextValue else w }

/-! ## Runaway, per zone -/

structure RunawayState where
  fsm : Fsm
  tempWindow : Vector Int faultRunawayWindowMax
  pwmWindow : Vector Nat faultRunawayWindowMax
  windowHead : Nat
  windowFilled : Bool
deriving DecidableEq, Inhabited

def thermalFaultRunawayReset : RunawayState :=
  ⟨Fsm.reset, .replicate _ 0, .replicate _ 0, 0, false⟩

/-- The window length in use: `persist_ticks`, capped at the ring's size. -/
def runawayPersist (cfg : FaultDetectorCfg) : Nat :=
  if cfg.persistTicks > faultRunawayWindowMax then faultRunawayWindowMax else cfg.persistTicks

/-- Push one sample into the ring. -/
def RunawayState.push (s : RunawayState) (persist : Nat) (tempMc : Int) (pwm : Nat) : RunawayState :=
  let head := u16 ((s.windowHead + 1) % persist)
  { s with
    tempWindow := s.tempWindow.put s.windowHead tempMc
    pwmWindow := s.pwmWindow.put s.windowHead pwm
    windowHead := head
    windowFilled := s.windowFilled || decide (head = 0) }

/-- Least pwm in the ring. -/
def RunawayState.pwmMin (s : RunawayState) (persist : Nat) : Nat :=
  Loop.fold persist 255 fun m i => if s.pwmWindow.slot i < m then s.pwmWindow.slot i else m

/-- The temperature rose by the threshold across a full ring while the pwm
stayed high throughout. -/
def RunawayState.condition (s : RunawayState) (cfg : FaultDetectorCfg) (persist : Nat) : Bool :=
  let newest := u16 ((s.windowHead + persist - 1) % persist)
  let tempN := s.tempWindow.slot newest
  let tempM := s.tempWindow.slot s.windowHead
  s.windowFilled && decide (i32 (tempN - tempM) ≥ cfg.threshold0) &&
    decide (s.pwmMin persist ≥ toU8 cfg.threshold1)

/-- The window encodes persistence, so the machine is ticked with one persist
tick. -/
def thermalFaultRunawayStep (s : RunawayState) (cfg : FaultDetectorCfg) (zoneTempMc : Int)
    (commandedPwm nowMs : Nat) : RunawayState :=
  if cfg.enabled = 0 then s
  else if cfg.persistTicks = 0 then s
  else
    let persist := runawayPersist cfg
    let pushed := s.push persist zoneTempMc commandedPwm
    { pushed with fsm := fsmTick s.fsm (pushed.condition cfg persist) cfg 1 nowMs }

/-! ## Stale context, per context signal -/

structure StaleContextState where
  fsm : Fsm
deriving DecidableEq, Inhabited

def thermalFaultStaleContextReset : StaleContextState := ⟨Fsm.reset⟩

def thermalFaultStaleContextStep (s : StaleContextState) (cfg : FaultDetectorCfg)
    (msSinceLastValid contextTimeoutMs nowMs : Nat) : StaleContextState :=
  if cfg.enabled = 0 then s
  else
    { fsm := fsmTick s.fsm (decide (msSinceLastValid ≥ contextTimeoutMs)) cfg cfg.persistTicks nowMs }

end ThermalCore
