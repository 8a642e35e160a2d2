import Mathlib.Data.List.Induction
import ThermalCore.Esp32.HilPeripheral
import ThermalCore.Safety
import ThermalCore.Snapshot

/-!
# The standalone firmware

`app_main_standalone` of the ESP32 firmware's `main.c`: the core regulates on the
board, on sensors that are read on every tenth pass of the loop.  One pass is a
function of what the drivers answer in it; the status line is left out.

Between two reads the core sees the values of the last one, valid or not.  The clock is a
count of control periods, so every snapshot is accepted.
-/

namespace ThermalCore

open MachineInt

/-! ## The loop -/

/-- The variables of the loop, and the duty of each LEDC channel. -/
structure Esp32Loop where
  core : Core
  duties : Vector Nat maxActuators
  cachedTempMc : Vector Int maxSensors
  cachedValid : Vector Bool maxSensors
  nowMs : Nat
  ticksSinceRead : Nat

/-- Before the first pass: the fans parked, a read forced. -/
def esp32Boot (cfg : Config) : Esp32Loop where
  core := initCore cfg
  duties := .replicate _ 0
  cachedTempMc := .replicate _ i32Min
  cachedValid := .replicate _ false
  nowMs := 0
  ticksSinceRead := 10

/-- What the drivers answer in one pass: the temperature of each sensor, `none`
where the read fails, and the tach edges since the last pass. -/
structure Esp32Readings where
  readMc : Nat → Option Int
  ticksDelta : Nat → Nat

/-- The refresh of the sensors at 1 Hz. -/
def esp32Refresh (cfg : Config) (sensorOk : Bool) (s : Esp32Loop) (inp : Esp32Readings) : Esp32Loop :=
  if sensorOk = true ∧ s.ticksSinceRead ≥ 10 then
    { s with
      cachedTempMc := s.cachedTempMc.forSlots cfg.sensorCount fun i temp => (inp.readMc i).getD temp
      cachedValid := s.cachedValid.forSlots cfg.sensorCount fun i _ => (inp.readMc i).isSome
      ticksSinceRead := 1 }
  else { s with ticksSinceRead := s.ticksSinceRead + 1 }

def esp32Snapshot (cfg : Config) (s : Esp32Loop) (inp : Esp32Readings) : InputSnapshot :=
  snapshotOf s.nowMs
    ((List.range cfg.sensorCount).map (fun i =>
        ⟨(cfg.sensors.slot i).id, SampleKind.tempMc.code, (s.cachedValid.slot i).toNat, s.cachedTempMc.slot i⟩) ++
      (List.range cfg.actuatorCount).map fun i =>
        ⟨(cfg.actuators.slot i).id, SampleKind.tachRpm.code, 1, i32 (u32 (inp.ticksDelta i * 30))⟩)

/-- The firmware installs both callbacks. -/
def esp32Callbacks : Callbacks := ⟨true, true⟩

def esp32Apply (cfg : Config) (out : OutputFrame) (duties : Vector Nat maxActuators) : Vector Nat maxActuators :=
  Loop.fold out.actuatorCmdCount duties fun duties i =>
    match dutySlot cfg (out.actuatorCmds.slot i).actuatorId with
    | none => duties
    | some slot => bspEsp32PwmSetDuty cfg duties slot (out.actuatorCmds.slot i).duty

/-- One pass of the loop, and the snapshot it steps the core on. -/
def esp32Pass (cfg : Config) (sensorOk : Bool) (s : Esp32Loop) (inp : Esp32Readings) : Esp32Loop × InputSnapshot :=
  let s := esp32Refresh cfg sensorOk s inp
  let snap := esp32Snapshot cfg s inp
  let r := thermalCoreStep cfg esp32Callbacks s.core snap default
  ({ s with
      core := r.core
      duties := esp32Apply cfg r.out s.duties
      nowMs := u32 (s.nowMs + cfg.controlPeriodMs) },
    snap)

/-! ## The snapshots -/

section pass

variable {cfg : Config} {sensorOk : Bool} {s : Esp32Loop} {inp : Esp32Readings}

/-- The readings of a pass. -/
def esp32Read (s : Esp32Loop) (inp : Esp32Readings) : SampleKind → Nat → DriverReading
  | .tempMc, i => ⟨(s.cachedValid.slot i).toNat, s.cachedTempMc.slot i⟩
  | .tachRpm, i => ⟨1, i32 (u32 (inp.ticksDelta i * 30))⟩
  | .contextI32, _ => default

theorem esp32Snapshot_eq (cfg : Config) (s : Esp32Loop) (inp : Esp32Readings) :
    esp32Snapshot cfg s inp = snapshotOf s.nowMs (slotSamples cfg 0 (esp32Read s inp)) := by
  simp only [esp32Snapshot, slotSamples, sampleSlots, List.range_zero, List.map_nil, List.append_nil,
    List.map_append, List.map_map]
  rfl

/-- The core takes every snapshot of the loop. -/
theorem esp32Snapshot_admissible (hr : ConfigRules cfg) : Admissible cfg (esp32Snapshot cfg s inp) := by
  rw [esp32Snapshot_eq]
  exact admissible_slotSamples hr (Nat.zero_le _) _

theorem esp32Refresh_frame (cfg : Config) (sensorOk : Bool) (s : Esp32Loop) (inp : Esp32Readings) :
    (esp32Refresh cfg sensorOk s inp).core = s.core ∧ (esp32Refresh cfg sensorOk s inp).duties = s.duties ∧
      (esp32Refresh cfg sensorOk s inp).nowMs = s.nowMs := by
  unfold esp32Refresh
  split <;> exact ⟨rfl, rfl, rfl⟩

/-- A pass runs every fan at the duty the core has decided. -/
theorem esp32Apply_step (hr : ConfigRules cfg) {core : Core} {snap : InputSnapshot} (hin : Admissible cfg snap)
    (duties : Vector Nat maxActuators) {a : Nat} (ha : a < cfg.actuatorCount) :
    let r := thermalCoreStep cfg esp32Callbacks core snap default
    (esp32Apply cfg r.out duties).slot a = (r.core.actuators.slot a).prevDuty := by
  intro r
  obtain ⟨hcount, hcommands⟩ := @commands_of_step cfg hr esp32Callbacks core snap default hin
  have hmax : cfg.actuatorCount ≤ maxActuators := hr.actuatorCount_le
  have hset (d : Vector Nat maxActuators) (i : Nat) (hi : i < cfg.actuatorCount) (x : Nat) :
      bspEsp32PwmSetDuty cfg d i x = d.put i x := by
    rw [bspEsp32PwmSetDuty, if_neg (Nat.not_le.mpr (Nat.lt_of_lt_of_le hi hmax)), if_neg (Nat.not_le.mpr hi)]
  unfold esp32Apply
  rw [show r.out.actuatorCmdCount = cfg.actuatorCount from hcount]
  -- after `i` commands the first `i` fans run at their duties
  refine Loop.fold_induct (fun i (d : Vector Nat maxActuators) => a < i → d.slot a = _)
    (fun h => absurd h (Nat.not_lt_zero a)) (fun i d hi ih hlt => ?_) ha
  obtain ⟨hslot, hduty⟩ := hcommands i hi
  rw [hslot]
  dsimp only
  rw [hset d i hi, Vector.slot_put]
  by_cases hia : i = a
  · rw [if_pos ⟨hia, Nat.lt_of_lt_of_le ha hmax⟩, hduty, hia]
  · rw [if_neg fun h => hia h.1]
    exact ih (by omega)

end pass

/-! ## Runs -/

/-- The reading a pass goes by: that of the last pass whose number is a multiple of
ten. -/
def esp32LastRead (sensorOk : Bool) (inps : List Esp32Readings) (k i : Nat) : Option Int :=
  if sensorOk then inps[10 * (k / 10)]?.bind fun inp => inp.readMc i else none

/-- What the core is given at pass `k`. -/
structure Esp32Sees (cfg : Config) (sensorOk : Bool) (inps : List Esp32Readings) (k : Nat) (snap : InputSnapshot) :
    Prop where
  admissible : Admissible cfg snap
  nowMs : snap.nowMs = u32 (k * cfg.controlPeriodMs)
  sensors : ∀ i < cfg.sensorCount, ∃ smp, snap.find .tempMc (cfg.sensors.slot i).id = some smp ∧
    (smp.valid ≠ 0 ↔ (esp32LastRead sensorOk inps k i).isSome) ∧
    ∀ mc ∈ esp32LastRead sensorOk inps k i, smp.value = mc

/-- The cache before pass `n`. -/
structure Esp32Cache (cfg : Config) (sensorOk : Bool) (s : Esp32Loop) (n : Nat) (read : Nat → Option Int) : Prop where
  ticks : sensorOk = true → s.ticksSinceRead = (n + 9) % 10 + 1
  valid : ∀ i < cfg.sensorCount, s.cachedValid.slot i = (read i).isSome
  tempMc : ∀ i < cfg.sensorCount, ∀ mc ∈ read i, s.cachedTempMc.slot i = mc

structure Esp32Inv (cfg : Config) (sensorOk : Bool) (s : Esp32Loop) (inps : List Esp32Readings)
    (snaps : List InputSnapshot) : Prop where
  length : snaps.length = inps.length
  core : s.core = Machine.after (call cfg esp32Callbacks) (initCore cfg) (snaps.map fun snap => .step snap default)
  duties : ∀ a < cfg.actuatorCount, s.duties.slot a = (s.core.actuators.slot a).prevDuty
  nowMs : s.nowMs = u32 (inps.length * cfg.controlPeriodMs)
  cache : Esp32Cache cfg sensorOk s inps.length fun i => esp32LastRead sensorOk inps (inps.length - 1) i
  sees : ∀ k snap, snaps[k]? = some snap → Esp32Sees cfg sensorOk inps k snap

section run

variable {cfg : Config} {sensorOk : Bool} {s : Esp32Loop} {inps : List Esp32Readings} {snaps : List InputSnapshot}

/-- Later passes do not change what a pass goes by. -/
theorem esp32LastRead_append {k : Nat} (hk : k < inps.length) (sensorOk : Bool) (more : List Esp32Readings) (i : Nat) :
    esp32LastRead sensorOk (inps ++ more) k i = esp32LastRead sensorOk inps k i := by
  unfold esp32LastRead
  rw [List.getElem?_append_left (by omega)]

theorem Esp32Sees.append {k : Nat} {snap : InputSnapshot} (h : Esp32Sees cfg sensorOk inps k snap)
    (hk : k < inps.length) (more : List Esp32Readings) : Esp32Sees cfg sensorOk (inps ++ more) k snap where
  admissible := h.admissible
  nowMs := h.nowMs
  sensors i hi := by
    rw [esp32LastRead_append hk]
    exact h.sensors i hi

/-- **The refresh**: a pass goes by its own reading when its number is a multiple of
ten, and else by that of the pass before it. -/
theorem esp32Cache_refresh (hr : ConfigRules cfg)
    (h : Esp32Cache cfg sensorOk s inps.length fun i => esp32LastRead sensorOk inps (inps.length - 1) i)
    (inp : Esp32Readings) :
    Esp32Cache cfg sensorOk (esp32Refresh cfg sensorOk s inp) (inps.length + 1)
      fun i => esp32LastRead sensorOk (inps ++ [inp]) inps.length i := by
  have hmax : cfg.sensorCount ≤ maxSensors := ((validateCounts_iff cfg).mp hr.counts).sensors
  unfold esp32Refresh
  cases hok : sensorOk with
  | false =>
      subst hok
      rw [if_neg (by simp)]
      refine ⟨fun hno => ?_, fun i hi => h.valid i hi, fun i _ mc hmc => ?_⟩
      · cases hno
      · cases hmc
  | true =>
      subst hok
      have hticks := h.ticks rfl
      by_cases hdue : s.ticksSinceRead ≥ 10
      · have hread (i : Nat) : esp32LastRead true (inps ++ [inp]) inps.length i = inp.readMc i := by
          have hself : 10 * (inps.length / 10) = inps.length := by omega
          simp [esp32LastRead, hself]
        rw [if_pos ⟨rfl, hdue⟩]
        refine ⟨fun _ => by show 1 = _; omega, fun i hi => ?_, fun i hi mc hmc => ?_⟩
        · rw [hread, Vector.slot_forSlots_lt _ _ hmax hi]
        · rw [hread] at hmc
          rw [Vector.slot_forSlots_lt _ _ hmax hi, Option.mem_def.mp hmc]
          rfl
      · have hread (i : Nat) : esp32LastRead true (inps ++ [inp]) inps.length i =
            esp32LastRead true inps (inps.length - 1) i := by
          have hsame : 10 * (inps.length / 10) = 10 * ((inps.length - 1) / 10) := by omega
          unfold esp32LastRead
          rw [hsame, List.getElem?_append_left (by omega)]
        rw [if_neg fun hboth => hdue hboth.2]
        refine ⟨fun _ => by show s.ticksSinceRead + 1 = _; omega, fun i hi => ?_, fun i hi mc hmc => ?_⟩
        · rw [hread]
          exact h.valid i hi
        · rw [hread] at hmc
          exact h.tempMc i hi mc hmc

theorem Esp32Inv.pass (hr : ConfigRules cfg) (h : Esp32Inv cfg sensorOk s inps snaps) (inp : Esp32Readings) :
    Esp32Inv cfg sensorOk (esp32Pass cfg sensorOk s inp).1 (inps ++ [inp])
      (snaps ++ [(esp32Pass cfg sensorOk s inp).2]) := by
  obtain ⟨hcore, hduties, hnow⟩ := esp32Refresh_frame cfg sensorOk s inp
  have hcache := esp32Cache_refresh hr h.cache inp
  have hin : Admissible cfg (esp32Pass cfg sensorOk s inp).2 := esp32Snapshot_admissible hr
  refine ⟨by simp [h.length], ?_, ?_, ?_, ?_, ?_⟩
  · rw [List.map_append, List.map_singleton, Machine.after_concat, ← h.core, ← hcore]
    rfl
  · intro a ha
    exact esp32Apply_step hr hin _ ha
  · show u32 ((esp32Refresh cfg sensorOk s inp).nowMs + cfg.controlPeriodMs) = _
    rw [hnow, h.nowMs, List.length_append, List.length_singleton, Nat.succ_mul]
    unfold u32
    omega
  · rw [List.length_append, List.length_singleton, Nat.add_sub_cancel]
    exact ⟨hcache.ticks, hcache.valid, hcache.tempMc⟩
  · intro k snap hk
    by_cases hold : k < inps.length
    · rw [List.getElem?_append_left (h.length ▸ hold)] at hk
      exact (h.sees k snap hk).append hold _
    · have hlast : k = inps.length ∧ (esp32Pass cfg sensorOk s inp).2 = snap := by
        rw [List.getElem?_append_right (by rw [h.length]; omega), List.getElem?_singleton] at hk
        have hlength := h.length
        split at hk
        · exact ⟨by omega, Option.some.inj hk⟩
        · cases hk
      obtain ⟨rfl, rfl⟩ := hlast
      refine ⟨hin, hnow.trans h.nowMs, fun i hi => ?_⟩
      have hfind := @find_slotSamples cfg 0 .tempMc i (esp32Read (esp32Refresh cfg sensorOk s inp) inp) hr
        (Nat.zero_le _) (esp32Refresh cfg sensorOk s inp).nowMs hi
      rw [← esp32Snapshot_eq] at hfind
      refine ⟨_, hfind, ?_, fun mc hmc => hcache.tempMc i hi mc hmc⟩
      show ((esp32Refresh cfg sensorOk s inp).cachedValid.slot i).toNat ≠ 0 ↔ _
      rw [hcache.valid i hi]
      cases (esp32LastRead sensorOk (inps ++ [inp]) inps.length i).isSome <;> simp

theorem esp32Inv_boot (hr : ConfigRules cfg) (sensorOk : Bool) : Esp32Inv cfg sensorOk (esp32Boot cfg) [] [] where
  length := rfl
  core := rfl
  duties a ha := by
    have hmax : a < maxActuators := Nat.lt_of_lt_of_le ha hr.actuatorCount_le
    have hinit : (initCore cfg).actuators.slot a = initActuator (cfg.actuators.slot a) :=
      Vector.slot_forSlots_lt _ _ hr.actuatorCount_le ha
    show (Vector.replicate maxActuators 0).slot a = ((initCore cfg).actuators.slot a).prevDuty
    rw [hinit, Vector.slot_replicate 0 hmax]
    rfl
  nowMs := by simp [esp32Boot, u32]
  cache := by
    refine ⟨fun _ => rfl, fun i hi => ?_, fun i _ mc hmc => ?_⟩
    · have hmax := Nat.lt_of_lt_of_le hi ((validateCounts_iff cfg).mp hr.counts).sensors
      show (Vector.replicate maxSensors false).slot i = _
      rw [Vector.slot_replicate false hmax]
      simp [esp32LastRead]
    · simp [esp32LastRead] at hmc
  sees k snap hk := by simp at hk

theorem esp32Inv_run (hr : ConfigRules cfg) (sensorOk : Bool) (inps : List Esp32Readings) :
    Esp32Inv cfg sensorOk (Machine.after (esp32Pass cfg sensorOk) (esp32Boot cfg) inps) inps
      (Machine.outputs (esp32Pass cfg sensorOk) (esp32Boot cfg) inps) := by
  induction inps using List.reverseRecOn with
  | nil => exact esp32Inv_boot hr sensorOk
  | append_singleton inps inp ih =>
      rw [Machine.after_concat, Machine.outputs_concat]
      exact ih.pass hr inp

/-- **The standalone loop**: in every run the core takes the snapshot of every pass,
its clock counts control periods, and it sees a sensor valid exactly when the last
read of it, on a pass whose number is a multiple of ten, succeeded; every fan runs at
the duty the core has decided, and at no more than its `pwm_max`. -/
theorem esp32_standalone (hcfg : Accepted cfg) (sensorOk : Bool) (inps : List Esp32Readings) :
    let s := Machine.after (esp32Pass cfg sensorOk) (esp32Boot cfg) inps
    let snaps := Machine.outputs (esp32Pass cfg sensorOk) (esp32Boot cfg) inps
    s.core = Machine.after (call cfg esp32Callbacks) (initCore cfg) (snaps.map fun snap => .step snap default) ∧
      (∀ k snap, snaps[k]? = some snap → Esp32Sees cfg sensorOk inps k snap) ∧
      ∀ a < cfg.actuatorCount, s.duties.slot a = (s.core.actuators.slot a).prevDuty ∧
        s.duties.slot a ≤ (cfg.actuators.slot a).pwmMax := by
  intro s snaps
  have hr := (accepted_iff cfg).mp hcfg
  have hinv : Esp32Inv cfg sensorOk s inps snaps := esp32Inv_run hr sensorOk inps
  have hcore : Reachable cfg esp32Callbacks s.core := by
    rw [hinv.core]
    exact Machine.Reachable.run Reachable.init _
  refine ⟨hinv.core, hinv.sees, fun a ha => ?_⟩
  rw [hinv.duties a ha]
  exact ⟨rfl, (reachable_actuatorInv hr hcore ha).duty_le⟩

/-- A sensor that answers on the first pass and not on the second: the second pass goes
by the first reading. -/
theorem esp32_standalone_heldReading :
    let inps : List Esp32Readings := [⟨fun _ => some 52000, fun _ => 30⟩, ⟨fun _ => none, fun _ => 30⟩]
    ∀ snap, (Machine.outputs (esp32Pass oneFanConfig true) (esp32Boot oneFanConfig) inps)[1]? = some snap →
      ∃ smp, snap.find .tempMc (oneFanConfig.sensors.slot 0).id = some smp ∧ smp.value = 52000 := by
  intro inps snap hsnap
  have hsees := (esp32_standalone accepted_oneFanConfig true inps).2.1 1 snap hsnap
  obtain ⟨smp, hfind, -, hvalue⟩ := hsees.sensors 0 (by decide)
  exact ⟨smp, hfind, hvalue 52000 rfl⟩

end run

end ThermalCore
