import ThermalCore.Fallback
import ThermalCore.Snapshot
import ThermalCore.Typed
import ThermalCore.Wire.CommandChannel
import ThermalCore.Wire.HilReadings

/-!
# The daemon on the HIL link

The main loop of `thermalcored.c` with the HIL transport active, and the firmware
that owns the sensors and the fans: commands come in over the control socket,
readings over the serial line, and the core's duties go out over it.  A run is any
interleaving of datagrams, ticks of the daemon and passes of the firmware's loop.

A tick is taken apart once: drain, snapshot, step, duties.  What is known of the core's
reachable states then holds of the duties on the line, and through the link, under its
assumption that frames are taken whole, of the fans.
-/

namespace ThermalCore

open MachineInt

/-! ## The main loop -/

/-- The snapshot of a tick.  The contexts are read elsewhere. -/
def hilSnapshot (cfg : Config) (s : HilSerial) (nowMs : Nat) (context : Nat → DriverReading) : InputSnapshot :=
  snapshotOf nowMs
    ((List.range cfg.sensorCount).map (fun i => bspHilSerialReadSensor cfg s i nowMs) ++
      ((List.range cfg.actuatorCount).map (fun i => bspHilSerialReadTach cfg s i nowMs) ++
        (List.range cfg.contextCount).map fun i => slotSample cfg .contextI32 i (context i)))

/-- What one tick meets: the clock, whether it logs an overrun, how many bytes the
serial driver returns at most, the contexts, and how many bytes it takes of the
frame of each command. -/
structure HilTick where
  nowMs : Nat
  overrun : Bool
  want : Nat
  context : Nat → DriverReading
  taken : Nat → Nat

/-- The duties of an output frame, in order. -/
def hilWrites (cfg : Config) (t : HilTick) (out : OutputFrame) : List LinkEvent :=
  (List.range out.actuatorCmdCount).filterMap fun i =>
    (dutySlot cfg (out.actuatorCmds.slot i).actuatorId).map fun s =>
      .write t.nowMs s (out.actuatorCmds.slot i).duty (t.taken i)

/-! ## The daemon and the firmware -/

/-- Daemon, line and firmware. -/
structure HilBench where
  daemon : Daemon
  link : HilLink

/-- The daemon has opened its sockets and the line. -/
def hilBenchOpened (cfg : Config) (boot : List UInt8) : HilBench := ⟨⟨initCore cfg, 0, []⟩, hilLinkOpened boot⟩

/-- A datagram on the control socket, a tick of the daemon or a pass of the firmware's loop. -/
inductive BenchEvent where
  | datagram (d : Datagram)
  | tick (t : HilTick)
  | pass (inp : HilPassInput)

/-- What an event does to the line and to the daemon. -/
structure BenchTrace where
  line : List LinkEvent
  channel : List ChannelEvent

/-- The configurations of the daemon and of the firmware, whether the telemetry
socket is open, and whether the firmware's sensors came up. -/
structure BenchSetup where
  cfg : Config
  fwCfg : Config
  telemetryOpen : Bool
  sensorOk : Bool

section bench

variable (setup : BenchSetup)

/-- The core a tick steps: the commands are drained first. -/
def tickCore (b : HilBench) (t : HilTick) : Core :=
  (drainCommands setup.cfg setup.telemetryOpen t.nowMs b.daemon.core
    (if t.overrun && setup.telemetryOpen then u16 (b.daemon.outSeq + 1) else b.daemon.outSeq) b.daemon.queue).1.core

/-- The line once a tick has drained it. -/
def tickDrained (b : HilBench) (t : HilTick) : HilLink :=
  (linkStep setup.fwCfg setup.sensorOk b.link (.drain t.nowMs t.want)).1

/-- The snapshot that a tick builds from the caches. -/
def tickSnapshot (b : HilBench) (t : HilTick) : InputSnapshot :=
  hilSnapshot setup.cfg (tickDrained setup b t).daemon t.nowMs t.context

/-- The step that a tick makes. -/
def tickResult (b : HilBench) (t : HilTick) : StepResult :=
  thermalCoreStep setup.cfg daemonCallbacks (tickCore setup b t) (tickSnapshot setup b t) default

/-- One event of the bench. -/
def benchStep (b : HilBench) : BenchEvent → HilBench × BenchTrace
  | .datagram d =>
      ({ b with daemon := (daemonStep setup.cfg setup.telemetryOpen b.daemon (.datagram d)).1 },
        ⟨[], [.datagram d]⟩)
  | .tick t =>
      let tick := .tick t.overrun (tickSnapshot setup b t)
      let writes := hilWrites setup.cfg t (tickResult setup b t).out
      ({ daemon := (daemonStep setup.cfg setup.telemetryOpen b.daemon tick).1
         link := Machine.after (linkStep setup.fwCfg setup.sensorOk) (tickDrained setup b t) writes },
        ⟨.drain t.nowMs t.want :: writes, [tick]⟩)
  | .pass inp =>
      ({ b with link := (linkStep setup.fwCfg setup.sensorOk b.link (.pass inp)).1 }, ⟨[.pass inp], []⟩)

end bench

/-! ## The snapshot -/

section snapshot

variable {cfg : Config} {s : HilSerial} {nowMs : Nat} {context : Nat → DriverReading}

/-- The readings of a tick. -/
def hilRead (cfg : Config) (s : HilSerial) (nowMs : Nat) (context : Nat → DriverReading) :
    SampleKind → Nat → DriverReading
  | .tempMc, i => ⟨(bspHilSerialReadSensor cfg s i nowMs).valid, (bspHilSerialReadSensor cfg s i nowMs).value⟩
  | .tachRpm, i => ⟨(bspHilSerialReadTach cfg s i nowMs).valid, (bspHilSerialReadTach cfg s i nowMs).value⟩
  | .contextI32, i => context i

/-- The snapshot built from the caches is one sample for each slot. -/
theorem hilSnapshot_eq (hr : ConfigRules cfg) :
    hilSnapshot cfg s nowMs context =
      snapshotOf nowMs (slotSamples cfg cfg.contextCount (hilRead cfg s nowMs context)) := by
  have hcounts := (validateCounts_iff cfg).mp hr.counts
  have hsensor (i : Nat) (hi : i < cfg.sensorCount) : bspHilSerialReadSensor cfg s i nowMs =
      slotSample cfg .tempMc i (hilRead cfg s nowMs context .tempMc i) := by
    have hmax := Nat.lt_of_lt_of_le hi hcounts.sensors
    simp [slotSample, hilRead, slotId, bspHilSerialReadSensor, Nat.not_le.mpr hi, Nat.not_le.mpr hmax]
  have htach (i : Nat) (hi : i < cfg.actuatorCount) : bspHilSerialReadTach cfg s i nowMs =
      slotSample cfg .tachRpm i (hilRead cfg s nowMs context .tachRpm i) := by
    have hmax := Nat.lt_of_lt_of_le hi hcounts.actuators
    simp [slotSample, hilRead, slotId, bspHilSerialReadTach, Nat.not_le.mpr hi, Nat.not_le.mpr hmax]
  unfold hilSnapshot slotSamples sampleSlots
  simp only [List.map_append, List.map_map]
  congr 2
  · exact List.map_congr_left fun i hi => hsensor i (List.mem_range.mp hi)
  · congr 1
    exact List.map_congr_left fun i hi => htach i (List.mem_range.mp hi)

/-- The core takes every snapshot of the loop. -/
theorem hilSnapshot_admissible (hr : ConfigRules cfg) : Admissible cfg (hilSnapshot cfg s nowMs context) := by
  rw [hilSnapshot_eq hr]
  exact admissible_slotSamples hr (Nat.le_refl _) nowMs

/-- A zone loses its sensors where none of their cells is fresh. -/
theorem sensorsLost_hilSnapshot_iff (hr : ConfigRules cfg) {z : Nat} (hz : z < cfg.zoneCount) :
    SensorsLost (hilSnapshot cfg s nowMs context) (cfg.zones.slot z) ↔
      ∀ k < (cfg.zones.slot z).sensorCount, ∀ i < cfg.sensorCount,
        (cfg.sensors.slot i).id = (cfg.zones.slot z).sensorIds.slot k →
          (s.sensorCache.slot i).fresh nowMs (cfg.sensors.slot i).maxStalenessMs = false := by
  have hcounts := (validateCounts_iff cfg).mp hr.counts
  have hvalid (i : Nat) (hi : i < cfg.sensorCount) :
      sampleValid ((hilSnapshot cfg s nowMs context).find .tempMc (cfg.sensors.slot i).id) =
        ((s.sensorCache.slot i).fresh nowMs (cfg.sensors.slot i).maxStalenessMs).toNat := by
    have hmax := Nat.lt_of_lt_of_le hi hcounts.sensors
    rw [hilSnapshot_eq hr, show (cfg.sensors.slot i).id = slotId cfg .tempMc i from rfl,
      find_slotSamples hr (Nat.le_refl _) nowMs hi]
    simp [sampleValid, slotSample, hilRead, bspHilSerialReadSensor, Nat.not_le.mpr hi, Nat.not_le.mpr hmax]
  constructor
  · intro hlost k hk i hi hid
    have hzero := hlost k hk
    rw [← hid, hvalid i hi] at hzero
    simpa using hzero
  · intro hsilent k hk
    obtain ⟨i, hslot⟩ := Option.ne_none_iff_exists'.mp ((hr.zone hz).sensorIds k hk)
    obtain ⟨hi, hid⟩ := (findSensorSlot_eq_some hr).mp hslot
    rw [← hid, hvalid i hi, hsilent k hk i hi hid]
    rfl

end snapshot

/-! ## One tick -/

section tick

variable {setup : BenchSetup} {b : HilBench} {t : HilTick} {a : Nat}

/-- The core never refuses a tick's snapshot. -/
theorem tickSnapshot_admissible (hr : ConfigRules setup.cfg) : Admissible setup.cfg (tickSnapshot setup b t) :=
  hilSnapshot_admissible hr

/-- The duty of a tick is the one the core keeps. -/
theorem tick_duty (hr : ConfigRules setup.cfg) (ha : a < setup.cfg.actuatorCount) :
    ((tickResult setup b t).out.actuatorCmds.slot a).duty =
      ((tickResult setup b t).core.actuators.slot a).prevDuty :=
  ((commands_of_step hr (tickSnapshot_admissible hr)).2 a ha).2

/-- A tick writes the duty of every fan. -/
theorem hilWrites_tick (hr : ConfigRules setup.cfg) :
    hilWrites setup.cfg t (tickResult setup b t).out =
      (List.range setup.cfg.actuatorCount).map fun a =>
        .write t.nowMs a ((tickResult setup b t).out.actuatorCmds.slot a).duty (t.taken a) := by
  obtain ⟨hcount, hcommands⟩ :=
    @commands_of_step setup.cfg hr daemonCallbacks (tickCore setup b t) (tickSnapshot setup b t) default
      (tickSnapshot_admissible hr)
  unfold hilWrites
  rw [tickResult, hcount, ← List.filterMap_eq_map]
  apply List.filterMap_congr
  intro a ha
  rw [(hcommands a (List.mem_range.mp ha)).1, Option.map_some]
  rfl

/-- A datagram keeps the core reachable. -/
theorem reachable_handleDatagram {cfg : Config} {core : Core} (h : Reachable cfg daemonCallbacks core)
    (telemetryOpen : Bool) (nowMs outSeq : Nat) (d : Datagram) :
    Reachable cfg daemonCallbacks (handleDatagram cfg telemetryOpen nowMs core outSeq d).1 := by
  rw [(handleDatagram_faithful cfg telemetryOpen nowMs core outSeq d).1]
  exact Machine.Reachable.run h _

/-- A drain of the control socket leaves a reachable core, whatever waits in it. -/
theorem reachable_drainCommands {cfg : Config} {core : Core} (h : Reachable cfg daemonCallbacks core)
    (telemetryOpen : Bool) (nowMs outSeq : Nat) (waiting : List Datagram) :
    Reachable cfg daemonCallbacks (drainCommands cfg telemetryOpen nowMs core outSeq waiting).1.core := by
  induction waiting generalizing core outSeq with
  | nil => exact h
  | cons d rest ih =>
      unfold drainCommands
      split_ifs
      · exact h
      · exact ih (reachable_handleDatagram h telemetryOpen nowMs outSeq d) _

/-- The core a tick steps is reachable. -/
theorem reachable_tickCore (h : Reachable setup.cfg daemonCallbacks b.daemon.core) (t : HilTick) :
    Reachable setup.cfg daemonCallbacks (tickCore setup b t) :=
  reachable_drainCommands h setup.telemetryOpen t.nowMs _ _

/-- The core behind a tick is reachable. -/
theorem reachable_tickResult (h : Reachable setup.cfg daemonCallbacks b.daemon.core) (t : HilTick) :
    Reachable setup.cfg daemonCallbacks (tickResult setup b t).core :=
  (reachable_tickCore h t).call (.step (tickSnapshot setup b t) default)

end tick

/-! ## Runs -/

/-- The values lie in the ranges of their types, and the driver takes each frame
whole or refuses it. -/
def BenchEvent.Sound : BenchEvent → Prop
  | .datagram _ => True
  | .tick t => t.nowMs < 2 ^ 32 ∧ ∀ i, t.taken i = 0 ∨ wireHeaderLen + 4 + wireCrcLen ≤ t.taken i
  | .pass inp => inp.Typed

/-- A duty written is that of a fan there is, and no more than its maximum. -/
def DutyBounded (cfg : Config) (e : LinkEvent) : Prop :=
  ∀ slot duty, e.written = some (slot, duty) →
    slot < cfg.actuatorCount ∧ duty ≤ (cfg.actuators.slot slot).pwmMax

/-- What went over the line was sound, with no duty above its maximum. -/
def LineSound (setup : BenchSetup) (os : List BenchTrace) : Prop :=
  ∀ e ∈ os.flatMap BenchTrace.line, e.Sound ∧ DutyBounded setup.cfg e

section run

variable {setup : BenchSetup} {b : HilBench} {os : List BenchTrace} {is : List BenchEvent} {t : HilTick}

/-- **The core of a run** is one the core's own calls reach, whatever the line does. -/
theorem core_run (setup : BenchSetup) (boot : List UInt8) (is : List BenchEvent) :
    Reachable setup.cfg daemonCallbacks
      (Machine.after (benchStep setup) (hilBenchOpened setup.cfg boot) is).daemon.core := by
  refine Machine.after_invariant (P := fun b : HilBench => Reachable setup.cfg daemonCallbacks b.daemon.core)
    (fun b e h => ?_) .init is
  cases e with
  | datagram d => exact h
  | tick t => exact reachable_tickResult h t
  | pass inp => exact h

/-- What a tick puts on the line. -/
theorem line_of_tick (hacc : Accepted setup.cfg) (htyped : setup.cfg.Typed)
    (h : Reachable setup.cfg daemonCallbacks b.daemon.core) (ht : (BenchEvent.tick t).Sound) :
    ∀ e ∈ (benchStep setup b (.tick t)).2.line, e.Sound ∧ DutyBounded setup.cfg e := by
  have hr := (accepted_iff setup.cfg).mp hacc
  have hmax : setup.cfg.actuatorCount ≤ 2 := hr.actuatorCount_le
  have hline : (benchStep setup b (.tick t)).2.line =
      .drain t.nowMs t.want :: hilWrites setup.cfg t (tickResult setup b t).out := rfl
  rw [hline, hilWrites_tick hr, List.forall_mem_cons, List.forall_mem_map]
  refine ⟨⟨ht.1, fun slot duty hw => nomatch hw⟩, fun a ha => ?_⟩
  rw [List.mem_range] at ha
  have hinv := reachable_actuatorInv hr (reachable_tickResult h t) ha
  have hle := hinv.duty_le
  rw [← tick_duty hr ha] at hle
  have hbyte := (htyped.actuators a (show a < 2 by omega)).pwmMax
  refine ⟨⟨ht.1, by omega, by omega, ht.2 a⟩, fun slot duty hw => ?_⟩
  simp only [LinkEvent.written] at hw
  split_ifs at hw
  cases hw
  exact ⟨ha, hle⟩

/-- What an event puts on the line, from a reachable core. -/
theorem line_of_event (hacc : Accepted setup.cfg) (htyped : setup.cfg.Typed)
    (h : Reachable setup.cfg daemonCallbacks b.daemon.core) {e : BenchEvent} (he : e.Sound) :
    ∀ l ∈ (benchStep setup b e).2.line, l.Sound ∧ DutyBounded setup.cfg l := by
  cases e with
  | datagram d => exact List.forall_mem_nil _
  | tick t => exact line_of_tick hacc htyped h he
  | pass inp => exact List.forall_mem_singleton.mpr ⟨he, fun slot duty hw => nomatch hw⟩

/-- **All that went over the line** in a run of sound events. -/
theorem lineSound_run (hacc : Accepted setup.cfg) (htyped : setup.cfg.Typed) (boot : List UInt8)
    (h : ∀ e ∈ is, e.Sound) :
    LineSound setup (Machine.outputs (benchStep setup) (hilBenchOpened setup.cfg boot) is) := by
  induction is using List.reverseRecOn with
  | nil => exact List.forall_mem_nil _
  | append_singleton is e ih =>
      rw [List.forall_mem_append] at h
      rw [Machine.outputs_concat, LineSound, flatMap_concat, List.forall_mem_append]
      exact ⟨ih h.1, line_of_event hacc htyped (core_run setup boot is) (h.2 e (List.mem_singleton_self e))⟩

/-- The line in a run of the daemon is a run of the line. -/
theorem link_after (setup : BenchSetup) (b : HilBench) (is : List BenchEvent) :
    (Machine.after (benchStep setup) b is).link =
      Machine.after (linkStep setup.fwCfg setup.sensorOk) b.link
        ((Machine.outputs (benchStep setup) b is).flatMap BenchTrace.line) := by
  apply Machine.after_component
  intro b e
  cases e <;> rfl

/-- Every duty written in a run is bounded. -/
theorem written_bounded (hacc : Accepted setup.cfg) (htyped : setup.cfg.Typed) (boot : List UInt8)
    (h : ∀ e ∈ is, e.Sound) {slot duty : Nat}
    (hd : (slot, duty) ∈ ((Machine.outputs (benchStep setup) (hilBenchOpened setup.cfg boot) is).flatMap
      BenchTrace.line).filterMap LinkEvent.written) :
    slot < setup.cfg.actuatorCount ∧ duty ≤ (setup.cfg.actuators.slot slot).pwmMax := by
  obtain ⟨e, he, hw⟩ := List.mem_filterMap.mp hd
  exact (lineSound_run hacc htyped boot h e he).2 slot duty hw

/-- The line in a run keeps the invariant of its downlink. -/
theorem commandsInv_bench (hacc : Accepted setup.cfg) (htyped : setup.cfg.Typed) (boot : List UInt8)
    (h : ∀ e ∈ is, e.Sound) :
    CommandsInv setup.fwCfg (Machine.after (benchStep setup) (hilBenchOpened setup.cfg boot) is).link
      (Machine.outputs (linkStep setup.fwCfg setup.sensorOk) (hilLinkOpened boot)
        ((Machine.outputs (benchStep setup) (hilBenchOpened setup.cfg boot) is).flatMap BenchTrace.line)) := by
  rw [link_after]
  exact commandsInv_run setup.fwCfg setup.sensorOk boot fun e he => (lineSound_run hacc htyped boot h e he).1

/-- The fans run at the last duties applied, which are the first of those written. -/
theorem duties_bench (hacc : Accepted setup.cfg) (htyped : setup.cfg.Typed) (boot : List UInt8)
    (h : ∀ e ∈ is, e.Sound) :
    let s := (Machine.after (benchStep setup) (hilBenchOpened setup.cfg boot) is).link
    ∃ applied waiting, ((Machine.outputs (benchStep setup) (hilBenchOpened setup.cfg boot) is).flatMap
        BenchTrace.line).filterMap LinkEvent.written = applied ++ waiting ∧
      (s.toPeripheral = [] → waiting = []) ∧
      ∀ a < maxActuators, a < setup.fwCfg.actuatorCount →
        s.peripheral.actuation.duties.slot a = lastDuty a applied := by
  intro s
  have hinv := commandsInv_bench hacc htyped boot h
  obtain ⟨ws, hsent, hline⟩ := hinv.line
  refine ⟨appliedDuties (Machine.outputs (linkStep setup.fwCfg setup.sensorOk) (hilLinkOpened boot)
    ((Machine.outputs (benchStep setup) (hilBenchOpened setup.cfg boot) is).flatMap BenchTrace.line)),
    ws.filterMap dutyCommand, ?_, fun hread => ?_, fun a ha hcount => ?_⟩
  · rw [appliedDuties, ← List.filterMap_append, ← hsent]
    exact (filterMap_sent_run setup.fwCfg setup.sensorOk (hilLinkOpened boot) fun e he =>
      (lineSound_run hacc htyped boot h e he).1).symm
  · rw [hline.eq_nil hread]
    rfl
  · exact (congrArg (fun duties => duties.slot a) hinv.duties).trans
      (slot_foldl_applyDuty setup.fwCfg ha hcount _)

end run

/-! ## Between ticks -/

/-- A tick of the daemon. -/
def BenchEvent.isTick : BenchEvent → Bool
  | .tick _ => true
  | .datagram _ | .pass _ => false

/-- Without a tick nothing is written. -/
theorem written_of_no_tick {setup : BenchSetup} {is : List BenchEvent} (h : ∀ e ∈ is, e.isTick = false)
    (b : HilBench) :
    ((Machine.outputs (benchStep setup) b is).flatMap BenchTrace.line).filterMap LinkEvent.written = [] := by
  induction is generalizing b with
  | nil => rfl
  | cons e is ih =>
      rw [List.forall_mem_cons] at h
      rw [Machine.outputs_cons, List.flatMap_cons, List.filterMap_append, ih h.2, List.append_nil]
      cases e with
      | tick t => cases h.1
      | datagram d => rfl
      | pass inp => rfl

/-- The duties a tick writes, where the driver takes every frame. -/
theorem written_of_tick {setup : BenchSetup} (hr : ConfigRules setup.cfg) (b : HilBench) {t : HilTick}
    (h : ∀ a < setup.cfg.actuatorCount, wireHeaderLen + 4 + wireCrcLen ≤ t.taken a) :
    (benchStep setup b (.tick t)).2.line.filterMap LinkEvent.written =
      (List.range setup.cfg.actuatorCount).map fun a =>
        (a, ((tickResult setup b t).out.actuatorCmds.slot a).duty) := by
  have hline : (benchStep setup b (.tick t)).2.line =
      .drain t.nowMs t.want :: hilWrites setup.cfg t (tickResult setup b t).out := rfl
  have hdrain : (LinkEvent.drain t.nowMs t.want).written = none := rfl
  rw [hline, List.filterMap_cons, hdrain, hilWrites_tick hr, List.filterMap_map, ← List.filterMap_eq_map]
  apply List.filterMap_congr
  intro a ha
  exact if_pos (h a (List.mem_range.mp ha))

/-! ## What the fans do -/

/-- What holds of 0 and of every duty of a slot holds of the last one. -/
theorem lastDuty_rec {P : Nat → Prop} {slot : Nat} {duties : List (Nat × Nat)} (hzero : P 0)
    (h : ∀ duty, (slot, duty) ∈ duties → P duty) : P (lastDuty slot duties) := by
  unfold lastDuty
  cases hlast : (duties.filter fun d => d.1 == slot).getLast? with
  | none => exact hzero
  | some d =>
      obtain ⟨hmem, heq⟩ := List.mem_filter.mp (List.mem_of_getLast? hlast)
      obtain rfl : d.1 = slot := by simpa using heq
      exact h d.2 hmem

/-- The last duty of a slot, where the slots are written in a row. -/
theorem lastDuty_append_range {slot count : Nat} (h : slot < count) (duties : List (Nat × Nat)) (duty : Nat → Nat) :
    lastDuty slot (duties ++ (List.range count).map fun a => (a, duty a)) = duty slot := by
  induction count with
  | zero => cases h
  | succ n ih =>
      rw [List.range_succ, List.map_append, ← List.append_assoc, List.map_singleton, lastDuty_concat]
      by_cases hn : n = slot
      · rw [if_pos hn, hn]
      · rw [if_neg hn]
        exact ih (by omega)

/-- Daemon and firmware on the one-fan configuration. -/
def oneFanBench : BenchSetup := ⟨oneFanConfig, oneFanConfig, true, true⟩

/-- The witnesses' configuration is within its C types. -/
theorem typed_oneFanConfig : oneFanConfig.Typed := by decide +kernel

/-- A pass in which the firmware's sensor reads 75 degrees. -/
def warmPass : BenchEvent := .pass ⟨fun _ => some 75000, fun _ => 30, 64⟩

/-- A tick that takes in all of it. -/
def warmTick : HilTick := ⟨1100, false, 512, fun _ => ⟨0, 0⟩, fun _ => 100⟩

/-- A pass reports 75 °C, a tick answers it, and a pass applies the answer. -/
theorem warmRun_sound : ∀ e ∈ [warmPass] ++ .tick warmTick :: [warmPass], e.Sound := by
  have hpass : warmPass.Sound := by
    rintro _ _ ⟨⟩
    decide
  have htick : (BenchEvent.tick warmTick).Sound :=
    ⟨by decide, fun _ => Or.inr (by simp [warmTick, wireHeaderLen, wireCrcLen])⟩
  simp [hpass, htick]

/-- **No fan runs faster than its maximum**, where the driver takes each duty frame
whole or refuses it: whatever the interleaving, whatever datagrams arrive and whatever
the line has delivered, a fan of the daemon's configuration runs at no more than its
`pwm_max`, and any other stays parked.  Parts of frames left on the line could be taken
for a frame with another duty. -/
theorem hil_daemon_duty_le {setup : BenchSetup} (hacc : Accepted setup.cfg) (htyped : setup.cfg.Typed)
    (boot : List UInt8) {is : List BenchEvent} (h : ∀ e ∈ is, e.Sound) {a : Nat} (ha : a < maxActuators)
    (hfw : a < setup.fwCfg.actuatorCount) :
    let duty := (Machine.after (benchStep setup) (hilBenchOpened setup.cfg
      boot) is).link.peripheral.actuation.duties.slot a
    (a < setup.cfg.actuatorCount → duty ≤ (setup.cfg.actuators.slot a).pwmMax) ∧
      (setup.cfg.actuatorCount ≤ a → duty = 0) := by
  intro duty
  obtain ⟨applied, waiting, hwritten, -, hduties⟩ := duties_bench hacc htyped boot h
  have hbound (d : Nat) (hd : (a, d) ∈ applied) :
      a < setup.cfg.actuatorCount ∧ d ≤ (setup.cfg.actuators.slot a).pwmMax :=
    written_bounded hacc htyped boot h (hwritten ▸ List.mem_append_left waiting hd)
  have hduty : duty = lastDuty a applied := hduties a ha hfw
  rw [hduty]
  refine ⟨fun _ => ?_, fun hout => ?_⟩
  · exact lastDuty_rec (P := (· ≤ _)) (Nat.zero_le _) fun d hd => (hbound d hd).2
  · exact lastDuty_rec (P := (· = 0)) rfl fun d hd => absurd (hbound d hd).1 (Nat.not_lt.mpr hout)

/-- A run in which the fan is driven, within its maximum. -/
theorem hil_daemon_duty_le_warmRun :
    (Machine.after (benchStep oneFanBench) (hilBenchOpened oneFanConfig [])
      ([warmPass] ++ .tick warmTick :: [warmPass])).link.peripheral.actuation.duties.slot 0 ≤ 200 :=
  (hil_daemon_duty_le (show Accepted oneFanBench.cfg from accepted_oneFanConfig) typed_oneFanConfig []
    warmRun_sound (show 0 < maxActuators by decide) (by decide)).1 (by decide)

/-- **The duty of the last tick reaches the fans**, where the driver has taken the
frames of that tick whole and those of earlier ticks whole or not at all: once the line
is read out, however the firmware's loop cut it into reads, every fan runs at the duty
the core gave it in that tick. -/
theorem hil_daemon_duty_applied {setup : BenchSetup} (hacc : Accepted setup.cfg) (htyped : setup.cfg.Typed)
    (boot : List UInt8) {pre post : List BenchEvent} {t : HilTick}
    (h : ∀ e ∈ pre ++ .tick t :: post, e.Sound) (hpost : ∀ e ∈ post, e.isTick = false)
    (htaken : ∀ a < setup.cfg.actuatorCount, wireHeaderLen + 4 + wireCrcLen ≤ t.taken a)
    (hread : (Machine.after (benchStep setup) (hilBenchOpened setup.cfg boot)
      (pre ++ .tick t :: post)).link.toPeripheral = [])
    {a : Nat} (ha : a < setup.cfg.actuatorCount) (hfw : a < setup.fwCfg.actuatorCount) :
    (Machine.after (benchStep setup) (hilBenchOpened setup.cfg boot)
        (pre ++ .tick t :: post)).link.peripheral.actuation.duties.slot a =
      ((tickResult setup (Machine.after (benchStep setup) (hilBenchOpened setup.cfg boot) pre)
        t).out.actuatorCmds.slot a).duty := by
  have hr := (accepted_iff setup.cfg).mp hacc
  have hmax := Nat.lt_of_lt_of_le ha hr.actuatorCount_le
  obtain ⟨applied, waiting, hwritten, hnone, hduties⟩ := duties_bench hacc htyped boot h
  rw [hnone hread, List.append_nil] at hwritten
  rw [hduties a hmax hfw, ← hwritten, Machine.outputs_append, List.flatMap_append, List.filterMap_append,
    Machine.outputs_cons, List.flatMap_cons, List.filterMap_append, written_of_no_tick hpost, List.append_nil,
    written_of_tick hr _ htaken]
  exact lastDuty_append_range ha _ _

/-- The fan is boosted in the warm run. -/
theorem hil_daemon_duty_applied_warmRun :
    (Machine.after (benchStep oneFanBench) (hilBenchOpened oneFanConfig [])
      ([warmPass] ++ .tick warmTick :: [warmPass])).link.peripheral.actuation.duties.slot 0 = 120 := by
  have happlied := hil_daemon_duty_applied (show Accepted oneFanBench.cfg from accepted_oneFanConfig)
    typed_oneFanConfig [] warmRun_sound (by decide) (by decide) (by decide +kernel) (show 0 < 1 by decide)
    (by decide)
  exact happlied.trans (by decide +kernel)

/-! ## A silent line -/

/-- The last sample of a sensor the daemon has dispatched when tick `t` after the
run has drained the line. -/
def lastArrival (setup : BenchSetup) (boot : List UInt8) (is : List BenchEvent) (t : HilTick) (i : Nat) :
    Option (Nat × Int) :=
  ((Machine.outputs (linkStep setup.fwCfg setup.sensorOk) (hilLinkOpened boot)
    ((Machine.outputs (benchStep setup) (hilBenchOpened setup.cfg boot) is).flatMap BenchTrace.line ++
      [.drain t.nowMs t.want])).flatMap (arrivalsOf i)).getLast?

/-- No sensor of the zone has a sample that is recent enough. -/
def ZoneSilent (setup : BenchSetup) (boot : List UInt8) (is : List BenchEvent) (t : HilTick) (z : Nat) : Prop :=
  ∀ k < (setup.cfg.zones.slot z).sensorCount, ∀ i < setup.cfg.sensorCount,
    (setup.cfg.sensors.slot i).id = (setup.cfg.zones.slot z).sensorIds.slot k →
      ∀ arrivedMs temp, lastArrival setup boot is t i = some (arrivedMs, temp) →
        (setup.cfg.sensors.slot i).maxStalenessMs < subU32 t.nowMs arrivedMs

/-- The cells of a tick are those of the last arrivals. -/
theorem slot_tickDrained (setup : BenchSetup) (boot : List UInt8) (is : List BenchEvent) (t : HilTick) {i : Nat}
    (hi : i < maxSensors) :
    (tickDrained setup (Machine.after (benchStep setup) (hilBenchOpened setup.cfg boot) is)
        t).daemon.sensorCache.slot i =
      ((lastArrival setup boot is t i).map cellOf).getD default := by
  have hcell := cell_run setup.fwCfg setup.sensorOk boot
    ((Machine.outputs (benchStep setup) (hilBenchOpened setup.cfg boot) is).flatMap BenchTrace.line ++
      [.drain t.nowMs t.want]) hi
  unfold tickDrained
  rw [link_after]
  rw [Machine.after_concat] at hcell
  exact hcell

/-- **A silent line fails toward the fallback**: when the daemon has dispatched no
sample of any sensor of a zone recently enough, for whatever reason, the tick finds
the zone without sensors, and only then; and the zone's governor is given its
fallback temperature.  Recently enough is as the 32-bit clock measures it. -/
theorem hil_daemon_silence {setup : BenchSetup} (hacc : Accepted setup.cfg) (boot : List UInt8)
    (is : List BenchEvent) (t : HilTick) {z : Nat} (hz : z < setup.cfg.zoneCount) :
    let b := Machine.after (benchStep setup) (hilBenchOpened setup.cfg boot) is
    let zc := setup.cfg.zones.slot z
    (SensorsLost (tickSnapshot setup b t) zc ↔ ZoneSilent setup boot is t z) ∧
      (ZoneSilent setup boot is t z →
        zoneAggregate setup.cfg
            (prepassCore setup.cfg daemonCallbacks (tickSnapshot setup b t) (tickCore setup b t)) z =
          ⟨zc.fallbackTempMc, false⟩) := by
  intro b zc
  have hr := (accepted_iff setup.cfg).mp hacc
  have hcounts := (validateCounts_iff setup.cfg).mp hr.counts
  have hlost : SensorsLost (tickSnapshot setup b t) zc ↔ ZoneSilent setup boot is t z := by
    refine (sensorsLost_hilSnapshot_iff hr hz).trans ?_
    refine forall₅_congr fun k hk i hi hid => ?_
    rw [slot_tickDrained setup boot is t (Nat.lt_of_lt_of_le hi hcounts.sensors), ← Bool.not_eq_true,
      fresh_cellOf]
    simp
  refine ⟨hlost, fun hsilent => ?_⟩
  have hcore := reachable_tickCore (core_run setup boot is) t
  exact zoneAggregate_of_sensorsLost hr hz (reachable_shadowInv hr hcore) (hlost.mpr hsilent)

/-- Before the firmware has reported anything the zone runs at its fallback. -/
theorem hil_daemon_silence_first :
    zoneAggregate oneFanConfig
        (prepassCore oneFanConfig daemonCallbacks
          (tickSnapshot oneFanBench (hilBenchOpened oneFanConfig []) warmTick)
          (tickCore oneFanBench (hilBenchOpened oneFanConfig []) warmTick)) 0 = ⟨90000, false⟩ := by
  have hsilent : ZoneSilent oneFanBench [] [] warmTick 0 := by
    intro k _ i hi _ arrivedMs temp hlast
    obtain rfl : i = 0 := Nat.lt_one_iff.mp hi
    have hnone : lastArrival oneFanBench [] [] warmTick 0 = none := by decide +kernel
    rw [hnone] at hlast
    cases hlast
  exact (hil_daemon_silence (show Accepted oneFanBench.cfg from accepted_oneFanConfig) [] [] warmTick
    (show 0 < 1 by decide)).2 hsilent

end ThermalCore
