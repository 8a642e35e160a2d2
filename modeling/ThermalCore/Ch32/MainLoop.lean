import Mathlib.Data.List.Induction
import ThermalCore.Ch32.Command
import ThermalCore.Lib.RingQueue
import ThermalCore.Marks
import ThermalCore.Reach
import ThermalCore.Snapshot

/-!
# The main loop of the CH32 firmware

`main` of `platform/ch32v003/main.c`, built with the host-command channel, on the
interrupt-driven receiver of `bsp_ch32_uart.c`.  The host can take the fan over
with `loop off`; the control loop is then bypassed until it hands the fan back.
The board has one fan and reads no contexts.

Three things are proved of every run: the receive ring is a queue between interrupt
and loop, a terminated line gets its one reply, and the fan follows whoever owns it.
A bypass is invisible to the core: its clock does not run while the host has the fan.
-/

namespace ThermalCore

open MachineInt

/-! ## The receiver -/

abbrev uartRxRingSz : Nat := 64

/-- The static variables of the receiver. -/
structure UartRx where
  ring : Vector UInt8 uartRxRingSz
  head : Nat
  tail : Nat

def UartRx.zeroed : UartRx := ⟨default, 0, 0⟩

def uartNext (i : Nat) : Nat := u8 ((i + 1) % uartRxRingSz)

/-- One byte in `USART1_IRQHandler`, and whether it was queued. -/
def usart1Receive (u : UartRx) (b : UInt8) (corrupt : Bool) : UartRx × Bool :=
  if corrupt then (u, false)
  else if uartNext u.head ≠ u.tail then ({ u with ring := u.ring.put u.head b, head := uartNext u.head }, true)
  else (u, false)

def bspCh32UartGetc (u : UartRx) : UartRx × Option UInt8 :=
  if u.tail = u.head then (u, none)
  else ({ u with tail := uartNext u.tail }, some (u.ring.slot u.tail))

/-! ## The loop -/

/-- Where the loop is: ahead of the test of the bypass flag, in a window of the
bypass, or in the rest of a regulating window. -/
inductive Ch32Phase where
  | top | bypass | hold
deriving DecidableEq

/-- The variables of `main`, and the duty of the one PWM channel. -/
structure Ch32Loop where
  uart : UartRx
  cmdRx : Ch32CommandRx
  loopBypass : Bool
  hostDuty : Nat
  lastDuty : Nat
  lastRpm : Nat
  core : Core
  nowMs : Nat
  duty : Nat
  phase : Ch32Phase

def ch32Boot (cfg : Config) : Ch32Loop where
  uart := .zeroed
  cmdRx := .zeroed
  loopBypass := false
  hostDuty := 0
  lastDuty := 0
  lastRpm := 0
  core := initCore cfg
  nowMs := 0
  duty := 0
  phase := .top

/-- The firmware installs both callbacks. -/
def ch32Callbacks : Callbacks := ⟨true, true⟩

/-- One command of `ch32_command_poll`, and its answer. -/
def ch32Execute (s : Ch32Loop) (cmd : Ch32Command) : Ch32Loop × List UInt8 :=
  match cmd.type with
  | .loopOn => ({ s with loopBypass := false }, literal "+loop on\n")
  | .loopOff => ({ s with loopBypass := true }, literal "+loop off\n")
  | .pwmset =>
      if s.loopBypass then ({ s with hostDuty := u8 cmd.arg }, literal ("+pwm " ++ toString cmd.arg ++ "\n"))
      else (s, literal "-err\n")
  | .pwmget => (s, literal ("+pwm " ++ toString s.lastDuty ++ "\n"))
  | .rpmget => (s, literal ("+rpm " ++ toString s.lastRpm ++ "\n"))
  | .ping => (s, literal "+pong\n")
  | .none => (s, [])
  | .error => (s, literal "-err\n")

/-- What the drivers answer at the start of a window: the temperature of each
sensor, `none` where the read fails, and the tach edges since the last one. -/
structure Ch32Readings where
  readMc : Nat → Option Int
  ticksDelta : Nat → Nat

/-- The tach edges of a 1 s window as RPM. -/
def Ch32Readings.rpm (inp : Ch32Readings) (slot : Nat) : Nat := u32 (inp.ticksDelta slot * 30)

def ch32Snapshot (cfg : Config) (nowMs : Nat) (inp : Ch32Readings) : InputSnapshot :=
  snapshotOf nowMs
    ((List.range cfg.sensorCount).map (fun i =>
        ⟨(cfg.sensors.slot i).id, SampleKind.tempMc.code, (inp.readMc i).isSome.toNat, (inp.readMc i).getD 0⟩) ++
      (List.range cfg.actuatorCount).map fun i =>
        ⟨(cfg.actuators.slot i).id, SampleKind.tachRpm.code, 1, i32 (inp.rpm i)⟩)

/-- The duties of an output frame: that of the PWM channel, and `duty0`. -/
def ch32Apply (cfg : Config) (out : OutputFrame) (duty : Nat) : Nat × Nat :=
  Loop.fold out.actuatorCmdCount (duty, 0) fun acc i =>
    if dutySlot cfg (out.actuatorCmds.slot i).actuatorId = some 0 then
      ((out.actuatorCmds.slot i).duty, (out.actuatorCmds.slot i).duty)
    else acc

/-- A window of the bypass: the host's duty, and no step. -/
def ch32Bypass (s : Ch32Loop) (inp : Ch32Readings) : Ch32Loop :=
  { s with duty := s.hostDuty, lastDuty := s.hostDuty, lastRpm := inp.rpm 0, phase := .bypass }

/-- A regulating window, up to its wait. -/
def ch32Regulate (cfg : Config) (s : Ch32Loop) (inp : Ch32Readings) : Ch32Loop :=
  let r := thermalCoreStep cfg ch32Callbacks s.core (ch32Snapshot cfg s.nowMs inp) default
  let duties := ch32Apply cfg r.out s.duty
  { s with
    core := r.core
    duty := duties.1
    lastDuty := duties.2
    lastRpm := if 0 < cfg.actuatorCount then inp.rpm 0 else 0
    phase := .hold }

/-- A byte comes in, a poll takes one byte, or the loop goes on.  A poll may end
after any byte here; those of the code end at an empty ring. -/
inductive Ch32Event where
  | receive (b : UInt8) (corrupt : Bool)
  | getc
  | next (inp : Ch32Readings)

/-- What an event shows. -/
structure Ch32Output where
  queued : Option UInt8
  read : Option UInt8
  executed : Option Ch32Command
  text : List UInt8
  stepped : Option InputSnapshot

def ch32Silent : Ch32Output := ⟨none, none, none, [], none⟩

def ch32Getc (s : Ch32Loop) : Ch32Loop × Ch32Output :=
  let g := bspCh32UartGetc s.uart
  match g.2 with
  | none => ({ s with uart := g.1 }, ch32Silent)
  | some b =>
      let f := ch32CommandFeed s.cmdRx b
      let s := { s with uart := g.1, cmdRx := f.1 }
      match f.2 with
      | none => (s, { ch32Silent with read := some b })
      | some cmd =>
          let r := ch32Execute s cmd
          (r.1, { ch32Silent with read := some b, executed := some cmd, text := r.2 })

def ch32Step (cfg : Config) (s : Ch32Loop) : Ch32Event → Ch32Loop × Ch32Output
  | .receive b corrupt =>
      let r := usart1Receive s.uart b corrupt
      ({ s with uart := r.1 }, { ch32Silent with queued := if r.2 then some b else none })
  | .getc => ch32Getc s
  | .next inp =>
      if s.phase = .hold then ({ s with nowMs := u32 (s.nowMs + cfg.controlPeriodMs), phase := .top }, ch32Silent)
      else if s.loopBypass then (ch32Bypass s inp, ch32Silent)
      else (ch32Regulate cfg s inp, { ch32Silent with stepped := some (ch32Snapshot cfg s.nowMs inp) })

/-! ## The receiver is a queue -/

section uart

variable {u : UartRx} {waiting : List UInt8}

/-- The ring holds the bytes that wait. -/
def UartRx.Holds (u : UartRx) (waiting : List UInt8) : Prop := RingQueue.Holds u.ring u.head u.tail waiting

theorem uartNext_eq (i : Nat) : uartNext i = RingQueue.next uartRxRingSz i :=
  Nat.mod_eq_of_lt (Nat.lt_trans (Nat.mod_lt _ (by decide)) (by decide))

/-- A byte is queued unless it is corrupt or 63 wait already. -/
theorem usart1Receive_holds (h : u.Holds waiting) (b : UInt8) (corrupt : Bool) :
    let r := usart1Receive u b corrupt
    (r.2 = true ↔ corrupt = false ∧ waiting.length < 63) ∧
      r.1.Holds (if r.2 then waiting ++ [b] else waiting) := by
  have hfull := RingQueue.Holds.full_iff h
  have hroom : waiting.length < 64 := RingQueue.Holds.room h
  rw [← uartNext_eq] at hfull
  unfold usart1Receive
  cases corrupt with
  | true => simpa using h
  | false =>
      by_cases hnext : uartNext u.head = u.tail
      · have hlen : waiting.length = 63 := hfull.mp hnext
        simpa [hnext, hlen] using h
      · have hlen : waiting.length ≠ 63 := fun heq => hnext (hfull.mpr heq)
        have hpush := RingQueue.Holds.push h (show waiting.length + 1 < 64 by omega) b
        rw [← uartNext_eq] at hpush
        simpa [hnext, show waiting.length < 63 by omega, UartRx.Holds] using hpush

/-- The oldest byte is read. -/
theorem bspCh32UartGetc_holds (h : u.Holds waiting) :
    (bspCh32UartGetc u).2 = waiting.head? ∧ (bspCh32UartGetc u).1.Holds waiting.tail := by
  have hempty := RingQueue.Holds.empty_iff h
  unfold bspCh32UartGetc
  cases waiting with
  | nil => simpa [hempty.mpr rfl] using h
  | cons b waiting =>
      obtain ⟨hslot, hpop⟩ := RingQueue.Holds.pop h
      rw [← uartNext_eq] at hpop
      have hne : ¬u.tail = u.head := fun heq => nomatch hempty.mp heq
      simpa [hne, hslot, UartRx.Holds] using hpop

end uart

/-! ## The console -/

/-- The reply to a command, without the end of its line.  A blank line has none, and
a duty is set in the bypass only. -/
def consoleReply (s : Ch32Loop) (cmd : Ch32Command) : Option String :=
  match cmd.type with
  | .none => none
  | .loopOn => some "+loop on"
  | .loopOff => some "+loop off"
  | .pwmset => some (if s.loopBypass then "+pwm " ++ toString cmd.arg else "-err")
  | .pwmget => some ("+pwm " ++ toString s.lastDuty)
  | .rpmget => some ("+rpm " ++ toString s.lastRpm)
  | .ping => some "+pong"
  | .error => some "-err"

/-- What is written for a reply: one line, with no line feed but its last byte, and
nothing where there is no reply. -/
def Written (text : List UInt8) : Option String → Prop
  | none => text = []
  | some reply => text = literal reply ++ [10] ∧ 10 ∉ literal reply

/-- What an event shows in state `s`: the reply to the command it executes. -/
def Answers (s : Ch32Loop) (o : Ch32Output) : Prop := Written o.text (o.executed.bind (consoleReply s))

/-- The bytes queued are read in order or wait, and the commands executed are those
the receiver made of the bytes read. -/
structure ConsoleInv (s : Ch32Loop) (os : List Ch32Output) : Prop where
  queue : ∃ waiting, os.filterMap Ch32Output.queued = os.filterMap Ch32Output.read ++ waiting ∧
    s.uart.Holds waiting
  cmdRx : s.cmdRx = Machine.after ch32CommandFeed .zeroed (os.filterMap Ch32Output.read)
  executed : os.filterMap Ch32Output.executed =
    (Machine.outputs ch32CommandFeed .zeroed (os.filterMap Ch32Output.read)).filterMap id

section console

variable {cfg : Config} {s : Ch32Loop} {os : List Ch32Output}

/-- A command changes the bypass flag and the host's duty at most. -/
theorem ch32Execute_frame (s : Ch32Loop) (cmd : Ch32Command) :
    ∃ bypass duty, (ch32Execute s cmd).1 = { s with loopBypass := bypass, hostDuty := duty } := by
  unfold ch32Execute
  split
  · exact ⟨false, s.hostDuty, rfl⟩
  · exact ⟨true, s.hostDuty, rfl⟩
  · split_ifs
    · exact ⟨s.loopBypass, u8 cmd.arg, rfl⟩
    · exact ⟨s.loopBypass, s.hostDuty, rfl⟩
  all_goals exact ⟨s.loopBypass, s.hostDuty, rfl⟩

/-- **One poll**: the oldest byte that waits is fed to the receiver. -/
theorem ch32Getc_cases (s : Ch32Loop) {waiting : List UInt8} (h : s.uart.Holds waiting) :
    (waiting = [] ∧ (ch32Getc s).2 = ch32Silent ∧ (ch32Getc s).1.uart.Holds [] ∧
        (ch32Getc s).1.cmdRx = s.cmdRx) ∨
      ∃ b rest, waiting = b :: rest ∧ (ch32Getc s).2.read = some b ∧ (ch32Getc s).1.uart.Holds rest ∧
        (ch32Getc s).1.cmdRx = (ch32CommandFeed s.cmdRx b).1 ∧
        (ch32Getc s).2.executed = (ch32CommandFeed s.cmdRx b).2 ∧ (ch32Getc s).2.queued = none := by
  obtain ⟨hread, hrest⟩ := bspCh32UartGetc_holds h
  unfold ch32Getc
  cases waiting with
  | nil =>
      left
      simpa [hread] using hrest
  | cons b rest =>
      refine Or.inr ⟨b, rest, rfl, ?_⟩
      simp only [hread, List.head?_cons]
      cases (ch32CommandFeed s.cmdRx b).2 with
      | none => exact ⟨rfl, hrest, rfl, rfl, rfl⟩
      | some cmd =>
          obtain ⟨bypass, duty, heq⟩ := ch32Execute_frame
            { s with uart := (bspCh32UartGetc s.uart).1, cmdRx := (ch32CommandFeed s.cmdRx b).1 } cmd
          refine ⟨rfl, ?_, ?_, rfl, rfl⟩
          · simpa [heq] using hrest
          · simp [heq]

theorem filterMap_concat {α β : Type*} (f : α → Option β) (xs : List α) (x : α) :
    (xs ++ [x]).filterMap f = xs.filterMap f ++ (f x).toList := by
  rw [List.filterMap_append]
  cases hx : f x <;> simp [hx]

/-- What shows nothing of the console and leaves the receiver alone keeps the
invariant. -/
theorem ConsoleInv.silent (h : ConsoleInv s os) {s' : Ch32Loop} {o : Ch32Output} (huart : s'.uart = s.uart)
    (hrx : s'.cmdRx = s.cmdRx) (hqueued : o.queued = none) (hread : o.read = none)
    (hexecuted : o.executed = none) : ConsoleInv s' (os ++ [o]) where
  queue := by simpa [filterMap_concat, hqueued, hread, huart] using h.queue
  cmdRx := by simpa [filterMap_concat, hread, hrx] using h.cmdRx
  executed := by simpa [filterMap_concat, hread, hexecuted] using h.executed

theorem ConsoleInv.step (h : ConsoleInv s os) (e : Ch32Event) :
    ConsoleInv (ch32Step cfg s e).1 (os ++ [(ch32Step cfg s e).2]) := by
  obtain ⟨waiting, hqueue, hholds⟩ := h.queue
  cases e with
  | receive b corrupt =>
      obtain ⟨-, hnext⟩ := usart1Receive_holds hholds b corrupt
      have hread : (ch32Step cfg s (.receive b corrupt)).2.read = none := rfl
      have hexecuted : (ch32Step cfg s (.receive b corrupt)).2.executed = none := rfl
      have hrx : (ch32Step cfg s (.receive b corrupt)).1.cmdRx = s.cmdRx := rfl
      refine ⟨⟨_, ?_, hnext⟩, ?_, ?_⟩
      · rw [filterMap_concat, filterMap_concat, hread, hqueue]
        cases hin : (usart1Receive s.uart b corrupt).2 <;> simp [ch32Step, hin]
      · simpa [filterMap_concat, hread, hrx] using h.cmdRx
      · simpa [filterMap_concat, hread, hexecuted] using h.executed
  | getc =>
      show ConsoleInv (ch32Getc s).1 (os ++ [(ch32Getc s).2])
      obtain ⟨rfl, hsilent, hnext, hrx⟩ | ⟨b, rest, rfl, hread, hnext, hrx, hexecuted, hqueued⟩ :=
        ch32Getc_cases s hholds
      · refine ⟨⟨[], ?_, hnext⟩, ?_, ?_⟩
        · simpa [filterMap_concat, hsilent, ch32Silent] using hqueue
        · simpa [filterMap_concat, hsilent, ch32Silent, hrx] using h.cmdRx
        · simpa [filterMap_concat, hsilent, ch32Silent] using h.executed
      · refine ⟨⟨rest, ?_, hnext⟩, ?_, ?_⟩
        · simpa [filterMap_concat, hread, hqueued] using hqueue
        · simpa [filterMap_concat, hread, Machine.after_concat, ← h.cmdRx] using hrx
        · rw [filterMap_concat, filterMap_concat, hread, hexecuted, Option.toList_some, Machine.outputs_concat,
            filterMap_concat, ← h.cmdRx, h.executed]
          rfl
  | next inp =>
      unfold ch32Step
      split_ifs
      · exact h.silent rfl rfl rfl rfl rfl
      · exact h.silent rfl rfl rfl rfl rfl
      · exact h.silent rfl rfl rfl rfl rfl

end console

/-! ## The bypass and the core -/

/-- The calls on the core of a run: its regulating windows. -/
def ch32Calls (os : List Ch32Output) : List Input :=
  (os.filterMap Ch32Output.stepped).map fun snap => .step snap default

/-- The core has run the regulating windows and nothing else, on what the drivers
answered, and its clock counts them. -/
structure LoopInv (cfg : Config) (s : Ch32Loop) (os : List Ch32Output) : Prop where
  core : s.core = Machine.after (call cfg ch32Callbacks) (initCore cfg) (ch32Calls os)
  clock : (os.filterMap Ch32Output.stepped).map InputSnapshot.nowMs =
    (List.range (os.filterMap Ch32Output.stepped).length).map fun k => u32 (k * cfg.controlPeriodMs)
  read : ∀ snap ∈ os.filterMap Ch32Output.stepped, ∃ nowMs inp, snap = ch32Snapshot cfg nowMs inp
  nowMs : ∃ k, s.nowMs = u32 (k * cfg.controlPeriodMs) ∧
    (os.filterMap Ch32Output.stepped).length = if s.phase = .hold then k + 1 else k

section bypass

variable {cfg : Config} {s : Ch32Loop} {os : List Ch32Output}

/-- What steps nothing and leaves the clock alone keeps the invariant. -/
theorem LoopInv.silent (h : LoopInv cfg s os) {s' : Ch32Loop} {o : Ch32Output} (hstepped : o.stepped = none)
    (hcore : s'.core = s.core) (hnow : s'.nowMs = s.nowMs) (hphase : s'.phase = .hold ↔ s.phase = .hold) :
    LoopInv cfg s' (os ++ [o]) where
  core := by simpa [ch32Calls, filterMap_concat, hstepped, hcore] using h.core
  clock := by simpa [filterMap_concat, hstepped] using h.clock
  read := by simpa [filterMap_concat, hstepped] using h.read
  nowMs := by simpa [filterMap_concat, hstepped, hnow, hphase] using h.nowMs

/-- A poll steps nothing. -/
theorem ch32Getc_frame (s : Ch32Loop) :
    (ch32Getc s).2.stepped = none ∧ (ch32Getc s).1.core = s.core ∧ (ch32Getc s).1.nowMs = s.nowMs ∧
      (ch32Getc s).1.phase = s.phase ∧ (ch32Getc s).1.duty = s.duty ∧ (ch32Getc s).1.lastDuty = s.lastDuty := by
  unfold ch32Getc
  dsimp only
  cases (bspCh32UartGetc s.uart).2 with
  | none => exact ⟨rfl, rfl, rfl, rfl, rfl, rfl⟩
  | some b =>
      dsimp only
      cases (ch32CommandFeed s.cmdRx b).2 with
      | none => exact ⟨rfl, rfl, rfl, rfl, rfl, rfl⟩
      | some cmd =>
          obtain ⟨bypass, duty, heq⟩ := ch32Execute_frame
            { s with uart := (bspCh32UartGetc s.uart).1, cmdRx := (ch32CommandFeed s.cmdRx b).1 } cmd
          simp [heq, ch32Silent]

/-- A regulating window is a step of the core at the loop's clock. -/
theorem LoopInv.regulate (h : LoopInv cfg s os) (hphase : ¬s.phase = .hold) (inp : Ch32Readings) :
    LoopInv cfg (ch32Regulate cfg s inp)
      (os ++ [{ ch32Silent with stepped := some (ch32Snapshot cfg s.nowMs inp) }]) := by
  obtain ⟨k, hnow, hcount⟩ := h.nowMs
  rw [if_neg hphase] at hcount
  have hsnap : (ch32Snapshot cfg s.nowMs inp).nowMs = u32 (k * cfg.controlPeriodMs) := hnow
  refine ⟨?_, ?_, ?_, ⟨k, hnow, ?_⟩⟩
  · simp only [ch32Calls, filterMap_concat, Option.toList_some, List.map_append, List.map_singleton,
      Machine.after_concat]
    rw [show (os.filterMap Ch32Output.stepped).map (fun snap => Input.step snap default) = ch32Calls os from rfl,
      ← h.core]
    rfl
  · simp only [filterMap_concat, Option.toList_some, List.map_append, List.map_singleton, List.length_append,
      List.length_singleton, List.range_succ, h.clock, hsnap, hcount]
  · rw [filterMap_concat, Option.toList_some, List.forall_mem_append]
    exact ⟨h.read, List.forall_mem_singleton.mpr ⟨s.nowMs, inp, rfl⟩⟩
  · simp [hcount, ch32Regulate]

/-- The wait of a regulating window ends. -/
theorem LoopInv.next (h : LoopInv cfg s os) (hphase : s.phase = .hold) :
    LoopInv cfg { s with nowMs := u32 (s.nowMs + cfg.controlPeriodMs), phase := .top } (os ++ [ch32Silent]) := by
  obtain ⟨k, hnow, hcount⟩ := h.nowMs
  rw [if_pos hphase] at hcount
  refine ⟨by simpa [ch32Calls, filterMap_concat, ch32Silent] using h.core,
    by simpa [filterMap_concat, ch32Silent] using h.clock, by simpa [filterMap_concat, ch32Silent] using h.read,
    ⟨k + 1, ?_, ?_⟩⟩
  · show u32 (s.nowMs + cfg.controlPeriodMs) = _
    rw [hnow, Nat.succ_mul]
    unfold u32
    omega
  · simpa [filterMap_concat, ch32Silent] using hcount

theorem LoopInv.step (h : LoopInv cfg s os) (e : Ch32Event) :
    LoopInv cfg (ch32Step cfg s e).1 (os ++ [(ch32Step cfg s e).2]) := by
  cases e with
  | receive b corrupt => exact h.silent rfl rfl rfl Iff.rfl
  | getc =>
      obtain ⟨hstepped, hcore, hnow, hphase, -, -⟩ := ch32Getc_frame s
      exact h.silent hstepped hcore hnow (by rw [show (ch32Step cfg s .getc).1 = (ch32Getc s).1 from rfl, hphase])
  | next inp =>
      unfold ch32Step
      split_ifs with hphase hbypass
      · exact h.next hphase
      · exact h.silent rfl rfl rfl (by simp [ch32Bypass, hphase])
      · exact h.regulate hphase inp

theorem loopInv_run (cfg : Config) (is : List Ch32Event) :
    LoopInv cfg (Machine.after (ch32Step cfg) (ch32Boot cfg) is)
      (Machine.outputs (ch32Step cfg) (ch32Boot cfg) is) := by
  induction is using List.reverseRecOn with
  | nil => exact ⟨rfl, rfl, by simp, 0, by simp [ch32Boot, u32], by simp [ch32Boot]⟩
  | append_singleton is e ih =>
      rw [Machine.after_concat, Machine.outputs_concat]
      exact ih.step e

theorem ch32Snapshot_eq (cfg : Config) (nowMs : Nat) (inp : Ch32Readings) :
    ch32Snapshot cfg nowMs inp = snapshotOf nowMs (slotSamples cfg 0 fun
      | .tempMc, i => ⟨(inp.readMc i).isSome.toNat, (inp.readMc i).getD 0⟩
      | .tachRpm, i => ⟨1, i32 (inp.rpm i)⟩
      | .contextI32, _ => default) := by
  simp only [ch32Snapshot, slotSamples, sampleSlots, List.range_zero, List.map_nil, List.append_nil,
    List.map_append, List.map_map]
  rfl

/-- The core takes every snapshot of the loop. -/
theorem ch32Snapshot_admissible (hr : ConfigRules cfg) (nowMs : Nat) (inp : Ch32Readings) :
    Admissible cfg (ch32Snapshot cfg nowMs inp) := by
  rw [ch32Snapshot_eq]
  exact admissible_slotSamples hr (Nat.zero_le _) nowMs

/-- **The bypass is invisible to the core**: in every run, whatever the host sends
and however long it keeps the fan, the core is where the regulating windows alone
have taken it; it took every one of them; and their clock runs on by one period
each, as if no bypass had come between. -/
theorem ch32_bypass_invisible (hcfg : Accepted cfg) (is : List Ch32Event) :
    let s := Machine.after (ch32Step cfg) (ch32Boot cfg) is
    let snaps := (Machine.outputs (ch32Step cfg) (ch32Boot cfg) is).filterMap Ch32Output.stepped
    s.core = Machine.after (call cfg ch32Callbacks) (initCore cfg) (snaps.map fun snap => .step snap default) ∧
      (∀ snap ∈ snaps, Admissible cfg snap) ∧
      snaps.map InputSnapshot.nowMs = (List.range snaps.length).map fun k => u32 (k * cfg.controlPeriodMs) := by
  intro s snaps
  have hinv := loopInv_run cfg is
  refine ⟨hinv.core, fun snap hsnap => ?_, hinv.clock⟩
  obtain ⟨nowMs, inp, rfl⟩ := hinv.read snap hsnap
  exact ch32Snapshot_admissible ((accepted_iff cfg).mp hcfg) nowMs inp

/-- The host takes the fan over for one window and hands it back. -/
def hostSweep : List Ch32Event :=
  let windows := [.next ⟨fun _ => some 75000, fun _ => 30⟩, .next ⟨fun _ => some 75000, fun _ => 30⟩]
  let line (text : String) := (literal text).flatMap fun b => [Ch32Event.receive b false, .getc]
  windows ++ line "loop off\n" ++ line "pwmset 255\n" ++ windows ++ line "loop on\n" ++ windows

theorem ch32_bypass_invisible_hostSweep :
    ((Machine.outputs (ch32Step oneFanConfig) (ch32Boot oneFanConfig) hostSweep).filterMap
      Ch32Output.stepped).map InputSnapshot.nowMs = [0, 100] := by
  rw [(ch32_bypass_invisible accepted_oneFanConfig hostSweep).2.2]
  decide +kernel

end bypass

/-! ## The fan -/

/-- What is published is the duty of the fan, and outside a bypass it is the one the
core has given it. -/
structure DutyInv (s : Ch32Loop) : Prop where
  published : s.lastDuty = s.duty
  regulated : s.phase ≠ .bypass → s.duty = (s.core.actuators.slot 0).prevDuty

section fan

variable {cfg : Config} {s : Ch32Loop}

/-- The duty a regulating window applies. -/
theorem ch32Apply_step (hr : ConfigRules cfg) (hcount : 0 < cfg.actuatorCount) {core : Core}
    {snap : InputSnapshot} (hin : Admissible cfg snap) (duty : Nat) :
    let r := thermalCoreStep cfg ch32Callbacks core snap default
    ch32Apply cfg r.out duty = ((r.core.actuators.slot 0).prevDuty, (r.core.actuators.slot 0).prevDuty) := by
  intro r
  obtain ⟨hn, hcommands⟩ := @commands_of_step cfg hr ch32Callbacks core snap default hin
  have hslot (a : Nat) (ha : a < cfg.actuatorCount) :
      dutySlot cfg (r.out.actuatorCmds.slot a).actuatorId = some a := (hcommands a ha).1
  have hduty : (r.out.actuatorCmds.slot 0).duty = (r.core.actuators.slot 0).prevDuty := (hcommands 0 hcount).2
  rw [← hduty, ch32Apply, hn]
  -- the first command sets both, the others are for other slots
  obtain ⟨n, hn⟩ := Nat.exists_eq_add_of_lt hcount
  rw [Nat.zero_add] at hn
  rw [hn]
  refine Loop.fold_induct (fun i acc => 0 < i → acc = _) (fun h => absurd h (Nat.lt_irrefl 0))
    (fun i acc hi ih _ => ?_) (Nat.succ_pos n)
  rw [hslot i (hn ▸ hi)]
  cases i with
  | zero => rfl
  | succ i => simpa using ih (Nat.succ_pos i)

theorem dutyInv_boot (hr : ConfigRules cfg) (hcount : 0 < cfg.actuatorCount) : DutyInv (ch32Boot cfg) where
  published := rfl
  regulated _ := by
    have hinit : (initCore cfg).actuators.slot 0 = initActuator (cfg.actuators.slot 0) :=
      Vector.slot_forSlots_lt _ _ hr.actuatorCount_le hcount
    show 0 = ((initCore cfg).actuators.slot 0).prevDuty
    rw [hinit]
    rfl

theorem DutyInv.step (hr : ConfigRules cfg) (hcount : 0 < cfg.actuatorCount) (h : DutyInv s) (e : Ch32Event) :
    DutyInv (ch32Step cfg s e).1 := by
  cases e with
  | receive b corrupt => exact ⟨h.published, h.regulated⟩
  | getc =>
      obtain ⟨-, hcore, -, hphase, hduty, hlast⟩ := ch32Getc_frame s
      show DutyInv (ch32Getc s).1
      exact ⟨by rw [hduty, hlast, h.published], by rw [hphase, hduty, hcore]; exact h.regulated⟩
  | next inp =>
      unfold ch32Step
      split_ifs with hphase hbypass
      · exact ⟨h.published, fun _ => h.regulated (by simp [hphase])⟩
      · exact ⟨rfl, fun hno => absurd rfl hno⟩
      · have happly : ch32Apply cfg (thermalCoreStep cfg ch32Callbacks s.core (ch32Snapshot cfg s.nowMs inp)
            default).out s.duty = _ :=
          ch32Apply_step hr hcount (ch32Snapshot_admissible hr s.nowMs inp) s.duty
        constructor
        · show (ch32Apply _ _ _).2 = (ch32Apply _ _ _).1
          rw [happly]
        · intro _
          show (ch32Apply _ _ _).1 = _
          rw [happly]
          rfl

/-- **Who holds the fan**: in every state of every run `pwmget` answers the duty the
fan runs at; and outside a window of the bypass, whatever commands have come in,
that is the duty the core has last decided, and no more than `pwm_max`. -/
theorem ch32_fan_owner (hcfg : Accepted cfg) (hcount : 0 < cfg.actuatorCount) (is : List Ch32Event) :
    let s := Machine.after (ch32Step cfg) (ch32Boot cfg) is
    (∀ arg, (ch32Execute s ⟨.pwmget, arg⟩).2 = literal ("+pwm " ++ toString s.duty ++ "\n")) ∧
      (s.phase ≠ .bypass → s.duty = (s.core.actuators.slot 0).prevDuty ∧ s.duty ≤ (cfg.actuators.slot 0).pwmMax) := by
  intro s
  have hr := (accepted_iff cfg).mp hcfg
  have hinv : DutyInv s :=
    Machine.after_invariant (fun _ e h => h.step hr hcount e) (dutyInv_boot hr hcount) is
  have hcore : Reachable cfg ch32Callbacks s.core := by
    rw [(loopInv_run cfg is).core]
    exact Machine.Reachable.run Reachable.init _
  refine ⟨fun _ => ?_, fun hphase => ?_⟩
  · rw [← hinv.published]
    rfl
  · rw [hinv.regulated hphase]
    exact ⟨rfl, (reachable_actuatorInv hr hcore hcount).duty_le⟩

/-- The sweep drives the fan to 255; the core keeps it at its 200. -/
theorem ch32_fan_owner_hostSweep :
    let s := Machine.after (ch32Step oneFanConfig) (ch32Boot oneFanConfig) hostSweep
    s.phase ≠ .bypass ∧ s.duty ≤ 200 := by
  have howner := ch32_fan_owner accepted_oneFanConfig (show 0 < 1 by decide) hostSweep
  have hphase : (Machine.after (ch32Step oneFanConfig) (ch32Boot oneFanConfig) hostSweep).phase ≠ .bypass := by
    decide +kernel
  exact ⟨hphase, (howner.2 hphase).2⟩

end fan

end ThermalCore
