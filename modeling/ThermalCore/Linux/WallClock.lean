import ThermalCore.Lib.Machine
import ThermalCore.Lib.MachineInt

/-!
# The wall clock

`wall_clock_init` and `wall_clock_next` of `thermalcored.c`.  The kernel is what it
answers in one turn: the sleeps a signal cut short, whether the daemon still runs
after them, and the time when the last one ended.

Deadlines are nanoseconds in 64 bits, the time handed to the core is a `uint32_t` of
milliseconds.  A deadline is the one before it plus the period, whenever the daemon
woke, so ticks do not drift; `wall_clock_ticks` says so of every run whose deadlines
fit in the 64 bits.
-/

namespace ThermalCore

open MachineInt

/-! ## The clock -/

/-- `struct timespec`. -/
structure Timespec where
  sec : Nat
  nsec : Nat
deriving DecidableEq

/-- `timespec_to_ns`. -/
def timespecToNs (t : Timespec) : Nat := u64 (t.sec * 1000000000 + t.nsec)

/-- `ns_to_timespec`. -/
def nsToTimespec (ns : Nat) : Timespec := ⟨ns / 1000000000, ns % 1000000000⟩

/-- `wall_clock_overrun_threshold`: a tenth of the period, no less than five milliseconds. -/
def wallClockOverrunThreshold (periodNs : Nat) : Nat :=
  let threshold := periodNs / 10
  if threshold < 5000000 then 5000000 else threshold

/-- `ns_to_ms_ceil_sat`: rounded up, saturating at 32 bits. -/
def nsToMsCeilSat (ns : Nat) : Nat :=
  let ms := u64 (ns + 999999) / 1000000
  if ms > 0xffffffff then 0xffffffff else ms

/-- `g_t0`, `g_period_ns`, `g_next_deadline_ns` and `g_overrun_threshold_ns`. -/
structure WallClock where
  t0 : Timespec
  periodNs : Nat
  nextDeadlineNs : Nat
  overrunThresholdNs : Nat
deriving DecidableEq

/-- `wall_clock_init`: the first deadline is one period away. -/
def wallClockInit (t0 : Timespec) (periodMs : Nat) : WallClock :=
  let periodNs := periodMs * 1000000
  { t0 := t0
    periodNs := periodNs
    nextDeadlineNs := u64 (timespecToNs t0 + periodNs)
    overrunThresholdNs := wallClockOverrunThreshold periodNs }

/-- `wall_clock_diag_t`. -/
structure WallClockDiag where
  overrun : Bool
  lateMs : Nat
  behindTicks : Nat
  thresholdMs : Nat
deriving DecidableEq

/-- One turn of the loop as the kernel answers it: `g_running` after each sleep that
a signal cut short and after the one that ran to its end, and the time then, if
`clock_gettime` gives it. -/
structure ClockTurn where
  interrupted : List Bool
  running : Bool
  woke : Option Timespec

/-- The turn is not the loop's last. -/
def ClockTurn.goesOn (turn : ClockTurn) : Bool := turn.interrupted.all id && turn.running

/-- What a turn hands to the loop. -/
structure ClockTick where
  nowMs : Nat
  diag : WallClockDiag
deriving DecidableEq

/-- What `wall_clock_next` writes to `diag`. -/
def WallClock.diag (c : WallClock) (woke : Option Timespec) : WallClockDiag :=
  let diag : WallClockDiag := ⟨false, 0, 0, nsToMsCeilSat c.overrunThresholdNs⟩
  match woke with
  | none => diag
  | some actual =>
      let actualNs := timespecToNs actual
      let lateNs := actualNs - c.nextDeadlineNs
      if actualNs > c.nextDeadlineNs ∧ lateNs > c.overrunThresholdNs then
        let behind := if c.periodNs > 0 then lateNs / c.periodNs else 0
        { diag with
          overrun := true
          lateMs := nsToMsCeilSat lateNs
          behindTicks := if behind > 0xffffffff then 0xffffffff else behind }
      else diag

/-- What `clock_nanosleep` is asked for. -/
def WallClock.sleepUntil (c : WallClock) : Timespec := nsToTimespec c.nextDeadlineNs

/-- No tick when the daemon is stopped in its sleep. -/
def wallClockNext (c : WallClock) (turn : ClockTurn) : WallClock × Option ClockTick :=
  if turn.goesOn = false then (c, none)
  else
    let relNs := subU64 c.nextDeadlineNs (timespecToNs c.t0)
    ({ c with nextDeadlineNs := u64 (c.nextDeadlineNs + c.periodNs) },
      some ⟨u32 (relNs / 1000000), c.diag turn.woke⟩)

/-! ## Ticks in time -/

section run

variable {t0 : Timespec} {periodMs : Nat}

/-- When tick `n` is due. -/
def dueNs (t0 : Timespec) (periodMs n : Nat) : Nat := timespecToNs t0 + (n + 1) * periodMs * 1000000

/-- What the daemon may know of tick `n`: its number and when the daemon woke for it. -/
structure ClockTick.Shows (t0 : Timespec) (periodMs n : Nat) (woke : Option Timespec) (tick : ClockTick) :
    Prop where
  /-- The core's clock counts periods, however late the daemon wakes. -/
  nowMs : tick.nowMs = u32 ((n + 1) * periodMs)
  overrun : tick.diag.overrun = true ↔
    ∃ t, woke = some t ∧ dueNs t0 periodMs n + max (periodMs * 100000) 5000000 < timespecToNs t
  /-- The milliseconds begun since it was due, and the ticks that fell due after it. -/
  report : tick.diag.overrun = true → ∀ t, woke = some t → ∃ ms ticks,
    tick.diag.lateMs = min ms 0xffffffff ∧
    dueNs t0 periodMs n + ms * 1000000 < timespecToNs t + 1000000 ∧
    timespecToNs t ≤ dueNs t0 periodMs n + ms * 1000000 ∧
    tick.diag.behindTicks = min ticks 0xffffffff ∧
    dueNs t0 periodMs (n + ticks) ≤ timespecToNs t ∧
    timespecToNs t < dueNs t0 periodMs (n + ticks + 1)
  quiet : tick.diag.overrun = false → tick.diag.lateMs = 0 ∧ tick.diag.behindTicks = 0

/-- Deadlines are whole periods apart. -/
theorem dueNs_add (n k : Nat) : dueNs t0 periodMs (n + k) = dueNs t0 periodMs n + k * (periodMs * 1000000) := by
  unfold dueNs
  ring

/-- A time in 64 bits survives the conversion. -/
theorem timespecToNs_nsToTimespec {ns : Nat} (h : ns < 2 ^ 64) : timespecToNs (nsToTimespec ns) = ns := by
  unfold timespecToNs nsToTimespec
  rw [Nat.div_add_mod' ns 1000000000, u64_of_lt h]

/-- The clock before tick `n`. -/
def clockAt (t0 : Timespec) (periodMs n : Nat) : WallClock :=
  { wallClockInit t0 periodMs with nextDeadlineNs := u64 (dueNs t0 periodMs n) }

/-- The clock before its first turn. -/
theorem clockAt_zero : clockAt t0 periodMs 0 = wallClockInit t0 periodMs := by
  simp [clockAt, wallClockInit, dueNs]

/-- A turn moves the deadline by one period, or not at all when the daemon stops. -/
theorem wallClockNext_clockAt (n : Nat) (turn : ClockTurn) :
    (wallClockNext (clockAt t0 periodMs n) turn).1 = clockAt t0 periodMs (n + if turn.goesOn then 1 else 0) := by
  unfold wallClockNext
  cases turn.goesOn with
  | false => rfl
  | true =>
      have hnext : u64 (u64 (dueNs t0 periodMs n) + periodMs * 1000000) = u64 (dueNs t0 periodMs (n + 1)) := by
        rw [dueNs_add, Nat.one_mul]
        exact Nat.mod_add_mod ..
      simpa [clockAt, wallClockInit] using hnext

/-- Every turn the daemon survives is a tick. -/
theorem after_wallClockNext (turns : List ClockTurn) :
    Machine.after wallClockNext (wallClockInit t0 periodMs) turns =
      clockAt t0 periodMs (turns.countP ClockTurn.goesOn) := by
  have hfrom (n : Nat) : Machine.after wallClockNext (clockAt t0 periodMs n) turns =
      clockAt t0 periodMs (n + turns.countP ClockTurn.goesOn) := by
    induction turns generalizing n with
    | nil => rfl
    | cons turn turns ih =>
        rw [Machine.after_cons, wallClockNext_clockAt, ih, List.countP_cons, Nat.add_assoc,
          Nat.add_comm (turns.countP _)]
  rw [← clockAt_zero, hfrom, Nat.zero_add]

/-- The threshold of `wall_clock_init`. -/
theorem wallClockOverrunThreshold_eq (periodMs : Nat) :
    wallClockOverrunThreshold (periodMs * 1000000) = max (periodMs * 100000) 5000000 := by
  unfold wallClockOverrunThreshold
  dsimp only
  split <;> omega

/-- Sixty-four bits of nanoseconds hold more than 500 years. -/
theorem diag_of_woke {n : Nat} {t : Timespec} (hperiod : 0 < periodMs) (hdue : dueNs t0 periodMs n < 2 ^ 64)
    (hnow : timespecToNs t + 999999 < 2 ^ 64) :
    let lateNs := timespecToNs t - dueNs t0 periodMs n
    let diag := (clockAt t0 periodMs n).diag (some t)
    (max (periodMs * 100000) 5000000 < lateNs ∧ diag.overrun = true ∧
        diag.lateMs = min ((lateNs + 999999) / 1000000) 0xffffffff ∧
        diag.behindTicks = min (lateNs / (periodMs * 1000000)) 0xffffffff) ∨
      (lateNs ≤ max (periodMs * 100000) 5000000 ∧ diag.overrun = false ∧ diag.lateMs = 0 ∧ diag.behindTicks = 0) := by
  intro lateNs diag
  have hceil : u64 (lateNs + 999999) = lateNs + 999999 := u64_of_lt (by omega)
  have hpos : 0 < periodMs * 1000000 := by omega
  have hdiag : diag = if timespecToNs t > dueNs t0 periodMs n ∧ lateNs > max (periodMs * 100000) 5000000 then
      { overrun := true
        lateMs := nsToMsCeilSat lateNs
        behindTicks := if lateNs / (periodMs * 1000000) > 0xffffffff then 0xffffffff
          else lateNs / (periodMs * 1000000)
        thresholdMs := nsToMsCeilSat (max (periodMs * 100000) 5000000) }
      else ⟨false, 0, 0, nsToMsCeilSat (max (periodMs * 100000) 5000000)⟩ := by
    simp only [diag, lateNs, WallClock.diag, clockAt, wallClockInit, u64_of_lt hdue, wallClockOverrunThreshold_eq,
      if_pos hpos]
  rw [hdiag]
  by_cases hlate : max (periodMs * 100000) 5000000 < lateNs
  · have hafter : timespecToNs t > dueNs t0 periodMs n := by omega
    rw [if_pos ⟨hafter, hlate⟩]
    refine .inl ⟨hlate, rfl, ?_, ?_⟩
    · simp only [nsToMsCeilSat, hceil]
      split <;> omega
    · dsimp only
      split <;> omega
  · rw [if_neg fun h => hlate h.2]
    exact .inr ⟨Nat.le_of_not_lt hlate, rfl, rfl, rfl⟩

/-- What a tick shows when its deadline fits in the 64 bits. -/
theorem shows_of_woke {n : Nat} {woke : Option Timespec} (hperiod : 0 < periodMs)
    (hdue : dueNs t0 periodMs n < 2 ^ 64) (hnow : ∀ t, woke = some t → timespecToNs t + 999999 < 2 ^ 64) :
    ClockTick.Shows t0 periodMs n woke
      ⟨u32 (subU64 (clockAt t0 periodMs n).nextDeadlineNs (timespecToNs t0) / 1000000),
        (clockAt t0 periodMs n).diag woke⟩ := by
  have hrel : subU64 (clockAt t0 periodMs n).nextDeadlineNs (timespecToNs t0) = (n + 1) * periodMs * 1000000 := by
    show subU64 (u64 (dueNs t0 periodMs n)) (timespecToNs t0) = _
    rw [u64_of_lt hdue]
    exact subU64_add_left hdue
  have hms : u32 (subU64 (clockAt t0 periodMs n).nextDeadlineNs (timespecToNs t0) / 1000000) =
      u32 ((n + 1) * periodMs) := by
    rw [hrel, Nat.mul_div_cancel _ (by decide)]
  cases woke with
  | none => exact ⟨hms, by simp [WallClock.diag], by simp [WallClock.diag], fun _ => ⟨rfl, rfl⟩⟩
  | some t =>
      have hsteps (k : Nat) := @dueNs_add t0 periodMs n k
      obtain ⟨hlate, hover, hlateMs, hbehind⟩ | ⟨hprompt, hover, hquiet⟩ :=
        diag_of_woke hperiod hdue (hnow t rfl)
      · refine ⟨hms, ⟨fun _ => ⟨t, rfl, by omega⟩, fun _ => hover⟩, ?_, ?_⟩
        · rintro - t' ⟨⟩
          have hdiv := Nat.div_add_mod' (timespecToNs t - dueNs t0 periodMs n) (periodMs * 1000000)
          have hmod := Nat.mod_lt (timespecToNs t - dueNs t0 periodMs n) (show 0 < periodMs * 1000000 by omega)
          refine ⟨_, _, hlateMs, by omega, by omega, hbehind, ?_, ?_⟩
          · rw [hsteps]
            omega
          · rw [Nat.add_assoc, hsteps, Nat.succ_mul]
            omega
        · intro hfalse
          rw [hover] at hfalse
          cases hfalse
      · refine ⟨hms, ?_, ?_, fun _ => hquiet⟩
        · dsimp only
          rw [hover]
          simp only [Bool.false_eq_true, false_iff]
          rintro ⟨t', ⟨⟩, hlate⟩
          omega
        · intro htrue
          rw [hover] at htrue
          cases htrue

/-- **The wall clock**, as long as the times in nanoseconds fit in 64 bits: in every run
tick `n` is slept for until `n + 1` periods after the start and shows that time on the
32-bit clock of milliseconds, and it reports how late the daemon woke when that is more
than a tenth of the period and more than 5 ms. -/
theorem wall_clock_ticks (hperiod : 0 < periodMs) (turns : List ClockTurn) (turn : ClockTurn)
    (hdue : dueNs t0 periodMs (turns.countP ClockTurn.goesOn) < 2 ^ 64)
    (hnow : ∀ t, turn.woke = some t → timespecToNs t + 999999 < 2 ^ 64) :
    let c := Machine.after wallClockNext (wallClockInit t0 periodMs) turns
    timespecToNs c.sleepUntil = dueNs t0 periodMs (turns.countP ClockTurn.goesOn) ∧
      (wallClockNext c turn).2.isSome = turn.goesOn ∧
      ∀ tick, (wallClockNext c turn).2 = some tick →
        tick.Shows t0 periodMs (turns.countP ClockTurn.goesOn) turn.woke := by
  intro c
  have hc : c = clockAt t0 periodMs (turns.countP ClockTurn.goesOn) := after_wallClockNext turns
  rw [hc]
  refine ⟨?_, ?_, ?_⟩
  · unfold WallClock.sleepUntil
    rw [show (clockAt t0 periodMs _).nextDeadlineNs = _ from u64_of_lt hdue, timespecToNs_nsToTimespec hdue]
  · unfold wallClockNext
    cases turn.goesOn <;> rfl
  · intro tick htick
    unfold wallClockNext at htick
    cases hgoes : turn.goesOn with
    | false =>
        rw [hgoes] at htick
        cases htick
    | true =>
        rw [hgoes] at htick
        cases htick
        exact shows_of_woke hperiod hdue hnow

/-- Two turns with a period of a second, of which a signal interrupts one, and a third that
wakes two and a half seconds late. -/
theorem wall_clock_ticks_late :
    let turns : List ClockTurn := [⟨[], true, none⟩, ⟨[true], true, some ⟨12, 0⟩⟩]
    let c := Machine.after wallClockNext (wallClockInit ⟨10, 0⟩ 1000) turns
    timespecToNs c.sleepUntil = dueNs ⟨10, 0⟩ 1000 2 ∧
      (wallClockNext c ⟨[], true, some ⟨15, 500000000⟩⟩).2.isSome = true ∧
      ∀ tick, (wallClockNext c ⟨[], true, some ⟨15, 500000000⟩⟩).2 = some tick →
        tick.Shows ⟨10, 0⟩ 1000 2 (some ⟨15, 500000000⟩) :=
  wall_clock_ticks (by decide) [⟨[], true, none⟩, ⟨[true], true, some ⟨12, 0⟩⟩]
    ⟨[], true, some ⟨15, 500000000⟩⟩ (by simp [dueNs, timespecToNs, u64, ClockTurn.goesOn])
    (by simp [timespecToNs, u64])

end run

end ThermalCore
