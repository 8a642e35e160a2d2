import Mathlib.Data.List.Induction
import ThermalCore.Accepted
import ThermalCore.Linux.SocketCan

/-!
# Freshness of the CAN context

Sequences of received frames and reads on the binding the daemon sets up.  The
time of an event is the real one, of which the BSP sees the low 32 bits.  The
configured timeout is a `uint32_t`, the BSP's a `uint16_t` in which zero means
that a value never goes stale.

`Caches` ties the state to the last matching frame of the sequence.  Freshness then is
a comparison of two times modulo 2^32 with a timeout modulo 2^16, and it is honoured
exactly for the configured timeouts that survive the cut.
-/

namespace ThermalCore

open MachineInt Check

/-! ## Sequences of events -/

/-- A frame off the bus, or a read of the cached value, each with its real time. -/
inductive CanEvent where
  | frame (atMs : Nat) (f : CanFrame)
  | read (atMs : Nat)
deriving DecidableEq

/-- The real time of an event. -/
def CanEvent.atMs : CanEvent → Nat
  | .frame atMs _ => atMs
  | .read atMs => atMs

/-- A read leaves the state as it is. -/
def SocketcanState.after (state : SocketcanState) (events : List CanEvent) : SocketcanState :=
  events.foldl (fun state e =>
    match e with
    | .frame atMs f => bspSocketcanHandleFrame state f (u32 atMs)
    | .read _ => state) state

/-- The frame is the ECU's response and decodes. -/
def CanFrame.matchesPid (f : CanFrame) (pid : UInt8) : Bool :=
  decide (f.canId = obd2ResponseIdEcu) && (obd2DecodeResponseByte f.data pid).isOk

/-- A frame that carries a value of the parameter. -/
def CanEvent.matchesPid (pid : UInt8) : CanEvent → Bool
  | .frame _ f => f.matchesPid pid
  | .read _ => false

/-- The time of the last matching response. -/
def lastMatchMs (pid : UInt8) (events : List CanEvent) : Option Nat :=
  ((events.filter (CanEvent.matchesPid pid)).map CanEvent.atMs).getLast?

/-- The sample read at `t` is valid exactly when a matching response was decoded
at most `timeoutMs` before. -/
def FreshnessHonoured (state : SocketcanState) (timeoutMs : Nat) : Prop :=
  ∀ (events : List CanEvent) (t sampleId : Nat),
    (events.map CanEvent.atMs ++ [t]).Pairwise (· ≤ ·) →
    (∀ u ∈ lastMatchMs state.expectedPid events, t - u < 2 ^ 32) →
    ((bspSocketcanReadIntoSample (state.after events) sampleId (u32 t)).valid = 1 ↔
      ∃ e ∈ events, e.matchesPid state.expectedPid = true ∧ t ≤ e.atMs + timeoutMs)

/-! ## The state after a sequence -/

/-- One more event. -/
theorem SocketcanState.after_concat (state : SocketcanState) (events : List CanEvent) (e : CanEvent) :
    state.after (events ++ [e]) = (state.after events).after [e] := by
  simp [SocketcanState.after]

/-- A frame without a value of the parameter changes nothing. -/
theorem bspSocketcanHandleFrame_of_not_matches {state : SocketcanState} {f : CanFrame} {nowMs : Nat}
    (h : f.matchesPid state.expectedPid = false) : bspSocketcanHandleFrame state f nowMs = state := by
  unfold CanFrame.matchesPid at h
  unfold bspSocketcanHandleFrame
  split
  · rfl
  · next hid =>
      rw [decide_eq_true (not_not.mp hid), Bool.true_and] at h
      split
      · rfl
      · next hok =>
          rw [hok] at h
          cases h

/-- A frame with a value of the parameter sets the time stamp and the flag. -/
theorem bspSocketcanHandleFrame_of_matches {state : SocketcanState} {f : CanFrame} (nowMs : Nat)
    (h : f.matchesPid state.expectedPid = true) :
    (bspSocketcanHandleFrame state f nowMs).lastValueMs = nowMs ∧
      (bspSocketcanHandleFrame state f nowMs).everReceived = true := by
  unfold CanFrame.matchesPid at h
  rw [Bool.and_eq_true, decide_eq_true_eq] at h
  unfold bspSocketcanHandleFrame
  rw [if_neg (not_not.mpr h.1)]
  split
  · next herror =>
      rw [herror] at h
      cases h.2
  · exact ⟨rfl, rfl⟩

/-- A frame does not touch timeout and parameter. -/
theorem bspSocketcanHandleFrame_frame (state : SocketcanState) (f : CanFrame) (nowMs : Nat) :
    (bspSocketcanHandleFrame state f nowMs).timeoutMs = state.timeoutMs ∧
      (bspSocketcanHandleFrame state f nowMs).expectedPid = state.expectedPid := by
  unfold bspSocketcanHandleFrame
  split
  · exact ⟨rfl, rfl⟩
  · split <;> exact ⟨rfl, rfl⟩

/-- The state carries the time of the last matching response. -/
structure Caches (state : SocketcanState) (timeoutMs : Nat) (pid : UInt8) (last : Option Nat) : Prop where
  timeoutMs : state.timeoutMs = timeoutMs
  expectedPid : state.expectedPid = pid
  everReceived : state.everReceived = last.isSome
  lastValueMs : ∀ u ∈ last, state.lastValueMs = u32 u

/-- The last value after one more event. -/
theorem lastMatchMs_concat (pid : UInt8) (events : List CanEvent) (e : CanEvent) :
    lastMatchMs pid (events ++ [e]) =
      if e.matchesPid pid = true then some e.atMs else lastMatchMs pid events := by
  unfold lastMatchMs
  rw [List.filter_append]
  split
  · next h => simp [h]
  · next h => simp [h]

/-- **The cache after any events**: the last value's time, in the low 32 bits. -/
theorem caches_after (timeoutMs : Nat) (pid : UInt8) (events : List CanEvent) :
    Caches ((bspSocketcanStateInit timeoutMs pid).after events) timeoutMs pid
      (lastMatchMs pid events) := by
  induction events using List.reverseRecOn with
  | nil => exact ⟨rfl, rfl, rfl, fun u hu => by cases hu⟩
  | append_singleton events e ih =>
      rw [SocketcanState.after_concat, lastMatchMs_concat]
      generalize (bspSocketcanStateInit timeoutMs pid).after events = state at ih ⊢
      cases e with
      | read atMs => exact ih
      | frame atMs f =>
          have hframe := bspSocketcanHandleFrame_frame state f (u32 atMs)
          rw [ih.timeoutMs, ih.expectedPid] at hframe
          cases hmatch : f.matchesPid pid with
          | false =>
              rw [← ih.expectedPid] at hmatch
              have hsame : state.after [.frame atMs f] = state :=
                bspSocketcanHandleFrame_of_not_matches hmatch
              rw [hsame, if_neg (by rw [← ih.expectedPid]; simpa [CanEvent.matchesPid] using hmatch)]
              exact ih
          | true =>
              rw [← ih.expectedPid] at hmatch
              obtain ⟨hlast, hever⟩ := bspSocketcanHandleFrame_of_matches (u32 atMs) hmatch
              rw [if_pos (by rw [← ih.expectedPid]; exact hmatch)]
              refine ⟨hframe.1, hframe.2, hever, fun u hu => ?_⟩
              cases hu
              exact hlast

/-! ## Reading -/

/-- The sample of a state that has cached the response of time `u`. -/
theorem read_valid_iff {state : SocketcanState} {timeoutMs : Nat} {pid : UInt8} {last : Option Nat}
    (h : Caches state timeoutMs pid last) (sampleId : Nat) {t : Nat} (hle : ∀ u ∈ last, u ≤ t)
    (hperiod : ∀ u ∈ last, t - u < 2 ^ 32) :
    (bspSocketcanReadIntoSample state sampleId (u32 t)).valid = 1 ↔
      ∃ u ∈ last, timeoutMs = 0 ∨ t ≤ u + timeoutMs := by
  unfold bspSocketcanReadIntoSample
  rw [h.everReceived, h.timeoutMs]
  cases last with
  | none => simp
  | some u =>
      have hu := hle u rfl
      have hlt := hperiod u rfl
      have hage : subU32 (u32 t) state.lastValueMs = t - u := by
        rw [h.lastValueMs u rfl]
        unfold subU32 toU32 u32
        omega
      rw [Option.isSome_some, if_neg Bool.noConfusion, hage]
      dsimp only
      split
      · next hstale =>
          simp
          omega
      · next hfresh =>
          simp
          omega

/-- Some matching response is recent exactly when the last one is. -/
theorem recent_iff_last {pid : UInt8} {events : List CanEvent} {t : Nat} {p : Nat → Prop}
    (hsorted : (events.map CanEvent.atMs ++ [t]).Pairwise (· ≤ ·)) (hp : ∀ u v, u ≤ v → p u → p v) :
    (∃ e ∈ events, e.matchesPid pid = true ∧ p e.atMs) ↔ ∃ u ∈ lastMatchMs pid events, p u := by
  induction events using List.reverseRecOn with
  | nil => simp [lastMatchMs]
  | append_singleton events e ih =>
      rw [List.map_append, List.append_assoc, List.pairwise_append] at hsorted
      obtain ⟨hevents, htail, hcross⟩ := hsorted
      have hbefore : ∀ e' ∈ events, e'.atMs ≤ e.atMs := fun e' he' =>
        hcross _ (List.mem_map_of_mem he') _ (by simp)
      have hread : (events.map CanEvent.atMs ++ [t]).Pairwise (· ≤ ·) := by
        refine List.pairwise_append.mpr ⟨hevents, List.pairwise_singleton _ _, fun u hu v hv => ?_⟩
        exact hcross u hu v (List.mem_append_right _ hv)
      have hconcat : (∃ e' ∈ events ++ [e], e'.matchesPid pid = true ∧ p e'.atMs) ↔
          (∃ e' ∈ events, e'.matchesPid pid = true ∧ p e'.atMs) ∨
            e.matchesPid pid = true ∧ p e.atMs := by
        simp [or_and_right, exists_or]
      rw [hconcat, lastMatchMs_concat]
      split
      · next hmatch =>
          have hlast : (∃ u ∈ some e.atMs, p u) ↔ p e.atMs := by simp
          rw [hlast]
          constructor
          · rintro (⟨e', he', -, hpe⟩ | ⟨-, hpe⟩)
            · exact hp _ _ (hbefore e' he') hpe
            · exact hpe
          · exact fun hpe => Or.inr ⟨hmatch, hpe⟩
      · next hother =>
          rw [← ih hread]
          exact or_iff_left fun h => hother h.1

/-- The last value is no later than the read. -/
theorem lastMatchMs_le {pid : UInt8} {events : List CanEvent} {t : Nat}
    (hsorted : (events.map CanEvent.atMs ++ [t]).Pairwise (· ≤ ·)) :
    ∀ u ∈ lastMatchMs pid events, u ≤ t := by
  intro u hu
  obtain ⟨e, he, rfl⟩ := List.mem_map.mp (List.mem_of_getLast? hu)
  exact (List.pairwise_append.mp hsorted).2.2 _ (List.mem_map_of_mem (List.mem_of_mem_filter he)) t
    (List.mem_singleton_self t)

/-! ## The binding of the daemon -/

/-- What the daemon binds: the configured timeout, cut to 16 bits. -/
theorem canbusSetup_state {cfg : Config} {runtime : RuntimeContexts}
    {bspSocketcanOpen : List Char → Option Int} {n : Nat} {b : CanbusBinding}
    (h : canbusSetup cfg runtime bspSocketcanOpen n = some (some b)) :
    b.contextSlot < n ∧
      b.state = bspSocketcanStateInit (u16 (cfg.contexts.slot b.contextSlot).timeoutMs)
        obd2PidVehicleSpeed := by
  induction n with
  | zero => cases h
  | succ i ih =>
      unfold canbusSetup at h
      rw [Option.bind_eq_bind, Option.bind_eq_some_iff] at h
      obtain ⟨bound, hbound, h⟩ := h
      split at h
      · split at h
        · cases h
        · rw [Option.bind_eq_bind, Option.bind_eq_some_iff] at h
          obtain ⟨fd, -, h⟩ := h
          cases h
          exact ⟨Nat.lt_succ_self i, rfl⟩
      · cases h
        obtain ⟨hlt, hstate⟩ := ih hbound
        exact ⟨Nat.lt_succ_of_lt hlt, hstate⟩

/-- A response of vehicle speed zero. -/
def speedResponse : CanFrame := ⟨0x7E8, [0x03, 0x41, 0x0D, 0, 0x55, 0x55, 0x55, 0x55]⟩

/-- A timeout below 2^16 ms is honoured. -/
theorem freshnessHonoured_of_lt {timeoutMs : Nat} {pid : UInt8} (hne : timeoutMs ≠ 0)
    (hlt : timeoutMs < 2 ^ 16) :
    FreshnessHonoured (bspSocketcanStateInit (u16 timeoutMs) pid) timeoutMs := by
  intro events t sampleId hsorted hperiod
  have hkeep : u16 timeoutMs = timeoutMs := Nat.mod_eq_of_lt hlt
  have hcaches := caches_after (u16 timeoutMs) pid events
  rw [read_valid_iff hcaches sampleId (lastMatchMs_le hsorted) hperiod, hkeep,
    recent_iff_last (p := fun u => t ≤ u + timeoutMs) hsorted fun u v huv h => by omega]
  simp [hne, bspSocketcanStateInit]

/-- One response at time zero and one read. -/
theorem read_after_response {timeoutMs t : Nat} (ht : t < 2 ^ 32)
    (h : FreshnessHonoured (bspSocketcanStateInit (u16 timeoutMs) obd2PidVehicleSpeed) timeoutMs) :
    u16 timeoutMs = 0 ∨ t ≤ u16 timeoutMs ↔ t ≤ timeoutMs := by
  have hlast : lastMatchMs obd2PidVehicleSpeed [.frame 0 speedResponse] = some 0 := by decide
  have hread := h [.frame 0 speedResponse] t 0 (by simp [CanEvent.atMs]) fun u hu => by
    have hu' : u ∈ lastMatchMs obd2PidVehicleSpeed [.frame 0 speedResponse] := hu
    rw [hlast] at hu'
    cases hu'
    exact ht
  have hcaches := caches_after (u16 timeoutMs) obd2PidVehicleSpeed [.frame 0 speedResponse]
  rw [hlast] at hcaches
  rw [read_valid_iff hcaches 0 (by simp) (by simpa using ht)] at hread
  have hmatch : CanEvent.matchesPid obd2PidVehicleSpeed (.frame 0 speedResponse) = true := by decide
  simpa [bspSocketcanStateInit, hmatch, CanEvent.atMs] using hread

/-- **Freshness follows the configured timeout** exactly when it fits the BSP's
`uint16_t`. -/
theorem canbus_freshness_iff {cfg : Config} {runtime : RuntimeContexts}
    {bspSocketcanOpen : List Char → Option Int} {b : CanbusBinding} (hcfg : Accepted cfg)
    (hcount : runtime.contextCount = cfg.contextCount)
    (hsetup : canbusSetup cfg runtime bspSocketcanOpen runtime.contextCount = some (some b))
    (htype : (cfg.contexts.slot b.contextSlot).timeoutMs < 2 ^ 32) :
    FreshnessHonoured b.state (cfg.contexts.slot b.contextSlot).timeoutMs ↔
      (cfg.contexts.slot b.contextSlot).timeoutMs < 2 ^ 16 := by
  obtain ⟨hslot, hstate⟩ := canbusSetup_state hsetup
  have hne := (((accepted_iff cfg).mp hcfg).context (hcount ▸ hslot)).timeout
  rw [hstate]
  constructor
  · intro h
    generalize (cfg.contexts.slot b.contextSlot).timeoutMs = timeoutMs at *
    by_contra hbig
    -- read at the timeout itself, or just after it where its low bits are zero
    by_cases hzero : u16 timeoutMs = 0
    · have hlate := read_after_response (t := timeoutMs + 1) (by unfold u16 at hzero; omega) h
      omega
    · have hedge := read_after_response (t := timeoutMs) htype h
      have hlt : u16 timeoutMs < 2 ^ 16 := Nat.mod_lt _ (by decide)
      omega
  · exact freshnessHonoured_of_lt hne

/-! ## A vehicle speed from `can0` -/

/-- One fan and a vehicle speed with the timeout given. -/
def speedConfig (timeoutMs : Nat) : Config :=
  { oneFanConfig with
    contexts := (default : Vector ContextCfg maxContextSignals).put 0
      { (default : ContextCfg) with
        id := 20, unit := ContextUnit.kmh.code, iirAlphaQ16 := q16One, timeoutMs := timeoutMs
        failSafe := ContextFailsafe.assumeStationary.code }
    contextCount := 1 }

/-- The first context comes from `can0`. -/
def speedRuntime : RuntimeContexts := ⟨1, fun _ => canbusPrefix ++ ['c', 'a', 'n', '0']⟩

/-- The binding that the daemon makes of it. -/
def speedBinding (timeoutMs : Nat) : CanbusBinding :=
  ⟨3, 0, bspSocketcanStateInit (u16 timeoutMs) obd2PidVehicleSpeed⟩

/-- A timeout of 65536 ms becomes none: one response is fresh for ever. -/
theorem speed_never_stale :
    Accepted (speedConfig 65536) ∧
      canbusSetup (speedConfig 65536) speedRuntime (fun _ => some 3) 1 =
        some (some (speedBinding 65536)) ∧
      ¬FreshnessHonoured (speedBinding 65536).state 65536 := by
  refine ⟨by decide +kernel, rfl, fun h => ?_⟩
  have hlate := read_after_response (t := 65537) (by decide) h
  exact absurd (hlate.mp (Or.inl rfl)) (by decide)

/-- A timeout of three seconds is honoured. -/
theorem speed_freshness_3s : FreshnessHonoured (speedBinding 3000).state 3000 :=
  (@canbus_freshness_iff (speedConfig 3000) speedRuntime (fun _ => some 3) (speedBinding 3000)
    (by decide +kernel) rfl rfl (by decide)).mpr (by decide)

end ThermalCore
