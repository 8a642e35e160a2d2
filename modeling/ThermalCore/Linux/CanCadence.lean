import ThermalCore.Linux.SocketCan

/-!
# Cadence of the OBD-II requests

Runs of `bsp_socketcan_poll` with successful sends, on a clock of which the code
sees the low 32 bits.  The deadline of the next request is an absolute time
stamp, and it is compared with `>=`.

The ideal schedule is a function of the poll times alone.  The code follows it as long
as no deadline wraps while a poll is still behind it, which is again a condition on the
poll times.
-/

namespace ThermalCore

open MachineInt

/-! ## Runs of the poll -/

/-- The state and the deadline before poll `k`, from the deadline zero the daemon
starts with. -/
def pollRun (start : SocketcanState) (fd : Int) (socket : Nat → CanSocket) (atMs : Nat → Nat) :
    Nat → SocketcanState × Nat
  | 0 => (start, 0)
  | k + 1 =>
      let before := pollRun start fd socket atMs k
      let r := bspSocketcanPoll before.1 fd (socket k) (u32 (atMs k)) before.2
      (r.state, r.nextRequestAtMs)

/-- Poll `k` puts a request on the bus. -/
def requestSent (start : SocketcanState) (fd : Int) (socket : Nat → CanSocket) (atMs : Nat → Nat)
    (k : Nat) : Bool :=
  let before := pollRun start fd socket atMs k
  (bspSocketcanPoll before.1 fd (socket k) (u32 (atMs k)) before.2).request.isSome

/-- Polls 1 to 1000 ms apart. -/
def PollsPaced (atMs : Nat → Nat) : Prop := ∀ k, atMs k < atMs (k + 1) ∧ atMs (k + 1) ≤ atMs k + 1000

/-- Among the polls up to the `n`-th, requests are at least a second apart, and a
poll without a request since `j` is less than a second after it: the next request
is then less than a second and one interval after `j`. -/
structure OnCadence (atMs : Nat → Nat) (sent : Nat → Bool) (n : Nat) : Prop where
  apart : ∀ j k, j < k → k ≤ n → sent j = true → sent k = true → atMs j + 1000 ≤ atMs k
  prompt : ∀ j k, j ≤ k → k ≤ n → sent j = true → (∀ i, j < i → i ≤ k → sent i = false) →
    atMs k < atMs j + 1000

/-- Two consecutive requests. -/
theorem OnCadence.gap {atMs : Nat → Nat} {sent : Nat → Bool} {n : Nat} (h : OnCadence atMs sent n)
    {j k : Nat} (hjk : j ≤ k) (hkn : k < n) (hj : sent j = true) (hk : sent (k + 1) = true)
    (hnone : ∀ i, j < i → i ≤ k → sent i = false) :
    atMs j + 1000 ≤ atMs (k + 1) ∧ atMs (k + 1) < atMs j + 1000 + (atMs (k + 1) - atMs k) := by
  have hlate := h.apart j (k + 1) (Nat.lt_succ_of_le hjk) hkn hj hk
  have hearly := h.prompt j k hjk (Nat.le_of_lt hkn) hj hnone
  omega

/-! ## The ideal schedule -/

/-- The poll of the last request due by poll `k`: the first poll has one, and
each poll at least a second after the last. -/
def lastDue (atMs : Nat → Nat) : Nat → Nat
  | 0 => 0
  | k + 1 => if atMs (lastDue atMs k) + 1000 ≤ atMs (k + 1) then k + 1 else lastDue atMs k

/-- Poll `k` is due. -/
def due (atMs : Nat → Nat) (k : Nat) : Bool := decide (lastDue atMs k = k)

/-- Poll `k + 1` lies on the other side of a wrap from the last request exactly
when the deadline of that request does. -/
def WrapsWithDeadline (atMs : Nat → Nat) (k : Nat) : Prop :=
  u32 (atMs (k + 1)) < u32 (atMs (lastDue atMs k)) ↔ 2 ^ 32 ≤ u32 (atMs (lastDue atMs k)) + 1000

instance (atMs : Nat → Nat) (k : Nat) : Decidable (WrapsWithDeadline atMs k) :=
  inferInstanceAs (Decidable (_ ↔ _))

section schedule

variable {atMs : Nat → Nat}

/-- The last due poll is no later than the one asked for. -/
theorem lastDue_le (k : Nat) : lastDue atMs k ≤ k := by
  induction k with
  | zero => exact Nat.le_refl 0
  | succ k ih =>
      rw [lastDue]
      split <;> omega

/-- The next poll is due a second or more after the last due one. -/
theorem due_succ_iff (k : Nat) :
    due atMs (k + 1) = true ↔ atMs (lastDue atMs k) + 1000 ≤ atMs (k + 1) := by
  have hle : lastDue atMs k ≤ k := lastDue_le k
  unfold due
  rw [decide_eq_true_eq, lastDue]
  split
  · next h => exact iff_of_true rfl h
  · next h => exact iff_of_false (by omega) h

/-- The last due poll is due. -/
theorem due_lastDue (k : Nat) : due atMs (lastDue atMs k) = true := by
  induction k with
  | zero => rfl
  | succ k ih =>
      by_cases h : atMs (lastDue atMs k) + 1000 ≤ atMs (k + 1)
      · have hlast : lastDue atMs (k + 1) = k + 1 := if_pos h
        rw [hlast]
        exact (due_succ_iff k).mpr h
      · have hlast : lastDue atMs (k + 1) = lastDue atMs k := if_neg h
        rw [hlast]
        exact ih

/-- The last due poll does not go back. -/
theorem lastDue_mono {j k : Nat} (hjk : j ≤ k) : lastDue atMs j ≤ lastDue atMs k := by
  induction k, hjk using Nat.le_induction with
  | base => exact Nat.le_refl _
  | succ k hk ih =>
      have hle : lastDue atMs k ≤ k := lastDue_le k
      rw [lastDue]
      split <;> omega

/-- A due poll is no later than the last due one. -/
theorem le_lastDue_of_due {j k : Nat} (hjk : j ≤ k) (hj : due atMs j = true) : j ≤ lastDue atMs k := by
  have hmono : lastDue atMs j ≤ lastDue atMs k := lastDue_mono hjk
  have hself : lastDue atMs j = j := of_decide_eq_true hj
  omega

/-- Polls that are paced do not go back in time. -/
theorem atMs_mono (hpaced : PollsPaced atMs) {j k : Nat} (hjk : j ≤ k) : atMs j ≤ atMs k :=
  monotone_nat_of_le_succ (fun i => Nat.le_of_lt (hpaced i).1) hjk

/-- The clock has not gone a second past the last due poll. -/
theorem atMs_lt_of_lastDue (k : Nat) : atMs k < atMs (lastDue atMs k) + 1000 := by
  induction k with
  | zero => exact Nat.lt_add_of_pos_right (by decide)
  | succ k ih =>
      rw [lastDue]
      split
      · exact Nat.lt_add_of_pos_right (by decide)
      · next h => exact Nat.lt_of_not_le h

/-- Requests on the ideal schedule keep the cadence. -/
theorem onCadence_of_due (hpaced : PollsPaced atMs) {sent : Nat → Bool} {n : Nat}
    (h : ∀ k ≤ n, sent k = due atMs k) : OnCadence atMs sent n where
  apart j k hjk hkn hj hk := by
    obtain ⟨m, rfl⟩ : ∃ m, k = m + 1 := ⟨k - 1, by omega⟩
    rw [h j (by omega)] at hj
    rw [h (m + 1) hkn] at hk
    have hlast := atMs_mono hpaced (le_lastDue_of_due (Nat.le_of_lt_succ hjk) hj)
    have hdue := (due_succ_iff m).mp hk
    omega
  prompt j k hjk hkn hj hnone := by
    rw [h j (by omega)] at hj
    have hle := le_lastDue_of_due hjk hj
    have hlast : lastDue atMs k ≤ k := lastDue_le k
    have hself : lastDue atMs k = j := by
      by_contra hne
      have hoff := hnone (lastDue atMs k) (by omega) hlast
      rw [h _ (by omega), due_lastDue] at hoff
      cases hoff
    rw [← hself]
    exact atMs_lt_of_lastDue k

/-- Requests that keep the cadence are on the ideal schedule. -/
theorem OnCadence.sent_eq_due {sent : Nat → Bool} {n : Nat} (h : OnCadence atMs sent n)
    (hfirst : sent 0 = true) {k : Nat} (hk : k ≤ n) : sent k = due atMs k := by
  induction k using Nat.strong_induction_on with
  | _ k ih =>
      rcases k with _ | k
      · exact hfirst
      · have hle : lastDue atMs k ≤ k := lastDue_le k
        have hlast : sent (lastDue atMs k) = true :=
          (ih _ (by omega) (by omega)).trans (due_lastDue k)
        rw [Bool.eq_iff_iff, due_succ_iff]
        constructor
        · exact h.apart _ _ (by omega) hk hlast
        · intro hdue
          by_contra hsent
          have hprompt := h.prompt (lastDue atMs k) (k + 1) (by omega) hk hlast fun i hi hik => by
            rcases Nat.lt_or_ge i (k + 1) with hlt | hge
            · by_contra hon
              rw [ih i hlt (by omega), Bool.not_eq_false] at hon
              have := le_lastDue_of_due (Nat.le_of_lt_succ hlt) hon
              omega
            · obtain rfl : i = k + 1 := by omega
              exact Bool.eq_false_of_not_eq_true hsent
          omega

end schedule

/-! ## The code's schedule -/

section poll

variable {start : SocketcanState} {fd : Int} {socket : Nat → CanSocket} {atMs : Nat → Nat}

/-- `next_request_at_ms` before poll `k`. -/
def deadlineMs (start : SocketcanState) (fd : Int) (socket : Nat → CanSocket) (atMs : Nat → Nat)
    (k : Nat) : Nat := (pollRun start fd socket atMs k).2

/-- **One poll** whose send succeeds. -/
theorem poll_spec (hfd : 0 ≤ fd) (hsend : ∀ k, (socket k).send = .sent) (k : Nat) :
    requestSent start fd socket atMs k =
        decide (deadlineMs start fd socket atMs k ≤ u32 (atMs k)) ∧
      deadlineMs start fd socket atMs (k + 1) =
        if requestSent start fd socket atMs k = true then u32 (u32 (atMs k) + 1000)
        else deadlineMs start fd socket atMs k := by
  have hopen : ¬fd < 0 := Int.not_lt.mpr hfd
  unfold deadlineMs requestSent
  rw [pollRun]
  generalize pollRun start fd socket atMs k = before
  obtain ⟨state, deadline⟩ := before
  unfold bspSocketcanPoll
  by_cases hdue : deadline ≤ u32 (atMs k)
  · simp [hopen, hsend, hdue]
  · simp [hopen, hsend, hdue]

/-- The first poll sends, since the deadline starts at zero. -/
theorem requestSent_zero (hfd : 0 ≤ fd) (hsend : ∀ k, (socket k).send = .sent) :
    requestSent start fd socket atMs 0 = true := by
  rw [(poll_spec hfd hsend 0).1]
  exact decide_eq_true (Nat.zero_le _)

/-- As long as the requests follow the ideal schedule, the deadline is a second
after the last due poll. -/
theorem deadlineMs_succ (hfd : 0 ≤ fd) (hsend : ∀ k, (socket k).send = .sent) {k : Nat}
    (h : ∀ i ≤ k, requestSent start fd socket atMs i = due atMs i) :
    deadlineMs start fd socket atMs (k + 1) = u32 (u32 (atMs (lastDue atMs k)) + 1000) := by
  induction k with
  | zero =>
      rw [(poll_spec hfd hsend 0).2, requestSent_zero hfd hsend]
      rfl
  | succ k ih =>
      rw [(poll_spec hfd hsend (k + 1)).2, h (k + 1) (Nat.le_refl _)]
      split
      · next hdue =>
          have hself : lastDue atMs (k + 1) = k + 1 := of_decide_eq_true hdue
          rw [hself]
      · next hdue =>
          rw [due_succ_iff] at hdue
          rw [ih fun i hi => h i (Nat.le_succ_of_le hi), lastDue, if_neg hdue]

/-- The comparison of the code agrees with the elapsed time exactly when the poll
and the deadline are on the same side of the wrap. -/
theorem deadline_le_iff {r now : Nat} (hlt : r < now) (hnear : now < r + 2000) :
    (u32 (u32 r + 1000) ≤ u32 now ↔ r + 1000 ≤ now) ↔ (u32 now < u32 r ↔ 2 ^ 32 ≤ u32 r + 1000) := by
  unfold u32
  omega

/-- Having followed the schedule so far, the next poll follows it unless the deadline has wrapped.
-/
theorem sent_iff_due_succ (hpaced : PollsPaced atMs) (hfd : 0 ≤ fd)
    (hsend : ∀ k, (socket k).send = .sent) {k : Nat}
    (h : ∀ i ≤ k, requestSent start fd socket atMs i = due atMs i) :
    requestSent start fd socket atMs (k + 1) = due atMs (k + 1) ↔ WrapsWithDeadline atMs k := by
  have hmono : atMs (lastDue atMs k) ≤ atMs k := atMs_mono hpaced (lastDue_le k)
  have hrecent : atMs k < atMs (lastDue atMs k) + 1000 := atMs_lt_of_lastDue k
  have hstep := hpaced k
  rw [Bool.eq_iff_iff, due_succ_iff, (poll_spec hfd hsend (k + 1)).1, decide_eq_true_eq,
    deadlineMs_succ hfd hsend h]
  exact deadline_le_iff (by omega) (by omega)

/-- **Requests keep their cadence** exactly when no poll is separated from its
deadline by a wrap of the clock. -/
theorem poll_cadence_iff (start : SocketcanState) (hfd : 0 ≤ fd)
    (hsend : ∀ k, (socket k).send = .sent) (hpaced : PollsPaced atMs) (n : Nat) :
    OnCadence atMs (requestSent start fd socket atMs) n ↔ ∀ k < n, WrapsWithDeadline atMs k := by
  have hfirst : requestSent start fd socket atMs 0 = true := requestSent_zero hfd hsend
  constructor
  · intro h k hk
    refine (sent_iff_due_succ hpaced hfd hsend fun i hi => ?_).mp (h.sent_eq_due hfirst hk)
    exact h.sent_eq_due hfirst (by omega)
  · intro h
    refine onCadence_of_due hpaced fun k hk => ?_
    induction k using Nat.strong_induction_on with
    | _ k ih =>
        rcases k with _ | k
        · exact hfirst
        · refine (sent_iff_due_succ hpaced hfd hsend fun i hi => ?_).mpr (h k hk)
          exact ih i (Nat.lt_succ_of_le hi) (by omega)

end poll

/-! ## Polls at the wrap -/

/-- An idle socket that takes every frame. -/
def idleSocket : CanSocket := ⟨.sent, [], true⟩

/-- The state of a binding to the vehicle speed. -/
def speedState : SocketcanState := bspSocketcanStateInit 3000 obd2PidVehicleSpeed

/-- A first request half a second before the wrap is repeated 100 ms later. -/
theorem requests_flood_before_wrap :
    ¬OnCadence (fun k => 4294966796 + 100 * k)
      (requestSent speedState 3 (fun _ => idleSocket) fun k => 4294966796 + 100 * k) 1 := by
  intro h
  have hapart := h.apart 0 1 (by decide) (by decide) (by decide) (by decide)
  omega

/-- Polls a second apart for 58 days, over one wrap. -/
theorem requests_on_cadence :
    OnCadence (fun k => 1000 * k)
      (requestSent speedState 3 (fun _ => idleSocket) fun k => 1000 * k) 5000000 := by
  refine (poll_cadence_iff speedState (by decide) (fun _ => rfl) (fun k => by omega) 5000000).mpr ?_
  intro k _
  have hself : lastDue (fun k => 1000 * k) k = k := by
    cases k with
    | zero => rfl
    | succ k =>
        have hle : lastDue (fun k => 1000 * k) k ≤ k := lastDue_le k
        exact if_pos (by dsimp only; omega)
  unfold WrapsWithDeadline u32
  rw [hself]
  dsimp only
  omega

end ThermalCore
