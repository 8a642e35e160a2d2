import ThermalCore.Lib.Machine
import ThermalCore.Lib.MachineInt
import ThermalCore.Lib.RingQueue
import Mathlib.Data.List.Induction

/-!
# The telemetry ring of the CH32 platform

`platform/ch32v003/ch32_callbacks.c` with the rows of `test/parity/canonical.c`.
The callbacks of the core only queue a record in a ring of fixed size; the main
loop writes the queue out later.  A record that finds the ring full is counted
and given up, and the count is reported with the next drain.

The queue is the abstract view: records waiting, records given up.  The ring's indices
and counters are tied to it by `Lib.RingQueue`, and every callback and every drain is
one operation on it.
-/

namespace ThermalCore

open MachineInt

/-! ## canonical.c -/

/-- `snprintf` into `cap` bytes: the text, if it fits with its NUL. -/
def canonicalFit (cap : Nat) (text : String) : Option String :=
  if text.length < cap then some text else none

/-- `thermalcore_canonical_sample`: a row of the kind `S`. -/
def thermalcoreCanonicalSample (cap : Nat) (tsMs : UInt32) (signalId : UInt16) (value : Int32)
    (flags : UInt16) : Option String :=
  canonicalFit cap (toString tsMs ++ ",S," ++ toString signalId ++ "," ++ toString value ++ "," ++
    toString flags ++ ",0,0,0,0\n")

/-- `thermalcore_canonical_event`: a row of the kind `E`. -/
def thermalcoreCanonicalEvent (cap : Nat) (tsMs : UInt32) (code : UInt16) (a1 a2 a3 a4 : UInt32) :
    Option String :=
  canonicalFit cap (toString tsMs ++ ",E," ++ toString code ++ ",0,0," ++ toString a1 ++ "," ++
    toString a2 ++ "," ++ toString a3 ++ "," ++ toString a4 ++ "\n")

section rows

/-- A row that is shorter than the buffer is written. -/
theorem canonicalFit_of_lt {cap : Nat} {text : String} (h : text.length < cap) :
    canonicalFit cap text = some text := if_pos h

/-- A natural below `10 ^ e` has at most `e` digits. -/
theorem length_repr_le {n e : Nat} (he : 0 < e) (h : n < 10 ^ e) : n.repr.length ≤ e := by
  rw [← String.length_toList, Nat.toList_repr]
  exact (Nat.length_toDigits_le_iff (by decide) he).mpr h

/-- A `uint32_t` has at most ten digits. -/
theorem length_uint32_le (n : UInt32) : (toString n).length ≤ 10 := by
  have hlt := n.toNat_lt
  exact length_repr_le (by decide) (by omega)

/-- A `uint16_t` has at most five digits. -/
theorem length_uint16_le (n : UInt16) : (toString n).length ≤ 5 := by
  have hlt := n.toNat_lt
  exact length_repr_le (by decide) (by omega)

/-- An `int32_t` has at most ten digits and a sign. -/
theorem length_int32_le (x : Int32) : (toString x).length ≤ 11 := by
  have hlo := x.le_toInt
  have hhi := x.toInt_lt
  have htext : toString x = x.toInt.repr := rfl
  rw [htext]
  cases hx : x.toInt with
  | ofNat m =>
      rw [hx, Int.ofNat_eq_natCast] at hhi
      have hm : m < 10 ^ 11 := by omega
      exact length_repr_le (by decide) hm
  | negSucc m =>
      rw [hx] at hlo
      have hm : m.succ < 10 ^ 10 := by omega
      have hdigits := length_repr_le (by decide) hm
      have hsign : (Int.negSucc m).repr = "-" ++ m.succ.repr := rfl
      have hone : ("-" : String).length = 1 := by decide
      rw [hsign, String.length_append, hone]
      omega

/-- Every sample row fits in the buffer of the drain. -/
theorem canonicalSample_fits (tsMs : UInt32) (signalId : UInt16) (value : Int32) (flags : UInt16) :
    ∃ text, thermalcoreCanonicalSample 128 tsMs signalId value flags = some text := by
  have hts := length_uint32_le tsMs
  have hid := length_uint16_le signalId
  have hvalue := length_int32_le value
  have hflags := length_uint16_le flags
  have hmark : (",S," : String).length = 3 := by decide
  have hcomma : ("," : String).length = 1 := by decide
  have htail : (",0,0,0,0\n" : String).length = 9 := by decide
  refine ⟨_, canonicalFit_of_lt ?_⟩
  simp only [String.length_append, hmark, hcomma, htail]
  omega

/-- So does every event row. -/
theorem canonicalEvent_fits (tsMs : UInt32) (code : UInt16) (a1 a2 a3 a4 : UInt32) :
    ∃ text, thermalcoreCanonicalEvent 128 tsMs code a1 a2 a3 a4 = some text := by
  have hts := length_uint32_le tsMs
  have hcode := length_uint16_le code
  have h1 := length_uint32_le a1
  have h2 := length_uint32_le a2
  have h3 := length_uint32_le a3
  have h4 := length_uint32_le a4
  have hmark : (",E," : String).length = 3 := by decide
  have hzeros : (",0,0," : String).length = 5 := by decide
  have hcomma : ("," : String).length = 1 := by decide
  have htail : ("\n" : String).length = 1 := by decide
  refine ⟨_, canonicalFit_of_lt ?_⟩
  simp only [String.length_append, hmark, hzeros, hcomma, htail]
  omega

end rows

/-! ## The ring -/

/-- `CH32_TELEM_RING`. -/
abbrev ch32TelemRing : Nat := 16

/-- `ch32_telem_rec_t`. -/
structure Ch32TelemRec where
  tsMs : UInt32
  id : UInt16
  isEvent : Bool
  arg0 : Int32
  arg1 : UInt32
  arg2 : UInt32
  arg3 : UInt32
deriving DecidableEq, Inhabited

/-- The static variables of the file. -/
structure Ch32Telemetry where
  ring : Vector Ch32TelemRec ch32TelemRing
  head : Nat
  tail : Nat
  drops : UInt32
  dropsReported : UInt32
  lastDropTsMs : UInt32

/-- The statics before the first call. -/
def Ch32Telemetry.zeroed : Ch32Telemetry := ⟨default, 0, 0, 0, 0, 0⟩

/-- `ring_next`. -/
def ringNext (i : Nat) : Nat := u8 ((i + 1) % ch32TelemRing)

/-- `ring_push`: a full ring counts the record and keeps its time. -/
def ringPush (entry : Ch32TelemRec) (s : Ch32Telemetry) : Ch32Telemetry :=
  let next := ringNext s.head
  if next = s.tail then
    { s with
      drops := if s.drops < 0xffffffff then s.drops + 1 else s.drops
      lastDropTsMs := entry.tsMs }
  else { s with ring := s.ring.put s.head entry, head := next }

/-- `drop_count_value`: the count, saturated to `int32_t`. -/
def dropCountValue (s : Ch32Telemetry) : Int32 :=
  if s.drops > 0x7fffffff then 0x7fffffff else s.drops.toInt32

/-- The record `ch32_log_event_cb` pushes. -/
def eventRecord (tsMs : UInt32) (code : UInt16) (a1 a2 a3 a4 : UInt32) : Ch32TelemRec :=
  ⟨tsMs, code, true, a1.toInt32, a2, a3, a4⟩

/-- The record `ch32_telemetry_emit_cb` pushes. -/
def sampleRecord (tsMs : UInt32) (signalId : UInt16) (value : Int32) : Ch32TelemRec :=
  ⟨tsMs, signalId, false, value, 0, 0, 0⟩

/-- A string handed to the UART, with what it was formatted from. -/
inductive UartLine where
  | record (entry : Ch32TelemRec) (text : String)
  | drops (value : Int32) (text : String)

/-- The row of a record. -/
def formatRecord (entry : Ch32TelemRec) : Option String :=
  if entry.isEvent then
    thermalcoreCanonicalEvent 128 entry.tsMs entry.id entry.arg0.toUInt32 entry.arg1 entry.arg2 entry.arg3
  else thermalcoreCanonicalSample 128 entry.tsMs entry.id entry.arg0 0

/-- The loop of the drain, for at most the given number of iterations. -/
def drainRecords : Nat → Ch32Telemetry → Ch32Telemetry × List UartLine
  | 0, s => (s, [])
  | fuel + 1, s =>
      if s.tail ≠ s.head then
        let entry := s.ring.slot s.tail
        let line := match formatRecord entry with
          | some text => [UartLine.record entry text]
          | none => []
        let r := drainRecords fuel { s with tail := ringNext s.tail }
        (r.1, line ++ r.2)
      else (s, [])

/-- `TSIG_PLATFORM_CH32_TELEMETRY_DROPS`. -/
def tsigPlatformCh32TelemetryDrops : UInt16 := 0x0900

/-- `ch32_telemetry_drain`: the queued rows, then the drop count when it is a new one. -/
def ch32TelemetryDrain (s : Ch32Telemetry) : Ch32Telemetry × List UartLine :=
  let r := drainRecords ch32TelemRing s
  let s := r.1
  if s.drops ≠ s.dropsReported then
    match thermalcoreCanonicalSample 128 s.lastDropTsMs tsigPlatformCh32TelemetryDrops
        (dropCountValue s) 0 with
    | some text => ({ s with dropsReported := s.drops }, r.2 ++ [.drops (dropCountValue s) text])
    | none => (s, r.2)
  else (s, r.2)

/-- One call on the file. -/
inductive TelemetryCall where
  | logEvent (tsMs : UInt32) (code : UInt16) (a1 a2 a3 a4 : UInt32)
  | telemetryEmit (tsMs : UInt32) (signalId : UInt16) (value : Int32)
  | drain

/-- What a call does to the statics and what it writes. -/
def telemetryCall (s : Ch32Telemetry) : TelemetryCall → Ch32Telemetry × List UartLine
  | .logEvent tsMs code a1 a2 a3 a4 => (ringPush (eventRecord tsMs code a1 a2 a3 a4) s, [])
  | .telemetryEmit tsMs signalId value => (ringPush (sampleRecord tsMs signalId value) s, [])
  | .drain => ch32TelemetryDrain s

/-! ## The queue it stands for -/

/-- The queue without its array: what was written out, what is queued, how many
records were refused, and the drop count at the last drain, which reported it if
it had changed. -/
structure TelemetryQueue where
  written : List Ch32TelemRec
  pending : List Ch32TelemRec
  refused : Nat
  reported : Nat

namespace TelemetryQueue

def empty : TelemetryQueue := ⟨[], [], 0, 0⟩

/-- As many records are queued as the ring can hold. -/
abbrev Full (q : TelemetryQueue) : Prop := q.pending.length = ch32TelemRing - 1

/-- The refused records, as far as the counter goes. -/
def dropCount (q : TelemetryQueue) : Nat := min q.refused (2 ^ 32 - 1)

def push (entry : Ch32TelemRec) (q : TelemetryQueue) : TelemetryQueue :=
  if q.Full then { q with refused := q.refused + 1 }
  else { q with pending := q.pending ++ [entry] }

def drain (q : TelemetryQueue) : TelemetryQueue :=
  { q with written := q.written ++ q.pending, pending := [], reported := q.dropCount }

end TelemetryQueue

/-- The record a call pushes; a drain pushes none. -/
def TelemetryCall.pushed : TelemetryCall → Option Ch32TelemRec
  | .logEvent tsMs code a1 a2 a3 a4 => some (eventRecord tsMs code a1 a2 a3 a4)
  | .telemetryEmit tsMs signalId value => some (sampleRecord tsMs signalId value)
  | .drain => none

/-- What a call does to the queue. -/
def queueCall (q : TelemetryQueue) (c : TelemetryCall) : TelemetryQueue :=
  match c.pushed with
  | some entry => q.push entry
  | none => q.drain

/-- The queue behind a run of calls. -/
def queueAfter (is : List TelemetryCall) : TelemetryQueue := is.foldl queueCall .empty

/-- The records pushed along a run in push order, minus those that met a full queue. -/
def acceptedRecords : TelemetryQueue → List TelemetryCall → List Ch32TelemRec
  | _, [] => []
  | q, c :: is => c.pushed.toList.filter (fun _ => ¬q.Full) ++ acceptedRecords (queueCall q c) is

/-- How many of the pushed records met a full queue. -/
def refusedRecords : TelemetryQueue → List TelemetryCall → Nat
  | _, [] => 0
  | q, c :: is => (c.pushed.toList.countP fun _ => q.Full) + refusedRecords (queueCall q c) is

/-- A push writes nothing. -/
@[simp] theorem TelemetryQueue.push_written (q : TelemetryQueue) (entry : Ch32TelemRec) :
    (q.push entry).written = q.written := by
  unfold push
  split <;> rfl

/-- A call with a record pushes it. -/
theorem queueCall_push {c : TelemetryCall} {entry : Ch32TelemRec} (h : c.pushed = some entry)
    (q : TelemetryQueue) : queueCall q c = q.push entry := by
  simp [queueCall, h]

/-- A call without one is a drain. -/
theorem queueCall_drain {c : TelemetryCall} (h : c.pushed = none) (q : TelemetryQueue) :
    queueCall q c = q.drain := by
  simp [queueCall, h]

/-- A full queue refuses. -/
theorem TelemetryQueue.push_of_full {q : TelemetryQueue} (h : q.Full) (entry : Ch32TelemRec) :
    q.push entry = { q with refused := q.refused + 1 } := if_pos h

/-- Any other queue takes the record at its end. -/
theorem TelemetryQueue.push_of_not_full {q : TelemetryQueue} (h : ¬q.Full) (entry : Ch32TelemRec) :
    q.push entry = { q with pending := q.pending ++ [entry] } := if_neg h

/-- **Step**: what a call pushes is queued, or refused where the queue is full. -/
theorem queueCall_ledger (q : TelemetryQueue) (c : TelemetryCall) :
    (queueCall q c).written ++ (queueCall q c).pending =
        q.written ++ q.pending ++ c.pushed.toList.filter (fun _ => ¬q.Full) ∧
      (queueCall q c).refused = q.refused + c.pushed.toList.countP fun _ => q.Full := by
  cases hc : c.pushed with
  | none => simp [queueCall_drain hc, TelemetryQueue.drain]
  | some entry =>
      rw [queueCall_push hc]
      by_cases hfull : q.Full
      · simp [TelemetryQueue.push_of_full hfull, hfull]
      · simp [TelemetryQueue.push_of_not_full hfull, hfull]

/-- What is written and queued is what was accepted, in push order. -/
theorem written_append_pending (q : TelemetryQueue) (is : List TelemetryCall) :
    (is.foldl queueCall q).written ++ (is.foldl queueCall q).pending =
      q.written ++ q.pending ++ acceptedRecords q is := by
  induction is generalizing q with
  | nil => simp [acceptedRecords]
  | cons c is ih => rw [List.foldl_cons, ih, (queueCall_ledger q c).1, acceptedRecords, List.append_assoc]

/-- What is refused is what met a full queue. -/
theorem refused_foldl (q : TelemetryQueue) (is : List TelemetryCall) :
    (is.foldl queueCall q).refused = q.refused + refusedRecords q is := by
  induction is generalizing q with
  | nil => rfl
  | cons c is ih => rw [List.foldl_cons, ih, (queueCall_ledger q c).2, refusedRecords, Nat.add_assoc]

/-! ## The ring keeps the queue -/

/-- The statics hold the queue, its drop count and the count last reported. -/
structure Represents (s : Ch32Telemetry) (q : TelemetryQueue) : Prop where
  ring : RingQueue.Holds s.ring s.head s.tail q.pending
  drops : s.drops.toNat = q.dropCount
  reported : s.dropsReported.toNat = q.reported

/-- The record a line was written for. -/
def UartLine.entry? : UartLine → Option Ch32TelemRec
  | .record entry _ => some entry
  | .drops _ _ => none

/-- The count a line reports. -/
def UartLine.dropCount? : UartLine → Option Int
  | .record _ _ => none
  | .drops value _ => some value.toInt

/-- The records among the lines, in order. -/
def writtenRecords (lines : List UartLine) : List Ch32TelemRec := lines.filterMap UartLine.entry?

/-- The drop counts among the lines, in order. -/
def reportedCounts (lines : List UartLine) : List Int := lines.filterMap UartLine.dropCount?

@[simp] theorem writtenRecords_nil : writtenRecords [] = [] := rfl

@[simp] theorem reportedCounts_nil : reportedCounts [] = [] := rfl

@[simp] theorem writtenRecords_append (lines lines' : List UartLine) :
    writtenRecords (lines ++ lines') = writtenRecords lines ++ writtenRecords lines' :=
  List.filterMap_append

@[simp] theorem reportedCounts_append (lines lines' : List UartLine) :
    reportedCounts (lines ++ lines') = reportedCounts lines ++ reportedCounts lines' :=
  List.filterMap_append

@[simp] theorem writtenRecords_record (entry : Ch32TelemRec) (text : String)
    (lines : List UartLine) :
    writtenRecords (.record entry text :: lines) = entry :: writtenRecords lines := rfl

@[simp] theorem reportedCounts_record (entry : Ch32TelemRec) (text : String)
    (lines : List UartLine) :
    reportedCounts (.record entry text :: lines) = reportedCounts lines := rfl

@[simp] theorem writtenRecords_drops (value : Int32) (text : String) (lines : List UartLine) :
    writtenRecords (.drops value text :: lines) = writtenRecords lines := rfl

@[simp] theorem reportedCounts_drops (value : Int32) (text : String) (lines : List UartLine) :
    reportedCounts (.drops value text :: lines) = value.toInt :: reportedCounts lines := rfl

/-- The index runs round the ring. -/
theorem ringNext_eq (i : Nat) : ringNext i = RingQueue.next ch32TelemRing i := by
  have hlt : (i + 1) % 16 < 16 := Nat.mod_lt _ (by decide)
  simp only [ringNext, RingQueue.next, u8, ch32TelemRing]
  omega

/-- The zeroed statics hold the empty queue. -/
theorem represents_zeroed : Represents .zeroed .empty where
  ring := RingQueue.holds_nil (by decide)
  drops := rfl
  reported := rfl

section steps

variable {s : Ch32Telemetry} {q : TelemetryQueue}

/-- **A push** appends to the queue, or counts. -/
theorem Represents.push (h : Represents s q) (entry : Ch32TelemRec) :
    Represents (ringPush entry s) (q.push entry) := by
  have hfull : ringNext s.head = s.tail ↔ q.Full := by
    rw [ringNext_eq]
    exact h.ring.full_iff
  unfold ringPush TelemetryQueue.push
  dsimp only
  by_cases hq : q.Full
  · rw [if_pos (hfull.mpr hq), if_pos hq]
    refine ⟨h.ring, ?_, h.reported⟩
    have hdrops := h.drops
    unfold TelemetryQueue.dropCount at hdrops ⊢
    dsimp only
    split
    · next hlt =>
        have hlt' : s.drops.toNat < 4294967295 := hlt
        rw [UInt32.toNat_add]
        simp only [UInt32.reduceToNat]
        omega
    · next hge =>
        have hge' : ¬s.drops.toNat < 4294967295 := hge
        omega
  · rw [if_neg (mt hfull.mp hq), if_neg hq, ringNext_eq]
    have hroom := h.ring.room
    exact ⟨h.ring.push (by unfold TelemetryQueue.Full at hq; omega) entry, h.drops, h.reported⟩

/-- Every record has a row. -/
theorem formatRecord_fits (entry : Ch32TelemRec) : ∃ text, formatRecord entry = some text := by
  unfold formatRecord
  split
  · exact canonicalEvent_fits _ _ _ _ _ _
  · exact canonicalSample_fits _ _ _ _

/-- A drained ring writes nothing. -/
theorem drainRecords_of_eq (fuel : Nat) (h : s.tail = s.head) : drainRecords fuel s = (s, []) := by
  cases fuel with
  | zero => rfl
  | succ fuel => simp [drainRecords, h]

/-- Any other ring writes its oldest record and goes on. -/
theorem drainRecords_of_ne {fuel : Nat} {text : String} (h : s.tail ≠ s.head)
    (hformat : formatRecord (s.ring.slot s.tail) = some text) :
    drainRecords (fuel + 1) s =
      ((drainRecords fuel { s with tail := ringNext s.tail }).1,
        .record (s.ring.slot s.tail) text ::
          (drainRecords fuel { s with tail := ringNext s.tail }).2) := by
  simp [drainRecords, h, hformat]

/-- **The loop of a drain** writes the whole queue, and ends: it makes one iteration
a record. -/
theorem drainRecords_spec {fuel : Nat} {xs : List Ch32TelemRec}
    (h : RingQueue.Holds s.ring s.head s.tail xs) (hfuel : xs.length ≤ fuel) :
    (drainRecords fuel s).1 = { s with tail := s.head } ∧
      writtenRecords (drainRecords fuel s).2 = xs ∧ reportedCounts (drainRecords fuel s).2 = [] := by
  induction xs generalizing s fuel with
  | nil =>
      have hempty : s.tail = s.head := h.empty_iff.mpr rfl
      rw [drainRecords_of_eq fuel hempty]
      exact ⟨congrArg (fun tail => { s with tail := tail }) hempty, rfl, rfl⟩
  | cons entry xs ih =>
      have hmore : s.tail ≠ s.head := mt h.empty_iff.mp (List.cons_ne_nil _ _)
      obtain ⟨hslot, hrest⟩ := h.pop
      rw [← ringNext_eq] at hrest
      obtain ⟨text, htext⟩ := formatRecord_fits (s.ring.slot s.tail)
      cases fuel with
      | zero => simp at hfuel
      | succ fuel =>
          obtain ⟨hstate, hwritten, hcounts⟩ :=
            @ih { s with tail := ringNext s.tail } fuel hrest (Nat.le_of_succ_le_succ hfuel)
          rw [drainRecords_of_ne hmore htext]
          exact ⟨hstate, by simp [hwritten, hslot], by simp [hcounts]⟩

/-- The report of a drain carries the drop count, up to the largest sample value. -/
theorem toInt_dropCountValue (s : Ch32Telemetry) :
    (dropCountValue s).toInt = min s.drops.toNat (2 ^ 31 - 1) := by
  have hmax : (0x7fffffff : UInt32).toNat = 2147483647 := rfl
  unfold dropCountValue
  by_cases hbig : s.drops > 0x7fffffff
  · have hlt : 2147483647 < s.drops.toNat := hbig
    have hvalue : (0x7fffffff : Int32).toInt = 2147483647 := rfl
    simp only [hbig, if_true, hvalue]
    omega
  · have hle : ¬2147483647 < s.drops.toNat := hbig
    have hsmall : s.drops.toInt32.toInt = s.drops.toNat :=
      BitVec.toInt_eq_toNat_of_lt (by simp; omega)
    simp only [hbig, if_false, hsmall]
    omega

/-- A drain is its loop and the report. -/
theorem ch32TelemetryDrain_eq {r : Ch32Telemetry × List UartLine}
    (h : drainRecords ch32TelemRing s = r) :
    ∃ text, ch32TelemetryDrain s =
      if r.1.drops = r.1.dropsReported then r
      else ({ r.1 with dropsReported := r.1.drops }, r.2 ++ [.drops (dropCountValue r.1) text]) := by
  obtain ⟨text, htext⟩ := canonicalSample_fits r.1.lastDropTsMs tsigPlatformCh32TelemetryDrops
    (dropCountValue r.1) 0
  refine ⟨text, ?_⟩
  by_cases hsame : r.1.drops = r.1.dropsReported
  · simp [ch32TelemetryDrain, h, hsame]
  · simp [ch32TelemetryDrain, h, hsame, htext]

/-- **A drain** writes the queue out and reports the drop count if it changed. -/
theorem Represents.drain (h : Represents s q) :
    Represents (ch32TelemetryDrain s).1 q.drain ∧
      writtenRecords (ch32TelemetryDrain s).2 = q.pending ∧
      reportedCounts (ch32TelemetryDrain s).2 =
        if q.dropCount = q.reported then [] else [((min q.dropCount (2 ^ 31 - 1) : Nat) : Int)] := by
  have hroom := h.ring.room
  obtain ⟨hstate, hwritten, hcounts⟩ := drainRecords_spec h.ring (Nat.le_of_lt hroom)
  obtain ⟨text, hdrain⟩ := ch32TelemetryDrain_eq (@rfl _ (drainRecords ch32TelemRing s))
  have hsame : s.drops = s.dropsReported ↔ q.dropCount = q.reported := by
    rw [← UInt32.toNat_inj, h.drops, h.reported]
  have hring := RingQueue.holds_nil (v := s.ring) h.ring.head_lt
  rw [hstate] at hdrain
  dsimp only at hdrain
  by_cases hcount : q.dropCount = q.reported
  · rw [hdrain, if_pos (hsame.mpr hcount), if_pos hcount, hstate]
    exact ⟨⟨hring, h.drops, by simp [TelemetryQueue.drain, hcount, h.reported]⟩, hwritten, hcounts⟩
  · rw [hdrain, if_neg (mt hsame.mp hcount), if_neg hcount]
    refine ⟨⟨hring, h.drops, h.drops⟩, by simp [hwritten], ?_⟩
    simp [hcounts, toInt_dropCountValue, h.drops]

/-- **Every call** keeps the queue, and writes what the queue writes. -/
theorem Represents.call (h : Represents s q) (c : TelemetryCall) :
    Represents (telemetryCall s c).1 (queueCall q c) ∧
      (queueCall q c).written = q.written ++ writtenRecords (telemetryCall s c).2 := by
  cases c with
  | logEvent tsMs code a1 a2 a3 a4 => exact ⟨h.push _, by simp [telemetryCall, queueCall, TelemetryCall.pushed]⟩
  | telemetryEmit tsMs signalId value => exact ⟨h.push _, by simp [telemetryCall, queueCall, TelemetryCall.pushed]⟩
  | drain =>
      obtain ⟨hrep, hwritten, -⟩ := h.drain
      exact ⟨hrep, congrArg (q.written ++ ·) hwritten.symm⟩

end steps

open Machine

/-- **Run**: the statics hold the queue, and the rows written are its records. -/
theorem represents_after (is : List TelemetryCall) :
    Represents (after telemetryCall .zeroed is) (queueAfter is) ∧
      writtenRecords (outputs telemetryCall .zeroed is).flatten = (queueAfter is).written := by
  induction is using List.reverseRecOn with
  | nil => exact ⟨represents_zeroed, rfl⟩
  | append_singleton is c ih =>
      obtain ⟨hrep, hwritten⟩ := ih.1.call c
      have hqueue : queueAfter (is ++ [c]) = queueCall (queueAfter is) c := by simp [queueAfter]
      rw [after_concat, outputs_concat, hqueue]
      exact ⟨hrep, by simp [ih.2, hwritten]⟩

/-- **The telemetry ring is a queue that refuses what it has no room for.**  Along
every run the records written out are those accepted, in push order: written and
queued together they are the pushed records without those that met a full queue,
and the slots between the indices hold exactly the queued ones.  The drop counter
counts the refused ones, and a drain reports it, up to the largest sample value,
when it has changed since the last drain. -/
theorem telemetryRing_is_lossy_fifo (is : List TelemetryCall) :
    let s := after telemetryCall .zeroed is
    let q := queueAfter is
    writtenRecords (outputs telemetryCall .zeroed is).flatten = q.written ∧
      q.written ++ q.pending = acceptedRecords .empty is ∧
      RingQueue.Holds s.ring s.head s.tail q.pending ∧
      s.drops.toNat = min (refusedRecords .empty is) (2 ^ 32 - 1) ∧
      (writtenRecords (telemetryCall s .drain).2 = q.pending ∧
        reportedCounts (telemetryCall s .drain).2 =
          if q.dropCount = q.reported then [] else [((min q.dropCount (2 ^ 31 - 1) : Nat) : Int)]) := by
  intro s q
  obtain ⟨hrep, hwritten⟩ := represents_after is
  have haccepted := written_append_pending .empty is
  have hrefused := refused_foldl .empty is
  refine ⟨hwritten, haccepted, hrep.ring, ?_, hrep.drain.2⟩
  rw [hrep.drops, TelemetryQueue.dropCount, queueAfter, hrefused]
  simp [TelemetryQueue.empty]

section overload

/-- The same sample over and over. -/
def flood (n : Nat) : List TelemetryCall := List.replicate n (.telemetryEmit 0 0 0)

/-- Records without a drain: fifteen wait, the others are refused. -/
theorem queueAfter_flood (n : Nat) :
    (queueAfter (flood n)).pending.length = min n 15 ∧ (queueAfter (flood n)).refused = n - 15 ∧
      (queueAfter (flood n)).reported = 0 := by
  induction n with
  | zero => exact ⟨rfl, rfl, rfl⟩
  | succ n ih =>
      obtain ⟨hpending, hrefused, hreported⟩ := ih
      have hqueue : queueAfter (flood (n + 1)) =
          (queueAfter (flood n)).push (sampleRecord 0 0 0) := by
        simp [queueAfter, flood, List.replicate_succ', queueCall, TelemetryCall.pushed]
      rw [hqueue]
      by_cases hfull : (queueAfter (flood n)).Full
      · rw [TelemetryQueue.push_of_full hfull]
        have hlength : (queueAfter (flood n)).pending.length = 15 := hfull
        refine ⟨?_, ?_, hreported⟩
        · dsimp only
          omega
        · dsimp only
          omega
      · rw [TelemetryQueue.push_of_not_full hfull]
        have hlength : ¬(queueAfter (flood n)).pending.length = 15 := hfull
        refine ⟨?_, ?_, hreported⟩
        · rw [List.length_append, List.length_singleton]
          omega
        · dsimp only
          omega

end overload

/-- The report is not always the drop count: a sample value cannot say more than
2147483647. -/
theorem drop_report_clamps :
    ¬∀ is : List TelemetryCall,
      reportedCounts (telemetryCall (after telemetryCall .zeroed is) .drain).2 =
        if (queueAfter is).dropCount = (queueAfter is).reported then []
        else [((queueAfter is).dropCount : Int)] := by
  intro h
  have hstated := h (flood (15 + 2 ^ 31))
  obtain ⟨-, hrefused, hreported⟩ := queueAfter_flood (15 + 2 ^ 31)
  have hcode := (represents_after (flood (15 + 2 ^ 31))).1.drain.2.2
  have hcount : (queueAfter (flood (15 + 2 ^ 31))).dropCount = 2147483648 := by
    rw [TelemetryQueue.dropCount, hrefused]
    omega
  rw [hcount, hreported] at hstated hcode
  have hboth := hcode.symm.trans hstated
  revert hboth
  simp

end ThermalCore
