import ThermalCore.Lib.Framing
import ThermalCore.Lib.Machine
import ThermalCore.Wire.RoundTrip

/-!
# The serial accumulators

`bsp_hil_serial_drain` on the Linux side and `hil_drain_commands` on the firmware
side keep the bytes they have read in a buffer that holds one frame at the
receive cap, and decode at its front.  The frames they dispatch are those a scan
of the whole stream finds, however the stream is cut into reads, and there is
always room for the next read.

The scan drops a byte where no frame starts and a frame where one does.  An accumulator
is a scan that waits where its buffer could still become a frame.
-/

namespace ThermalCore

/-! ## The drain -/

/-- The constants of an accumulator: its buffer holds the largest frame its cap
lets through. -/
structure HilRx where
  receiveCap : Nat
  crcEnabled : Bool
  bufSize : Nat
  capped : 0 < receiveCap
  room : bufSize = receiveCap + wireHeaderLen + wireCrcLen

/-- `HIL_RX_BUF_SIZE` and `HIL_CRC_ENABLED` of `bsp_hil_serial.c`. -/
def bspHilSerialRx : HilRx where
  receiveCap := wireMaxLinux
  crcEnabled := true
  bufSize := wireMaxLinux + wireHeaderLen + wireCrcLen
  capped := by decide
  room := rfl

/-- `HIL_RX_BUF_SIZE` of the firmware's `main.c`. -/
def hilRx : HilRx where
  receiveCap := wireMaxMcu
  crcEnabled := true
  bufSize := wireMaxMcu + wireHeaderLen + wireCrcLen
  capped := by decide
  room := rfl

/-- One iteration of the decode loop: the frame it dispatches and what is left in
the buffer; `none` where it leaves the loop. -/
def drainIter (rx : HilRx) (buf : List UInt8) : Option (List WireFrame × List UInt8) :=
  if buf.length < wireHeaderLen then none
  else
    match thermalWireDecodeFrame buf rx.receiveCap rx.crcEnabled with
    | .ok fr => some ([fr], buf.drop (wireHeaderLen + fr.payload.length + wireCrcLen))
    | .error .truncated => none
    | .error _ => some ([], buf.drop 1)

/-- The decode loop, for at most `n` iterations. -/
def drainLoop (rx : HilRx) : Nat → List UInt8 → List WireFrame × List UInt8
  | 0, buf => ([], buf)
  | n + 1, buf =>
      match drainIter rx buf with
      | none => ([], buf)
      | some (frames, rest) =>
          let r := drainLoop rx n rest
          (frames ++ r.1, r.2)

/-- The buffer `s_rx_buf` up to `s_rx_pos`, and the bytes the driver still holds. -/
structure RxState where
  buf : List UInt8
  pending : List UInt8
deriving DecidableEq

/-- A drain whose read returns `want` bytes, or as many as there are room and data
for.  The loop gets an iteration for every byte. -/
def hilDrain (rx : HilRx) (s : RxState) (want : Nat) : RxState × List WireFrame :=
  let freeCap := rx.bufSize - s.buf.length
  let n := min want freeCap
  let buf := if freeCap > 0 then s.buf ++ s.pending.take n else s.buf.drop 1
  let pending := if freeCap > 0 then s.pending.drop n else s.pending
  let r := drainLoop rx buf.length buf
  (⟨r.2, pending⟩, r.1)

def bspHilSerialDrain : RxState → Nat → RxState × List WireFrame := hilDrain bspHilSerialRx

def hilDrainCommands : RxState → Nat → RxState × List WireFrame := hilDrain hilRx

/-- What happens on the line: bytes arrive at the driver, or the program drains. -/
inductive RxEvent where
  | arrive (bytes : List UInt8)
  | drain (want : Nat)

def rxStep (rx : HilRx) (s : RxState) : RxEvent → RxState × List WireFrame
  | .arrive bytes => (⟨s.buf, s.pending ++ bytes⟩, [])
  | .drain want => hilDrain rx s want

/-- The bytes that arrived along a run. -/
def arrived (is : List RxEvent) : List UInt8 :=
  is.flatMap fun
    | .arrive bytes => bytes
    | .drain _ => []

/-! ## The reference scan -/

/-- The verdict of the decoder about the front of a stream. -/
def wireFront (rx : HilRx) (stream : List UInt8) : Option (List WireFrame × List UInt8) :=
  match thermalWireDecodeFrame stream rx.receiveCap rx.crcEnabled with
  | .ok fr => some ([fr], stream.drop (wireHeaderLen + fr.payload.length + wireCrcLen))
  | .error .truncated => none
  | .error _ => some ([], stream.drop 1)

section front

variable {rx : HilRx} {buf : List UInt8}

theorem drainIter_eq_wireFront (rx : HilRx) (buf : List UInt8) : drainIter rx buf = wireFront rx buf := by
  unfold drainIter wireFront
  by_cases hlen : buf.length < wireHeaderLen
  · rw [if_pos hlen]
    unfold thermalWireDecodeFrame
    rw [if_pos hlen]
  · rw [if_neg hlen]

/-- Any verdict but TRUNCATED is about bytes that are there, and stands whatever
follows them. -/
theorem decodeFrame_append {cap : Nat} {crcEnabled : Bool} {r : Except WireError WireFrame}
    (h : thermalWireDecodeFrame buf cap crcEnabled = r) (hr : r ≠ .error .truncated) :
    wireHeaderLen ≤ buf.length ∧
      (∀ fr, r = .ok fr → wireHeaderLen + fr.payload.length + wireCrcLen ≤ buf.length) ∧
      ∀ tail, thermalWireDecodeFrame (buf ++ tail) cap crcEnabled = r := by
  obtain ⟨-, herr⟩ | ⟨hlen, e, -, herr⟩ | ⟨opcode, seq, payloadLen, tsMs, rest, hseq, hpl, hts, rfl⟩ :=
    decodeFrame_cases buf
  · exact (hr (h.symm.trans (herr cap crcEnabled))).elim
  · have hr' := herr [] cap crcEnabled
    rw [List.append_nil, h] at hr'
    subst hr'
    refine ⟨hlen, ?_, fun tail => herr tail cap crcEnabled⟩
    intro fr hfr
    cases hfr
  · rw [decodeFrame_writeHeader hseq hpl hts] at h
    have hsize : (writeHeader opcode seq payloadLen tsMs ++ rest).length = wireHeaderLen + rest.length := by
      rw [List.length_append, length_writeHeader]
    refine ⟨by omega, ?_, fun tail => ?_⟩
    · rintro fr rfl
      split at h
      · cases h
      · split at h
        · cases h
        · next hlong =>
            split at h
            · cases h
            · cases h
              rw [hsize, List.length_take_of_le (by omega)]
              omega
    · rw [List.append_assoc, decodeFrame_writeHeader hseq hpl hts]
      by_cases hcap : cap > 0 ∧ payloadLen > cap
      · rw [if_pos hcap] at h ⊢
        exact h
      by_cases hshort : rest.length < payloadLen + wireCrcLen
      · rw [if_neg hcap, if_pos hshort] at h
        exact (hr h.symm).elim
      have hle : payloadLen ≤ rest.length := by omega
      have hlong : ¬(rest ++ tail).length < payloadLen + wireCrcLen := by
        rw [List.length_append]
        omega
      have htrailer : getU16LE ((rest ++ tail).drop payloadLen) = getU16LE (rest.drop payloadLen) := by
        have htwo : 2 ≤ (rest.drop payloadLen).length := by
          rw [List.length_drop]
          unfold wireCrcLen at hshort
          omega
        rw [List.drop_append_of_le_length hle, getU16LE_eq, getU16LE_eq, List.take_append_of_le_length htwo]
      rw [if_neg hcap, if_neg hshort] at h
      rw [if_neg hcap, if_neg hlong, htrailer, List.take_append_of_le_length hle]
      exact h

/-- With a cap, an incomplete frame is shorter than the largest one. -/
theorem length_lt_of_truncated {cap : Nat} {crcEnabled : Bool} (hcap : 0 < cap)
    (h : thermalWireDecodeFrame buf cap crcEnabled = .error .truncated) :
    buf.length < cap + wireHeaderLen + wireCrcLen := by
  obtain ⟨hlen, -⟩ | ⟨-, e, he, herr⟩ | ⟨opcode, seq, payloadLen, tsMs, rest, hseq, hpl, hts, rfl⟩ :=
    decodeFrame_cases buf
  · omega
  · have herr' := herr [] cap crcEnabled
    rw [List.append_nil, h] at herr'
    cases herr'
    obtain he | he | he := he <;> cases he
  · rw [decodeFrame_writeHeader hseq hpl hts] at h
    by_cases hover : cap > 0 ∧ payloadLen > cap
    · rw [if_pos hover] at h
      cases h
    by_cases hshort : rest.length < payloadLen + wireCrcLen
    · have hle : payloadLen ≤ cap := by omega
      rw [List.length_append, length_writeHeader]
      omega
    · rw [if_neg hover, if_neg hshort] at h
      split at h
      · cases h
      · cases h

theorem wireFront_stable {found : List WireFrame} {rest : List UInt8}
    (h : wireFront rx buf = some (found, rest)) :
    rest.length < buf.length ∧ ∀ tail, wireFront rx (buf ++ tail) = some (found, rest ++ tail) := by
  unfold wireFront at h ⊢
  cases hdecode : thermalWireDecodeFrame buf rx.receiveCap rx.crcEnabled with
  | ok fr =>
      rw [hdecode] at h
      cases h
      obtain ⟨-, hlen, happend⟩ := decodeFrame_append hdecode (fun he => nomatch he)
      have hfr := hlen fr rfl
      constructor
      · rw [List.length_drop]
        unfold wireHeaderLen at hfr ⊢
        omega
      · intro tail
        rw [happend tail]
        dsimp only
        rw [List.drop_append_of_le_length hfr]
  | error e =>
      rw [hdecode] at h
      by_cases he : e = .truncated
      · subst he
        cases h
      · have hne : (Except.error e : Except WireError WireFrame) ≠ .error .truncated := by
          intro heq
          cases heq
          exact he rfl
        obtain ⟨hlen, -, happend⟩ := decodeFrame_append hdecode hne
        unfold wireHeaderLen at hlen
        have hrest : found = [] ∧ rest = buf.drop 1 := by
          cases e <;> cases h <;> exact ⟨rfl, rfl⟩
        obtain ⟨rfl, rfl⟩ := hrest
        constructor
        · rw [List.length_drop]
          omega
        · intro tail
          rw [happend tail]
          cases e with
          | truncated => exact (he rfl).elim
          | badMagic | badVersion | badCrc | badOpcode | badPayload | overCap | bufTooSmall =>
              dsimp only
              rw [List.drop_append_of_le_length (by omega)]

/-- A buffer the decoder waits on has room for more. -/
theorem length_lt_of_wireFront_none (h : wireFront rx buf = none) : buf.length < rx.bufSize := by
  rw [rx.room]
  apply length_lt_of_truncated rx.capped
  unfold wireFront at h
  split at h
  · cases h
  · next heq => exact heq
  · cases h

end front

/-- The leftmost-first scan of a whole stream. -/
def wireScanner (rx : HilRx) : Framing.Scanner UInt8 WireFrame where
  front := wireFront rx
  shorter h := (wireFront_stable h).1
  stable h := (wireFront_stable h).2

section run

variable {rx : HilRx}

theorem drainLoop_eq_scan {n : Nat} {buf : List UInt8} (h : buf.length ≤ n) :
    drainLoop rx n buf = (wireScanner rx).scan buf := by
  induction n generalizing buf with
  | zero =>
      have hnil : buf = [] := List.eq_nil_of_length_eq_zero (Nat.le_zero.mp h)
      subst hnil
      rw [Framing.Scanner.scan_of_none rfl, drainLoop]
  | succ n ih =>
      rw [drainLoop, drainIter_eq_wireFront]
      cases hfront : wireFront rx buf with
      | none => exact (Framing.Scanner.scan_of_none hfront).symm
      | some p =>
          obtain ⟨frames, rest⟩ := p
          have hshort := (wireFront_stable hfront).1
          have hscan : (wireScanner rx).scan buf = _ := Framing.Scanner.scan_of_some hfront
          rw [hscan]
          dsimp only
          rw [ih (by omega)]

/-- What a run has read is scanned: the frames are dispatched, the rest waits in
the buffer, and what was not read is with the driver. -/
def Scanned (rx : HilRx) (stream : List UInt8) (frames : List WireFrame) (s : RxState) : Prop :=
  ∃ consumed, stream = consumed ++ s.pending ∧ (wireScanner rx).scan consumed = (frames, s.buf)

theorem Scanned.length_lt {stream : List UInt8} {frames : List WireFrame} {s : RxState}
    (h : Scanned rx stream frames s) : s.buf.length < rx.bufSize := by
  obtain ⟨consumed, -, hscan⟩ := h
  have hwait := Framing.Scanner.front_scan (S := wireScanner rx) consumed
  rw [hscan] at hwait
  exact length_lt_of_wireFront_none hwait

/-- One event. -/
theorem Scanned.step {stream : List UInt8} {frames : List WireFrame} {s : RxState}
    (h : Scanned rx stream frames s) (i : RxEvent) :
    Scanned rx (stream ++ arrived [i]) (frames ++ (rxStep rx s i).2) (rxStep rx s i).1 := by
  have hroom := h.length_lt
  obtain ⟨consumed, hstream, hscan⟩ := h
  cases i with
  | arrive bytes =>
      refine ⟨consumed, ?_, ?_⟩
      · rw [hstream, List.append_assoc]
        simp [arrived, rxStep]
      · rw [rxStep, List.append_nil]
        exact hscan
  | drain want =>
      have hfree : rx.bufSize - s.buf.length > 0 := Nat.sub_pos_of_lt hroom
      unfold rxStep hilDrain
      simp only [if_pos hfree]
      rw [drainLoop_eq_scan (Nat.le_refl _)]
      refine ⟨consumed ++ s.pending.take (min want (rx.bufSize - s.buf.length)), ?_, ?_⟩
      · rw [List.append_assoc, List.take_append_drop, hstream]
        simp [arrived]
      · rw [Framing.Scanner.scan_append, hscan]

theorem scanned_run {stream : List UInt8} {frames : List WireFrame} {s : RxState}
    (h : Scanned rx stream frames s) (is : List RxEvent) :
    Scanned rx (stream ++ arrived is) (frames ++ (Machine.outputs (rxStep rx) s is).flatten)
      (Machine.after (rxStep rx) s is) := by
  induction is generalizing stream frames s with
  | nil =>
      simpa [arrived] using h
  | cons i is ih =>
      have harrived : arrived (i :: is) = arrived [i] ++ arrived is := by simp [arrived]
      have hrest := ih (h.step i)
      rw [List.append_assoc, List.append_assoc] at hrest
      rw [harrived]
      exact hrest

/-- An iteration that does not leave the loop consumes a byte. -/
theorem drainIter_shorter {buf rest : List UInt8} {frames : List WireFrame}
    (h : drainIter rx buf = some (frames, rest)) : rest.length < buf.length := by
  rw [drainIter_eq_wireFront] at h
  exact (wireFront_stable h).1

/-- The bytes a run has read. -/
def consumed (rx : HilRx) (is : List RxEvent) : List UInt8 :=
  (arrived is).take ((arrived is).length - (Machine.after (rxStep rx) ⟨[], []⟩ is).pending.length)

end run

/-- **Framing**: over any run of arrivals and drains no byte is lost between the
driver and the buffer, the frames dispatched are those the scan of the bytes read
finds, so that two runs that have read the same bytes have dispatched the same
frames, every drain finds room in its buffer, and every iteration that does not
leave the loop consumes a byte. -/
theorem serial_framing (rx : HilRx) :
    (∀ is : List RxEvent,
      let s := Machine.after (rxStep rx) ⟨[], []⟩ is
      let frames := (Machine.outputs (rxStep rx) ⟨[], []⟩ is).flatten
      arrived is = consumed rx is ++ s.pending ∧
        (wireScanner rx).scan (consumed rx is) = (frames, s.buf) ∧ s.buf.length < rx.bufSize) ∧
    (∀ is is' : List RxEvent, consumed rx is = consumed rx is' →
      (Machine.outputs (rxStep rx) ⟨[], []⟩ is).flatten =
        (Machine.outputs (rxStep rx) ⟨[], []⟩ is').flatten) ∧
    ∀ buf frames rest, drainIter rx buf = some (frames, rest) → rest.length < buf.length := by
  have hrun (is : List RxEvent) : arrived is = consumed rx is ++
      (Machine.after (rxStep rx) ⟨[], []⟩ is).pending ∧ (wireScanner rx).scan (consumed rx is) =
        ((Machine.outputs (rxStep rx) ⟨[], []⟩ is).flatten, (Machine.after (rxStep rx) ⟨[], []⟩ is).buf) ∧
      (Machine.after (rxStep rx) ⟨[], []⟩ is).buf.length < rx.bufSize := by
    have hinit : Scanned rx [] [] ⟨[], []⟩ := ⟨[], rfl, Framing.Scanner.scan_of_none rfl⟩
    have hscanned := scanned_run hinit is
    have hlt := hscanned.length_lt
    obtain ⟨read, hstream, hscan⟩ := hscanned
    rw [List.nil_append] at hstream hscan
    have hread : consumed rx is = read := by
      unfold consumed
      rw [hstream, List.length_append, Nat.add_sub_cancel, List.take_left]
    rw [hread]
    exact ⟨hstream, hscan, hlt⟩
  refine ⟨hrun, ?_, fun _ _ _ h => drainIter_shorter h⟩
  intro is is' hsame
  have h := (hrun is).2.1
  have h' := (hrun is').2.1
  rw [hsame, h'] at h
  exact (Prod.mk.inj h).1.symm

end ThermalCore
