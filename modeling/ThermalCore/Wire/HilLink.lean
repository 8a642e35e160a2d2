import Mathlib.Data.List.Induction
import ThermalCore.Accepted
import ThermalCore.Linux.HilSerial
import ThermalCore.Wire.Line

/-!
# The HIL link

The daemon's serial transport and the firmware's loop, with the bytes on their way
between them.  A run is any interleaving of duties written by the daemon, drains
of the daemon's reader and passes of the firmware's loop, each reading as many
bytes as the driver cares to return.

Two assumptions are made on the line and named where they are used.  `Sound`: the
driver takes a duty frame whole or refuses it, since the transport counts a short
write as sent and leaves part of a frame on the line.  `NoMagic`: the firmware's boot
log does not hold the two magic bytes in a row, so that no byte of it starts a frame.
The downward line needs the first only, the upward line both.
-/

namespace ThermalCore

open MachineInt

/-! ## The two parties -/

/-- Both parties and the bytes in flight in either direction. -/
structure HilLink where
  daemon : HilSerial
  peripheral : HilPeripheral
  toPeripheral : List UInt8
  toDaemon : List UInt8

/-- The link when the daemon opens it: the firmware's boot log may be on its way. -/
def hilLinkOpened (boot : List UInt8) : HilLink := ⟨bspHilSerialOpened, hilPeripheralBoot, [], boot⟩

/-- What can happen next: a write, a drain, or a pass of the firmware's loop. -/
inductive LinkEvent where
  /-- `bsp_hil_serial_write_actuator`, of whose frame the driver takes `taken` bytes. -/
  | write (tsMs slot duty taken : Nat)
  | drain (nowMs want : Nat)
  | pass (inp : HilPassInput)

/-- The frames of one event: those the daemon's driver took whole, those the
firmware dispatched and wrote, and those the daemon dispatched, with its clock. -/
structure LinkTraffic where
  sent : List WireFrame
  commands : List WireFrame
  reported : List WireFrame
  received : List WireFrame
  receivedAtMs : Nat

/-- The frame of a duty. -/
def dutyFrame (seq tsMs slot duty : Nat) : WireFrame :=
  ⟨seq, tsMs, .cmdRequest, putU16LE hilCmdSetPwmDuty ++ [UInt8.ofNat slot, UInt8.ofNat duty], true⟩

/-- One event, with what it sent, what it applied and what it took in. -/
def linkStep (cfg : Config) (sensorOk : Bool) (s : HilLink) : LinkEvent → HilLink × LinkTraffic
  | .write tsMs slot duty taken =>
      let w := bspHilSerialWriteActuator s.daemon tsMs slot duty
      ({ s with daemon := w.1, toPeripheral := s.toPeripheral ++ w.2.take taken },
        { sent := if taken ≥ w.2.length then [dutyFrame w.1.txSeq tsMs slot duty] else []
          commands := [], reported := [], received := [], receivedAtMs := 0 })
  | .drain nowMs want =>
      let r := hilSerialDrain nowMs s.daemon s.toDaemon want
      ({ s with daemon := r.serial, toDaemon := r.pending },
        { sent := [], commands := [], reported := [], received := r.frames, receivedAtMs := nowMs })
  | .pass inp =>
      let r := hilPeripheralPass cfg sensorOk s.peripheral s.toPeripheral inp
      ({ s with peripheral := r.peripheral, toPeripheral := r.pending, toDaemon := s.toDaemon ++ r.written },
        { sent := [], commands := r.commands
          reported := ((wireScanner bspHilSerialRx).scan r.written).1, received := [], receivedAtMs := 0 })

/-! ## Messages the firmware writes -/

/-- The frame of a message. -/
def WireMessage.frame (msg : WireMessage) (tsMs seq : Nat) : WireFrame :=
  ⟨seq, tsMs, msg.opcode, msg.payload, true⟩

/-- The frames of messages sent in a row. -/
def numbered (tsMs : Nat) : Nat → List WireMessage → List WireFrame
  | _, [] => []
  | seq, msg :: msgs => msg.frame tsMs seq :: numbered tsMs (u16 (seq + 1)) msgs

/-- The slot and duty of a command frame. -/
def dutyCommand (fr : WireFrame) : Option (Nat × Nat) :=
  if fr.opcode = .cmdRequest ∧ fr.payload.length = 4 ∧ getU16LE fr.payload = hilCmdSetPwmDuty then
    some (byteAt fr.payload 2, byteAt fr.payload 3)
  else none

/-- What the firmware answers a frame. -/
def hilReply (cfg : Config) (fr : WireFrame) : WireMessage :=
  match dutyCommand fr with
  | some (slot, duty) =>
      if slot < cfg.actuatorCount then .cmdAck fr.seq 0 duty
      else .cmdNack fr.seq wireStatusBadPayload slot
  | none =>
      if fr.opcode ≠ .cmdRequest then .cmdNack fr.seq wireStatusBadOpcode 0
      else .cmdNack fr.seq wireStatusBadPayload (if fr.payload.length ≥ 2 then getU16LE fr.payload else 0)

/-- What a frame does to the duties. -/
def applyDuty (cfg : Config) (duties : Vector Nat maxActuators) (fr : WireFrame) : Vector Nat maxActuators :=
  match dutyCommand fr with
  | some (slot, duty) => bspEsp32PwmSetDuty cfg duties slot duty
  | none => duties

/-- The messages of one pass: the samples, then the replies. -/
def passMessages (cfg : Config) (p : HilPeripheral) (ticksDelta : Nat → Nat) (commands : List WireFrame) :
    List WireMessage :=
  (hilSamples cfg p ticksDelta).map (fun sample => .telemSample sample.1 0 sample.2) ++
    commands.map (hilReply cfg)

section peripheral

variable {cfg : Config} {nowMs : Nat}

/-- An answer has the payload of an acknowledgement, whichever it is. -/
theorem length_payload_reply (cfg : Config) (fr : WireFrame) : (hilReply cfg fr).payload.length = 8 := by
  unfold hilReply
  repeat' split
  all_goals simp [WireMessage.payload]

/-- A duty command names a slot and a duty of one byte each. -/
theorem dutyCommand_lt {fr : WireFrame} {slot duty : Nat} (h : dutyCommand fr = some (slot, duty)) :
    slot < 2 ^ 8 ∧ duty < 2 ^ 8 := by
  unfold dutyCommand at h
  split_ifs at h
  cases h
  exact ⟨byteAt_lt .., byteAt_lt ..⟩

/-- An answer fits its fields. -/
theorem hilReply_typed (cfg : Config) {fr : WireFrame} (h : fr.seq < 2 ^ 16) : (hilReply cfg fr).Typed := by
  have hid := getU16LE_lt fr.payload
  unfold hilReply
  cases hcmd : dutyCommand fr with
  | some cmd =>
      obtain ⟨hslot, hduty⟩ := dutyCommand_lt hcmd
      dsimp only
      split_ifs
      · exact ⟨h, by decide, by omega⟩
      · exact ⟨h, by decide, by omega⟩
  | none =>
      dsimp only
      split_ifs
      · exact ⟨h, by decide, by decide⟩
      · exact ⟨h, by decide, by omega⟩
      · exact ⟨h, by decide, by decide⟩

/-- An answer is written as the frame of its message. -/
theorem reply_bytes {fr : WireFrame} (h : fr.seq < 2 ^ 16) {msg : WireMessage} (hmsg : hilReply cfg fr = msg)
    (seq : Nat) : (msg.frame nowMs seq).bytes = usbCdcWritten (msg.encode hilReplyLen seq nowMs true) := by
  have htyped := hilReply_typed cfg h
  have hlen := length_payload_reply cfg fr
  rw [hmsg] at htyped hlen
  rw [encode_eq htyped (by rw [hlen]; decide)]
  rfl

/-- **One frame at the firmware**: its duty is applied, and it is answered. -/
theorem hilDispatchFrame_eq (cfg : Config) (nowMs : Nat) (s : HilActuation) {fr : WireFrame}
    (h : fr.seq < 2 ^ 16) :
    hilDispatchFrame cfg nowMs s fr =
      (⟨applyDuty cfg s.duties fr, u16 (s.outSeq + 1)⟩, ((hilReply cfg fr).frame nowMs s.outSeq).bytes) := by
  rw [reply_bytes h rfl]
  unfold hilDispatchFrame hilReply applyDuty dutyCommand
  by_cases hop : fr.opcode = .cmdRequest
  · by_cases hcmd : getU16LE fr.payload = hilCmdSetPwmDuty ∧ fr.payload.length = 4
    · obtain ⟨hid, hlen⟩ := hcmd
      by_cases hslot : byteAt fr.payload 2 < cfg.actuatorCount
      · simp [hop, hid, hlen, hslot, Nat.not_le.mpr hslot, WireMessage.encode]
      · simp [hop, hid, hlen, hslot, Nat.le_of_not_lt hslot, WireMessage.encode, bspEsp32PwmSetDuty]
    · have hnone : ¬(fr.opcode = .cmdRequest ∧ fr.payload.length = 4 ∧
          getU16LE fr.payload = hilCmdSetPwmDuty) := fun hall => hcmd ⟨hall.2.2, hall.2.1⟩
      have hnone' : ¬((if fr.payload.length ≥ 2 then getU16LE fr.payload else 0) = hilCmdSetPwmDuty ∧
          fr.payload.length = 4) := by
        rintro ⟨hid, hlen⟩
        rw [if_pos (by omega)] at hid
        exact hcmd ⟨hid, hlen⟩
      rw [if_neg hnone, if_neg (not_not.mpr hop), if_neg hnone', if_neg (not_not.mpr hop)]
      rfl
  · simp [hop, WireMessage.encode]

/-- The bytes written for the commands of a pass are their answers, numbered. -/
theorem outputs_dispatch (cfg : Config) (nowMs : Nat) (s : HilActuation) {frs : List WireFrame} (h : ∀ fr ∈ frs, fr.seq < 2 ^ 16)
    (hseq : s.outSeq < 2 ^ 16) :
    (Machine.outputs (hilDispatchFrame cfg nowMs) s frs).flatten =
        (numbered nowMs s.outSeq (frs.map (hilReply cfg))).flatMap WireFrame.bytes ∧
      Machine.after (hilDispatchFrame cfg nowMs) s frs =
        ⟨frs.foldl (applyDuty cfg) s.duties, u16 (s.outSeq + frs.length)⟩ := by
  induction frs generalizing s with
  | nil => simp [numbered, u16_of_lt hseq]
  | cons fr frs ih =>
      rw [List.forall_mem_cons] at h
      obtain ⟨hout, hafter⟩ := ih ⟨applyDuty cfg s.duties fr, u16 (s.outSeq + 1)⟩ h.2 (Nat.mod_lt _ (by decide))
      have hcount : u16 (u16 (s.outSeq + 1) + frs.length) = u16 (s.outSeq + (frs.length + 1)) := by
        unfold u16
        omega
      simp [hilDispatchFrame_eq cfg nowMs s h.1, hout, hafter, numbered, hcount]

/-- A sample is written as the frame of its message, and counted. -/
theorem hilEmitSample_eq (seq : Nat) {sample : Nat × Int} (hsig : sample.1 < 2 ^ 16) (hval : IsI32 sample.2) :
    hilEmitSample nowMs seq sample =
      (u16 (seq + 1), ((WireMessage.telemSample sample.1 0 sample.2).frame nowMs seq).bytes) := by
  have htyped : (WireMessage.telemSample sample.1 0 sample.2).Typed := ⟨hsig, by decide, hval⟩
  have hencode : (WireMessage.telemSample sample.1 0 sample.2).encode wireMaxMcu seq nowMs true = _ :=
    encode_eq htyped (by simp [WireMessage.payload, wireHeaderLen, wireCrcLen, wireMaxMcu]) seq nowMs true
  unfold hilEmitSample
  rw [show thermalWireEncodeTelemSample wireMaxMcu seq nowMs sample.1 0 sample.2 true = _ from hencode]
  rfl

/-- The bytes written for the samples of a pass are their frames, numbered. -/
theorem outputs_emit (nowMs : Nat) {seq : Nat} {samples : List (Nat × Int)} (h : ∀ x ∈ samples, x.1 < 2 ^ 16 ∧ IsI32 x.2)
    (hseq : seq < 2 ^ 16) :
    (Machine.outputs (hilEmitSample nowMs) seq samples).flatten =
        (numbered nowMs seq (samples.map fun x => .telemSample x.1 0 x.2)).flatMap WireFrame.bytes ∧
      Machine.after (hilEmitSample nowMs) seq samples = u16 (seq + samples.length) := by
  induction samples generalizing seq with
  | nil => simp [numbered, u16_of_lt hseq]
  | cons x samples ih =>
      rw [List.forall_mem_cons] at h
      have hnext : u16 (seq + 1) < 2 ^ 16 := Nat.mod_lt _ (by decide)
      obtain ⟨hout, hafter⟩ := ih h.2 hnext
      have hcount : u16 (u16 (seq + 1) + samples.length) = u16 (seq + (samples.length + 1)) := by
        unfold u16
        omega
      simp [hilEmitSample_eq seq h.1.1 h.1.2, hout, hafter, numbered, hcount]

/-- Numbering goes on where it stopped. -/
theorem numbered_append {seq : Nat} (hseq : seq < 2 ^ 16) (xs ys : List WireMessage) :
    numbered nowMs seq (xs ++ ys) = numbered nowMs seq xs ++ numbered nowMs (u16 (seq + xs.length)) ys := by
  induction xs generalizing seq with
  | nil => simp [numbered, u16_of_lt hseq]
  | cons msg xs ih =>
      have hcount : u16 (u16 (seq + 1) + xs.length) = u16 (seq + (xs.length + 1)) := by
        unfold u16
        omega
      have hnext : u16 (seq + 1) < 2 ^ 16 := Nat.mod_lt _ (by decide)
      simp [numbered, ih hnext, hcount]

/-- A frame for each message. -/
theorem length_numbered (nowMs seq : Nat) (msgs : List WireMessage) :
    (numbered nowMs seq msgs).length = msgs.length := by
  induction msgs generalizing seq with
  | nil => rfl
  | cons msg msgs ih => simp [numbered, ih]

/-- The numbers of frames sent in a row. -/
theorem seq_numbered {seq : Nat} (hseq : seq < 2 ^ 16) (msgs : List WireMessage) :
    (numbered nowMs seq msgs).map WireFrame.seq = (List.range msgs.length).map fun i => u16 (seq + i) := by
  induction msgs generalizing seq with
  | nil => rfl
  | cons msg msgs ih =>
      have hcount (i : Nat) : u16 (u16 (seq + 1) + i) = u16 (seq + (i + 1)) := by
        unfold u16
        omega
      have hnext : u16 (seq + 1) < 2 ^ 16 := Nat.mod_lt _ (by decide)
      simp [numbered, ih hnext, List.range_succ_eq_map, hcount, WireMessage.frame, u16_of_lt hseq]

/-- A numbered frame fits the daemon's receiver. -/
theorem fits_of_mem_numbered {seq : Nat} (hseq : seq < 2 ^ 16) (hts : nowMs < 2 ^ 32) {msgs : List WireMessage}
    (hshort : ∀ msg ∈ msgs, msg.payload.length ≤ wireMaxLinux) {fr : WireFrame}
    (h : fr ∈ numbered nowMs seq msgs) : fr.Fits bspHilSerialRx := by
  induction msgs generalizing seq with
  | nil => cases h
  | cons msg msgs ih =>
      rw [List.forall_mem_cons] at hshort
      obtain rfl | hrest := List.mem_cons.mp h
      · exact ⟨hseq, hts, hshort.1, length_payload_lt msg, rfl⟩
      · have hnext : u16 (seq + 1) < 2 ^ 16 := Nat.mod_lt _ (by decide)
        exact ih hnext hshort.2 hrest

/-- What frames carry. -/
def messages (frs : List WireFrame) : List WireMessage := frs.filterMap fun fr => fr.decodeMessage.toOption

/-- What two runs of frames say. -/
theorem messages_append (xs ys : List WireFrame) : messages (xs ++ ys) = messages xs ++ messages ys :=
  List.filterMap_append ..

/-- Numbered frames say the messages they were made from. -/
theorem messages_numbered (seq : Nat) {msgs : List WireMessage} (h : ∀ msg ∈ msgs, msg.Typed) :
    messages (numbered nowMs seq msgs) = msgs := by
  induction msgs generalizing seq with
  | nil => rfl
  | cons msg msgs ih =>
      rw [List.forall_mem_cons] at h
      have hdecode : (msg.frame nowMs seq).decodeMessage = .ok msg := decodeMessage_payload h.1 seq nowMs true
      have hrest := ih (u16 (seq + 1)) h.2
      unfold messages at *
      simp [numbered, hdecode, Except.toOption] at hrest ⊢
      exact hrest

end peripheral

/-! ## One pass of the firmware -/

/-- The variables of the loop lie in the ranges of their types. -/
structure HilPeripheral.Typed (p : HilPeripheral) : Prop where
  nowMs : p.nowMs < 2 ^ 32
  outSeq : p.actuation.outSeq < 2 ^ 16
  temps : ∀ i, IsI32 (p.cachedTempMc.slot i)

/-- Every temperature read is an `int32_t`. -/
def HilPassInput.Typed (inp : HilPassInput) : Prop := ∀ i temp, inp.readMc i = some temp → IsI32 temp

section pass

variable {cfg : Config} {sensorOk : Bool} {p : HilPeripheral} {inp : HilPassInput}

/-- The firmware boots within its C types. -/
theorem hilPeripheralBoot_typed : hilPeripheralBoot.Typed where
  nowMs := by decide
  outSeq := by decide
  temps i := by
    unfold hilPeripheralBoot
    exact Vector.slot_replicate_rec (P := IsI32) (by decide) (by decide) i

/-- Refreshing the readings does not move the clock. -/
@[simp] theorem hilRefresh_nowMs : (hilRefresh cfg sensorOk inp p).nowMs = p.nowMs := by
  unfold hilRefresh
  split_ifs <;> rfl

/-- Refreshing the readings does not touch the fans. -/
@[simp] theorem hilRefresh_actuation : (hilRefresh cfg sensorOk inp p).actuation = p.actuation := by
  unfold hilRefresh
  split_ifs <;> rfl

/-- Refreshing the readings does not touch the receive buffer. -/
@[simp] theorem hilRefresh_rxBuf : (hilRefresh cfg sensorOk inp p).rxBuf = p.rxBuf := by
  unfold hilRefresh
  split_ifs <;> rfl

/-- Refreshing the readings keeps the firmware within its C types. -/
theorem hilRefresh_typed (hp : p.Typed) (hinp : inp.Typed) : (hilRefresh cfg sensorOk inp p).Typed where
  nowMs := by simpa using hp.nowMs
  outSeq := by simpa using hp.outSeq
  temps i := by
    unfold hilRefresh
    split_ifs
    · show IsI32 ((p.cachedTempMc.forSlots _ _).slot i)
      rw [Vector.slot_forSlots]
      split_ifs
      · cases hread : inp.readMc i with
        | none => simpa [hread] using hp.temps i
        | some temp => simpa [hread] using hinp i temp hread
      · exact hp.temps i
    · exact hp.temps i

/-- The samples of a pass fit their fields. -/
theorem hilSamples_typed (hp : p.Typed) (ticksDelta : Nat → Nat) :
    ∀ x ∈ hilSamples cfg p ticksDelta, x.1 < 2 ^ 16 ∧ IsI32 x.2 := by
  intro x hx
  have hu16 (n : Nat) : u16 n < 2 ^ 16 := Nat.mod_lt _ (by decide)
  unfold hilSamples at hx
  rw [List.mem_append, Loop.mem_emit, Loop.mem_emit] at hx
  obtain ⟨i, -, hi⟩ | ⟨i, -, hi⟩ := hx
  · split_ifs at hi
    · obtain rfl := List.mem_singleton.mp hi
      exact ⟨hu16 _, hp.temps i⟩
    · cases hi
  · obtain rfl := List.mem_singleton.mp hi
    exact ⟨hu16 _, isI32_i32 _⟩

/-- The messages of a pass fit their fields and the frames' buffers. -/
theorem passMessages_typed (hp : p.Typed) (ticksDelta : Nat → Nat) {commands : List WireFrame}
    (h : ∀ fr ∈ commands, fr.seq < 2 ^ 16) :
    ∀ msg ∈ passMessages cfg p ticksDelta commands, msg.Typed ∧ msg.payload.length = 8 := by
  intro msg hmsg
  unfold passMessages at hmsg
  rw [List.mem_append, List.mem_map, List.mem_map] at hmsg
  obtain ⟨x, hx, rfl⟩ | ⟨fr, hfr, rfl⟩ := hmsg
  · obtain ⟨hsig, hval⟩ := hilSamples_typed hp ticksDelta x hx
    exact ⟨⟨hsig, by decide, hval⟩, by simp [WireMessage.payload]⟩
  · exact ⟨hilReply_typed cfg (h fr hfr), length_payload_reply cfg fr⟩

/-- **One pass**: the frames dispatched are applied in order, and the samples and
the replies go out as frames numbered in a row. -/
theorem hilPeripheralPass_eq (cfg : Config) (sensorOk : Bool) (hp : p.Typed) (hinp : inp.Typed)
    (pending : List UInt8)
    (hseq : ∀ fr ∈ (hilDrainCommands ⟨p.rxBuf, pending⟩ inp.want).2, fr.seq < 2 ^ 16) :
    let rx := hilDrainCommands ⟨p.rxBuf, pending⟩ inp.want
    let msgs := passMessages cfg (hilRefresh cfg sensorOk inp p) inp.ticksDelta rx.2
    let r := hilPeripheralPass cfg sensorOk p pending inp
    r.written = (numbered p.nowMs p.actuation.outSeq msgs).flatMap WireFrame.bytes ∧
      r.peripheral.actuation =
        ⟨rx.2.foldl (applyDuty cfg) p.actuation.duties, u16 (p.actuation.outSeq + msgs.length)⟩ := by
  intro rx msgs r
  have hsamples : ∀ x ∈ hilSamples cfg (hilRefresh cfg sensorOk inp p) inp.ticksDelta,
      x.1 < 2 ^ 16 ∧ IsI32 x.2 := hilSamples_typed (hilRefresh_typed hp hinp) inp.ticksDelta
  obtain ⟨hemit, hcount⟩ := outputs_emit p.nowMs hsamples hp.outSeq
  obtain ⟨hreplies, hafter⟩ := outputs_dispatch cfg p.nowMs
    ⟨p.actuation.duties,
      u16 (p.actuation.outSeq + (hilSamples cfg (hilRefresh cfg sensorOk inp p) inp.ticksDelta).length)⟩
    hseq (Nat.mod_lt _ (by decide))
  constructor
  · show (Machine.outputs _ _ _).flatten ++ (Machine.outputs _ _ _).flatten = _
    simp only [hilRefresh_nowMs, hilRefresh_actuation, hilRefresh_rxBuf, hemit, hcount, hreplies]
    simp only [msgs, passMessages, numbered_append hp.outSeq, List.flatMap_append, List.length_map]
    rfl
  · show Machine.after _ _ _ = _
    simp only [hilRefresh_nowMs, hilRefresh_actuation, hilRefresh_rxBuf, hcount]
    rw [hafter]
    have hsum (n k : Nat) : u16 (u16 (p.actuation.outSeq + n) + k) = u16 (p.actuation.outSeq + (n + k)) := by
      unfold u16
      omega
    simp only [msgs, passMessages, List.length_append, List.length_map, hsum]
    rfl

end pass

/-! ## The daemon's dispatch -/

/-- What a message does to the daemon's caches and counters. -/
def dispatchMessage (nowMs : Nat) (s : HilSerial) : WireMessage → HilSerial
  | .telemSample signalId _ value => dispatchTelemSample s signalId value nowMs
  | .cmdAck .. => { s with ackCount := u64 (s.ackCount + 1) }
  | .cmdNack .. => { s with nackCount := u64 (s.nackCount + 1) }
  | .telemEvent .. | .cmdRequest _ => s

section daemon

variable {nowMs : Nat} {s : HilSerial}

/-- The daemon dispatches a frame by the message in it. -/
theorem dispatchFrame_eq (nowMs : Nat) (s : HilSerial) (fr : WireFrame) :
    dispatchFrame nowMs s fr = (fr.decodeMessage.toOption.map (dispatchMessage nowMs s)).getD s := by
  unfold dispatchFrame WireFrame.decodeMessage
  cases hop : fr.opcode with
  | telemSample => cases thermalWireDecodeTelemSample fr <;> rfl
  | telemEvent => cases thermalWireDecodeTelemEvent fr <;> rfl
  | cmdRequest => cases thermalWireDecodeCmdRequest fr <;> rfl
  | cmdAck => cases thermalWireDecodeCmdAckOrNack fr <;> rfl
  | cmdNack => cases thermalWireDecodeCmdAckOrNack fr <;> rfl

/-- The daemon dispatches frames by the messages in them. -/
theorem foldl_dispatchFrame (nowMs : Nat) (s : HilSerial) (frs : List WireFrame) :
    frs.foldl (dispatchFrame nowMs) s = (messages frs).foldl (dispatchMessage nowMs) s := by
  induction frs generalizing s with
  | nil => rfl
  | cons fr frs ih =>
      rw [List.foldl_cons, ih, dispatchFrame_eq]
      unfold messages
      cases hmsg : fr.decodeMessage.toOption <;> simp [hmsg]

/-- A message leaves the reader and the writer alone. -/
theorem dispatchMessage_frame (nowMs : Nat) (s : HilSerial) (msg : WireMessage) :
    (dispatchMessage nowMs s msg).rxBuf = s.rxBuf ∧ (dispatchMessage nowMs s msg).txSeq = s.txSeq := by
  cases msg with
  | telemSample signalId flags value =>
      unfold dispatchMessage dispatchTelemSample
      dsimp only
      split_ifs <;> exact ⟨rfl, rfl⟩
  | telemEvent | cmdRequest | cmdAck | cmdNack => exact ⟨rfl, rfl⟩

/-- Dispatching touches neither the receive buffer nor the daemon's own counter. -/
theorem foldl_dispatchMessage_frame (nowMs : Nat) (s : HilSerial) (msgs : List WireMessage) :
    (msgs.foldl (dispatchMessage nowMs) s).rxBuf = s.rxBuf ∧
      (msgs.foldl (dispatchMessage nowMs) s).txSeq = s.txSeq := by
  induction msgs generalizing s with
  | nil => exact ⟨rfl, rfl⟩
  | cons msg msgs ih =>
      obtain ⟨hbuf, hseq⟩ := dispatchMessage_frame nowMs s msg
      simpa [hbuf, hseq] using ih (dispatchMessage nowMs s msg)

/-- An acknowledgement. -/
def WireMessage.isAck : WireMessage → Bool
  | .cmdAck .. => true
  | _ => false

/-- A refusal. -/
def WireMessage.isNack : WireMessage → Bool
  | .cmdNack .. => true
  | _ => false

/-- A sample is not counted as an answer. -/
theorem dispatchTelemSample_counts (s : HilSerial) (signalId : Nat) (value : Int) (nowMs : Nat) :
    (dispatchTelemSample s signalId value nowMs).ackCount = s.ackCount ∧
      (dispatchTelemSample s signalId value nowMs).nackCount = s.nackCount := by
  unfold dispatchTelemSample
  dsimp only
  split_ifs <;> exact ⟨rfl, rfl⟩

/-- A counter of 64 bits adds up modulo its range. -/
theorem u64_add_u64 (a b : Nat) : u64 (u64 a + b) = u64 (a + b) := by
  unfold u64
  omega

/-- The counters count. -/
theorem foldl_dispatchMessage_counts (nowMs : Nat) (s : HilSerial) (msgs : List WireMessage)
    (hack : s.ackCount < 2 ^ 64) (hnack : s.nackCount < 2 ^ 64) :
    (msgs.foldl (dispatchMessage nowMs) s).ackCount = u64 (s.ackCount + msgs.countP WireMessage.isAck) ∧
      (msgs.foldl (dispatchMessage nowMs) s).nackCount = u64 (s.nackCount + msgs.countP WireMessage.isNack) := by
  induction msgs generalizing s with
  | nil => exact ⟨(Nat.mod_eq_of_lt hack).symm, (Nat.mod_eq_of_lt hnack).symm⟩
  | cons msg msgs ih =>
      rw [List.foldl_cons]
      have hlt (n : Nat) : u64 n < 2 ^ 64 := Nat.mod_lt _ (by decide)
      cases msg with
      | telemSample signalId flags value =>
          obtain ⟨h1, h2⟩ := dispatchTelemSample_counts s signalId value nowMs
          have hrest := ih (dispatchTelemSample s signalId value nowMs) (h1 ▸ hack) (h2 ▸ hnack)
          rw [h1, h2] at hrest
          simpa [dispatchMessage, WireMessage.isAck, WireMessage.isNack] using hrest
      | telemEvent | cmdRequest =>
          simpa [dispatchMessage, WireMessage.isAck, WireMessage.isNack] using ih s hack hnack
      | cmdAck requestSeq status detailCode =>
          have hrest := ih { s with ackCount := u64 (s.ackCount + 1) } (hlt _) hnack
          rw [u64_add_u64, Nat.add_assoc, Nat.add_comm 1] at hrest
          simpa [dispatchMessage, WireMessage.isAck, WireMessage.isNack, List.countP_cons] using hrest
      | cmdNack requestSeq status detailCode =>
          have hrest := ih { s with nackCount := u64 (s.nackCount + 1) } hack (hlt _)
          rw [u64_add_u64, Nat.add_assoc, Nat.add_comm 1] at hrest
          simpa [dispatchMessage, WireMessage.isAck, WireMessage.isNack, List.countP_cons] using hrest

end daemon

/-! ## Invariants of the link -/

/-- The values lie in the ranges of their types, and the driver takes a frame
whole or refuses it. -/
def LinkEvent.Sound : LinkEvent → Prop
  | .write tsMs slot duty taken =>
      tsMs < 2 ^ 32 ∧ slot < 2 ^ 8 ∧ duty < 2 ^ 8 ∧ (taken = 0 ∨ wireHeaderLen + 4 + wireCrcLen ≤ taken)
  | .drain nowMs _ => nowMs < 2 ^ 32
  | .pass inp => inp.Typed

/-- The line to the firmware: what was sent was dispatched, in order, or is on
its way, and the duties are those dispatched. -/
structure CommandsInv (cfg : Config) (s : HilLink) (os : List LinkTraffic) : Prop where
  peripheral : s.peripheral.Typed
  txSeq : s.daemon.txSeq < 2 ^ 16
  line : ∃ ws, os.flatMap LinkTraffic.sent = os.flatMap LinkTraffic.commands ++ ws ∧
    Line hilRx ⟨s.peripheral.rxBuf, s.toPeripheral⟩ ws
  duties : s.peripheral.actuation.duties =
    (os.flatMap LinkTraffic.commands).foldl (applyDuty cfg) (.replicate _ 0)

section commands

variable {cfg : Config} {sensorOk : Bool} {s : HilLink} {os : List LinkTraffic}

/-- The bytes of a duty are those of its frame. -/
theorem pwmDutyFrame_eq (seq tsMs slot duty : Nat) :
    pwmDutyFrame seq tsMs slot duty = (dutyFrame seq tsMs slot duty).bytes := by
  simp [pwmDutyFrame, dutyFrame, WireFrame.bytes, frameBytes, writeHeader]

/-- A duty's frame fits the firmware's receiver. -/
theorem dutyFrame_fits {seq tsMs : Nat} (hseq : seq < 2 ^ 16) (hts : tsMs < 2 ^ 32) (slot duty : Nat) :
    (dutyFrame seq tsMs slot duty).Fits hilRx :=
  ⟨hseq, hts, by simp [dutyFrame, hilRx, wireMaxMcu], by simp [dutyFrame], rfl⟩

/-- A write puts the frame it reports as sent on the line, and nothing else. -/
theorem linkStep_write (cfg : Config) (sensorOk : Bool) (s : HilLink) {tsMs slot duty taken : Nat}
    (he : (LinkEvent.write tsMs slot duty taken).Sound) :
    let r := linkStep cfg sensorOk s (.write tsMs slot duty taken)
    r.1.toPeripheral = s.toPeripheral ++ r.2.sent.flatMap WireFrame.bytes ∧
      ∀ fr ∈ r.2.sent, fr.Fits hilRx := by
  obtain ⟨hts, -, -, htaken⟩ := he
  have hseq : u16 (s.daemon.txSeq + 1) < 2 ^ 16 := Nat.mod_lt _ (by decide)
  have hlen : (dutyFrame (u16 (s.daemon.txSeq + 1)) tsMs slot duty).bytes.length =
      wireHeaderLen + 4 + wireCrcLen := by
    simp [dutyFrame]
  simp only [linkStep, bspHilSerialWriteActuator, pwmDutyFrame_eq, hlen]
  obtain rfl | hwhole := htaken
  · simp [wireHeaderLen]
  · rw [if_pos hwhole, List.take_of_length_le (by omega)]
    simpa using dutyFrame_fits hseq hts slot duty

/-- A fresh line carries no command. -/
theorem commandsInv_opened (cfg : Config) (boot : List UInt8) : CommandsInv cfg (hilLinkOpened boot) [] where
  peripheral := hilPeripheralBoot_typed
  txSeq := Nat.two_pow_pos 16
  line := ⟨[], rfl, rfl, Framing.Scanner.carries_nil rfl⟩
  duties := rfl

/-- One more event's traffic. -/
theorem flatMap_concat {α β : Type*} (f : α → List β) (xs : List α) (x : α) :
    (xs ++ [x]).flatMap f = xs.flatMap f ++ f x := by
  simp

/-- An event keeps the account of the downward line. -/
theorem CommandsInv.step (h : CommandsInv cfg s os) {e : LinkEvent} (he : e.Sound) :
    CommandsInv cfg (linkStep cfg sensorOk s e).1 (os ++ [(linkStep cfg sensorOk s e).2]) := by
  obtain ⟨ws, hsent, hline⟩ := h.line
  cases e with
  | write tsMs slot duty taken =>
      obtain ⟨hbytes, hfits⟩ := linkStep_write cfg sensorOk s he
      have hnext := hline.writes hfits
      rw [← hbytes] at hnext
      exact ⟨h.peripheral, Nat.mod_lt _ (by decide), ⟨_, by simp [linkStep, hsent], hnext⟩,
        by simpa [linkStep] using h.duties⟩
  | drain nowMs want =>
      have hseq : (linkStep cfg sensorOk s (.drain nowMs want)).1.daemon.txSeq = s.daemon.txSeq := by
        simp [linkStep, hilSerialDrain, foldl_dispatchFrame, foldl_dispatchMessage_frame]
      exact ⟨h.peripheral, hseq ▸ h.txSeq, ⟨ws, by simpa [linkStep] using hsent, hline⟩,
        by simpa [linkStep] using h.duties⟩
  | pass inp =>
      obtain ⟨vs, hvs, hrest⟩ := hline.drain inp.want
      have hseq : ∀ fr ∈ (hilDrainCommands ⟨s.peripheral.rxBuf, s.toPeripheral⟩ inp.want).2, fr.seq < 2 ^ 16 :=
        fun fr hfr => (hline.fits (hvs ▸ List.mem_append_left vs hfr)).seq
      obtain ⟨-, hact⟩ := hilPeripheralPass_eq cfg sensorOk h.peripheral he s.toPeripheral hseq
      have hrefreshed : (hilRefresh cfg sensorOk inp s.peripheral).Typed := hilRefresh_typed h.peripheral he
      have hcommands : (linkStep cfg sensorOk s (.pass inp)).2.commands =
          (hilDrainCommands ⟨s.peripheral.rxBuf, s.toPeripheral⟩ inp.want).2 := by
        simp [linkStep, hilPeripheralPass]
      refine ⟨⟨Nat.mod_lt _ (by decide), ?_, hrefreshed.temps⟩, h.txSeq, ⟨vs, ?_, ?_⟩, ?_⟩
      · simp only [linkStep, hact]
        exact Nat.mod_lt _ (by decide)
      · have hnone : (linkStep cfg sensorOk s (.pass inp)).2.sent = [] := rfl
        rw [flatMap_concat, flatMap_concat, hnone, hcommands, hsent, hvs]
        simp [hilDrainCommands]
      · simpa [linkStep, hilPeripheralPass, hilDrainCommands] using hrest
      · rw [flatMap_concat, hcommands, List.foldl_append, ← h.duties]
        simp only [linkStep, hact]

/-- The frames a pass dispatches have 16-bit numbers. -/
theorem CommandsInv.seq_commands (h : CommandsInv cfg s os) (inp : HilPassInput) :
    ∀ fr ∈ (linkStep cfg sensorOk s (.pass inp)).2.commands, fr.seq < 2 ^ 16 := by
  obtain ⟨ws, -, hline⟩ := h.line
  obtain ⟨vs, hvs, -⟩ := hline.drain inp.want
  intro fr hfr
  simp only [linkStep, hilPeripheralPass, hilRefresh_rxBuf] at hfr
  exact (hline.fits (hvs ▸ List.mem_append_left vs hfr)).seq

end commands

/-- An answer of either kind. -/
def WireMessage.isReply (msg : WireMessage) : Bool := msg.isAck || msg.isNack

/-- The line to the daemon: what the firmware wrote, numbered in a row, was
dispatched, in order, or is on its way; every command dispatched was answered
once, in order; and the counters count the answers that arrived. -/
structure ReportsInv (cfg : Config) (s : HilLink) (os : List LinkTraffic) : Prop where
  line : ∃ ws, os.flatMap LinkTraffic.reported = os.flatMap LinkTraffic.received ++ ws ∧
    Line bspHilSerialRx ⟨s.daemon.rxBuf, s.toDaemon⟩ ws
  numbers : (os.flatMap LinkTraffic.reported).map WireFrame.seq =
    (List.range (os.flatMap LinkTraffic.reported).length).map u16
  outSeq : s.peripheral.actuation.outSeq = u16 (os.flatMap LinkTraffic.reported).length
  replies : (messages (os.flatMap LinkTraffic.reported)).filter WireMessage.isReply =
    (os.flatMap LinkTraffic.commands).map (hilReply cfg)
  acks : s.daemon.ackCount = u64 ((messages (os.flatMap LinkTraffic.received)).countP WireMessage.isAck)
  nacks : s.daemon.nackCount = u64 ((messages (os.flatMap LinkTraffic.received)).countP WireMessage.isNack)

section reports

variable {cfg : Config} {sensorOk : Bool} {s : HilLink} {os : List LinkTraffic}

/-- What the firmware answers with is an answer. -/
theorem isReply_hilReply (cfg : Config) (fr : WireFrame) : (hilReply cfg fr).isReply = true := by
  unfold hilReply
  repeat' split
  all_goals rfl

/-- The answers among a pass's messages are those to its commands. -/
theorem filter_isReply_passMessages (cfg : Config) (p : HilPeripheral) (ticksDelta : Nat → Nat)
    (commands : List WireFrame) :
    (passMessages cfg p ticksDelta commands).filter WireMessage.isReply = commands.map (hilReply cfg) := by
  have hsamples : ((hilSamples cfg p ticksDelta).map fun x => WireMessage.telemSample x.1 0 x.2).filter
      WireMessage.isReply = [] := by
    rw [List.filter_eq_nil_iff]
    intro msg hmsg
    obtain ⟨x, -, rfl⟩ := List.mem_map.mp hmsg
    simp [WireMessage.isReply, WireMessage.isAck, WireMessage.isNack]
  have hreplies : (commands.map (hilReply cfg)).filter WireMessage.isReply = commands.map (hilReply cfg) := by
    simp [List.filter_eq_self, isReply_hilReply]
  rw [passMessages, List.filter_append, hsamples, hreplies, List.nil_append]

/-- A fresh line carries no report, behind a boot log without the magic pair. -/
theorem reportsInv_opened (cfg : Config) {boot : List UInt8} (h : NoMagic boot) :
    ReportsInv cfg (hilLinkOpened boot) [] where
  line := ⟨[], rfl, rfl, carries_of_noMagic rfl h⟩
  numbers := rfl
  outSeq := rfl
  replies := rfl
  acks := rfl
  nacks := rfl

/-- What a pass reports: its messages, numbered on. -/
theorem linkStep_pass (cfg : Config) (sensorOk : Bool) (hp : s.peripheral.Typed) {inp : HilPassInput} (hinp : inp.Typed)
    (hseq : ∀ fr ∈ (linkStep cfg sensorOk s (.pass inp)).2.commands, fr.seq < 2 ^ 16) :
    let r := linkStep cfg sensorOk s (.pass inp)
    let msgs := passMessages cfg (hilRefresh cfg sensorOk inp s.peripheral) inp.ticksDelta r.2.commands
    r.2.reported = numbered s.peripheral.nowMs s.peripheral.actuation.outSeq msgs ∧
      r.1.toDaemon = s.toDaemon ++ r.2.reported.flatMap WireFrame.bytes ∧
      (∀ fr ∈ r.2.reported, fr.Fits bspHilSerialRx) ∧
      r.1.peripheral.actuation.outSeq = u16 (s.peripheral.actuation.outSeq + msgs.length) ∧
      ∀ msg ∈ msgs, msg.Typed := by
  intro r msgs
  have hcommands : r.2.commands = (hilDrainCommands ⟨s.peripheral.rxBuf, s.toPeripheral⟩ inp.want).2 := by
    simp [r, linkStep, hilPeripheralPass]
  obtain ⟨hwritten, hact⟩ := hilPeripheralPass_eq cfg sensorOk hp hinp s.toPeripheral (hcommands ▸ hseq)
  have htyped : ∀ msg ∈ msgs, msg.Typed ∧ msg.payload.length = 8 :=
    passMessages_typed (hilRefresh_typed hp hinp) inp.ticksDelta hseq
  have hfits : ∀ fr ∈ numbered s.peripheral.nowMs s.peripheral.actuation.outSeq msgs, fr.Fits bspHilSerialRx := by
    intro fr hfr
    exact fits_of_mem_numbered hp.outSeq hp.nowMs
      (fun msg hmsg => by rw [(htyped msg hmsg).2]; decide) hfr
  rw [← hcommands] at hwritten hact
  have hreported : r.2.reported = numbered s.peripheral.nowMs s.peripheral.actuation.outSeq msgs := by
    show ((wireScanner bspHilSerialRx).scan _).1 = _
    rw [hwritten]
    exact scan_flatMap_bytes hfits
  refine ⟨hreported, ?_, hreported ▸ hfits, ?_, fun msg hmsg => (htyped msg hmsg).1⟩
  · rw [hreported]
    show s.toDaemon ++ _ = _
    rw [hwritten]
  · show (hilPeripheralPass _ _ _ _ _).peripheral.actuation.outSeq = _
    rw [hact]

/-- An event keeps the account of the upward line. -/
theorem ReportsInv.step (hc : CommandsInv cfg s os) (h : ReportsInv cfg s os) {e : LinkEvent} (he : e.Sound) :
    ReportsInv cfg (linkStep cfg sensorOk s e).1 (os ++ [(linkStep cfg sensorOk s e).2]) := by
  obtain ⟨ws, hreported, hline⟩ := h.line
  cases e with
  | write tsMs slot duty taken =>
      refine ⟨⟨ws, by simpa [linkStep] using hreported, hline⟩, ?_, ?_, ?_, ?_, ?_⟩
      · simpa [linkStep] using h.numbers
      · simpa [linkStep] using h.outSeq
      · simpa [linkStep] using h.replies
      · simpa [linkStep, bspHilSerialWriteActuator] using h.acks
      · simpa [linkStep, bspHilSerialWriteActuator] using h.nacks
  | drain nowMs want =>
      obtain ⟨vs, hvs, hrest⟩ := hline.drain want
      let rx := bspHilSerialDrain ⟨s.daemon.rxBuf, s.toDaemon⟩ want
      have hserial : (linkStep cfg sensorOk s (.drain nowMs want)).1.daemon =
          (messages rx.2).foldl (dispatchMessage nowMs) { s.daemon with rxBuf := rx.1.buf } := by
        simp only [linkStep, hilSerialDrain, foldl_dispatchFrame, rx]
      have hack : s.daemon.ackCount < 2 ^ 64 := h.acks ▸ Nat.mod_lt _ (by decide)
      have hnack : s.daemon.nackCount < 2 ^ 64 := h.nacks ▸ Nat.mod_lt _ (by decide)
      obtain ⟨hacks, hnacks⟩ := foldl_dispatchMessage_counts nowMs { s.daemon with rxBuf := rx.1.buf }
        (messages rx.2) hack hnack
      have hreceived : (linkStep cfg sensorOk s (.drain nowMs want)).2.received = rx.2 := rfl
      refine ⟨⟨vs, ?_, ?_⟩, ?_, ?_, ?_, ?_, ?_⟩
      · have hnone : (linkStep cfg sensorOk s (.drain nowMs want)).2.reported = [] := rfl
        rw [flatMap_concat, flatMap_concat, hnone, hreceived, hreported, hvs]
        simp [rx, bspHilSerialDrain]
      · rw [hserial, (foldl_dispatchMessage_frame ..).1]
        exact hrest
      · simpa [linkStep] using h.numbers
      · simpa [linkStep] using h.outSeq
      · simpa [linkStep] using h.replies
      · have hsum := u64_add_u64 ((messages (os.flatMap LinkTraffic.received)).countP WireMessage.isAck)
          ((messages rx.2).countP WireMessage.isAck)
        rw [← h.acks] at hsum
        rw [hserial, hacks, flatMap_concat, messages_append, List.countP_append, hreceived]
        exact hsum
      · have hsum := u64_add_u64 ((messages (os.flatMap LinkTraffic.received)).countP WireMessage.isNack)
          ((messages rx.2).countP WireMessage.isNack)
        rw [← h.nacks] at hsum
        rw [hserial, hnacks, flatMap_concat, messages_append, List.countP_append, hreceived]
        exact hsum
  | pass inp =>
      obtain ⟨hnumbered, hbytes, hfits, hcount, htyped⟩ :=
        linkStep_pass cfg sensorOk hc.peripheral he (hc.seq_commands inp)
      have hnext := hline.writes hfits
      rw [← hbytes] at hnext
      have hlen := length_numbered s.peripheral.nowMs s.peripheral.actuation.outSeq
        (passMessages cfg (hilRefresh cfg sensorOk inp s.peripheral) inp.ticksDelta
          (linkStep cfg sensorOk s (.pass inp)).2.commands)
      rw [← hnumbered] at hlen
      refine ⟨⟨_, ?_, hnext⟩, ?_, ?_, ?_, ?_, ?_⟩
      · have hnone : (linkStep cfg sensorOk s (.pass inp)).2.received = [] := rfl
        rw [flatMap_concat, flatMap_concat, hnone, hreported]
        simp
      · rw [flatMap_concat, List.map_append, h.numbers, List.length_append, List.range_add, List.map_append, hlen,
          hnumbered, seq_numbered hc.peripheral.outSeq, h.outSeq, List.map_map]
        simp [u16]
      · rw [hcount, flatMap_concat, List.length_append, hlen, h.outSeq]
        unfold u16
        omega
      · rw [flatMap_concat, flatMap_concat, messages_append, List.filter_append, List.map_append, h.replies,
          hnumbered, messages_numbered _ htyped, filter_isReply_passMessages]
      · simpa [linkStep] using h.acks
      · simpa [linkStep] using h.nacks

end reports

/-! ## Runs of the link -/

/-- The duty an event puts on the line. -/
def LinkEvent.written : LinkEvent → Option (Nat × Nat)
  | .write _ slot duty taken => if taken ≥ wireHeaderLen + 4 + wireCrcLen then some (slot, duty) else none
  | .drain .. | .pass _ => none

section run

variable (cfg : Config) (sensorOk : Bool) {boot : List UInt8} {is : List LinkEvent}

/-- The duty commands dispatched by the firmware along a run. -/
def appliedDuties (os : List LinkTraffic) : List (Nat × Nat) :=
  (os.flatMap LinkTraffic.commands).filterMap dutyCommand

/-- The account of the downward line holds along every run. -/
theorem commandsInv_run (boot : List UInt8) (h : ∀ e ∈ is, e.Sound) :
    CommandsInv cfg (Machine.after (linkStep cfg sensorOk) (hilLinkOpened boot) is)
      (Machine.outputs (linkStep cfg sensorOk) (hilLinkOpened boot) is) :=
  Machine.outputs_invariant_of (fun _ _ _ he hinv => hinv.step he) (commandsInv_opened cfg boot) h

/-- The account of the upward line holds along every run. -/
theorem reportsInv_run (hboot : NoMagic boot) (h : ∀ e ∈ is, e.Sound) :
    ReportsInv cfg (Machine.after (linkStep cfg sensorOk) (hilLinkOpened boot) is)
      (Machine.outputs (linkStep cfg sensorOk) (hilLinkOpened boot) is) :=
  have hstep (s : HilLink) (os : List LinkTraffic) (e : LinkEvent) (he : e.Sound)
      (hinv : CommandsInv cfg s os ∧ ReportsInv cfg s os) :
      CommandsInv cfg (linkStep cfg sensorOk s e).1 (os ++ [(linkStep cfg sensorOk s e).2]) ∧
        ReportsInv cfg (linkStep cfg sensorOk s e).1 (os ++ [(linkStep cfg sensorOk s e).2]) :=
    ⟨hinv.1.step he, hinv.2.step hinv.1 he⟩
  (Machine.outputs_invariant_of hstep ⟨commandsInv_opened cfg boot, reportsInv_opened cfg hboot⟩ h).2

/-- The command in a duty's frame is that duty. -/
theorem dutyCommand_dutyFrame (seq tsMs : Nat) {slot duty : Nat} (hslot : slot < 2 ^ 8) (hduty : duty < 2 ^ 8) :
    dutyCommand (dutyFrame seq tsMs slot duty) = some (slot, duty) := by
  have hread : getU16LE (dutyFrame seq tsMs slot duty).payload = hilCmdSetPwmDuty := getU16LE_put (by decide) _
  unfold dutyCommand
  rw [if_pos ⟨rfl, by simp [dutyFrame], hread⟩]
  simpa [dutyFrame, byteAt, putU16LE] using And.intro hslot hduty

/-- The frame sent by an event is that of the duty written. -/
theorem filterMap_sent (s : HilLink) {e : LinkEvent} (h : e.Sound) :
    (linkStep cfg sensorOk s e).2.sent.filterMap dutyCommand = e.written.toList := by
  cases e with
  | write tsMs slot duty taken =>
      obtain ⟨-, hslot, hduty, -⟩ := h
      have hlen (seq : Nat) : (pwmDutyFrame seq tsMs slot duty).length = wireHeaderLen + 4 + wireCrcLen := by
        simp [pwmDutyFrame_eq, dutyFrame]
      simp only [linkStep, bspHilSerialWriteActuator, hlen, LinkEvent.written]
      split_ifs
      · simp [dutyCommand_dutyFrame _ tsMs hslot hduty]
      · rfl
  | drain nowMs want => rfl
  | pass inp => rfl

/-- The commands sent in a run are the duties the driver took. -/
theorem filterMap_sent_run (s : HilLink) (h : ∀ e ∈ is, e.Sound) :
    ((Machine.outputs (linkStep cfg sensorOk) s is).flatMap LinkTraffic.sent).filterMap dutyCommand =
      is.filterMap LinkEvent.written := by
  induction is generalizing s with
  | nil => rfl
  | cons e is ih =>
      rw [List.forall_mem_cons] at h
      rw [Machine.outputs_cons, List.flatMap_cons, List.filterMap_append, ih _ h.2,
        filterMap_sent cfg sensorOk s h.1, List.filterMap_cons]
      cases e.written <;> rfl

/-- The last duty of a slot. -/
def lastDuty (slot : Nat) (duties : List (Nat × Nat)) : Nat :=
  ((duties.filter fun d => d.1 == slot).getLast?.map Prod.snd).getD 0

/-- The last duty after one more. -/
theorem lastDuty_concat (slot : Nat) (duties : List (Nat × Nat)) (d : Nat × Nat) :
    lastDuty slot (duties ++ [d]) = if d.1 = slot then d.2 else lastDuty slot duties := by
  unfold lastDuty
  by_cases hd : d.1 = slot
  · simp [hd]
  · simp [hd]

/-- A fan runs at the last duty applied to it. -/
theorem slot_foldl_applyDuty {a : Nat} (ha : a < maxActuators) (hcount : a < cfg.actuatorCount)
    (frs : List WireFrame) :
    (frs.foldl (applyDuty cfg) (.replicate _ 0)).slot a = lastDuty a (frs.filterMap dutyCommand) := by
  induction frs using List.reverseRecOn with
  | nil => simpa [lastDuty] using Vector.slot_replicate (0 : Nat) ha
  | append_singleton frs fr ih =>
      rw [List.foldl_append, List.foldl_cons, List.foldl_nil, List.filterMap_append]
      cases hcmd : dutyCommand fr with
      | none => simpa [applyDuty, hcmd] using ih
      | some cmd =>
          obtain ⟨slot, duty⟩ := cmd
          have hone : [fr].filterMap dutyCommand = [(slot, duty)] := by simp [hcmd]
          rw [hone, lastDuty_concat, applyDuty, hcmd]
          simp only [bspEsp32PwmSetDuty]
          by_cases hslot : slot = a
          · subst hslot
            rw [if_neg (Nat.not_le.mpr ha), if_neg (Nat.not_le.mpr hcount), if_pos rfl]
            exact Vector.slot_put_self _ _ ha
          · rw [if_neg hslot]
            split_ifs
            · exact ih
            · exact ih
            · rw [Vector.slot_put_ne _ _ hslot]
              exact ih

/-- **Duty commands arrive exactly once**, where the driver takes each duty frame
whole or refuses it: whatever the interleaving and however the bytes are cut into
reads, the duties the firmware has applied are the first of those written, in the
order they were written; the others are on the line; and every fan runs at the last
duty applied to it. -/
theorem hil_commands_exactly_once (boot : List UInt8) (h : ∀ e ∈ is, e.Sound) :
    let s := Machine.after (linkStep cfg sensorOk) (hilLinkOpened boot) is
    let applied := appliedDuties (Machine.outputs (linkStep cfg sensorOk) (hilLinkOpened boot) is)
    (∃ waiting, is.filterMap LinkEvent.written = applied ++ waiting ∧
      (s.toPeripheral = [] → waiting = [])) ∧
    ∀ a < maxActuators, a < cfg.actuatorCount → s.peripheral.actuation.duties.slot a = lastDuty a applied := by
  intro s applied
  have hinv := commandsInv_run cfg sensorOk boot h
  obtain ⟨ws, hsent, hline⟩ := hinv.line
  refine ⟨⟨ws.filterMap dutyCommand, ?_, fun hread => ?_⟩, fun a ha hcount => ?_⟩
  · rw [← filterMap_sent_run cfg sensorOk (hilLinkOpened boot) h, hsent, List.filterMap_append]
    rfl
  · rw [hline.eq_nil hread]
    rfl
  · exact (congrArg (fun duties => duties.slot a) hinv.duties).trans (slot_foldl_applyDuty cfg ha hcount _)

/-- A duty is written and applied, and the first pass is read out. -/
def oneDutyRun : List LinkEvent :=
  [.write 1000 0 120 100, .pass ⟨fun _ => some 45000, fun _ => 3, 64⟩, .drain 1100 512]

/-- The driver takes the run's one frame whole. -/
theorem oneDutyRun_sound : ∀ e ∈ oneDutyRun, e.Sound := by
  have hpass : HilPassInput.Typed ⟨fun _ => some 45000, fun _ => 3, 64⟩ := by
    rintro _ _ ⟨⟩
    decide
  simp [oneDutyRun, LinkEvent.Sound, hpass, wireHeaderLen, wireCrcLen]

/-- Half a magic pair in the boot log is no magic pair. -/
theorem noMagic_bootLog : NoMagic [0x49, wireMagic0] := by
  unfold NoMagic
  decide

/-- One duty, written and applied. -/
theorem hil_commands_exactly_once_oneDutyRun :
    (Machine.after (linkStep oneFanConfig true) (hilLinkOpened [0x49, wireMagic0])
      oneDutyRun).peripheral.actuation.duties.slot 0 = 120 := by
  obtain ⟨⟨waiting, hwritten, hread⟩, hduties⟩ :=
    hil_commands_exactly_once oneFanConfig true [0x49, wireMagic0] oneDutyRun_sound
  rw [hread (by decide +kernel), List.append_nil] at hwritten
  rw [hduties 0 (by decide) (by decide), ← hwritten]
  rfl

/-- Every frame sent is a duty command. -/
theorem isSome_sent (s : HilLink) (h : ∀ e ∈ is, e.Sound) :
    ∀ fr ∈ (Machine.outputs (linkStep cfg sensorOk) s is).flatMap LinkTraffic.sent,
      (dutyCommand fr).isSome = true := by
  induction is generalizing s with
  | nil => simp
  | cons e is ih =>
      rw [List.forall_mem_cons] at h
      intro fr hfr
      rw [Machine.outputs_cons, List.flatMap_cons, List.mem_append] at hfr
      obtain hnow | hlater := hfr
      · cases e with
        | write tsMs slot duty taken =>
            obtain ⟨-, hslot, hduty, -⟩ := h.1
            simp only [linkStep] at hnow
            split at hnow
            · simp [List.mem_singleton.mp hnow, dutyCommand_dutyFrame _ tsMs hslot hduty]
            · cases hnow
        | drain nowMs want => cases hnow
        | pass inp => cases hnow
      · exact ih _ h.2 fr hlater

/-- An ACK answers the duty of a fan there is. -/
theorem isAck_hilReply (fr : WireFrame) :
    (hilReply cfg fr).isAck = (dutyCommand fr).any fun d => decide (d.1 < cfg.actuatorCount) := by
  unfold hilReply
  cases dutyCommand fr with
  | none =>
      dsimp only
      split_ifs <;> rfl
  | some d =>
      by_cases hslot : d.1 < cfg.actuatorCount
      · simp [hslot, WireMessage.isAck]
      · simp [hslot, WireMessage.isAck]

/-- An answer is a refusal when it is no acknowledgement. -/
theorem isNack_hilReply (fr : WireFrame) : (hilReply cfg fr).isNack = !(hilReply cfg fr).isAck := by
  unfold hilReply
  repeat' split
  all_goals rfl

/-- The acknowledged commands are those for a slot that exists. -/
theorem countP_isAck_hilReply (frs : List WireFrame) :
    (frs.map (hilReply cfg)).countP WireMessage.isAck =
      (frs.filterMap dutyCommand).countP fun d => d.1 < cfg.actuatorCount := by
  rw [List.countP_map, List.countP_filterMap]
  apply List.countP_congr
  intro fr _
  rw [Function.comp, isAck_hilReply]
  cases dutyCommand fr <;> simp

/-- Where only duties were sent, NACKs answer those of fans there are not. -/
theorem countP_isNack_hilReply {frs : List WireFrame} (h : ∀ fr ∈ frs, (dutyCommand fr).isSome = true) :
    (frs.map (hilReply cfg)).countP WireMessage.isNack =
      (frs.filterMap dutyCommand).countP fun d => ¬d.1 < cfg.actuatorCount := by
  rw [List.countP_map, List.countP_filterMap]
  apply List.countP_congr
  intro fr hfr
  obtain ⟨d, hcmd⟩ := Option.isSome_iff_exists.mp (h fr hfr)
  rw [Function.comp, isNack_hilReply, isAck_hilReply, hcmd]
  simp

/-- Counting answers among the answers counts them all. -/
theorem countP_filter_isReply (msgs : List WireMessage) :
    (msgs.filter WireMessage.isReply).countP WireMessage.isAck = msgs.countP WireMessage.isAck ∧
      (msgs.filter WireMessage.isReply).countP WireMessage.isNack = msgs.countP WireMessage.isNack := by
  rw [List.countP_filter, List.countP_filter]
  constructor
  · apply List.countP_congr
    simp +contextual [WireMessage.isReply]
  · apply List.countP_congr
    simp +contextual [WireMessage.isReply]

/-- **Every duty command is answered exactly once**, where the driver takes each duty
frame whole or refuses it and the boot log has no magic pair: the answers the firmware
has written are, in order, those of the commands it has dispatched, each under the
command's number; the daemon has counted those that arrived; and once both lines are
read out it has counted one ACK for every duty of a fan there is, and one NACK for
every other. -/
theorem hil_replies_exactly_once (hboot : NoMagic boot) (h : ∀ e ∈ is, e.Sound) :
    let s := Machine.after (linkStep cfg sensorOk) (hilLinkOpened boot) is
    let os := Machine.outputs (linkStep cfg sensorOk) (hilLinkOpened boot) is
    let answers := (messages (os.flatMap LinkTraffic.received)).filter WireMessage.isReply
    (∃ waiting, (os.flatMap LinkTraffic.commands).map (hilReply cfg) = answers ++ waiting ∧
      (s.toDaemon = [] → waiting = [])) ∧
    s.daemon.ackCount = u64 (answers.countP WireMessage.isAck) ∧
    s.daemon.nackCount = u64 (answers.countP WireMessage.isNack) ∧
    (s.toPeripheral = [] → s.toDaemon = [] →
      s.daemon.ackCount = u64 ((is.filterMap LinkEvent.written).countP fun d => d.1 < cfg.actuatorCount) ∧
      s.daemon.nackCount = u64 ((is.filterMap LinkEvent.written).countP fun d => ¬d.1 < cfg.actuatorCount)) := by
  intro s os answers
  have hdown := commandsInv_run cfg sensorOk boot h
  have hup := reportsInv_run cfg sensorOk hboot h
  obtain ⟨vs, hreported, hline⟩ := hup.line
  obtain ⟨ws, hsent, hdownLine⟩ := hdown.line
  obtain ⟨hacks, hnacks⟩ := countP_filter_isReply (messages (os.flatMap LinkTraffic.received))
  have hanswers : (os.flatMap LinkTraffic.commands).map (hilReply cfg) =
      answers ++ (messages vs).filter WireMessage.isReply := by
    rw [← hup.replies, hreported, messages_append, List.filter_append]
  have hack : s.daemon.ackCount = u64 (answers.countP WireMessage.isAck) := by
    rw [hacks]
    exact hup.acks
  have hnack : s.daemon.nackCount = u64 (answers.countP WireMessage.isNack) := by
    rw [hnacks]
    exact hup.nacks
  refine ⟨⟨_, hanswers, fun hread => ?_⟩, hack, hnack, fun hreadDown hreadUp => ?_⟩
  · rw [hline.eq_nil hread]
    rfl
  · have hall := isSome_sent cfg sensorOk (hilLinkOpened boot) h
    have hduties := filterMap_sent_run cfg sensorOk (hilLinkOpened boot) h
    rw [hsent, hdownLine.eq_nil hreadDown, List.append_nil] at hall hduties
    rw [hline.eq_nil hreadUp] at hanswers
    have hanswers' : answers = (os.flatMap LinkTraffic.commands).map (hilReply cfg) := by
      simpa [messages] using hanswers.symm
    rw [← hduties, ← countP_isAck_hilReply, ← countP_isNack_hilReply cfg hall, ← hanswers']
    exact ⟨hack, hnack⟩

/-- One duty, acknowledged once. -/
theorem hil_replies_exactly_once_oneDutyRun :
    (Machine.after (linkStep oneFanConfig true) (hilLinkOpened [0x49, wireMagic0]) oneDutyRun).daemon.ackCount = 1 ∧
      (Machine.after (linkStep oneFanConfig true) (hilLinkOpened [0x49, wireMagic0])
        oneDutyRun).daemon.nackCount = 0 := by
  obtain ⟨-, -, -, hcounts⟩ := hil_replies_exactly_once oneFanConfig true noMagic_bootLog oneDutyRun_sound
  exact hcounts (by decide +kernel) (by decide +kernel)

/-- **Reports arrive exactly once**, where the boot log has no magic pair and the driver
takes each duty frame whole or refuses it: the frames the daemon has dispatched are the
first of those the firmware wrote, in the order they were written, and their numbers
run on from 0 without a gap. -/
theorem hil_reports_in_order (hboot : NoMagic boot) (h : ∀ e ∈ is, e.Sound) :
    let s := Machine.after (linkStep cfg sensorOk) (hilLinkOpened boot) is
    let os := Machine.outputs (linkStep cfg sensorOk) (hilLinkOpened boot) is
    let received := os.flatMap LinkTraffic.received
    (∃ waiting, os.flatMap LinkTraffic.reported = received ++ waiting ∧ (s.toDaemon = [] → waiting = [])) ∧
      received.map WireFrame.seq = (List.range received.length).map u16 := by
  intro s os received
  have hup := reportsInv_run cfg sensorOk hboot h
  obtain ⟨vs, hreported, hline⟩ := hup.line
  refine ⟨⟨vs, hreported, fun hread => hline.eq_nil hread⟩, ?_⟩
  have hprefix : received.map WireFrame.seq ++ vs.map WireFrame.seq =
      (List.range (received.length + vs.length)).map u16 := by
    have hnumbers := hup.numbers
    rw [hreported, List.map_append, List.length_append] at hnumbers
    exact hnumbers
  rw [List.range_add, List.map_append] at hprefix
  exact (List.append_inj hprefix (by simp)).1

/-- The first three reports, in order. -/
theorem hil_reports_in_order_oneDutyRun :
    ((Machine.outputs (linkStep oneFanConfig true) (hilLinkOpened [0x49, wireMagic0])
      oneDutyRun).flatMap LinkTraffic.received).map WireFrame.seq = [0, 1, 2] := by
  have hnumbers := (hil_reports_in_order oneFanConfig true noMagic_bootLog oneDutyRun_sound).2
  have hcount : ((Machine.outputs (linkStep oneFanConfig true) (hilLinkOpened [0x49, wireMagic0])
      oneDutyRun).flatMap LinkTraffic.received).length = 3 := by decide +kernel
  rw [hnumbers, hcount]
  rfl

end run

end ThermalCore
