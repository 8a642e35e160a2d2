import ThermalCore.Linux.WallClock
import ThermalCore.Wire.CommandChannel

/-!
# The daemon's uplink

The frames `thermalcored.c` sends: the core's callbacks and the overruns of the
clock go out on the telemetry socket, the answers on the control socket, all of
them numbered by `g_out_seq`.  What goes to syslog is left out.

`Sends` relates what one part of the daemon does to the frames it hands to the
sockets: the core's calls on the one side, in order, the answers on the other, and
the counter before and after.  Parts compose, and a run of the loop is one of them.
-/

namespace ThermalCore

open MachineInt

/-! ## Frames on their way out -/

/-- The socket of a frame; an answer goes to the sender it answers. -/
inductive Outlet where
  | telemetry
  | control (dest : SockAddr)
deriving DecidableEq

/-- A frame with the socket it is handed to. -/
structure SentFrame where
  outlet : Outlet
  bytes : List UInt8
deriving DecidableEq

/-- The next `g_out_seq`, and the frame if the socket is open and the frame could be
encoded. -/
def telemetryEmitCb (telemetryOpen : Bool) (outSeq tsMs signalId : Nat) (value : Int) :
    Nat × List SentFrame :=
  if telemetryOpen = false then (outSeq, [])
  else
    let n := thermalWireEncodeTelemSample (wireHeaderLen + 16) outSeq tsMs signalId 0 value true
    (u16 (outSeq + 1), n.toOption.toList.map fun bytes => ⟨.telemetry, bytes⟩)

/-- `log_event_cb`: a frame only when the telemetry socket is open. -/
def logEventCb (telemetryOpen : Bool) (outSeq tsMs code a1 a2 a3 a4 : Nat) : Nat × List SentFrame :=
  if telemetryOpen = false then (outSeq, [])
  else
    let n := thermalWireEncodeTelemEvent (wireHeaderLen + 32) outSeq tsMs code a1 a2 a3 a4 true
    (u16 (outSeq + 1), n.toOption.toList.map fun bytes => ⟨.telemetry, bytes⟩)

/-- A callback, its arguments converted to the types of its parameters. -/
def daemonCall (telemetryOpen : Bool) (outSeq : Nat) : Call → Nat × List SentFrame
  | .telemetryEmit tsMs signalId value =>
      telemetryEmitCb telemetryOpen outSeq (u32 tsMs) (u16 signalId) (i32 value)
  | .logEvent tsMs code a1 a2 a3 a4 =>
      logEventCb telemetryOpen outSeq (u32 tsMs) code.code (u32 a1) (u32 a2) (u32 a3) (u32 a4)

/-- Callbacks in a row. -/
def callFrames (telemetryOpen : Bool) (outSeq : Nat) (calls : List Call) : List SentFrame :=
  (Machine.outputs (daemonCall telemetryOpen) outSeq calls).flatten

/-- An answer on its way to the client. -/
def Reply.sent (r : Reply) : SentFrame := ⟨.control r.dest, r.bytes⟩

/-! ## The control loop -/

/-- The callbacks while a datagram's command is applied. -/
def commandCalls (cfg : Config) (nowMs : Nat) (core : Core) (d : Datagram) : List Call :=
  match commandOf d with
  | none => []
  | some cmd => (thermalCoreApplyCommand cfg daemonCallbacks core nowMs cmd).calls

/-- The frames of one datagram: its command is applied before it is answered. -/
def datagramFrames (cfg : Config) (telemetryOpen : Bool) (nowMs : Nat) (core : Core) (outSeq : Nat)
    (d : Datagram) : List SentFrame :=
  callFrames telemetryOpen outSeq (commandCalls cfg nowMs core d) ++
    (handleDatagram cfg telemetryOpen nowMs core outSeq d).2.2.toList.map Reply.sent

/-- The frames of the datagrams that one drain takes in. -/
def drainFrames (cfg : Config) (telemetryOpen : Bool) (nowMs : Nat) (core : Core) (outSeq : Nat) :
    List Datagram → List SentFrame
  | [] => []
  | d :: rest =>
      if d.received = [] then []
      else
        let h := handleDatagram cfg telemetryOpen nowMs core outSeq d
        datagramFrames cfg telemetryOpen nowMs core outSeq d ++
          drainFrames cfg telemetryOpen nowMs h.1 h.2.1 rest

/-- A datagram arrives, or the control loop runs, on the wall clock or on another one. -/
inductive LoopEvent where
  | datagram (d : Datagram)
  | tick (clock : Option WallClockDiag) (snap : InputSnapshot)

/-- The event as the command channel sees it. -/
def LoopEvent.channel : LoopEvent → ChannelEvent
  | .datagram d => .datagram d
  | .tick clock snap => .tick (clock.any WallClockDiag.overrun) snap

/-- The event of an overrun. -/
def overrunCalls (cfg : Config) (nowMs : Nat) (clock : Option WallClockDiag) : List Call :=
  match clock with
  | none => []
  | some diag =>
      if diag.overrun then
        [.logEvent nowMs .platformTickOverrun diag.lateMs diag.behindTicks cfg.controlPeriodMs diag.thresholdMs]
      else []

/-- The control loop with the frames it sends. -/
def uplinkStep (cfg : Config) (telemetryOpen : Bool) (s : Daemon) (e : LoopEvent) :
    Daemon × List SentFrame :=
  ((daemonStep cfg telemetryOpen s e.channel).1,
    match e with
    | .datagram _ => []
    | .tick clock snap =>
        let late := overrunCalls cfg snap.nowMs clock
        let outSeq := seqAfter telemetryOpen s.outSeq late
        let r := drainCommands cfg telemetryOpen snap.nowMs s.core outSeq s.queue
        callFrames telemetryOpen s.outSeq late ++
          drainFrames cfg telemetryOpen snap.nowMs s.core outSeq s.queue ++
          callFrames telemetryOpen r.1.outSeq
            (thermalCoreStep cfg daemonCallbacks r.1.core snap default).calls)

/-! ## What the uplink is for -/

/-- What a receiver makes of a frame. -/
def SentFrame.frame (x : SentFrame) : Option WireFrame :=
  (thermalWireDecodeFrame x.bytes wireMaxMcu true).toOption

/-- The number of a frame. -/
def SentFrame.seq (x : SentFrame) : Option Nat := x.frame.map WireFrame.seq

/-- The time stamp and the message. -/
def SentFrame.message (x : SentFrame) : Option (Nat × WireMessage) :=
  x.frame.bind fun fr => fr.decodeMessage.toOption.map fun msg => (fr.tsMs, msg)

/-- A frame on the telemetry socket. -/
def SentFrame.isTelemetry (x : SentFrame) : Bool := decide (x.outlet = .telemetry)

/-- The answer in a frame on the control socket. -/
def SentFrame.reply (x : SentFrame) : Option Reply :=
  match x.outlet with
  | .telemetry => none
  | .control dest => some ⟨dest, x.bytes⟩

/-- A callback as a message. -/
def Call.message : Call → Nat × WireMessage
  | .telemetryEmit tsMs signalId value => (u32 tsMs, .telemSample (u16 signalId) 0 (i32 value))
  | .logEvent tsMs code a1 a2 a3 a4 => (u32 tsMs, .telemEvent code.code (u32 a1) (u32 a2) (u32 a3) (u32 a4))

/-- The calls of a drain on the core: the commands that wait up to the first empty
datagram. -/
def drainInputs (nowMs : Nat) (waiting : List Datagram) : List Input :=
  ((waiting.takeWhile fun d => d.bytes ≠ []).filterMap commandOf).map (Input.command nowMs)

/-- The calls of the core that a tick makes. -/
def tickInputs (waiting : List Datagram) (snap : InputSnapshot) : List Input :=
  drainInputs snap.nowMs waiting ++ [.step snap default]

/-- The callbacks of a run, from a core and what waits for it. -/
def loopCalls (cfg : Config) (core : Core) (waiting : List Datagram) : List LoopEvent → List Call
  | [] => []
  | .datagram d :: es => loopCalls cfg core (waiting ++ [d]) es
  | .tick clock snap :: es =>
      overrunCalls cfg snap.nowMs clock ++
        (Machine.outputs (call cfg daemonCallbacks) core (tickInputs waiting snap)).flatMap Effect.calls ++
        loopCalls cfg (Machine.after (call cfg daemonCallbacks) core (tickInputs waiting snap))
          (waiting.dropWhile fun d => d.bytes ≠ []).tail es

/-- Frames numbered on from `seq`: those on the telemetry socket are the calls, those
on the control socket the replies. -/
structure Sends (telemetryOpen : Bool) (seq : Nat) (frames : List SentFrame) (calls : List Call)
    (replies : List Reply) (next : Nat) : Prop where
  next : next = u16 (seq + frames.length)
  seqs : frames.map SentFrame.seq = (List.range frames.length).map fun i => some (u16 (seq + i))
  telemetry : (frames.filter SentFrame.isTelemetry).map SentFrame.message =
    if telemetryOpen then calls.map fun c => some c.message else []
  replies : frames.filterMap SentFrame.reply = replies
  decodes : ∀ x ∈ frames, x.message.isSome = true

/-! ## One frame -/

section frames

variable {telemetryOpen : Bool} {seq mid next : Nat} {fs gs : List SentFrame} {cs ds : List Call}
  {rs qs : List Reply}

/-- A receiver reads back what was encoded. -/
theorem message_of_frameBytes {msg : WireMessage} (hmsg : msg.Typed) (hshort : msg.payload.length ≤ wireMaxMcu)
    {tsMs : Nat} (hseq : seq < 2 ^ 16) (hts : tsMs < 2 ^ 32) (outlet : Outlet) :
    let x : SentFrame := ⟨outlet, frameBytes msg.opcode seq tsMs msg.payload true⟩
    x.seq = some seq ∧ x.message = some (tsMs, msg) := by
  intro x
  have hdecode := @decodeFrame_frameBytes msg.opcode seq tsMs msg.payload hseq hts (length_payload_lt msg)
    wireMaxMcu (Or.inr hshort) true []
  rw [List.append_nil] at hdecode
  have hframe : x.frame = some ⟨seq, tsMs, msg.opcode, msg.payload, true⟩ := by
    unfold SentFrame.frame
    rw [hdecode]
    rfl
  refine ⟨by simp [SentFrame.seq, hframe], ?_⟩
  unfold SentFrame.message
  rw [hframe, Option.bind_some, decodeMessage_payload hmsg]
  rfl

namespace Sends

/-- Nothing sent, nothing counted. -/
theorem nil (h : seq < 2 ^ 16) : Sends telemetryOpen seq [] [] [] seq where
  next := (u16_of_lt h).symm
  seqs := rfl
  telemetry := by cases telemetryOpen <;> rfl
  replies := rfl
  decodes := fun _ hx => (List.not_mem_nil hx).elim

/-- One part after the other. -/
theorem append (h : Sends telemetryOpen seq fs cs rs mid) (h' : Sends telemetryOpen mid gs ds qs next) :
    Sends telemetryOpen seq (fs ++ gs) (cs ++ ds) (rs ++ qs) next where
  next := by rw [h'.next, h.next, u16_add_u16, List.length_append, Nat.add_assoc]
  seqs := by
    rw [List.map_append, h.seqs, h'.seqs, List.length_append, List.range_add, List.map_append, List.map_map, h.next]
    simp only [u16_add_u16, Nat.add_assoc]
    rfl
  telemetry := by
    rw [List.filter_append, List.map_append, h.telemetry, h'.telemetry]
    cases telemetryOpen <;> simp
  replies := by rw [List.filterMap_append, h.replies, h'.replies]
  decodes := by
    intro x hx
    obtain hx | hx := List.mem_append.mp hx
    · exact h.decodes x hx
    · exact h'.decodes x hx

/-- The counter stays within 16 bits. -/
theorem lt (h : Sends telemetryOpen seq fs cs rs next) : next < 2 ^ 16 := by
  rw [h.next]
  exact u16_lt _

end Sends

/-- A callback's message fits its fields and the frame's buffer. -/
theorem Call.message_typed (c : Call) :
    c.message.1 < 2 ^ 32 ∧ c.message.2.Typed ∧ wireHeaderLen + c.message.2.payload.length + wireCrcLen ≤ 32 := by
  cases c with
  | telemetryEmit tsMs signalId value =>
      refine ⟨u32_lt _, ⟨u16_lt _, by decide, isI32_i32 _⟩, ?_⟩
      simp [Call.message, WireMessage.payload, wireHeaderLen, wireCrcLen]
  | logEvent tsMs code a1 a2 a3 a4 =>
      refine ⟨u32_lt _, ⟨?_, u32_lt _, u32_lt _, u32_lt _, u32_lt _⟩, ?_⟩
      · cases code <;> simp
      · simp [Call.message, WireMessage.payload, wireHeaderLen, wireCrcLen]

/-- **A callback** sends its message, under the next number. -/
theorem daemonCall_open (seq : Nat) (c : Call) :
    daemonCall true seq c = (u16 (seq + 1),
      [⟨.telemetry, frameBytes c.message.2.opcode seq c.message.1 c.message.2.payload true⟩]) := by
  obtain ⟨-, htyped, hroom⟩ := c.message_typed
  cases c with
  | telemetryEmit tsMs signalId value =>
      have hencode := @encode_eq (wireHeaderLen + 16) _ htyped
        (by simp [Call.message, WireMessage.payload, wireHeaderLen, wireCrcLen]) seq (u32 tsMs) true
      show telemetryEmitCb true seq (u32 tsMs) (u16 signalId) (i32 value) = _
      unfold telemetryEmitCb
      rw [if_neg (by decide)]
      exact congrArg (fun n : Except WireError (List UInt8) =>
        (u16 (seq + 1), n.toOption.toList.map fun bytes => SentFrame.mk .telemetry bytes)) hencode
  | logEvent tsMs code a1 a2 a3 a4 =>
      have hencode := @encode_eq (wireHeaderLen + 32) _ htyped (by omega) seq (u32 tsMs) true
      show logEventCb true seq (u32 tsMs) code.code (u32 a1) (u32 a2) (u32 a3) (u32 a4) = _
      unfold logEventCb
      rw [if_neg (by decide)]
      exact congrArg (fun n : Except WireError (List UInt8) =>
        (u16 (seq + 1), n.toOption.toList.map fun bytes => SentFrame.mk .telemetry bytes)) hencode

/-- Without a telemetry socket a callback sends nothing and counts nothing. -/
theorem daemonCall_closed (seq : Nat) (c : Call) : daemonCall false seq c = (seq, []) := by
  cases c <;> rfl

/-- No calls leave the counter alone. -/
theorem seqAfter_nil (hseq : seq < 2 ^ 16) : seqAfter telemetryOpen seq [] = seq := by
  cases telemetryOpen with
  | false => rfl
  | true => exact u16_of_lt hseq

/-- The counter behind one more call. -/
theorem seqAfter_cons (seq : Nat) (c : Call) (calls : List Call) :
    seqAfter telemetryOpen (daemonCall telemetryOpen seq c).1 calls = seqAfter telemetryOpen seq (c :: calls) := by
  cases telemetryOpen with
  | false => rw [daemonCall_closed]; rfl
  | true =>
      rw [daemonCall_open]
      show u16 (u16 (seq + 1) + calls.length) = u16 (seq + (c :: calls).length)
      rw [u16_add_u16, List.length_cons, Nat.add_assoc, Nat.add_comm 1]

namespace Sends

/-- A frame that decodes, alone. -/
theorem single {x : SentFrame} (hseq : seq < 2 ^ 16) (hx : x.seq = some seq) {msg : Nat × WireMessage}
    (hmsg : x.message = some msg) (hcs : (if x.isTelemetry then [some msg] else []) =
      if telemetryOpen then cs.map (fun c => some c.message) else []) :
    Sends telemetryOpen seq [x] cs x.reply.toList (u16 (seq + 1)) where
  next := rfl
  seqs := by simp [hx, u16_of_lt hseq]
  telemetry := by
    rw [← hcs]
    cases htel : x.isTelemetry <;> simp [htel, hmsg]
  replies := by cases hreply : x.reply <;> simp [hreply]
  decodes := by simp [hmsg]

/-- One callback. -/
theorem call (telemetryOpen : Bool) (hseq : seq < 2 ^ 16) (c : Call) :
    Sends telemetryOpen seq (daemonCall telemetryOpen seq c).2 [c] [] (daemonCall telemetryOpen seq c).1 := by
  cases telemetryOpen with
  | false =>
      rw [daemonCall_closed]
      exact { (nil hseq : Sends false seq [] [] [] seq) with telemetry := rfl }
  | true =>
      obtain ⟨hts, htyped, hroom⟩ := c.message_typed
      have hshort : c.message.2.payload.length ≤ wireMaxMcu := by
        unfold wireMaxMcu
        omega
      obtain ⟨hnum, hmsg⟩ := message_of_frameBytes htyped hshort hseq hts .telemetry
      rw [daemonCall_open]
      exact single hseq hnum hmsg rfl

/-- **Callbacks** in a row. -/
theorem calls (telemetryOpen : Bool) (hseq : seq < 2 ^ 16) (calls : List Call) :
    Sends telemetryOpen seq (callFrames telemetryOpen seq calls) calls [] (seqAfter telemetryOpen seq calls) := by
  induction calls generalizing seq with
  | nil =>
      rw [seqAfter_nil hseq]
      exact nil hseq
  | cons c calls ih =>
      have hfirst := call telemetryOpen hseq c
      have hrest := ih hfirst.lt
      rw [seqAfter_cons] at hrest
      exact hfirst.append hrest

end Sends

/-! ## Answers -/

/-- Two bytes hold a value's low 16 bits. -/
theorem putU16LE_u16 (v : Nat) : putU16LE (u16 v) = putU16LE v := by
  rw [putU16LE_eq, putU16LE_eq]
  exact LittleEndian.put_mod 2 v

/-- Four bytes hold a value's low 32 bits. -/
theorem putU32LE_u32 (v : Nat) : putU32LE (u32 v) = putU32LE v := by
  rw [putU32LE_eq, putU32LE_eq]
  exact LittleEndian.put_mod 4 v

/-- A frame holds the low 32 bits of its time. -/
theorem frameBytes_u32 (opcode : WireOpcode) (seq tsMs : Nat) (payload : List UInt8) (crcEnabled : Bool) :
    frameBytes opcode seq (u32 tsMs) payload crcEnabled = frameBytes opcode seq tsMs payload crcEnabled := by
  unfold frameBytes writeHeader
  rw [putU32LE_u32]

/-- The message of an answer. -/
def answerMessage (opcode : WireOpcode) (requestSeq status detailCode : Nat) : WireMessage :=
  if opcode = .cmdAck then .cmdAck (u16 requestSeq) (u16 status) (u32 detailCode)
  else .cmdNack (u16 requestSeq) (u16 status) (u32 detailCode)

/-- An answer's bytes are those of its message. -/
theorem sendAcknack_eq {opcode : WireOpcode} (hop : opcode = .cmdAck ∨ opcode = .cmdNack) (dest : SockAddr)
    (requestSeq nowMs status detailCode outSeq : Nat) :
    let msg := answerMessage opcode requestSeq status detailCode
    sendAcknack opcode dest requestSeq nowMs status detailCode outSeq =
        (u16 (outSeq + 1), some ⟨dest, frameBytes msg.opcode outSeq (u32 nowMs) msg.payload true⟩) ∧
      msg.Typed ∧ msg.payload.length ≤ wireMaxMcu := by
  have hencode := @encode_eq_frameBytes (wireHeaderLen + 32)
    (putU16LE requestSeq ++ putU16LE status ++ putU32LE detailCode) (by simp) (by simp [wireCrcLen])
    opcode outSeq nowMs true
  have hpayload : (answerMessage opcode requestSeq status detailCode).payload =
      putU16LE requestSeq ++ putU16LE status ++ putU32LE detailCode := by
    obtain rfl | rfl := hop
    all_goals simp [answerMessage, WireMessage.payload, putU16LE_u16, putU32LE_u32]
  refine ⟨?_, ?_, by simp [hpayload, wireMaxMcu]⟩
  · rw [hpayload, frameBytes_u32]
    unfold sendAcknack
    obtain rfl | rfl := hop
    · exact congrArg (fun n : Except WireError (List UInt8) =>
        (u16 (outSeq + 1), n.toOption.map fun bytes => Reply.mk dest bytes)) hencode
    · exact congrArg (fun n : Except WireError (List UInt8) =>
        (u16 (outSeq + 1), n.toOption.map fun bytes => Reply.mk dest bytes)) hencode
  · obtain rfl | rfl := hop
    · exact ⟨u16_lt _, u16_lt _, u32_lt _⟩
    · exact ⟨u16_lt _, u16_lt _, u32_lt _⟩

/-- One answer. -/
theorem Sends.sendAcknack (telemetryOpen : Bool) (hseq : seq < 2 ^ 16)
    {opcode : WireOpcode} (hop : opcode = .cmdAck ∨ opcode = .cmdNack) (dest : SockAddr)
    (requestSeq nowMs status detailCode : Nat) :
    let r := ThermalCore.sendAcknack opcode dest requestSeq nowMs status detailCode seq
    Sends telemetryOpen seq (r.2.toList.map Reply.sent) [] r.2.toList r.1 := by
  obtain ⟨hsent, htyped, hshort⟩ := sendAcknack_eq hop dest requestSeq nowMs status detailCode seq
  obtain ⟨hnum, hmsg⟩ := message_of_frameBytes htyped hshort hseq (u32_lt nowMs) (.control dest)
  rw [hsent]
  exact single hseq hnum hmsg (by cases telemetryOpen <;> rfl)

end frames

/-! ## Drains -/

section drain

variable (cfg : Config) (telemetryOpen : Bool) (nowMs : Nat) (core : Core) {outSeq : Nat}

/-- The answer to a datagram is numbered after the callbacks of its command. -/
theorem handleDatagram_answer (hseq : outSeq < 2 ^ 16) (d : Datagram) :
    let h := handleDatagram cfg telemetryOpen nowMs core outSeq d
    let calls := commandCalls cfg nowMs core d
    (h.2 = (outSeq, none) ∧ calls = []) ∨
      ∃ opcode requestSeq status detailCode, (opcode = WireOpcode.cmdAck ∨ opcode = .cmdNack) ∧
        h.2 = sendAcknack opcode d.sender requestSeq nowMs status detailCode
          (seqAfter telemetryOpen outSeq calls) := by
  have hnone : seqAfter telemetryOpen outSeq [] = outSeq := seqAfter_nil hseq
  unfold handleDatagram commandCalls commandOf
  dsimp only
  cases thermalWireDecodeFrame d.received wireMaxLinux true with
  | error e =>
      dsimp only
      split
      · rw [hnone]
        exact .inr ⟨_, _, _, _, .inr rfl, rfl⟩
      · exact .inl ⟨rfl, rfl⟩
  | ok fr =>
      dsimp only
      by_cases hop : fr.opcode ≠ .cmdRequest
      · rw [if_pos hop, if_pos hop, hnone]
        exact .inr ⟨_, _, _, _, .inr rfl, rfl⟩
      · rw [if_neg hop, if_neg hop]
        cases thermalWireDecodeCmdRequest fr with
        | error e =>
            show _ ∨ _
            rw [show (Except.error e : Except WireError Command).toOption = none from rfl]
            dsimp only
            rw [hnone]
            exact .inr ⟨_, _, _, _, .inr rfl, rfl⟩
        | ok cmd =>
            rw [show (Except.ok cmd : Except WireError Command).toOption = some cmd from rfl]
            dsimp only
            split
            · exact .inr ⟨_, _, _, _, .inl rfl, rfl⟩
            · exact .inr ⟨_, _, _, _, .inr rfl, rfl⟩

/-- **One datagram**: the callbacks of its command, then the answer. -/
theorem sends_datagram (hseq : outSeq < 2 ^ 16) (d : Datagram) :
    let h := handleDatagram cfg telemetryOpen nowMs core outSeq d
    Sends telemetryOpen outSeq (datagramFrames cfg telemetryOpen nowMs core outSeq d)
      (commandCalls cfg nowMs core d) h.2.2.toList h.2.1 := by
  intro h
  have hcalls := Sends.calls telemetryOpen hseq (commandCalls cfg nowMs core d)
  unfold datagramFrames
  obtain ⟨hquiet, hnone⟩ | ⟨opcode, requestSeq, status, detailCode, hop, hanswer⟩ :=
    handleDatagram_answer cfg telemetryOpen nowMs core hseq d
  · rw [hnone] at hcalls ⊢
    simp only [h, hquiet]
    exact Sends.nil hseq
  · simp only [h, hanswer]
    have hreply := Sends.sendAcknack telemetryOpen hcalls.lt hop d.sender requestSeq nowMs
      status detailCode
    simpa using hcalls.append hreply

/-- A datagram's callbacks are those of the command in it. -/
theorem commandCalls_eq (d : Datagram) :
    commandCalls cfg nowMs core d = (Machine.outputs (call cfg daemonCallbacks) core
      ((commandOf d).toList.map (Input.command nowMs))).flatMap Effect.calls := by
  unfold commandCalls
  cases commandOf d with
  | none => rfl
  | some cmd => simp [call, Effect.calls]

/-- **A drain** sends the callbacks of the commands it takes, and the answers. -/
theorem sends_drain (hseq : outSeq < 2 ^ 16) (waiting : List Datagram) :
    let r := drainCommands cfg telemetryOpen nowMs core outSeq waiting
    let inputs := drainInputs nowMs waiting
    Sends telemetryOpen outSeq (drainFrames cfg telemetryOpen nowMs core outSeq waiting)
        ((Machine.outputs (call cfg daemonCallbacks) core inputs).flatMap Effect.calls)
        (r.2.filterMap Prod.snd) r.1.outSeq ∧
      r.1.core = Machine.after (call cfg daemonCallbacks) core inputs ∧
      r.1.queue = (waiting.dropWhile fun d => d.bytes ≠ []).tail := by
  induction waiting generalizing core outSeq with
  | nil => exact ⟨Sends.nil hseq, rfl, rfl⟩
  | cons d rest ih =>
      unfold drainCommands drainFrames drainInputs
      dsimp only
      by_cases hempty : d.bytes = []
      · have hreceived := (received_eq_nil_iff d).mpr hempty
        rw [if_pos hreceived, if_pos hreceived]
        simpa [hempty] using Sends.nil hseq
      · have hreceived := mt (received_eq_nil_iff d).mp hempty
        have hfirst := sends_datagram cfg telemetryOpen nowMs core hseq d
        obtain ⟨hcore, -, -⟩ := handleDatagram_faithful cfg telemetryOpen nowMs core outSeq d
        obtain ⟨hrest, hafter, hqueue⟩ := ih (handleDatagram cfg telemetryOpen nowMs core outSeq d).1 hfirst.lt
        have hinputs : drainInputs nowMs (d :: rest) =
            (commandOf d).toList.map (Input.command nowMs) ++ drainInputs nowMs rest := by
          unfold drainInputs
          cases hcmd : commandOf d <;> simp [hempty, hcmd]
        have hboth := hfirst.append hrest
        rw [if_neg hreceived, if_neg hreceived]
        refine ⟨?_, ?_, ?_⟩
        · show Sends _ _ _ ((Machine.outputs _ core (drainInputs nowMs (d :: rest))).flatMap Effect.calls) _ _
          rw [hinputs, Machine.outputs_append, List.flatMap_append, ← hcore, ← commandCalls_eq]
          cases hreply : (handleDatagram cfg telemetryOpen nowMs core outSeq d).2.2 <;> simpa [hreply] using hboth
        · show _ = Machine.after _ core (drainInputs nowMs (d :: rest))
          rw [hinputs, Machine.after_append, ← hcore]
          exact hafter
        · simpa [hempty] using hqueue

end drain

/-! ## Runs -/

section run

variable (cfg : Config) (telemetryOpen : Bool)

/-- An overrun counts one frame when the telemetry socket is open. -/
theorem seqAfter_overrun {outSeq : Nat} (hseq : outSeq < 2 ^ 16) (nowMs : Nat) (clock : Option WallClockDiag) :
    seqAfter telemetryOpen outSeq (overrunCalls cfg nowMs clock) =
      if clock.any WallClockDiag.overrun && telemetryOpen then u16 (outSeq + 1) else outSeq := by
  unfold overrunCalls
  cases clock with
  | none => rw [seqAfter_nil hseq]; rfl
  | some diag =>
      cases hover : diag.overrun with
      | false => simp [hover, seqAfter_nil hseq]
      | true => cases telemetryOpen <;> simp [hover, seqAfter]

/-- A tick of the daemon, taken apart into its drain and its step. -/
theorem daemonStep_tick {s : Daemon} (hseq : s.outSeq < 2 ^ 16) (clock : Option WallClockDiag)
    (snap : InputSnapshot) :
    daemonStep cfg telemetryOpen s (LoopEvent.tick clock snap).channel =
      let r := drainCommands cfg telemetryOpen snap.nowMs s.core
        (seqAfter telemetryOpen s.outSeq (overrunCalls cfg snap.nowMs clock)) s.queue
      let stepped := thermalCoreStep cfg daemonCallbacks r.1.core snap default
      (⟨stepped.core, seqAfter telemetryOpen r.1.outSeq stepped.calls, r.1.queue⟩, r.2) := by
  rw [seqAfter_overrun cfg telemetryOpen hseq]
  rfl

/-- **A tick** sends the overrun, what the drain sends, and the callbacks of the step. -/
theorem sends_tick {s : Daemon} (hseq : s.outSeq < 2 ^ 16) (clock : Option WallClockDiag) (snap : InputSnapshot) :
    let r := uplinkStep cfg telemetryOpen s (.tick clock snap)
    let inputs := tickInputs s.queue snap
    Sends telemetryOpen s.outSeq r.2
        (overrunCalls cfg snap.nowMs clock ++
          (Machine.outputs (call cfg daemonCallbacks) s.core inputs).flatMap Effect.calls)
        ((daemonStep cfg telemetryOpen s (LoopEvent.tick clock snap).channel).2.filterMap Prod.snd) r.1.outSeq ∧
      r.1.core = Machine.after (call cfg daemonCallbacks) s.core inputs ∧
      r.1.queue = (s.queue.dropWhile fun d => d.bytes ≠ []).tail := by
  have hlate := Sends.calls telemetryOpen hseq (overrunCalls cfg snap.nowMs clock)
  obtain ⟨hdrain, hcore, hqueue⟩ := sends_drain cfg telemetryOpen snap.nowMs s.core hlate.lt s.queue
  have hstep := Sends.calls telemetryOpen hdrain.lt
    (thermalCoreStep cfg daemonCallbacks (Machine.after (call cfg daemonCallbacks) s.core
      (drainInputs snap.nowMs s.queue)) snap default).calls
  have hall := (hlate.append hdrain).append hstep
  dsimp only [uplinkStep, tickInputs]
  rw [daemonStep_tick cfg telemetryOpen hseq]
  dsimp only
  rw [hcore, Machine.outputs_append, Machine.after_concat]
  refine ⟨?_, rfl, hqueue⟩
  simpa [call, Effect.calls] using hall

/-- **A run**, from any daemon. -/
theorem sends_run {s : Daemon} (hseq : s.outSeq < 2 ^ 16) (es : List LoopEvent) :
    Sends telemetryOpen s.outSeq (Machine.outputs (uplinkStep cfg telemetryOpen) s es).flatten
      (loopCalls cfg s.core s.queue es)
      ((Machine.outputs (daemonStep cfg telemetryOpen) s (es.map LoopEvent.channel)).flatten.filterMap Prod.snd)
      (Machine.after (uplinkStep cfg telemetryOpen) s es).outSeq := by
  induction es generalizing s with
  | nil => exact Sends.nil hseq
  | cons e es ih =>
      cases e with
      | datagram d => exact @ih (daemonStep cfg telemetryOpen s (.datagram d)).1 hseq
      | tick clock snap =>
          obtain ⟨htick, hcore, hqueue⟩ := sends_tick cfg telemetryOpen hseq clock snap
          have hrest := ih htick.lt
          rw [hcore, hqueue] at hrest
          rw [List.map_cons, Machine.outputs_cons, Machine.outputs_cons, List.flatten_cons, List.flatten_cons,
            List.filterMap_append, loopCalls]
          exact htick.append hrest

/-- The uplink watches the daemon and does not change it. -/
theorem after_uplinkStep (s : Daemon) (es : List LoopEvent) :
    Machine.after (uplinkStep cfg telemetryOpen) s es =
      Machine.after (daemonStep cfg telemetryOpen) s (es.map LoopEvent.channel) := by
  induction es generalizing s with
  | nil => rfl
  | cons e es ih => exact ih _

/-- **The uplink**: over every run the frames on both sockets are numbered in one row
from 0, every one of them decodes, those on the telemetry socket are the core's
callbacks and the overruns, each once and in order, and those on the control
socket are the replies of the command channel. -/
theorem daemon_uplink (es : List LoopEvent) :
    let opened : Daemon := ⟨initCore cfg, 0, []⟩
    let s := Machine.after (uplinkStep cfg telemetryOpen) opened es
    s = Machine.after (daemonStep cfg telemetryOpen) opened (es.map LoopEvent.channel) ∧
      Sends telemetryOpen 0 (Machine.outputs (uplinkStep cfg telemetryOpen) opened es).flatten
        (loopCalls cfg (initCore cfg) [] es)
        ((Machine.outputs (daemonStep cfg telemetryOpen) opened (es.map LoopEvent.channel)).flatten.filterMap
          Prod.snd) s.outSeq := by
  intro opened s
  have hseq : opened.outSeq < 2 ^ 16 := Nat.zero_lt_succ _
  exact ⟨after_uplinkStep cfg telemetryOpen opened es, sends_run cfg telemetryOpen hseq es⟩

end run

end ThermalCore
