import ThermalCore.Config

/-!
# The SocketCAN context source

`protocol/obd2.c`, `platform/linux/bsp_socketcan.c` and the part of
`thermalcored.c` that binds a context signal to a CAN interface.  A CAN frame's
data with its length is a list of bytes.  The socket is what it answers: the
result of `send`, and the results of `recv` up to the one that ends the drain.

The time stamps of the C code are `uint32_t` milliseconds, and their difference
wraps.  The timeout that the state keeps has 16 bits only.
-/

namespace ThermalCore

open MachineInt

/-! ## OBD-II codec -/

/-- `OBD2_REQUEST_ID_FUNCTIONAL`. -/
def obd2RequestIdFunctional : Nat := 0x7DF

/-- `OBD2_RESPONSE_ID_ECU`. -/
def obd2ResponseIdEcu : Nat := 0x7E8

/-- `OBD2_SERVICE_01_RESPONSE`. -/
def obd2Service01Response : UInt8 := 0x41

/-- `OBD2_NEGATIVE_RESPONSE`. -/
def obd2NegativeResponse : UInt8 := 0x7F

/-- `OBD2_PID_VEHICLE_SPEED`. -/
def obd2PidVehicleSpeed : UInt8 := 0x0D

/-- `OBD2_FRAME_DLC`, the length of every frame. -/
def obd2FrameDlc : Nat := 8

/-- The errors of the decoder, in the order of its tests. -/
inductive Obd2Error where
  | badShape
  | wrongPciLen
  | negativeResponse
  | wrongService
  | wrongPid
deriving DecidableEq

/-- `obd2_encode_request_byte`: a request of service 01, padded. -/
def obd2EncodeRequestByte (pid : UInt8) : List UInt8 :=
  [0x02, 0x01, pid, 0x55, 0x55, 0x55, 0x55, 0x55]

/-- `obd2_decode_response_byte`: the value of a one-byte parameter. -/
def obd2DecodeResponseByte (inp : List UInt8) (expectedPid : UInt8) : Except Obd2Error UInt8 :=
  if inp.length ≠ obd2FrameDlc then .error .badShape
  else
    let pci := inp.getD 0 0
    if pci &&& 0xF0 ≠ 0 then .error .badShape
    else if inp.getD 1 0 = obd2NegativeResponse then .error .negativeResponse
    else if inp.getD 1 0 ≠ obd2Service01Response then .error .wrongService
    else if pci &&& 0x0F ≠ 0x03 then .error .wrongPciLen
    else if inp.getD 2 0 ≠ expectedPid then .error .wrongPid
    else .ok (inp.getD 3 0)

/-! ## Cached state -/

/-- A CAN frame: its id and its data. -/
structure CanFrame where
  canId : Nat
  data : List UInt8
deriving DecidableEq

/-- `bsp_socketcan_state_t`. -/
structure SocketcanState where
  lastValueMs : Nat
  lastValue : Int
  timeoutMs : Nat
  expectedPid : UInt8
  everReceived : Bool
deriving DecidableEq

/-- `timeoutMs` is a `uint16_t` here. -/
def bspSocketcanStateInit (timeoutMs : Nat) (expectedPid : UInt8) : SocketcanState :=
  { lastValueMs := 0, lastValue := 0, timeoutMs := timeoutMs, expectedPid := expectedPid
    everReceived := false }

/-- `bsp_socketcan_handle_frame`: the value and its time are cached. -/
def bspSocketcanHandleFrame (state : SocketcanState) (frame : CanFrame) (nowMs : Nat) :
    SocketcanState :=
  if frame.canId ≠ obd2ResponseIdEcu then state
  else
    match obd2DecodeResponseByte frame.data state.expectedPid with
    | .error _ => state
    | .ok value =>
        { state with lastValue := value.toNat, lastValueMs := nowMs, everReceived := true }

/-- `bsp_socketcan_read_into_sample`: valid while young enough, or always with a timeout of zero. -/
def bspSocketcanReadIntoSample (state : SocketcanState) (sampleId nowMs : Nat) : Sample :=
  let invalid : Sample :=
    { id := sampleId, kind := SampleKind.contextI32.code, valid := 0, value := 0 }
  if state.everReceived = false then invalid
  else
    let age := subU32 nowMs state.lastValueMs
    if state.timeoutMs ≠ 0 ∧ age > state.timeoutMs then invalid
    else { invalid with valid := 1, value := state.lastValue }

/-! ## Polling the socket -/

/-- How `send` on the non-blocking socket ends. -/
inductive SendResult where
  | sent
  | wouldBlock
  | failed
deriving DecidableEq

/-- One `recv` before the one that fails: a frame, or fewer bytes than a frame. -/
inductive RecvResult where
  | frame (f : CanFrame)
  | short
deriving DecidableEq

/-- What the socket answers during one poll; `drained` says that the failing
`recv` reported an empty queue. -/
structure CanSocket where
  send : SendResult
  received : List RecvResult
  drained : Bool
deriving DecidableEq

/-- What `bsp_socketcan_poll` leaves behind. -/
structure PollResult where
  rc : Int
  state : SocketcanState
  nextRequestAtMs : Nat
  /-- The frame that went out. -/
  request : Option CanFrame
deriving DecidableEq

/-- The loop over `recv`. -/
def drainResponses (state : SocketcanState) (received : List RecvResult) (nowMs : Nat) :
    SocketcanState :=
  received.foldl (fun state r =>
    match r with
    | .frame f => bspSocketcanHandleFrame state f nowMs
    | .short => state) state

/-- The request for a parameter. -/
def requestFrame (pid : UInt8) : CanFrame := ⟨obd2RequestIdFunctional, obd2EncodeRequestByte pid⟩

/-- `bsp_socketcan_poll`: a request when the deadline has come, then the drain. -/
def bspSocketcanPoll (state : SocketcanState) (fd : Int) (socket : CanSocket)
    (nowMs nextRequestAtMs : Nat) : PollResult :=
  if fd < 0 then ⟨-1, state, nextRequestAtMs, none⟩
  else
    let due := decide (nowMs ≥ nextRequestAtMs)
    if due && decide (socket.send = .failed) then ⟨-1, state, nextRequestAtMs, none⟩
    else
      { rc := if socket.drained then 0 else -1
        state := drainResponses state socket.received nowMs
        nextRequestAtMs := if due then u32 (nowMs + 1000) else nextRequestAtMs
        request :=
          if due && decide (socket.send = .sent) then some (requestFrame state.expectedPid)
          else none }

/-! ## Set-up in the daemon -/

/-- `runtime.contexts[i].source` for `i < runtime.context_count`. -/
structure RuntimeContexts where
  contextCount : Nat
  source : Nat → List Char

/-- The prefix of a CAN source's path. -/
def canbusPrefix : List Char := ['c', 'a', 'n', 'b', 'u', 's', ':']

/-- `g_canbus_fd`, `g_canbus_context_slot` and `g_canbus_state`. -/
structure CanbusBinding where
  fd : Int
  contextSlot : Nat
  state : SocketcanState
deriving DecidableEq

/-- The set-up loop of `main` over the first `i` contexts; `none` is the exit
with an error, and `bspSocketcanOpen` gives `none` where the interface does not
open. -/
def canbusSetup (cfg : Config) (runtime : RuntimeContexts) (bspSocketcanOpen : List Char → Option Int) :
    Nat → Option (Option CanbusBinding)
  | 0 => some none
  | i + 1 => do
      let bound ← canbusSetup cfg runtime bspSocketcanOpen i
      if canbusPrefix.isPrefixOf (runtime.source i) then
        if bound.isSome then none
        else do
          let fd ← bspSocketcanOpen ((runtime.source i).drop canbusPrefix.length)
          some (some
            { fd := fd
              contextSlot := i
              state := bspSocketcanStateInit (u16 (cfg.contexts.slot i).timeoutMs) obd2PidVehicleSpeed })
      else some bound

end ThermalCore
