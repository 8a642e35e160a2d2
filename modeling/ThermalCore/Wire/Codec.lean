import ThermalCore.Lib.LittleEndian
import ThermalCore.Types

/-!
# The wire codec

`protocol/thermal_wire.c`: the byte packers, the CRC, the frame with its header
and trailer, and the payloads of the five opcodes.  A buffer with its size is a
list of bytes, a pointer into it is what is left of the list, and an encoder
returns the bytes it writes.
-/

namespace ThermalCore

open MachineInt

/-! ## Byte packers -/

/-- The packer of 16 bits. -/
def putU16LE (v : Nat) : List UInt8 := [UInt8.ofNat (v &&& 0xFF), UInt8.ofNat (v >>> 8 &&& 0xFF)]

/-- The packer of 32 bits. -/
def putU32LE (v : Nat) : List UInt8 :=
  [UInt8.ofNat (v &&& 0xFF), UInt8.ofNat (v >>> 8 &&& 0xFF), UInt8.ofNat (v >>> 16 &&& 0xFF),
    UInt8.ofNat (v >>> 24 &&& 0xFF)]

/-- `p[i]` as a number. -/
def byteAt (p : List UInt8) (i : Nat) : Nat := (p.getD i 0).toNat

/-- The reader of 16 bits. -/
def getU16LE (p : List UInt8) : Nat := byteAt p 0 ||| byteAt p 1 <<< 8

/-- The reader of 32 bits. -/
def getU32LE (p : List UInt8) : Nat :=
  byteAt p 0 ||| byteAt p 1 <<< 8 ||| byteAt p 2 <<< 16 ||| byteAt p 3 <<< 24

/-! ## CRC-16/CCITT-FALSE -/

/-- One bit of the inner loop. -/
def crcBit (crc : BitVec 16) : BitVec 16 :=
  if crc &&& 0x8000#16 ≠ 0#16 then crc <<< 1 ^^^ 0x1021#16 else crc <<< 1

/-- One byte of the outer loop. -/
def crcByte (crc : BitVec 16) (b : UInt8) : BitVec 16 :=
  crcBit^[8] (crc ^^^ b.toBitVec.setWidth 16 <<< 8)

/-- `thermal_wire_crc16`. -/
def thermalWireCrc16 (buf : List UInt8) : BitVec 16 := buf.foldl crcByte 0xFFFF#16

/-! ## Opcodes and statuses -/

/-- The first magic byte, `T`. -/
def wireMagic0 : UInt8 := 0x54

/-- The second magic byte, `C`. -/
def wireMagic1 : UInt8 := 0x43

/-- The version byte. -/
def wireVersion : UInt8 := 1

/-- The length of the header. -/
def wireHeaderLen : Nat := 12

/-- The length of the trailer. -/
def wireCrcLen : Nat := 2

/-- `THERMAL_WIRE_MAX_LINUX`, the cap of a Linux receiver. -/
def wireMaxLinux : Nat := 1024

/-- `THERMAL_WIRE_MAX_MCU`, the cap of a microcontroller. -/
def wireMaxMcu : Nat := 256

/-- The opcodes. -/
inductive WireOpcode where
  | telemSample
  | telemEvent
  | cmdRequest
  | cmdAck
  | cmdNack
deriving DecidableEq

/-- The byte of an opcode. -/
def WireOpcode.code : WireOpcode → UInt8
  | .telemSample => 0x01
  | .telemEvent => 0x02
  | .cmdRequest => 0x10
  | .cmdAck => 0x11
  | .cmdNack => 0x12

/-- `opcode_is_known`, with the cast to the enumeration. -/
def wireOpcode? (v : UInt8) : Option WireOpcode :=
  if v = 0x01 then some .telemSample
  else if v = 0x02 then some .telemEvent
  else if v = 0x10 then some .cmdRequest
  else if v = 0x11 then some .cmdAck
  else if v = 0x12 then some .cmdNack
  else none

/-- The negative return codes. -/
inductive WireError where
  | truncated
  | badMagic
  | badVersion
  | badCrc
  | badOpcode
  | badPayload
  | overCap
  | bufTooSmall
deriving DecidableEq

/-! ## Frames -/

/-- The header's fields in their order. -/
def writeHeader (opcode : WireOpcode) (seq payloadLen tsMs : Nat) : List UInt8 :=
  [wireMagic0, wireMagic1, wireVersion, opcode.code] ++ putU16LE seq ++ putU16LE payloadLen ++
    putU32LE tsMs

/-- The header, and the size check made before the payload is written. -/
def encodeFrame (bufSz : Nat) (opcode : WireOpcode) (seq tsMs payloadLen : Nat) :
    Except WireError (List UInt8) :=
  if payloadLen > 0xFFFF then .error .badPayload
  else if bufSz < wireHeaderLen + payloadLen + wireCrcLen then .error .bufTooSmall
  else .ok (writeHeader opcode seq (u16 payloadLen) tsMs)

/-- The trailer on the `wireHeaderLen + payloadLen` bytes written so far. -/
def finalizeFrame (bufSz : Nat) (written : List UInt8) (payloadLen : Nat) (crcEnabled : Bool) :
    Except WireError (List UInt8) :=
  if wireHeaderLen + payloadLen + wireCrcLen > bufSz then .error .bufTooSmall
  else
    let crc := if crcEnabled then (thermalWireCrc16 written).toNat else 0
    .ok (written ++ putU16LE crc)

/-- `thermal_wire_frame_t`; the payload pointer and its length are one list. -/
structure WireFrame where
  seq : Nat
  tsMs : Nat
  opcode : WireOpcode
  payload : List UInt8
  crcEnabled : Bool
deriving DecidableEq

/-- `thermal_wire_decode_frame`; a `receiveCap` of 0 is none. -/
def thermalWireDecodeFrame (buf : List UInt8) (receiveCap : Nat) (crcEnabled : Bool) :
    Except WireError WireFrame :=
  if buf.length < wireHeaderLen then .error .truncated
  else if buf.getD 0 0 ≠ wireMagic0 ∨ buf.getD 1 0 ≠ wireMagic1 then .error .badMagic
  else if buf.getD 2 0 ≠ wireVersion then .error .badVersion
  else
    match wireOpcode? (buf.getD 3 0) with
    | none => .error .badOpcode
    | some opcode =>
        let seq := getU16LE (buf.drop 4)
        let payloadLen := getU16LE (buf.drop 6)
        let tsMs := getU32LE (buf.drop 8)
        if receiveCap > 0 ∧ payloadLen > receiveCap then .error .overCap
        else if buf.length < wireHeaderLen + payloadLen + wireCrcLen then .error .truncated
        else if crcEnabled = true ∧ getU16LE (buf.drop (wireHeaderLen + payloadLen)) ≠
            (thermalWireCrc16 (buf.take (wireHeaderLen + payloadLen))).toNat then .error .badCrc
        else .ok ⟨seq, tsMs, opcode, (buf.drop wireHeaderLen).take payloadLen, crcEnabled⟩

/-! ## TELEM_SAMPLE -/

/-- The payload length of TELEM_SAMPLE. -/
def plTelemSample : Nat := 8

/-- `thermal_wire_encode_telem_sample`. -/
def thermalWireEncodeTelemSample (bufSz seq tsMs signalId flags : Nat) (value : Int)
    (crcEnabled : Bool) : Except WireError (List UInt8) := do
  let header ← encodeFrame bufSz .telemSample seq tsMs plTelemSample
  finalizeFrame bufSz (header ++ (putU16LE signalId ++ putU16LE flags ++ putU32LE (toU32 value)))
    plTelemSample crcEnabled

/-- `thermal_wire_decode_telem_sample`. -/
def thermalWireDecodeTelemSample (frame : WireFrame) : Except WireError (Nat × Nat × Int) :=
  if frame.opcode ≠ .telemSample ∨ frame.payload.length ≠ plTelemSample then .error .badPayload
  else
    let p := frame.payload
    .ok (getU16LE p, getU16LE (p.drop 2), i32 (getU32LE (p.drop 4)))

/-! ## TELEM_EVENT -/

/-- The payload length of TELEM_EVENT. -/
def plTelemEvent : Nat := 18

/-- `thermal_wire_encode_telem_event`. -/
def thermalWireEncodeTelemEvent (bufSz seq tsMs eventCode a1 a2 a3 a4 : Nat) (crcEnabled : Bool) :
    Except WireError (List UInt8) := do
  let header ← encodeFrame bufSz .telemEvent seq tsMs plTelemEvent
  finalizeFrame bufSz
    (header ++ (putU16LE eventCode ++ putU32LE a1 ++ putU32LE a2 ++ putU32LE a3 ++ putU32LE a4))
    plTelemEvent crcEnabled

/-- `thermal_wire_decode_telem_event`. -/
def thermalWireDecodeTelemEvent (frame : WireFrame) : Except WireError (Nat × Nat × Nat × Nat × Nat) :=
  if frame.opcode ≠ .telemEvent ∨ frame.payload.length ≠ plTelemEvent then .error .badPayload
  else
    let p := frame.payload
    .ok (getU16LE p, getU32LE (p.drop 2), getU32LE (p.drop 6), getU32LE (p.drop 10),
      getU32LE (p.drop 14))

/-! ## CMD_REQUEST -/

/-- The length of a command's id. -/
def plCmdidHdr : Nat := 2

/-- The payload length of a command, 0 for an unknown one. -/
def cmdPayloadLen (commandId : Nat) : Nat :=
  match commandId with
  | 0x0001 => plCmdidHdr + 14
  | 0x0002 => plCmdidHdr + 6
  | 0x0003 => plCmdidHdr + 12
  | 0x0004 => plCmdidHdr + 16
  | 0x0005 => plCmdidHdr + 4
  | _ => 0

/-- The fields of a command after its id, `none` for an unknown one. -/
def cmdFields : Command → Option (List UInt8)
  | .setPid z kp ki kd =>
      some (putU16LE z ++ putU32LE (toU32 kp) ++ putU32LE (toU32 ki) ++ putU32LE (toU32 kd))
  | .setSetpoint z sp => some (putU16LE z ++ putU32LE (toU32 sp))
  | .setTrip z t temp hyst =>
      some (putU16LE z ++ putU16LE t ++ putU32LE (toU32 temp) ++ putU32LE (toU32 hyst))
  | .setCurvePoint m i x v0 v1 =>
      some (putU16LE m ++ putU16LE i ++ putU32LE (toU32 x) ++ putU32LE (toU32 v0) ++
        putU32LE (toU32 v1))
  | .clearFault ft tid => some (putU16LE ft ++ putU16LE tid)
  | .unknown _ => none

/-- `thermal_wire_encode_cmd_request`. -/
def thermalWireEncodeCmdRequest (bufSz seq tsMs : Nat) (cmd : Command) (crcEnabled : Bool) :
    Except WireError (List UInt8) :=
  let pl := cmdPayloadLen cmd.commandId
  if pl = 0 then .error .badPayload
  else do
    let header ← encodeFrame bufSz .cmdRequest seq tsMs pl
    match cmdFields cmd with
    | none => .error .badPayload
    | some fields => finalizeFrame bufSz (header ++ (putU16LE cmd.commandId ++ fields)) pl crcEnabled

/-- The command an id and the fields after it stand for. -/
def cmdOfFields (commandId : Nat) (p : List UInt8) : Option Command :=
  match commandId with
  | 0x0001 =>
      some (.setPid (getU16LE p) (i32 (getU32LE (p.drop 2))) (i32 (getU32LE (p.drop 6)))
        (i32 (getU32LE (p.drop 10))))
  | 0x0002 => some (.setSetpoint (getU16LE p) (i32 (getU32LE (p.drop 2))))
  | 0x0003 =>
      some (.setTrip (getU16LE p) (getU16LE (p.drop 2)) (i32 (getU32LE (p.drop 4)))
        (i32 (getU32LE (p.drop 8))))
  | 0x0004 =>
      some (.setCurvePoint (getU16LE p) (getU16LE (p.drop 2)) (i32 (getU32LE (p.drop 4)))
        (i32 (getU32LE (p.drop 8))) (i32 (getU32LE (p.drop 12))))
  | 0x0005 => some (.clearFault (getU16LE p) (getU16LE (p.drop 2)))
  | _ => none

/-- `thermal_wire_decode_cmd_request`. -/
def thermalWireDecodeCmdRequest (frame : WireFrame) : Except WireError Command :=
  if frame.opcode ≠ .cmdRequest then .error .badPayload
  else if frame.payload.length < plCmdidHdr then .error .badPayload
  else
    let commandId := getU16LE frame.payload
    let expected := cmdPayloadLen commandId
    if expected = 0 ∨ expected ≠ frame.payload.length then .error .badPayload
    else
      match cmdOfFields commandId (frame.payload.drop plCmdidHdr) with
      | none => .error .badPayload
      | some cmd => .ok cmd

/-! ## CMD_ACK and CMD_NACK -/

/-- The payload length of CMD_ACK and CMD_NACK. -/
def plCmdAcknack : Nat := 8

/-- The encoder that CMD_ACK and CMD_NACK share. -/
def encodeCmdAcknack (bufSz : Nat) (opcode : WireOpcode) (seq tsMs requestSeq status detailCode : Nat)
    (crcEnabled : Bool) : Except WireError (List UInt8) := do
  let header ← encodeFrame bufSz opcode seq tsMs plCmdAcknack
  finalizeFrame bufSz (header ++ (putU16LE requestSeq ++ putU16LE status ++ putU32LE detailCode))
    plCmdAcknack crcEnabled

/-- `thermal_wire_encode_cmd_ack`. -/
def thermalWireEncodeCmdAck (bufSz seq tsMs requestSeq status detailCode : Nat) (crcEnabled : Bool) :
    Except WireError (List UInt8) :=
  encodeCmdAcknack bufSz .cmdAck seq tsMs requestSeq status detailCode crcEnabled

/-- `thermal_wire_encode_cmd_nack`. -/
def thermalWireEncodeCmdNack (bufSz seq tsMs requestSeq status detailCode : Nat) (crcEnabled : Bool) :
    Except WireError (List UInt8) :=
  encodeCmdAcknack bufSz .cmdNack seq tsMs requestSeq status detailCode crcEnabled

/-- `thermal_wire_decode_cmd_ack_or_nack`. -/
def thermalWireDecodeCmdAckOrNack (frame : WireFrame) : Except WireError (Nat × Nat × Nat) :=
  if (frame.opcode ≠ .cmdAck ∧ frame.opcode ≠ .cmdNack) ∨ frame.payload.length ≠ plCmdAcknack then
    .error .badPayload
  else
    let p := frame.payload
    .ok (getU16LE p, getU16LE (p.drop 2), getU32LE (p.drop 4))

end ThermalCore
