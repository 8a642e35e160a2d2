import ThermalCore.Esp32.HilPeripheral
import ThermalCore.Validate

/-!
# The HIL serial transport

`platform/linux/bsp_hil_serial.c`, the daemon's side of the HIL link: the caches
its reader fills from TELEM_SAMPLE frames, the accessors the snapshot is built
with, and the CMD_REQUEST frames that carry the duties.  The reader itself is
`bspHilSerialDrain`.
-/

namespace ThermalCore

open MachineInt

/-! ## State -/

/-- A cached sample: its value, when it arrived, and whether one ever did. -/
structure HilSampleCell where
  value : Int
  recvTsMs : Nat
  everSeen : Bool
deriving DecidableEq, Inhabited

/-- The module's static variables. -/
structure HilSerial where
  sensorCache : Vector HilSampleCell maxSensors
  tachCache : Vector HilSampleCell maxActuators
  rxBuf : List UInt8
  txSeq : Nat
  ackCount : Nat
  nackCount : Nat
deriving DecidableEq

/-- The state `bsp_hil_serial_open` leaves. -/
def bspHilSerialOpened : HilSerial where
  sensorCache := .replicate _ default
  tachCache := .replicate _ default
  rxBuf := []
  txSeq := 0
  ackCount := 0
  nackCount := 0

/-! ## Inbound dispatch -/

/-- A sample for a slot the daemon does not have, or for another signal, is
dropped. -/
def dispatchTelemSample (s : HilSerial) (signalId : Nat) (value : Int) (recvTsMs : Nat) : HilSerial :=
  if signalId ≥ tsigHilBase ∧ signalId < tsigHilBase + 0x0100 then
    let off := u16 (signalId - tsigHilBase)
    let sub := u8 (off &&& 0xF0)
    let slot := u8 (off &&& 0x0F)
    if sub = tsigHilSubSensorTemp ∧ slot < maxSensors then
      { s with sensorCache := s.sensorCache.put slot ⟨value, recvTsMs, true⟩ }
    else if sub = tsigHilSubTachRpm ∧ slot < maxActuators then
      { s with tachCache := s.tachCache.put slot ⟨value, recvTsMs, true⟩ }
    else s
  else s

/-- The switch over an inbound frame's opcode. -/
def dispatchFrame (nowMs : Nat) (s : HilSerial) (fr : WireFrame) : HilSerial :=
  if fr.opcode = .telemSample then
    match thermalWireDecodeTelemSample fr with
    | .error _ => s
    | .ok (signalId, _, value) => dispatchTelemSample s signalId value nowMs
  else if fr.opcode = .cmdAck ∨ fr.opcode = .cmdNack then
    match thermalWireDecodeCmdAckOrNack fr with
    | .error _ => s
    | .ok _ =>
        if fr.opcode = .cmdAck then { s with ackCount := u64 (s.ackCount + 1) }
        else { s with nackCount := u64 (s.nackCount + 1) }
  else s

/-- What `bsp_hil_serial_drain` leaves behind. -/
structure HilDrained where
  serial : HilSerial
  /-- The bytes still with the driver. -/
  pending : List UInt8
  /-- The frames dispatched. -/
  frames : List WireFrame

/-- `bsp_hil_serial_drain` with its dispatch. -/
def hilSerialDrain (nowMs : Nat) (s : HilSerial) (pending : List UInt8) (want : Nat) : HilDrained :=
  let rx := bspHilSerialDrain ⟨s.rxBuf, pending⟩ want
  { serial := rx.2.foldl (dispatchFrame nowMs) { s with rxBuf := rx.1.buf }
    pending := rx.1.pending
    frames := rx.2 }

/-! ## Accessors of the snapshot -/

/-- The cached reading is recent enough. -/
def HilSampleCell.fresh (c : HilSampleCell) (nowMs maxStalenessMs : Nat) : Bool :=
  c.everSeen && decide (subU32 nowMs c.recvTsMs ≤ maxStalenessMs)

/-- `bsp_hil_serial_read_sensor`: the cached value, valid while it is no older than the limit. -/
def bspHilSerialReadSensor (cfg : Config) (s : HilSerial) (slot nowMs : Nat) : Sample :=
  if slot ≥ cfg.sensorCount ∨ slot ≥ maxSensors then default
  else
    let cell := s.sensorCache.slot slot
    { id := (cfg.sensors.slot slot).id
      kind := SampleKind.tempMc.code
      valid := (cell.fresh nowMs (cfg.sensors.slot slot).maxStalenessMs).toNat
      value := cell.value }

/-- A tach borrows the staleness of sensor 0. -/
def bspHilSerialReadTach (cfg : Config) (s : HilSerial) (slot nowMs : Nat) : Sample :=
  if slot ≥ cfg.actuatorCount ∨ slot ≥ maxActuators then default
  else
    let cell := s.tachCache.slot slot
    { id := (cfg.actuators.slot slot).id
      kind := SampleKind.tachRpm.code
      valid := (decide (cfg.sensorCount > 0) && cell.fresh nowMs (cfg.sensors.slot 0).maxStalenessMs).toNat
      value := cell.value }

/-! ## Outbound duties -/

/-- The frame of `bsp_hil_serial_write_actuator`, byte by byte. -/
def pwmDutyFrame (seq tsMs slot duty : Nat) : List UInt8 :=
  let frame := [wireMagic0, wireMagic1, wireVersion, WireOpcode.cmdRequest.code] ++ putU16LE seq ++
    putU16LE 4 ++ putU32LE tsMs ++ putU16LE hilCmdSetPwmDuty ++ [UInt8.ofNat slot, UInt8.ofNat duty]
  frame ++ putU16LE (thermalWireCrc16 frame).toNat

/-- `bsp_hil_serial_write_actuator`: the `seq` is spent even where the driver
refuses the frame. -/
def bspHilSerialWriteActuator (s : HilSerial) (tsMs slot duty : Nat) : HilSerial × List UInt8 :=
  let txSeq := u16 (s.txSeq + 1)
  ({ s with txSeq := txSeq }, pwmDutyFrame txSeq tsMs slot duty)

end ThermalCore
