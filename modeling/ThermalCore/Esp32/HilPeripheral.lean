import ThermalCore.Wire.CommandChannel
import ThermalCore.Wire.Serial

/-!
# The HIL peripheral

`app_main_hil_peripheral` of the ESP32 firmware's `main.c`: the firmware owns the
sensors, the tachs and the fans, reports them in TELEM_SAMPLE frames and applies
the duties it is sent.  One pass of its loop is a function of what the drivers
answer in it.

The loop drains commands first, then refreshes its readings and sends them.  Errors of
the drivers keep the reading before; what is printed on the console is left out.
-/

namespace ThermalCore

open MachineInt

/-! ## Inbound commands -/

def hilCmdSetPwmDuty : Nat := 0x8001

/-- The duty of each LEDC channel, and `seq`. -/
structure HilActuation where
  duties : Vector Nat maxActuators
  outSeq : Nat
deriving DecidableEq

/-- `bsp_esp32_pwm_set_duty`.  The pin map has an entry for every actuator, and
`init_bsps` initialises those. -/
def bspEsp32PwmSetDuty (cfg : Config) (duties : Vector Nat maxActuators) (slot duty : Nat) :
    Vector Nat maxActuators :=
  if slot ≥ maxActuators then duties
  else if slot ≥ cfg.actuatorCount then duties
  else duties.put slot duty

/-- What `esp32_usb_cdc_write` queues for the return value of an encoder. -/
def usbCdcWritten (n : Except WireError (List UInt8)) : List UInt8 := n.toOption.getD []

/-- The size of the reply buffer. -/
def hilReplyLen : Nat := wireHeaderLen + 8 + wireCrcLen

def hilDispatchFrame (cfg : Config) (nowMs : Nat) (s : HilActuation) (fr : WireFrame) :
    HilActuation × List UInt8 :=
  let outSeq := u16 (s.outSeq + 1)
  let ack (detailCode : Nat) :=
    usbCdcWritten (thermalWireEncodeCmdAck hilReplyLen s.outSeq nowMs fr.seq 0 detailCode true)
  let nack (status detailCode : Nat) :=
    usbCdcWritten (thermalWireEncodeCmdNack hilReplyLen s.outSeq nowMs fr.seq status detailCode true)
  if fr.opcode ≠ .cmdRequest then (⟨s.duties, outSeq⟩, nack wireStatusBadOpcode 0)
  else
    let commandId := if fr.payload.length ≥ 2 then getU16LE fr.payload else 0
    if commandId = hilCmdSetPwmDuty ∧ fr.payload.length = 4 then
      let slot := byteAt fr.payload 2
      let duty := byteAt fr.payload 3
      if slot ≥ cfg.actuatorCount then (⟨s.duties, outSeq⟩, nack wireStatusBadPayload slot)
      else (⟨bspEsp32PwmSetDuty cfg s.duties slot duty, outSeq⟩, ack duty)
    else (⟨s.duties, outSeq⟩, nack wireStatusBadPayload commandId)

/-! ## Outbound samples -/

def tsigHilBase : Nat := 0x0700

def tsigHilSubSensorTemp : Nat := 0x00

def tsigHilSubTachRpm : Nat := 0x10

def tsigHilSensorTemp (slot : Nat) : Nat := u16 (tsigHilBase + tsigHilSubSensorTemp + slot)

def tsigHilTachRpm (slot : Nat) : Nat := u16 (tsigHilBase + tsigHilSubTachRpm + slot)

/-- The variables of the loop. -/
structure HilPeripheral where
  actuation : HilActuation
  rxBuf : List UInt8
  cachedTempMc : Vector Int maxSensors
  cachedValid : Vector Bool maxSensors
  ticksSinceRead : Nat
  nowMs : Nat
deriving DecidableEq

/-- Before the first pass: the fans parked, a read forced. -/
def hilPeripheralBoot : HilPeripheral where
  actuation := ⟨.replicate _ 0, 0⟩
  rxBuf := []
  cachedTempMc := .replicate _ i32Min
  cachedValid := .replicate _ false
  ticksSinceRead := 10
  nowMs := 0

/-- What the drivers answer in one pass: the temperature of each sensor, `none`
where the read fails, the tach edges since the last pass, and how many bytes of
those received `esp32_usb_cdc_read` returns at most. -/
structure HilPassInput where
  readMc : Nat → Option Int
  ticksDelta : Nat → Nat
  want : Nat

/-- The refresh of the sensors at 1 Hz. -/
def hilRefresh (cfg : Config) (sensorOk : Bool) (inp : HilPassInput) (p : HilPeripheral) : HilPeripheral :=
  if sensorOk = true ∧ p.ticksSinceRead ≥ 10 then
    { p with
      cachedTempMc := p.cachedTempMc.forSlots cfg.sensorCount fun i temp => (inp.readMc i).getD temp
      cachedValid := p.cachedValid.forSlots cfg.sensorCount fun i _ => (inp.readMc i).isSome
      ticksSinceRead := 1 }
  else { p with ticksSinceRead := p.ticksSinceRead + 1 }

/-- The samples of one pass, in the order they are sent: signal and value. -/
def hilSamples (cfg : Config) (p : HilPeripheral) (ticksDelta : Nat → Nat) : List (Nat × Int) :=
  (Loop.emit cfg.sensorCount fun i =>
      if p.cachedValid.slot i then [(tsigHilSensorTemp i, p.cachedTempMc.slot i)] else []) ++
    Loop.emit cfg.actuatorCount fun i => [(tsigHilTachRpm i, i32 (u32 (ticksDelta i * 30)))]

/-- One sample: the next `seq`, and the bytes sent. -/
def hilEmitSample (nowMs seq : Nat) (sample : Nat × Int) : Nat × List UInt8 :=
  (u16 (seq + 1),
    usbCdcWritten (thermalWireEncodeTelemSample wireMaxMcu seq nowMs sample.1 0 sample.2 true))

/-- What a pass leaves behind. -/
structure HilPass where
  peripheral : HilPeripheral
  /-- The bytes still with the driver. -/
  pending : List UInt8
  /-- The frames dispatched. -/
  commands : List WireFrame
  written : List UInt8

/-- One pass of the loop on the bytes the driver holds. -/
def hilPeripheralPass (cfg : Config) (sensorOk : Bool) (p : HilPeripheral) (pending : List UInt8)
    (inp : HilPassInput) : HilPass :=
  let p := hilRefresh cfg sensorOk inp p
  let samples := hilSamples cfg p inp.ticksDelta
  let telemetry := Machine.outputs (hilEmitSample p.nowMs) p.actuation.outSeq samples
  let reported : HilActuation :=
    ⟨p.actuation.duties, Machine.after (hilEmitSample p.nowMs) p.actuation.outSeq samples⟩
  let rx := hilDrainCommands ⟨p.rxBuf, pending⟩ inp.want
  let replies := Machine.outputs (hilDispatchFrame cfg p.nowMs) reported rx.2
  { peripheral :=
      { p with
        actuation := Machine.after (hilDispatchFrame cfg p.nowMs) reported rx.2
        rxBuf := rx.1.buf
        nowMs := u32 (p.nowMs + 100) }
    pending := rx.1.pending
    commands := rx.2
    written := telemetry.flatten ++ replies.flatten }

end ThermalCore
