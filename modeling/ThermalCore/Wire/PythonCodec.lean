import ThermalCore.Lib.StructPack
import ThermalCore.Wire.RoundTrip

/-!
# The Python side of the wire

`tools/thermalcore_wire.py`, and that it agrees with `protocol/thermal_wire.c`:
the same bytes for every command, and the same fields out of every buffer.
Python integers are unbounded; `none` is a raised exception, and `some none` a
returned `None`.

Each side is transcribed from its own source.  `Lib.StructPack` is what the Python
codec packs with; its fields at their codes are the C packers, so the codecs are
compared field by field and not byte by byte.
-/

namespace ThermalCore

open MachineInt StructPack

/-! ## The Python codec -/

/-- `WIRE_MAGIC`. -/
def pyWireMagic : List UInt8 := [0x54, 0x43]

/-- `WIRE_VERSION`. -/
def pyWireVersion : Int := 1

/-- The opcode of a command request. -/
def pyOpCmdRequest : Nat := 0x10

/-- The id of `SET_PID`. -/
def pyCmdSetPid : Nat := 0x0001

/-- The id of `SET_SETPOINT`. -/
def pyCmdSetSetpoint : Nat := 0x0002

/-- The id of `SET_TRIP`. -/
def pyCmdSetTrip : Nat := 0x0003

/-- The id of `SET_CURVE_POINT`. -/
def pyCmdSetCurvePoint : Nat := 0x0004

/-- The id of `CLEAR_FAULT`. -/
def pyCmdClearFault : Nat := 0x0005

/-- `x & (2 ** bits - 1)`. -/
def pyMask (x : Int) (bits : Nat) : Int := x % 2 ^ bits

/-- `buf[a:b]`. -/
def pySlice (buf : List UInt8) (a b : Nat) : List UInt8 := (buf.take b).drop a

/-- One turn of the inner loop of `crc16_ccitt_false`. -/
def crc16CcittBit (crc : Nat) : Nat :=
  if crc &&& 0x8000 ≠ 0 then (crc <<< 1 ^^^ 0x1021) &&& 0xFFFF else crc <<< 1 &&& 0xFFFF

/-- A byte of `crc16_ccitt_false`. -/
def crc16CcittByte (crc : Nat) (b : UInt8) : Nat := crc16CcittBit^[8] (crc ^^^ b.toNat <<< 8)

/-- `crc16_ccitt_false`. -/
def crc16CcittFalse (buf : List UInt8) : Nat := buf.foldl crc16CcittByte 0xFFFF

/-- `encode_tc`: header, payload and trailer. -/
def encodeTc (opcode seq tsMs : Int) (payload : List UInt8) (crc : Bool) : Option (List UInt8) := do
  let header ← pack [.s 2 pyWireMagic, .int .B pyWireVersion, .int .B (pyMask opcode 8),
    .int .H (pyMask seq 16), .int .H payload.length, .int .I (pyMask tsMs 32)]
  let body := header ++ payload
  let crcVal := if crc then crc16CcittFalse body else 0
  let trailer ← pack [.int .H crcVal]
  some (body ++ trailer)

/-- The CRC test of `decode_tc`. -/
def pyCrcMatches (buf : List UInt8) (payloadLen : Nat) : Option Bool := do
  let got ← unpack [.H] (pySlice buf (12 + payloadLen) (12 + payloadLen + 2))
  some (got.headD 0 == (crc16CcittFalse (pySlice buf 0 (12 + payloadLen)) : Int))

/-- `decode_tc`: the tests in the order of the source. -/
def decodeTc (buf : List UInt8) (crc : Bool) : Option (Option (Int × Int × Int × List UInt8)) :=
  if buf.length < 12 then some none
  else if pySlice buf 0 2 ≠ pyWireMagic then some none
  else if ((buf.getD 2 0).toNat : Int) ≠ pyWireVersion then some none
  else do
    let opcode := (buf.getD 3 0).toNat
    let header ← unpack [.H, .H, .I] (pySlice buf 4 12)
    let payloadLen := (header.getD 1 0).toNat
    if buf.length < 12 + payloadLen + 2 then some none
    else do
      let payload := pySlice buf 12 (12 + payloadLen)
      let accepted ← if crc then pyCrcMatches buf payloadLen else some true
      some (if accepted then some (opcode, header.getD 0 0, header.getD 2 0, payload) else none)

/-- `encode_set_pid`. -/
def encodeSetPid (zoneId kpQ16 kiQ16 kdQ16 : Int) : Option (List UInt8) :=
  pack [.int .H pyCmdSetPid, .int .H zoneId, .int .i kpQ16, .int .i kiQ16, .int .i kdQ16]

/-- `encode_set_setpoint`. -/
def encodeSetSetpoint (zoneId setpointMc : Int) : Option (List UInt8) :=
  pack [.int .H pyCmdSetSetpoint, .int .H zoneId, .int .i setpointMc]

/-- `encode_set_trip`. -/
def encodeSetTrip (zoneId tripIdx tempMc hystMc : Int) : Option (List UInt8) :=
  pack [.int .H pyCmdSetTrip, .int .H zoneId, .int .H tripIdx, .int .i tempMc, .int .i hystMc]

/-- `encode_set_curve_point`. -/
def encodeSetCurvePoint (modifierId pointIdx x value0 value1 : Int) : Option (List UInt8) :=
  pack [.int .H pyCmdSetCurvePoint, .int .H modifierId, .int .H pointIdx, .int .i x, .int .i value0,
    .int .i value1]

/-- `encode_clear_fault`. -/
def encodeClearFault (faultType targetId : Int) : Option (List UInt8) :=
  pack [.int .H pyCmdClearFault, .int .H faultType, .int .H targetId]

/-- The payload encoder of a command; there is none for an unknown id. -/
def pyEncodePayload : Command → Option (List UInt8)
  | .setPid z kp ki kd => encodeSetPid z kp ki kd
  | .setSetpoint z sp => encodeSetSetpoint z sp
  | .setTrip z t temp hyst => encodeSetTrip z t temp hyst
  | .setCurvePoint m i x v0 v1 => encodeSetCurvePoint m i x v0 v1
  | .clearFault ft tid => encodeClearFault ft tid
  | .unknown _ => none

/-- `decode_ack_or_nack`. -/
def decodeAckOrNack (payload : List UInt8) : Option (Option (List Int)) :=
  if payload.length ≠ 8 then some none else (unpack [.H, .H, .I] payload).map some

/-! ## The CRC -/

/-- One bit of either CRC loop. -/
theorem crc16CcittBit_eq (crc : BitVec 16) : crc16CcittBit crc.toNat = (crcBit crc).toNat := by
  have hmask (n : Nat) : n &&& 0xFFFF = n % 2 ^ 16 := Nat.and_two_pow_sub_one_eq_mod n 16
  have htop : crc.toNat &&& 0x8000 ≠ 0 ↔ crc &&& 0x8000#16 ≠ 0#16 := by
    rw [Ne, Ne, ← BitVec.toNat_inj, BitVec.toNat_and]
    rfl
  unfold crc16CcittBit crcBit
  simp only [htop, hmask]
  split
  · rw [BitVec.toNat_xor, BitVec.toNat_shiftLeft, Nat.xor_mod_two_pow]
    rfl
  · rw [BitVec.toNat_shiftLeft]

/-- One byte of either CRC loop. -/
theorem crc16CcittByte_eq (crc : BitVec 16) (b : UInt8) :
    crc16CcittByte crc.toNat b = (crcByte crc b).toNat := by
  have hiter (n : Nat) (c : BitVec 16) : crc16CcittBit^[n] c.toNat = (crcBit^[n] c).toNat := by
    induction n generalizing c with
    | zero => rfl
    | succ n ih => rw [Function.iterate_succ_apply, Function.iterate_succ_apply, crc16CcittBit_eq, ih]
  have hbyte : (b.toBitVec.setWidth 16 <<< 8).toNat = b.toNat <<< 8 := by
    have hlt := b.toNat_lt
    rw [BitVec.toNat_shiftLeft, BitVec.toNat_setWidth, UInt8.toNat_toBitVec]
    simp only [Nat.shiftLeft_eq]
    omega
  unfold crc16CcittByte crcByte
  rw [← hiter, BitVec.toNat_xor, hbyte]

/-- The two CRCs are one function. -/
theorem crc16CcittFalse_eq (buf : List UInt8) : crc16CcittFalse buf = (thermalWireCrc16 buf).toNat := by
  have hfold (c : BitVec 16) : buf.foldl crc16CcittByte c.toNat = (buf.foldl crcByte c).toNat := by
    induction buf generalizing c with
    | nil => rfl
    | cons b buf ih => rw [List.foldl_cons, List.foldl_cons, crc16CcittByte_eq, ih]
  exact hfold 0xFFFF#16

/-! ## Packed fields -/

/-- A 16-bit field is packed as the C packer does. -/
theorem pack_H {v : Nat} (h : v < 2 ^ 16) : (Item.int .H v).pack = some (putU16LE v) := by
  rw [pack_int ⟨Int.natCast_nonneg v, by simp only [Code.hi]; omega⟩, putU16LE_eq]
  congr 2
  simp only [Code.size]
  omega

/-- A byte is packed as it is. -/
theorem pack_B (b : UInt8) : (Item.int .B b.toNat).pack = some [b] := by
  have hlt := b.toNat_lt
  rw [pack_int ⟨Int.natCast_nonneg _, by simp only [Code.hi]; omega⟩]
  have hnat : ((b.toNat : Int) % 256 ^ Code.B.size).toNat = b.toNat := by
    simp only [Code.size]
    omega
  rw [hnat]
  simp [LittleEndian.put, Code.size]

/-- A 32-bit field is packed as the C packer does. -/
theorem pack_I {v : Nat} (h : v < 2 ^ 32) : (Item.int .I v).pack = some (putU32LE v) := by
  rw [pack_int ⟨Int.natCast_nonneg v, by simp only [Code.hi]; omega⟩, putU32LE_eq]
  congr 2
  simp only [Code.size]
  omega

/-- A signed field is packed as its bit pattern. -/
theorem pack_i {v : Int} (h : IsI32 v) : (Item.int .i v).pack = some (putU32LE (toU32 v)) := by
  obtain ⟨hlo, hhi⟩ := h
  unfold i32Min at hlo
  unfold i32Max at hhi
  rw [pack_int ⟨hlo, by simp only [Code.hi]; omega⟩, putU32LE_eq]
  rfl

/-! ## Encoders -/

/-- A payload is its command id and the rest. -/
theorem pack_id {id : Nat} (h : id < 2 ^ 16) (items : List Item) :
    pack (.int .H id :: items) = (pack items).map (putU16LE id ++ ·) := pack_cons_of_eq (pack_H h)

/-- A signed field in front of further ones. -/
theorem pack_cons_i {v : Int} (h : IsI32 v) (items : List Item) :
    pack (.int .i v :: items) = (pack items).map (putU32LE (toU32 v) ++ ·) := pack_cons_of_eq (pack_i h)

/-- The Python payload is the id and the fields of the C encoder. -/
theorem pyEncodePayload_eq {cmd : Command} (h : cmd.Typed) :
    pyEncodePayload cmd = some (WireMessage.cmdRequest cmd).payload := by
  cases cmd with
  | unknown id => exact h.elim
  | setPid z kp ki kd =>
      obtain ⟨hz, hkp, hki, hkd⟩ := h
      show pack [.int .H pyCmdSetPid, .int .H z, .int .i kp, .int .i ki, .int .i kd] = _
      rw [pack_id (by decide), pack_id hz, pack_cons_i hkp, pack_cons_i hki, pack_cons_i hkd]
      simp [WireMessage.payload, cmdFields, Command.commandId, pyCmdSetPid]
  | setSetpoint z sp =>
      obtain ⟨hz, hsp⟩ := h
      show pack [.int .H pyCmdSetSetpoint, .int .H z, .int .i sp] = _
      rw [pack_id (by decide), pack_id hz, pack_cons_i hsp]
      simp [WireMessage.payload, cmdFields, Command.commandId, pyCmdSetSetpoint]
  | setTrip z t temp hyst =>
      obtain ⟨hz, ht, htemp, hhyst⟩ := h
      show pack [.int .H pyCmdSetTrip, .int .H z, .int .H t, .int .i temp, .int .i hyst] = _
      rw [pack_id (by decide), pack_id hz, pack_id ht, pack_cons_i htemp, pack_cons_i hhyst]
      simp [WireMessage.payload, cmdFields, Command.commandId, pyCmdSetTrip]
  | setCurvePoint m i x v0 v1 =>
      obtain ⟨hm, hi, hx, hv0, hv1⟩ := h
      show pack [.int .H pyCmdSetCurvePoint, .int .H m, .int .H i, .int .i x, .int .i v0, .int .i v1] = _
      rw [pack_id (by decide), pack_id hm, pack_id hi, pack_cons_i hx, pack_cons_i hv0, pack_cons_i hv1]
      simp [WireMessage.payload, cmdFields, Command.commandId, pyCmdSetCurvePoint]
  | clearFault ft tid =>
      obtain ⟨hft, htid⟩ := h
      show pack [.int .H pyCmdClearFault, .int .H ft, .int .H tid] = _
      rw [pack_id (by decide), pack_id hft, pack_id htid]
      simp [WireMessage.payload, cmdFields, Command.commandId, pyCmdClearFault]

/-- A masked field, as the C packer writes the low bytes of its argument. -/
theorem pack_mask_H (v : Nat) : (Item.int .H (pyMask v 16)).pack = some (putU16LE v) := by
  have hmask : pyMask v 16 = ((v % 256 ^ 2 : Nat) : Int) := by
    unfold pyMask
    omega
  have hlt : v % 256 ^ 2 < 2 ^ 16 := Nat.mod_lt v (by decide)
  rw [hmask, pack_H hlt, putU16LE_eq, putU16LE_eq, LittleEndian.put_mod]

/-- A masked 32-bit field never raises. -/
theorem pack_mask_I (v : Nat) : (Item.int .I (pyMask v 32)).pack = some (putU32LE v) := by
  have hmask : pyMask v 32 = ((v % 256 ^ 4 : Nat) : Int) := by
    unfold pyMask
    omega
  have hlt : v % 256 ^ 4 < 2 ^ 32 := Nat.mod_lt v (by decide)
  rw [hmask, pack_I hlt, putU32LE_eq, putU32LE_eq, LittleEndian.put_mod]

/-- The Python frame is the C frame. -/
theorem encodeTc_eq_frameBytes (opcode : WireOpcode) (seq tsMs : Nat) {payload : List UInt8}
    (hlen : payload.length < 2 ^ 16) (crc : Bool) :
    encodeTc opcode.code.toNat seq tsMs payload crc = some (frameBytes opcode seq tsMs payload crc) := by
  have hopcode : (Item.int .B (pyMask opcode.code.toNat 8)).pack = some [opcode.code] := by
    have hlt := opcode.code.toNat_lt
    have hmask : pyMask opcode.code.toNat 8 = opcode.code.toNat := by
      unfold pyMask
      omega
    rw [hmask, pack_B]
  have hmagic : (Item.s 2 pyWireMagic).pack = some pyWireMagic := pack_s rfl
  have hversion : (Item.int .B pyWireVersion).pack = some [wireVersion] := pack_B wireVersion
  have hheader : pack [.s 2 pyWireMagic, .int .B pyWireVersion, .int .B (pyMask opcode.code.toNat 8),
      .int .H (pyMask seq 16), .int .H payload.length, .int .I (pyMask tsMs 32)] =
      some (writeHeader opcode seq payload.length tsMs) := by
    rw [pack_cons_of_eq hmagic, pack_cons_of_eq hversion, pack_cons_of_eq hopcode, pack_cons_of_eq (pack_mask_H seq), pack_id hlen,
      pack_cons_of_eq (pack_mask_I tsMs)]
    simp [writeHeader, pyWireMagic, wireMagic0, wireMagic1]
  have hcrc (body : List UInt8) : (if crc then crc16CcittFalse body else 0) < 2 ^ 16 := by
    split
    · rw [crc16CcittFalse_eq]
      exact BitVec.isLt _
    · decide
  unfold encodeTc
  rw [hheader, Option.bind_eq_bind, Option.bind_some]
  simp only
  rw [pack_id (hcrc _), crc16CcittFalse_eq]
  simp [frameBytes]

/-- **The encoders agree** on a command with its fields in range. -/
theorem encode_agree {cmd : Command} (h : cmd.Typed) (seq tsMs : Nat) (crc : Bool) {bufSz : Nat}
    (hbuf : wireHeaderLen + cmdPayloadLen cmd.commandId + wireCrcLen ≤ bufSz) :
    ∃ payload bytes, pyEncodePayload cmd = some payload ∧
      encodeTc pyOpCmdRequest seq tsMs payload crc = some bytes ∧
      thermalWireEncodeCmdRequest bufSz seq tsMs cmd crc = .ok bytes := by
  have hlen : (WireMessage.cmdRequest cmd).payload.length = cmdPayloadLen cmd.commandId := by
    cases cmd with
    | unknown id => exact h.elim
    | setPid | setSetpoint | setTrip | setCurvePoint | clearFault =>
        simp [WireMessage.payload, cmdFields, cmdPayloadLen, Command.commandId, plCmdidHdr]
  have htyped : (WireMessage.cmdRequest cmd).Typed := h
  rw [← hlen] at hbuf
  exact ⟨_, _, pyEncodePayload_eq h,
    encodeTc_eq_frameBytes .cmdRequest seq tsMs (length_payload_lt _) crc,
    encode_eq htyped hbuf seq tsMs crc⟩

/-! ## Decoders -/

/-- A slice of a buffer. -/
theorem pySlice_eq (buf : List UInt8) (a n : Nat) : pySlice buf a (a + n) = (buf.drop a).take n := by
  rw [pySlice, List.drop_take, Nat.add_sub_cancel_left]

/-- What a 16-bit field is unpacked to. -/
theorem value_H {p : List UInt8} (h : 2 ≤ p.length) : Code.H.value (p.take 2) = (getU16LE p : Int) := by
  rw [getU16LE_eq]
  exact value_unsigned (by norm_num [Code.hi, Code.size]) (List.length_take_of_le h)

/-- What a 32-bit field is unpacked to. -/
theorem value_I {p : List UInt8} (h : 4 ≤ p.length) : Code.I.value (p.take 4) = (getU32LE p : Int) := by
  rw [getU32LE_eq]
  exact value_unsigned (by norm_num [Code.hi, Code.size]) (List.length_take_of_le h)

/-- `struct.unpack("<HHI", p)`. -/
theorem unpack_HHI {p : List UInt8} (h : p.length = 8) :
    unpack [.H, .H, .I] p =
      some [(getU16LE p : Int), (getU16LE (p.drop 2) : Int), (getU32LE (p.drop 4) : Int)] := by
  rw [unpack_of_length h, ← value_H (p := p) (by omega),
    ← value_H (p := p.drop 2) (by rw [List.length_drop]; omega),
    ← value_I (p := p.drop 4) (by rw [List.length_drop]; omega)]
  simp [fields, Code.size]

/-- Cutting a buffer behind a 16-bit field. -/
theorem getU16LE_take {p : List UInt8} {n : Nat} (h : 2 ≤ n) : getU16LE (p.take n) = getU16LE p := by
  rw [getU16LE_eq, getU16LE_eq, List.take_take, Nat.min_eq_left h]

/-- Cutting a buffer behind a 32-bit field. -/
theorem getU32LE_take {p : List UInt8} {n : Nat} (h : 4 ≤ n) : getU32LE (p.take n) = getU32LE p := by
  rw [getU32LE_eq, getU32LE_eq, List.take_take, Nat.min_eq_left h]

/-- The three header fields. -/
theorem unpack_header {buf : List UInt8} (h : 12 ≤ buf.length) :
    unpack [.H, .H, .I] (pySlice buf 4 12) =
      some [(getU16LE (buf.drop 4) : Int), (getU16LE (buf.drop 6) : Int), (getU32LE (buf.drop 8) : Int)] := by
  have hslice : pySlice buf 4 12 = (buf.drop 4).take 8 := pySlice_eq buf 4 8
  have hlen : ((buf.drop 4).take 8).length = 8 :=
    List.length_take_of_le (by rw [List.length_drop]; omega)
  rw [hslice, unpack_HHI hlen, List.drop_take, List.drop_take, List.drop_drop, List.drop_drop,
    getU16LE_take (by decide), getU16LE_take (by decide), getU32LE_take (by decide)]

/-- The Python CRC test is the C one. -/
theorem pyCrcMatches_eq {buf : List UInt8} {payloadLen : Nat} (h : 12 + payloadLen + 2 ≤ buf.length) :
    pyCrcMatches buf payloadLen =
      some (decide (getU16LE (buf.drop (wireHeaderLen + payloadLen)) =
        (thermalWireCrc16 (buf.take (wireHeaderLen + payloadLen))).toNat)) := by
  have hlen : ((buf.drop (12 + payloadLen)).take 2).length = 2 :=
    List.length_take_of_le (by rw [List.length_drop]; omega)
  have hfield : unpack [.H] ((buf.drop (12 + payloadLen)).take 2) =
      some [(getU16LE (buf.drop (12 + payloadLen)) : Int)] := by
    rw [unpack_of_length hlen, ← getU16LE_take (Nat.le_refl 2), ← value_H (Nat.le_of_eq hlen.symm)]
    simp [fields, Code.size]
  have hbody : pySlice buf 0 (12 + payloadLen) = buf.take (wireHeaderLen + payloadLen) := rfl
  rw [pyCrcMatches, pySlice_eq, hfield, hbody, crc16CcittFalse_eq, Option.bind_eq_bind, Option.bind_some]
  rw [List.headD_cons, beq_eq_decide]
  exact congrArg some (decide_eq_decide.mpr Int.natCast_inj)

/-- The slice of the magic bytes, compared byte by byte. -/
theorem pySlice_magic {buf : List UInt8} (h : 2 ≤ buf.length) :
    pySlice buf 0 2 ≠ pyWireMagic ↔ buf.getD 0 0 ≠ wireMagic0 ∨ buf.getD 1 0 ≠ wireMagic1 := by
  rcases buf with _ | ⟨b0, _ | ⟨b1, rest⟩⟩
  · simp at h
  · simp at h
  · simp [pySlice, pyWireMagic, wireMagic0, wireMagic1, or_iff_not_imp_left]

/-- `decode_tc` in the words of the C decoder; no path of it raises. -/
theorem decodeTc_eq (buf : List UInt8) (crc : Bool) :
    decodeTc buf crc = some
      (if buf.length < wireHeaderLen then none
      else if buf.getD 0 0 ≠ wireMagic0 ∨ buf.getD 1 0 ≠ wireMagic1 then none
      else if buf.getD 2 0 ≠ wireVersion then none
      else if buf.length < wireHeaderLen + getU16LE (buf.drop 6) + wireCrcLen then none
      else if crc = true ∧ getU16LE (buf.drop (wireHeaderLen + getU16LE (buf.drop 6))) ≠
          (thermalWireCrc16 (buf.take (wireHeaderLen + getU16LE (buf.drop 6)))).toNat then none
      else some (((buf.getD 3 0).toNat : Int), (getU16LE (buf.drop 4) : Int), (getU32LE (buf.drop 8) : Int),
        (buf.drop wireHeaderLen).take (getU16LE (buf.drop 6)))) := by
  unfold decodeTc
  by_cases hlen : buf.length < 12
  · simp [hlen, wireHeaderLen]
  have hmagic := pySlice_magic (show 2 ≤ buf.length by omega)
  have hversion : ((buf.getD 2 0).toNat : Int) ≠ pyWireVersion ↔ buf.getD 2 0 ≠ wireVersion := by
    have hone : pyWireVersion = (wireVersion.toNat : Int) := rfl
    rw [hone, Ne, Int.natCast_inj, UInt8.toNat_inj]
  have hpayload : pySlice buf 12 (12 + getU16LE (buf.drop 6)) =
      (buf.drop wireHeaderLen).take (getU16LE (buf.drop 6)) := pySlice_eq buf 12 _
  have hlen' : ¬buf.length < wireHeaderLen := hlen
  simp only [hmagic, hversion, unpack_header (Nat.le_of_not_lt hlen)]
  rw [if_neg hlen, if_neg hlen']
  by_cases hm : buf.getD 0 0 ≠ wireMagic0 ∨ buf.getD 1 0 ≠ wireMagic1
  · rw [if_pos hm, if_pos hm]
  rw [if_neg hm, if_neg hm]
  by_cases hv : buf.getD 2 0 ≠ wireVersion
  · rw [if_pos hv, if_pos hv]
  rw [if_neg hv, if_neg hv, Option.bind_eq_bind, Option.bind_some]
  simp only [List.getD_cons_zero, List.getD_cons_succ, Int.toNat_natCast, hpayload]
  by_cases hshort : buf.length < wireHeaderLen + getU16LE (buf.drop 6) + wireCrcLen
  · rw [if_pos hshort]
    exact if_pos hshort
  have hshort' : ¬buf.length < 12 + getU16LE (buf.drop 6) + 2 := hshort
  rw [if_neg hshort, if_neg hshort']
  cases crc with
  | false => simp
  | true => simp [pyCrcMatches_eq (Nat.le_of_not_lt hshort')]

/-- The four values `decode_tc` returns for a frame. -/
def WireFrame.pyFields (frame : WireFrame) : Int × Int × Int × List UInt8 :=
  (frame.opcode.code.toNat, frame.seq, frame.tsMs, frame.payload)

/-- Opcodes are told apart by their codes. -/
theorem code_inj {a b : WireOpcode} : a.code = b.code ↔ a = b := by
  constructor
  · intro h
    have hcode := wireOpcode?_code a
    rw [h, wireOpcode?_code] at hcode
    cases hcode
    rfl
  · exact congrArg _

/-- The C decoder returns the frame whose fields the Python decoder returns. -/
theorem decodeFrame_ok_iff (buf : List UInt8) (crc : Bool) (frame : WireFrame) :
    thermalWireDecodeFrame buf 0 crc = .ok frame ↔
      frame.crcEnabled = crc ∧ decodeTc buf crc = some (some frame.pyFields) := by
  rw [decodeTc_eq]
  unfold thermalWireDecodeFrame
  by_cases hlen : buf.length < wireHeaderLen
  · simp [hlen]
  rw [if_neg hlen, if_neg hlen]
  by_cases hm : buf.getD 0 0 ≠ wireMagic0 ∨ buf.getD 1 0 ≠ wireMagic1
  · rw [if_pos hm, if_pos hm]
    simp
  rw [if_neg hm, if_neg hm]
  by_cases hv : buf.getD 2 0 ≠ wireVersion
  · rw [if_pos hv, if_pos hv]
    simp
  rw [if_neg hv, if_neg hv]
  cases hop : wireOpcode? (buf.getD 3 0) with
  | none =>
      refine iff_of_false (by simp) ?_
      rintro ⟨-, h⟩
      -- Python lets the opcode through, but it is not the opcode of a frame
      split at h
      · cases h
      split at h
      · cases h
      simp only [Option.some.injEq, WireFrame.pyFields, Prod.mk.injEq, Int.natCast_inj] at h
      rw [UInt8.toNat_inj.mp h.1, wireOpcode?_code] at hop
      cases hop
  | some opcode =>
      have hcode := code_of_wireOpcode? hop
      simp only [gt_iff_lt, Nat.lt_irrefl, false_and, ite_false]
      split
      · simp
      split
      · simp
      · cases frame with
        | mk seq tsMs op payload crcEnabled =>
            simp only [Except.ok.injEq, WireFrame.mk.injEq, Option.some.injEq, WireFrame.pyFields,
              Prod.mk.injEq, Int.natCast_inj, ← hcode, UInt8.toNat_inj, code_inj]
            tauto

/-- **The decoders agree** on every buffer. -/
theorem decode_agree (buf : List UInt8) (crc : Bool) :
    ∃ r, decodeTc buf crc = some r ∧
      ((∃ frame, thermalWireDecodeFrame buf 0 crc = .ok frame) ↔
        ∃ (opcode : WireOpcode) (seq tsMs : Int) (payload : List UInt8),
          r = some ((opcode.code.toNat : Int), seq, tsMs, payload)) ∧
      ∀ frame, thermalWireDecodeFrame buf 0 crc = .ok frame → r = some frame.pyFields := by
  have hok (frame : WireFrame) := decodeFrame_ok_iff buf crc frame
  have htc := decodeTc_eq buf crc
  refine ⟨_, htc, ⟨?_, ?_⟩, ?_⟩
  · rintro ⟨frame, hframe⟩
    exact ⟨frame.opcode, frame.seq, frame.tsMs, frame.payload,
      Option.some.inj (htc.symm.trans ((hok frame).mp hframe).2)⟩
  · rintro ⟨opcode, seq, tsMs, payload, hr⟩
    have hfields : 0 ≤ seq ∧ 0 ≤ tsMs := by
      grind
    refine ⟨⟨seq.toNat, tsMs.toNat, opcode, payload, crc⟩, (hok _).mpr ⟨rfl, ?_⟩⟩
    rw [htc, hr, WireFrame.pyFields, Int.toNat_of_nonneg hfields.1, Int.toNat_of_nonneg hfields.2]
  · intro frame hframe
    exact Option.some.inj (htc.symm.trans ((hok frame).mp hframe).2)

/-- An answer's payload never raises: it is read when it has its length. -/
theorem decodeAckOrNack_eq (payload : List UInt8) :
    decodeAckOrNack payload = some
      (if payload.length ≠ plCmdAcknack then none
      else some [(getU16LE payload : Int), (getU16LE (payload.drop 2) : Int),
        (getU32LE (payload.drop 4) : Int)]) := by
  unfold decodeAckOrNack
  by_cases hlen : payload.length = 8
  · simp [hlen, unpack_HHI hlen, plCmdAcknack]
  · simp [hlen, plCmdAcknack]

/-- **The ACK and NACK decoders agree** on the payload of such a frame. -/
theorem decodeAckOrNack_agree {frame : WireFrame} (h : frame.opcode = .cmdAck ∨ frame.opcode = .cmdNack) :
    ∃ r, decodeAckOrNack frame.payload = some r ∧
      ((∃ v, thermalWireDecodeCmdAckOrNack frame = .ok v) ↔ r.isSome = true) ∧
      ∀ v, thermalWireDecodeCmdAckOrNack frame = .ok v → r = some [(v.1 : Int), (v.2.1 : Int), (v.2.2 : Int)] := by
  have hop : ¬(frame.opcode ≠ .cmdAck ∧ frame.opcode ≠ .cmdNack) := by
    rintro ⟨hack, hnack⟩
    exact h.elim hack hnack
  refine ⟨_, decodeAckOrNack_eq frame.payload, ?_⟩
  unfold thermalWireDecodeCmdAckOrNack
  by_cases hlen : frame.payload.length = plCmdAcknack
  · simp [hop, hlen]
  · simp [hlen]

/-- The Python and the C codec: the encoders write the same bytes for a command,
the frame decoders accept the same buffers up to the opcode and return the same
fields, and so do the decoders of replies. -/
theorem python_and_c_codecs_agree :
    (∀ (cmd : Command) (seq tsMs : Nat) (crc : Bool) (bufSz : Nat), cmd.Typed →
      wireHeaderLen + cmdPayloadLen cmd.commandId + wireCrcLen ≤ bufSz →
      ∃ payload bytes, pyEncodePayload cmd = some payload ∧
        encodeTc pyOpCmdRequest seq tsMs payload crc = some bytes ∧
        thermalWireEncodeCmdRequest bufSz seq tsMs cmd crc = .ok bytes) ∧
    (∀ (buf : List UInt8) (crc : Bool), ∃ r, decodeTc buf crc = some r ∧
      ((∃ frame, thermalWireDecodeFrame buf 0 crc = .ok frame) ↔
        ∃ (opcode : WireOpcode) (seq tsMs : Int) (payload : List UInt8),
          r = some ((opcode.code.toNat : Int), seq, tsMs, payload)) ∧
      ∀ frame, thermalWireDecodeFrame buf 0 crc = .ok frame → r = some frame.pyFields) ∧
    ∀ frame : WireFrame, frame.opcode = .cmdAck ∨ frame.opcode = .cmdNack →
      ∃ r, decodeAckOrNack frame.payload = some r ∧
        ((∃ v, thermalWireDecodeCmdAckOrNack frame = .ok v) ↔ r.isSome = true) ∧
        ∀ v, thermalWireDecodeCmdAckOrNack frame = .ok v →
          r = some [(v.1 : Int), (v.2.1 : Int), (v.2.2 : Int)] :=
  ⟨fun _ seq tsMs crc _ h hbuf => encode_agree h seq tsMs crc hbuf, decode_agree,
    fun _ h => decodeAckOrNack_agree h⟩

/-- A trip command written by either side, and a reply to it. -/
theorem set_trip_agrees :
    (∃ payload bytes, pyEncodePayload (.setTrip 0 1 75000 (-2000)) = some payload ∧
      encodeTc pyOpCmdRequest 7 1000 payload true = some bytes ∧
      thermalWireEncodeCmdRequest 64 7 1000 (.setTrip 0 1 75000 (-2000)) true = .ok bytes) ∧
    ∃ r, decodeAckOrNack [7, 0, 0, 0, 5, 0, 0, 0] = some r ∧ r.isSome = true := by
  obtain ⟨hencode, -, hreply⟩ := python_and_c_codecs_agree
  refine ⟨hencode (.setTrip 0 1 75000 (-2000)) 7 1000 true 64
    ⟨by decide, by decide, by decide, by decide⟩ (by decide), ?_⟩
  obtain ⟨r, hr, haccept, -⟩ := hreply ⟨7, 1000, .cmdAck, [7, 0, 0, 0, 5, 0, 0, 0], true⟩ (Or.inl rfl)
  exact ⟨r, hr, haccept.mp ⟨(7, 0, 5), rfl⟩⟩

end ThermalCore
