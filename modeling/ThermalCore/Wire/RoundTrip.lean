import ThermalCore.Wire.Codec

/-!
# The wire codec round trip

Every frame is a header, a payload and a trailer, and the decoder takes a buffer
apart along the same lines.  A frame with trailing bytes decodes to the fields it
was made from, and a buffer that decodes with its CRC checked starts with the
frame its fields are encoded to.

The packers are `Lib.LittleEndian` at two and four bytes.  A message is an opcode with
its fields: every encoder is `WireMessage.encode` at one of them, so the round trip is
proved once for the frame and once for each payload, in either direction.
-/

namespace ThermalCore

open MachineInt

/-! ## Packers -/

/-- The mask in front of a cast to a byte does nothing. -/
theorem uint8_ofNat_and (v : Nat) : UInt8.ofNat (v &&& 0xFF) = UInt8.ofNat v := by
  have hmod : v &&& 0xFF = v % 256 := Nat.and_two_pow_sub_one_eq_mod v 8
  apply UInt8.toNat_inj.mp
  rw [UInt8.toNat_ofNat', UInt8.toNat_ofNat', hmod]
  exact Nat.mod_mod v 256

/-- The 16-bit packer puts two bytes, the low one first. -/
theorem putU16LE_eq (v : Nat) : putU16LE v = LittleEndian.put 2 v := by
  simp only [putU16LE, LittleEndian.put, uint8_ofNat_and, Nat.shiftRight_eq_div_pow]

/-- The 32-bit packer puts four bytes, the low one first. -/
theorem putU32LE_eq (v : Nat) : putU32LE v = LittleEndian.put 4 v := by
  simp only [putU32LE, LittleEndian.put, uint8_ofNat_and, Nat.shiftRight_eq_div_pow, Nat.div_div_eq_div_mul]

/-- The next byte of a number lies above the bytes read so far. -/
theorem or_shiftLeft {a b k : Nat} (ha : a < 2 ^ k) : a ||| b <<< k = a + b * 2 ^ k := by
  rw [Nat.or_comm, ← Nat.shiftLeft_add_eq_or_of_lt ha, Nat.shiftLeft_eq, Nat.add_comm]

/-- What is read at an index is a byte. -/
theorem byteAt_lt (p : List UInt8) (i : Nat) : byteAt p i < 2 ^ 8 := UInt8.toNat_lt _

/-- Reading behind a prefix reads further on. -/
theorem byteAt_drop (p : List UInt8) (k i : Nat) : byteAt (p.drop k) i = byteAt p (k + i) := by
  simp [byteAt, List.getD_eq_getElem?_getD, List.getElem?_drop]

/-- Reading one byte more; past the end of the buffer the model reads 0. -/
theorem get_take_succ (p : List UInt8) (n : Nat) :
    LittleEndian.get (p.take (n + 1)) = byteAt p 0 + 256 * LittleEndian.get ((p.drop 1).take n) := by
  cases p with
  | nil => simp [LittleEndian.get, byteAt]
  | cons b rest => rfl

/-- The 16-bit reader reads two bytes. -/
theorem getU16LE_eq (p : List UInt8) : getU16LE p = LittleEndian.get (p.take 2) := by
  have h0 := byteAt_lt p 0
  simp only [get_take_succ, byteAt_drop, List.take_zero, LittleEndian.get, Nat.add_zero]
  unfold getU16LE
  rw [or_shiftLeft h0]
  omega

/-- The 32-bit reader reads four bytes. -/
theorem getU32LE_eq (p : List UInt8) : getU32LE p = LittleEndian.get (p.take 4) := by
  have h0 := byteAt_lt p 0
  have h1 := byteAt_lt p 1
  have h2 := byteAt_lt p 2
  have h01 : byteAt p 0 + byteAt p 1 * 2 ^ 8 < 2 ^ 16 := by omega
  have h012 : byteAt p 0 + byteAt p 1 * 2 ^ 8 + byteAt p 2 * 2 ^ 16 < 2 ^ 24 := by omega
  simp only [get_take_succ, byteAt_drop, List.drop_drop, List.take_zero, LittleEndian.get, Nat.add_zero,
    Nat.reduceAdd]
  unfold getU32LE
  rw [or_shiftLeft h0, or_shiftLeft h01, or_shiftLeft h012]
  omega

/-- Two bytes. -/
@[simp] theorem length_putU16LE (v : Nat) : (putU16LE v).length = 2 := rfl

/-- Four bytes. -/
@[simp] theorem length_putU32LE (v : Nat) : (putU32LE v).length = 4 := rfl

/-- What two bytes hold. -/
theorem getU16LE_lt (p : List UInt8) : getU16LE p < 2 ^ 16 := by
  have hlt := LittleEndian.get_lt (p.take 2)
  have hlen : 256 ^ (p.take 2).length ≤ 256 ^ 2 :=
    Nat.pow_le_pow_right (by decide) (List.length_take_le 2 p)
  rw [getU16LE_eq]
  omega

/-- What four bytes hold. -/
theorem getU32LE_lt (p : List UInt8) : getU32LE p < 2 ^ 32 := by
  have hlt := LittleEndian.get_lt (p.take 4)
  have hlen : 256 ^ (p.take 4).length ≤ 256 ^ 4 :=
    Nat.pow_le_pow_right (by decide) (List.length_take_le 4 p)
  rw [getU32LE_eq]
  omega

/-- Reading back what was written, with anything after it. -/
theorem getU16LE_put {v : Nat} (h : v < 2 ^ 16) (rest : List UInt8) :
    getU16LE (putU16LE v ++ rest) = v := by
  rw [getU16LE_eq, putU16LE_eq]
  exact LittleEndian.get_take_put_append h rest

/-- A 32-bit field is read back from its bytes. -/
theorem getU32LE_put {v : Nat} (h : v < 2 ^ 32) (rest : List UInt8) :
    getU32LE (putU32LE v ++ rest) = v := by
  rw [getU32LE_eq, putU32LE_eq]
  exact LittleEndian.get_take_put_append h rest

/-- A signed field is read back from the bytes of its bit pattern. -/
theorem i32_getU32LE_put {v : Int} (h : IsI32 v) (rest : List UInt8) :
    i32 (getU32LE (putU32LE (toU32 v) ++ rest)) = v := by
  have hlt : toU32 v < 2 ^ 32 := by
    unfold toU32
    omega
  obtain ⟨hl, hu⟩ := h
  rw [getU32LE_put hlt]
  unfold i32Min at hl
  unfold i32Max at hu
  unfold i32 toU32
  omega

/-- The last field of a payload has nothing after it. -/
theorem getU16LE_put_last {v : Nat} (h : v < 2 ^ 16) : getU16LE (putU16LE v) = v := getU16LE_put h []

/-- A 32-bit field at the end of a buffer. -/
theorem getU32LE_put_last {v : Nat} (h : v < 2 ^ 32) : getU32LE (putU32LE v) = v := getU32LE_put h []

/-- A signed field at the end of a buffer. -/
theorem i32_getU32LE_put_last {v : Int} (h : IsI32 v) : i32 (getU32LE (putU32LE (toU32 v))) = v :=
  i32_getU32LE_put h []

/-- Passing over a 16-bit field. -/
@[simp] theorem drop_putU16LE (v n : Nat) (rest : List UInt8) :
    (putU16LE v ++ rest).drop (n + 2) = rest.drop n := rfl

/-- Passing over a 32-bit field. -/
@[simp] theorem drop_putU32LE (v n : Nat) (rest : List UInt8) :
    (putU32LE v ++ rest).drop (n + 4) = rest.drop n := rfl

/-- Writing back what was read. -/
theorem put_getU16LE {p : List UInt8} (h : 2 ≤ p.length) : putU16LE (getU16LE p) ++ p.drop 2 = p := by
  rw [getU16LE_eq, putU16LE_eq]
  exact LittleEndian.put_get_take_append h

/-- Four bytes are what their value is written as. -/
theorem put_getU32LE {p : List UInt8} (h : 4 ≤ p.length) : putU32LE (getU32LE p) ++ p.drop 4 = p := by
  rw [getU32LE_eq, putU32LE_eq]
  exact LittleEndian.put_get_take_append h

/-- Four bytes are what their signed value is written as. -/
theorem put_i32_getU32LE {p : List UInt8} (h : 4 ≤ p.length) :
    putU32LE (toU32 (i32 (getU32LE p))) ++ p.drop 4 = p := by
  have hlt := getU32LE_lt p
  have hcast : toU32 (i32 (getU32LE p)) = getU32LE p := by
    unfold toU32 i32
    omega
  rw [hcast, put_getU32LE h]

/-! ## Headers -/

/-- A header has its fixed length. -/
@[simp] theorem length_writeHeader (opcode : WireOpcode) (seq payloadLen tsMs : Nat) :
    (writeHeader opcode seq payloadLen tsMs).length = wireHeaderLen := rfl

/-- A header, byte by byte. -/
theorem writeHeader_append (opcode : WireOpcode) (seq payloadLen tsMs : Nat) (rest : List UInt8) :
    writeHeader opcode seq payloadLen tsMs ++ rest =
      wireMagic0 :: wireMagic1 :: wireVersion :: opcode.code ::
        (putU16LE seq ++ (putU16LE payloadLen ++ (putU32LE tsMs ++ rest))) := by
  simp [writeHeader]

/-- An opcode is known by its code. -/
theorem wireOpcode?_code (opcode : WireOpcode) : wireOpcode? opcode.code = some opcode := by
  cases opcode <;> rfl

/-- A known code is that of its opcode. -/
theorem code_of_wireOpcode? {v : UInt8} {opcode : WireOpcode} (h : wireOpcode? v = some opcode) :
    opcode.code = v := by
  unfold wireOpcode? at h
  split at h
  · next hv => cases h; exact hv.symm
  · split at h
    · next hv => cases h; exact hv.symm
    · split at h
      · next hv => cases h; exact hv.symm
      · split at h
        · next hv => cases h; exact hv.symm
        · split at h
          · next hv => cases h; exact hv.symm
          · cases h

/-- A buffer that passes the header tests starts with the header of its fields. -/
theorem eq_writeHeader_append {buf : List UInt8} {opcode : WireOpcode} (hlen : wireHeaderLen ≤ buf.length)
    (h0 : buf.getD 0 0 = wireMagic0) (h1 : buf.getD 1 0 = wireMagic1) (h2 : buf.getD 2 0 = wireVersion)
    (hop : wireOpcode? (buf.getD 3 0) = some opcode) :
    buf = writeHeader opcode (getU16LE (buf.drop 4)) (getU16LE (buf.drop 6)) (getU32LE (buf.drop 8)) ++
      buf.drop wireHeaderLen := by
  match buf with
  | [] | [_] | [_, _] | [_, _, _] => simp [wireHeaderLen] at hlen
  | b0 :: b1 :: b2 :: b3 :: rest =>
      have hrest : 8 ≤ rest.length := by
        unfold wireHeaderLen at hlen
        simp only [List.length_cons] at hlen
        omega
      have hseq : putU16LE (getU16LE rest) ++ rest.drop 2 = rest := put_getU16LE (by omega)
      have hpl : putU16LE (getU16LE (rest.drop 2)) ++ rest.drop 4 = rest.drop 2 := by
        have h := put_getU16LE (p := rest.drop 2) (by rw [List.length_drop]; omega)
        rwa [List.drop_drop] at h
      have hts : putU32LE (getU32LE (rest.drop 4)) ++ rest.drop 8 = rest.drop 4 := by
        have h := put_getU32LE (p := rest.drop 4) (by rw [List.length_drop]; omega)
        rwa [List.drop_drop] at h
      have hcode : opcode.code = b3 := code_of_wireOpcode? hop
      simp only [List.getD_cons_zero, List.getD_cons_succ] at h0 h1 h2
      rw [writeHeader_append, ← h0, ← h1, ← h2, hcode]
      simp only [wireHeaderLen, List.drop_succ_cons, List.drop_zero, hts, hpl, hseq]

/-! ## Frames -/

/-- The bytes of a frame. -/
def frameBytes (opcode : WireOpcode) (seq tsMs : Nat) (payload : List UInt8) (crcEnabled : Bool) :
    List UInt8 :=
  let written := writeHeader opcode seq payload.length tsMs ++ payload
  written ++ putU16LE (if crcEnabled then (thermalWireCrc16 written).toNat else 0)

/-- A frame is as long as its three parts. -/
theorem length_frameBytes (opcode : WireOpcode) (seq tsMs : Nat) (payload : List UInt8)
    (crcEnabled : Bool) :
    (frameBytes opcode seq tsMs payload crcEnabled).length =
      wireHeaderLen + payload.length + wireCrcLen := by
  unfold frameBytes
  simp only [List.length_append, length_writeHeader, length_putU16LE]
  rfl

/-- The shape of every encoder: header, payload, trailer. -/
theorem encode_eq_frameBytes {bufSz : Nat} {payload : List UInt8} (hlen : payload.length ≤ 0xFFFF)
    (hbuf : wireHeaderLen + payload.length + wireCrcLen ≤ bufSz) (opcode : WireOpcode) (seq tsMs : Nat)
    (crcEnabled : Bool) :
    (do
      let header ← encodeFrame bufSz opcode seq tsMs payload.length
      finalizeFrame bufSz (header ++ payload) payload.length crcEnabled) =
      .ok (frameBytes opcode seq tsMs payload crcEnabled) := by
  have hu16 : u16 payload.length = payload.length := u16_of_lt (by omega)
  unfold encodeFrame
  rw [if_neg (Nat.not_lt.mpr hlen), if_neg (Nat.not_lt.mpr hbuf), hu16]
  change finalizeFrame bufSz (writeHeader opcode seq payload.length tsMs ++ payload) payload.length
    crcEnabled = _
  unfold finalizeFrame frameBytes
  rw [if_neg (Nat.not_lt.mpr hbuf)]

/-- Passing over the header. -/
theorem drop_writeHeader_append (opcode : WireOpcode) (seq payloadLen tsMs : Nat) (rest : List UInt8)
    (n : Nat) :
    (writeHeader opcode seq payloadLen tsMs ++ rest).drop (wireHeaderLen + n) = rest.drop n := by
  rw [← length_writeHeader opcode seq payloadLen tsMs, List.drop_length_add_append]

/-- **The decoder on a header**: what is left are the cap, the length and the CRC. -/
theorem decodeFrame_writeHeader {opcode : WireOpcode} {seq payloadLen tsMs : Nat} (hseq : seq < 2 ^ 16)
    (hpl : payloadLen < 2 ^ 16) (hts : tsMs < 2 ^ 32) (rest : List UInt8) (cap : Nat) (crcEnabled : Bool) :
    thermalWireDecodeFrame (writeHeader opcode seq payloadLen tsMs ++ rest) cap crcEnabled =
      if cap > 0 ∧ payloadLen > cap then .error .overCap
      else if rest.length < payloadLen + wireCrcLen then .error .truncated
      else if crcEnabled = true ∧ getU16LE (rest.drop payloadLen) ≠
          (thermalWireCrc16 (writeHeader opcode seq payloadLen tsMs ++ rest.take payloadLen)).toNat then
        .error .badCrc
      else .ok ⟨seq, tsMs, opcode, rest.take payloadLen, crcEnabled⟩ := by
  have hlen : (writeHeader opcode seq payloadLen tsMs ++ rest).length = wireHeaderLen + rest.length := by
    rw [List.length_append, length_writeHeader]
  have hdrop := drop_writeHeader_append opcode seq payloadLen tsMs rest
  have htake : (writeHeader opcode seq payloadLen tsMs ++ rest).take (wireHeaderLen + payloadLen) =
      writeHeader opcode seq payloadLen tsMs ++ rest.take payloadLen := by
    rw [← length_writeHeader opcode seq payloadLen tsMs, List.take_length_add_append]
  have hpayload : (writeHeader opcode seq payloadLen tsMs ++ rest).drop wireHeaderLen = rest := hdrop 0
  have hdseq : getU16LE ((writeHeader opcode seq payloadLen tsMs ++ rest).drop 4) = seq := by
    rw [writeHeader_append]
    exact getU16LE_put hseq _
  have hdpl : getU16LE ((writeHeader opcode seq payloadLen tsMs ++ rest).drop 6) = payloadLen := by
    rw [writeHeader_append]
    exact getU16LE_put hpl _
  have hdts : getU32LE ((writeHeader opcode seq payloadLen tsMs ++ rest).drop 8) = tsMs := by
    rw [writeHeader_append]
    exact getU32LE_put hts _
  have hop : wireOpcode? ((writeHeader opcode seq payloadLen tsMs ++ rest).getD 3 0) = some opcode :=
    wireOpcode?_code opcode
  unfold thermalWireDecodeFrame
  rw [if_neg (by omega), if_neg (by rintro (h | h) <;> exact h rfl), if_neg (by exact not_not.mpr rfl), hop]
  simp only [hdseq, hdpl, hdts, hdrop, htake, hpayload, hlen]
  have hshort : wireHeaderLen + rest.length < wireHeaderLen + payloadLen + wireCrcLen ↔
      rest.length < payloadLen + wireCrcLen := by omega
  simp only [hshort]

/-- **Inversion of the decoder**: a buffer is too short for a header, is refused
for its first four bytes whatever follows, or starts with a header. -/
theorem decodeFrame_cases (buf : List UInt8) :
    (buf.length < wireHeaderLen ∧ ∀ cap crcEnabled,
      thermalWireDecodeFrame buf cap crcEnabled = .error .truncated) ∨
    (wireHeaderLen ≤ buf.length ∧ ∃ e, (e = .badMagic ∨ e = .badVersion ∨ e = .badOpcode) ∧
      ∀ tail cap crcEnabled, thermalWireDecodeFrame (buf ++ tail) cap crcEnabled = .error e) ∨
    ∃ opcode seq payloadLen tsMs rest, seq < 2 ^ 16 ∧ payloadLen < 2 ^ 16 ∧ tsMs < 2 ^ 32 ∧
      buf = writeHeader opcode seq payloadLen tsMs ++ rest := by
  by_cases hlen : buf.length < wireHeaderLen
  · refine Or.inl ⟨hlen, fun cap crcEnabled => ?_⟩
    unfold thermalWireDecodeFrame
    rw [if_pos hlen]
  refine Or.inr ?_
  have hfront (tail : List UInt8) (i : Nat) (hi : i < 4) : (buf ++ tail).getD i 0 = buf.getD i 0 := by
    have hlt : i < buf.length := by
      unfold wireHeaderLen at hlen
      omega
    simp [List.getD_eq_getElem?_getD, List.getElem?_append_left hlt]
  have hlong (tail : List UInt8) : ¬(buf ++ tail).length < wireHeaderLen := by
    rw [List.length_append]
    omega
  have hrefused (tail : List UInt8) (cap : Nat) (crcEnabled : Bool) :
      thermalWireDecodeFrame (buf ++ tail) cap crcEnabled =
        if buf.getD 0 0 ≠ wireMagic0 ∨ buf.getD 1 0 ≠ wireMagic1 then .error .badMagic
        else if buf.getD 2 0 ≠ wireVersion then .error .badVersion
        else if wireOpcode? (buf.getD 3 0) = none then .error .badOpcode
        else thermalWireDecodeFrame (buf ++ tail) cap crcEnabled := by
    unfold thermalWireDecodeFrame
    rw [if_neg (hlong tail), hfront tail 0 (by decide), hfront tail 1 (by decide),
      hfront tail 2 (by decide), hfront tail 3 (by decide)]
    by_cases hmagic : buf.getD 0 0 ≠ wireMagic0 ∨ buf.getD 1 0 ≠ wireMagic1
    · rw [if_pos hmagic, if_pos hmagic]
    rw [if_neg hmagic, if_neg hmagic]
    by_cases hver : buf.getD 2 0 ≠ wireVersion
    · rw [if_pos hver, if_pos hver]
    rw [if_neg hver, if_neg hver]
    cases wireOpcode? (buf.getD 3 0) with
    | none => rw [if_pos rfl]
    | some opcode => rw [if_neg (by simp)]
  by_cases hmagic : buf.getD 0 0 ≠ wireMagic0 ∨ buf.getD 1 0 ≠ wireMagic1
  · refine Or.inl ⟨Nat.le_of_not_lt hlen, .badMagic, Or.inl rfl, fun tail cap crcEnabled => ?_⟩
    rw [hrefused, if_pos hmagic]
  by_cases hver : buf.getD 2 0 ≠ wireVersion
  · refine Or.inl ⟨Nat.le_of_not_lt hlen, .badVersion, Or.inr (Or.inl rfl), fun tail cap crcEnabled => ?_⟩
    rw [hrefused, if_neg hmagic, if_pos hver]
  cases hop : wireOpcode? (buf.getD 3 0) with
  | none =>
      refine Or.inl ⟨Nat.le_of_not_lt hlen, .badOpcode, Or.inr (Or.inr rfl), fun tail cap crcEnabled => ?_⟩
      rw [hrefused, if_neg hmagic, if_neg hver, if_pos hop]
  | some opcode =>
      have h0 : buf.getD 0 0 = wireMagic0 := by_contra fun h => hmagic (Or.inl h)
      have h1 : buf.getD 1 0 = wireMagic1 := by_contra fun h => hmagic (Or.inr h)
      exact Or.inr ⟨opcode, _, _, _, _, getU16LE_lt _, getU16LE_lt _, getU32LE_lt _,
        eq_writeHeader_append (Nat.le_of_not_lt hlen) h0 h1 (not_not.mp hver) hop⟩

/-- A frame decodes to its fields, whatever follows it. -/
theorem decodeFrame_frameBytes {opcode : WireOpcode} {seq tsMs : Nat} {payload : List UInt8}
    (hseq : seq < 2 ^ 16) (hts : tsMs < 2 ^ 32) (hpl : payload.length < 2 ^ 16) {cap : Nat}
    (hcap : cap = 0 ∨ payload.length ≤ cap) (crcEnabled : Bool) (tail : List UInt8) :
    thermalWireDecodeFrame (frameBytes opcode seq tsMs payload crcEnabled ++ tail) cap crcEnabled =
      .ok ⟨seq, tsMs, opcode, payload, crcEnabled⟩ := by
  unfold frameBytes
  dsimp only
  have hroom (crc : Nat) : ¬(payload ++ (putU16LE crc ++ tail)).length < payload.length + wireCrcLen := by
    rw [List.length_append, List.length_append, length_putU16LE]
    unfold wireCrcLen
    omega
  rw [List.append_assoc, List.append_assoc, decodeFrame_writeHeader hseq hpl hts, if_neg (by omega),
    if_neg (hroom _), List.take_left, List.drop_left, if_neg ?_]
  rintro ⟨hcrc, hne⟩
  rw [if_pos hcrc, getU16LE_put (BitVec.isLt _)] at hne
  exact hne rfl

/-- A buffer that decodes with its CRC checked starts with the frame it decodes to. -/
theorem eq_frameBytes_of_decode {buf : List UInt8} {cap : Nat} {frame : WireFrame}
    (h : thermalWireDecodeFrame buf cap true = .ok frame) :
    frame.seq < 2 ^ 16 ∧ frame.tsMs < 2 ^ 32 ∧ frame.payload.length < 2 ^ 16 ∧
      buf = frameBytes frame.opcode frame.seq frame.tsMs frame.payload true ++
        buf.drop (wireHeaderLen + frame.payload.length + wireCrcLen) := by
  obtain ⟨-, herr⟩ | ⟨-, e, -, herr⟩ | ⟨opcode, seq, payloadLen, tsMs, rest, hseq, hpl, hts, hbuf⟩ :=
    decodeFrame_cases buf
  · rw [herr] at h
    cases h
  · have herr' := herr [] cap true
    rw [List.append_nil, h] at herr'
    cases herr'
  · rw [hbuf, decodeFrame_writeHeader hseq hpl hts] at h
    split at h
    · cases h
    · split at h
      · cases h
      · next hlong =>
          split at h
          · cases h
          · next hcrc =>
              cases h
              have hlen : (rest.take payloadLen).length = payloadLen :=
                List.length_take_of_le (by omega)
              have hcrc' : getU16LE (rest.drop payloadLen) =
                  (thermalWireCrc16 (writeHeader opcode seq payloadLen tsMs ++ rest.take payloadLen)).toNat :=
                by_contra fun hne => hcrc ⟨rfl, hne⟩
              have htrailer := put_getU16LE (p := rest.drop payloadLen) (by
                rw [List.length_drop]
                unfold wireCrcLen at hlong
                omega)
              refine ⟨hseq, hts, hlen.symm ▸ hpl, ?_⟩
              unfold frameBytes
              dsimp only
              rw [hlen, if_pos rfl, ← hcrc', hbuf, Nat.add_assoc, drop_writeHeader_append,
                ← List.drop_drop, List.append_assoc, List.append_assoc]
              change _ = _ ++ (_ ++ (putU16LE _ ++ (rest.drop payloadLen).drop 2))
              rw [htrailer, List.take_append_drop]

/-! ## Messages -/

/-- What a frame carries: one of the five opcodes with its payload values. -/
inductive WireMessage where
  | telemSample (signalId flags : Nat) (value : Int)
  | telemEvent (eventCode a1 a2 a3 a4 : Nat)
  | cmdRequest (cmd : Command)
  | cmdAck (requestSeq status detailCode : Nat)
  | cmdNack (requestSeq status detailCode : Nat)
deriving DecidableEq

namespace WireMessage

/-- The opcode of a message. -/
def opcode : WireMessage → WireOpcode
  | .telemSample .. => .telemSample
  | .telemEvent .. => .telemEvent
  | .cmdRequest _ => .cmdRequest
  | .cmdAck .. => .cmdAck
  | .cmdNack .. => .cmdNack

/-- The encoder of the message's opcode. -/
def encode (bufSz seq tsMs : Nat) (crcEnabled : Bool) : WireMessage → Except WireError (List UInt8)
  | .telemSample signalId flags value =>
      thermalWireEncodeTelemSample bufSz seq tsMs signalId flags value crcEnabled
  | .telemEvent eventCode a1 a2 a3 a4 =>
      thermalWireEncodeTelemEvent bufSz seq tsMs eventCode a1 a2 a3 a4 crcEnabled
  | .cmdRequest cmd => thermalWireEncodeCmdRequest bufSz seq tsMs cmd crcEnabled
  | .cmdAck requestSeq status detailCode =>
      thermalWireEncodeCmdAck bufSz seq tsMs requestSeq status detailCode crcEnabled
  | .cmdNack requestSeq status detailCode =>
      thermalWireEncodeCmdNack bufSz seq tsMs requestSeq status detailCode crcEnabled

/-- The payload the encoder writes. -/
def payload : WireMessage → List UInt8
  | .telemSample signalId flags value => putU16LE signalId ++ putU16LE flags ++ putU32LE (toU32 value)
  | .telemEvent eventCode a1 a2 a3 a4 =>
      putU16LE eventCode ++ putU32LE a1 ++ putU32LE a2 ++ putU32LE a3 ++ putU32LE a4
  | .cmdRequest cmd => putU16LE cmd.commandId ++ (cmdFields cmd).getD []
  | .cmdAck requestSeq status detailCode | .cmdNack requestSeq status detailCode =>
      putU16LE requestSeq ++ putU16LE status ++ putU32LE detailCode

end WireMessage

/-- The payload decoder of the frame's opcode. -/
def WireFrame.decodeMessage (frame : WireFrame) : Except WireError WireMessage :=
  match frame.opcode with
  | .telemSample =>
      (thermalWireDecodeTelemSample frame).map fun v => .telemSample v.1 v.2.1 v.2.2
  | .telemEvent =>
      (thermalWireDecodeTelemEvent frame).map fun v =>
        .telemEvent v.1 v.2.1 v.2.2.1 v.2.2.2.1 v.2.2.2.2
  | .cmdRequest => (thermalWireDecodeCmdRequest frame).map .cmdRequest
  | .cmdAck => (thermalWireDecodeCmdAckOrNack frame).map fun v => .cmdAck v.1 v.2.1 v.2.2
  | .cmdNack => (thermalWireDecodeCmdAckOrNack frame).map fun v => .cmdNack v.1 v.2.1 v.2.2

/-- The fields of a command lie in the ranges of their C types; the union has no
layout for an unknown id. -/
def Command.Typed : Command → Prop
  | .setPid z kp ki kd => z < 2 ^ 16 ∧ IsI32 kp ∧ IsI32 ki ∧ IsI32 kd
  | .setSetpoint z sp => z < 2 ^ 16 ∧ IsI32 sp
  | .setTrip z t temp hyst => z < 2 ^ 16 ∧ t < 2 ^ 16 ∧ IsI32 temp ∧ IsI32 hyst
  | .setCurvePoint m i x v0 v1 => m < 2 ^ 16 ∧ i < 2 ^ 16 ∧ IsI32 x ∧ IsI32 v0 ∧ IsI32 v1
  | .clearFault ft tid => ft < 2 ^ 16 ∧ tid < 2 ^ 16
  | .unknown _ => False

/-- A message whose fields hold values of their C types. -/
def WireMessage.Typed : WireMessage → Prop
  | .telemSample signalId flags value => signalId < 2 ^ 16 ∧ flags < 2 ^ 16 ∧ IsI32 value
  | .telemEvent eventCode a1 a2 a3 a4 =>
      eventCode < 2 ^ 16 ∧ a1 < 2 ^ 32 ∧ a2 < 2 ^ 32 ∧ a3 < 2 ^ 32 ∧ a4 < 2 ^ 32
  | .cmdRequest cmd => cmd.Typed
  | .cmdAck requestSeq status detailCode | .cmdNack requestSeq status detailCode =>
      requestSeq < 2 ^ 16 ∧ status < 2 ^ 16 ∧ detailCode < 2 ^ 32

/-! ## Encoders -/

section encode

variable {bufSz : Nat} {msg : WireMessage}

/-- Every payload's length fits its field in the header. -/
theorem length_payload_lt (msg : WireMessage) : msg.payload.length < 2 ^ 16 := by
  cases msg with
  | cmdRequest cmd => cases cmd <;> simp [WireMessage.payload, cmdFields]
  | telemSample | telemEvent | cmdAck | cmdNack => simp [WireMessage.payload]

/-- Every encoder writes the frame of its payload. -/
theorem encode_eq (h : msg.Typed) (hbuf : wireHeaderLen + msg.payload.length + wireCrcLen ≤ bufSz)
    (seq tsMs : Nat) (crcEnabled : Bool) :
    msg.encode bufSz seq tsMs crcEnabled = .ok (frameBytes msg.opcode seq tsMs msg.payload crcEnabled) := by
  have hframe := encode_eq_frameBytes
    (Nat.le_of_lt_succ (length_payload_lt msg)) hbuf msg.opcode seq tsMs crcEnabled
  cases msg with
  | telemSample signalId flags value => exact hframe
  | telemEvent eventCode a1 a2 a3 a4 => exact hframe
  | cmdAck requestSeq status detailCode => exact hframe
  | cmdNack requestSeq status detailCode => exact hframe
  | cmdRequest cmd =>
      cases cmd with
      | unknown id => exact h.elim
      | setPid z kp ki kd => exact hframe
      | setSetpoint z sp => exact hframe
      | setTrip z t temp hyst => exact hframe
      | setCurvePoint m i x v0 v1 => exact hframe
      | clearFault ft tid => exact hframe

end encode

/-! ## Payload decoders -/

section decode

/-- A payload decodes to the values it was made from. -/
theorem decodeMessage_payload {msg : WireMessage} (h : msg.Typed) (seq tsMs : Nat) (crcEnabled : Bool) :
    WireFrame.decodeMessage ⟨seq, tsMs, msg.opcode, msg.payload, crcEnabled⟩ = .ok msg := by
  unfold WireFrame.decodeMessage
  cases msg with
  | telemSample signalId flags value =>
      obtain ⟨h1, h2, h3⟩ := h
      simp [WireMessage.opcode, WireMessage.payload, thermalWireDecodeTelemSample, plTelemSample,
        getU16LE_put h1, getU16LE_put h2, i32_getU32LE_put_last h3, Except.map]
  | telemEvent eventCode a1 a2 a3 a4 =>
      obtain ⟨h0, h1, h2, h3, h4⟩ := h
      simp [WireMessage.opcode, WireMessage.payload, thermalWireDecodeTelemEvent, plTelemEvent,
        getU16LE_put h0, getU32LE_put h1, getU32LE_put h2, getU32LE_put h3, getU32LE_put_last h4,
        Except.map]
  | cmdAck requestSeq status detailCode | cmdNack requestSeq status detailCode =>
      obtain ⟨h1, h2, h3⟩ := h
      simp [WireMessage.opcode, WireMessage.payload, thermalWireDecodeCmdAckOrNack, plCmdAcknack,
        getU16LE_put h1, getU16LE_put h2, getU32LE_put_last h3, Except.map]
  | cmdRequest cmd =>
      have hid : cmd.commandId < 2 ^ 16 := by
        cases cmd with
        | unknown id => exact h.elim
        | setPid | setSetpoint | setTrip | setCurvePoint | clearFault => simp [Command.commandId]
      have hread := getU16LE_put hid ((cmdFields cmd).getD [])
      simp only [WireMessage.opcode, WireMessage.payload, thermalWireDecodeCmdRequest, hread]
      cases cmd with
      | unknown id => exact h.elim
      | setPid z kp ki kd =>
          obtain ⟨h1, h2, h3, h4⟩ := h
          simp [cmdFields, cmdOfFields, cmdPayloadLen, plCmdidHdr, Command.commandId, getU16LE_put h1,
            i32_getU32LE_put h2, i32_getU32LE_put h3, i32_getU32LE_put_last h4, Except.map]
      | setSetpoint z sp =>
          obtain ⟨h1, h2⟩ := h
          simp [cmdFields, cmdOfFields, cmdPayloadLen, plCmdidHdr, Command.commandId, getU16LE_put h1,
            i32_getU32LE_put_last h2, Except.map]
      | setTrip z t temp hyst =>
          obtain ⟨h1, h2, h3, h4⟩ := h
          simp [cmdFields, cmdOfFields, cmdPayloadLen, plCmdidHdr, Command.commandId, getU16LE_put h1,
            getU16LE_put h2, i32_getU32LE_put h3, i32_getU32LE_put_last h4, Except.map]
      | setCurvePoint m i x v0 v1 =>
          obtain ⟨h1, h2, h3, h4, h5⟩ := h
          simp [cmdFields, cmdOfFields, cmdPayloadLen, plCmdidHdr, Command.commandId, getU16LE_put h1,
            getU16LE_put h2, i32_getU32LE_put h3, i32_getU32LE_put h4, i32_getU32LE_put_last h5,
            Except.map]
      | clearFault ft tid =>
          obtain ⟨h1, h2⟩ := h
          simp [cmdFields, cmdOfFields, cmdPayloadLen, plCmdidHdr, Command.commandId, getU16LE_put h1,
            getU16LE_put_last h2, Except.map]

/-! ## Decoded payloads -/

section sound

variable {p : List UInt8}

/-- A field at an offset, read and written back in front of what follows it. -/
theorem put_getU16LE_at (k : Nat) (h : k + 2 ≤ p.length) :
    putU16LE (getU16LE (p.drop k)) ++ p.drop (k + 2) = p.drop k := by
  have hread := put_getU16LE (p := p.drop k) (by rw [List.length_drop]; omega)
  rwa [List.drop_drop] at hread

/-- A field inside a payload. -/
theorem put_getU32LE_at (k : Nat) (h : k + 4 ≤ p.length) :
    putU32LE (getU32LE (p.drop k)) ++ p.drop (k + 4) = p.drop k := by
  have hread := put_getU32LE (p := p.drop k) (by rw [List.length_drop]; omega)
  rwa [List.drop_drop] at hread

/-- A signed field inside a payload. -/
theorem put_i32_getU32LE_at (k : Nat) (h : k + 4 ≤ p.length) :
    putU32LE (toU32 (i32 (getU32LE (p.drop k)))) ++ p.drop (k + 4) = p.drop k := by
  have hread := put_i32_getU32LE (p := p.drop k) (by rw [List.length_drop]; omega)
  rwa [List.drop_drop] at hread

/-- The last field. -/
theorem put_getU16LE_last (k : Nat) (h : p.length = k + 2) :
    putU16LE (getU16LE (p.drop k)) = p.drop k := by
  have hread := put_getU16LE_at (p := p) k (Nat.le_of_eq h.symm)
  rwa [← h, List.drop_length, List.append_nil] at hread

/-- The last field of a payload. -/
theorem put_getU32LE_last (k : Nat) (h : p.length = k + 4) :
    putU32LE (getU32LE (p.drop k)) = p.drop k := by
  have hread := put_getU32LE_at (p := p) k (Nat.le_of_eq h.symm)
  rwa [← h, List.drop_length, List.append_nil] at hread

/-- The last, signed field of a payload. -/
theorem put_i32_getU32LE_last (k : Nat) (h : p.length = k + 4) :
    putU32LE (toU32 (i32 (getU32LE (p.drop k)))) = p.drop k := by
  have hread := put_i32_getU32LE_at (p := p) k (Nat.le_of_eq h.symm)
  rwa [← h, List.drop_length, List.append_nil] at hread

/-- A payload that decodes to a command is the payload of that command. -/
theorem payload_of_cmdOfFields {cmd : Command} (hlen : p.length = cmdPayloadLen (getU16LE p))
    (h : cmdOfFields (getU16LE p) (p.drop plCmdidHdr) = some cmd) :
    cmd.Typed ∧ (WireMessage.cmdRequest cmd).payload = p := by
  have h0 (hle : 2 ≤ p.length) : putU16LE (getU16LE p) ++ p.drop 2 = p := put_getU16LE hle
  unfold cmdOfFields at h
  simp only [plCmdidHdr, List.drop_drop, Nat.reduceAdd] at h
  simp only [WireMessage.payload, cmdFields]
  split at h
  · next hid =>
      rw [hid] at hlen h0
      change p.length = 16 at hlen
      cases h
      refine ⟨⟨getU16LE_lt _, isI32_i32 _, isI32_i32 _, isI32_i32 _⟩, ?_⟩
      simp only [List.append_assoc]
      rw [put_i32_getU32LE_last 12 hlen, put_i32_getU32LE_at 8 (by omega),
        put_i32_getU32LE_at 4 (by omega), put_getU16LE_at 2 (by omega)]
      exact h0 (by omega)
  · next hid =>
      rw [hid] at hlen h0
      change p.length = 8 at hlen
      cases h
      refine ⟨⟨getU16LE_lt _, isI32_i32 _⟩, ?_⟩
      change putU16LE 2 ++ (putU16LE _ ++ putU32LE _) = p
      rw [put_i32_getU32LE_last 4 hlen, put_getU16LE_at 2 (by omega)]
      exact h0 (by omega)
  · next hid =>
      rw [hid] at hlen h0
      change p.length = 14 at hlen
      cases h
      refine ⟨⟨getU16LE_lt _, getU16LE_lt _, isI32_i32 _, isI32_i32 _⟩, ?_⟩
      simp only [List.append_assoc]
      rw [put_i32_getU32LE_last 10 hlen, put_i32_getU32LE_at 6 (by omega), put_getU16LE_at 4 (by omega),
        put_getU16LE_at 2 (by omega)]
      exact h0 (by omega)
  · next hid =>
      rw [hid] at hlen h0
      change p.length = 18 at hlen
      cases h
      refine ⟨⟨getU16LE_lt _, getU16LE_lt _, isI32_i32 _, isI32_i32 _, isI32_i32 _⟩, ?_⟩
      simp only [List.append_assoc]
      rw [put_i32_getU32LE_last 14 hlen, put_i32_getU32LE_at 10 (by omega),
        put_i32_getU32LE_at 6 (by omega), put_getU16LE_at 4 (by omega), put_getU16LE_at 2 (by omega)]
      exact h0 (by omega)
  · next hid =>
      rw [hid] at hlen h0
      change p.length = 6 at hlen
      cases h
      refine ⟨⟨getU16LE_lt _, getU16LE_lt _⟩, ?_⟩
      change putU16LE 5 ++ (putU16LE _ ++ putU16LE _) = p
      rw [put_getU16LE_last 4 hlen, put_getU16LE_at 2 (by omega)]
      exact h0 (by omega)
  · cases h

/-- Both replies have the payload of one layout. -/
theorem payload_of_decodeCmdAckOrNack {frame : WireFrame} {v : Nat × Nat × Nat}
    (h : thermalWireDecodeCmdAckOrNack frame = .ok v) :
    (v.1 < 2 ^ 16 ∧ v.2.1 < 2 ^ 16 ∧ v.2.2 < 2 ^ 32) ∧
      putU16LE v.1 ++ putU16LE v.2.1 ++ putU32LE v.2.2 = frame.payload := by
  unfold thermalWireDecodeCmdAckOrNack at h
  split at h
  · cases h
  · next hok =>
      cases h
      have hlen : frame.payload.length = 8 := by_contra fun hne => hok (Or.inr hne)
      refine ⟨⟨getU16LE_lt _, getU16LE_lt _, getU32LE_lt _⟩, ?_⟩
      simp only [List.append_assoc]
      rw [put_getU32LE_last 4 hlen, put_getU16LE_at 2 (by omega)]
      exact put_getU16LE (by omega)

/-- The reply decoder's values are those of the message it makes. -/
theorem reply_of_map {frame : WireFrame} {make : Nat × Nat × Nat → WireMessage} {msg : WireMessage}
    (h : (thermalWireDecodeCmdAckOrNack frame).map make = .ok msg) :
    ∃ v, thermalWireDecodeCmdAckOrNack frame = .ok v ∧ make v = msg := by
  cases hv : thermalWireDecodeCmdAckOrNack frame with
  | error e =>
      rw [hv] at h
      cases h
  | ok v =>
      rw [hv] at h
      cases h
      exact ⟨v, rfl, rfl⟩

/-- A frame that decodes to a message carries the payload of that message. -/
theorem payload_of_decodeMessage {frame : WireFrame} {msg : WireMessage}
    (h : frame.decodeMessage = .ok msg) :
    msg.Typed ∧ msg.opcode = frame.opcode ∧ msg.payload = frame.payload := by
  unfold WireFrame.decodeMessage at h
  split at h
  · next hop =>
      unfold thermalWireDecodeTelemSample at h
      split at h
      · cases h
      · next hok =>
          cases h
          have hlen : frame.payload.length = 8 := by_contra fun hne => hok (Or.inr hne)
          refine ⟨⟨getU16LE_lt _, getU16LE_lt _, isI32_i32 _⟩, hop.symm, ?_⟩
          simp only [WireMessage.payload, List.append_assoc]
          rw [put_i32_getU32LE_last 4 hlen, put_getU16LE_at 2 (by omega)]
          exact put_getU16LE (by omega)
  · next hop =>
      unfold thermalWireDecodeTelemEvent at h
      split at h
      · cases h
      · next hok =>
          cases h
          have hlen : frame.payload.length = 18 := by_contra fun hne => hok (Or.inr hne)
          refine ⟨⟨getU16LE_lt _, getU32LE_lt _, getU32LE_lt _, getU32LE_lt _, getU32LE_lt _⟩,
            hop.symm, ?_⟩
          simp only [WireMessage.payload, List.append_assoc]
          rw [put_getU32LE_last 14 hlen, put_getU32LE_at 10 (by omega), put_getU32LE_at 6 (by omega),
            put_getU32LE_at 2 (by omega)]
          exact put_getU16LE (by omega)
  · next hop =>
      unfold thermalWireDecodeCmdRequest at h
      split at h
      · cases h
      · split at h
        · cases h
        · dsimp only at h
          split at h
          · cases h
          · next hlen =>
              split at h
              · cases h
              · next cmd hcmd =>
                  cases h
                  have hlen' := by_contra fun hne => hlen (Or.inr hne)
                  obtain ⟨htyped, hpayload⟩ := payload_of_cmdOfFields (Eq.symm hlen') hcmd
                  exact ⟨htyped, hop.symm, hpayload⟩
  · next hop =>
      obtain ⟨v, hv, rfl⟩ := reply_of_map h
      obtain ⟨htyped, hpayload⟩ := payload_of_decodeCmdAckOrNack hv
      exact ⟨htyped, hop.symm, hpayload⟩
  · next hop =>
      obtain ⟨v, hv, rfl⟩ := reply_of_map h
      obtain ⟨htyped, hpayload⟩ := payload_of_decodeCmdAckOrNack hv
      exact ⟨htyped, hop.symm, hpayload⟩

end sound

end decode

/-! ## Round trip -/

/-- An encoded message, with anything after it, decodes to the header fields and
values it was made from; and a buffer that decodes with its CRC checked starts
with the frame its values are encoded to. -/
theorem wire_round_trip :
    (∀ (msg : WireMessage) (bufSz seq tsMs : Nat) (crcEnabled : Bool), msg.Typed → seq < 2 ^ 16 →
      tsMs < 2 ^ 32 → wireHeaderLen + msg.payload.length + wireCrcLen ≤ bufSz →
      ∃ bytes, msg.encode bufSz seq tsMs crcEnabled = .ok bytes ∧
        ∀ (cap : Nat) (tail : List UInt8), cap = 0 ∨ msg.payload.length ≤ cap →
          ∃ frame, thermalWireDecodeFrame (bytes ++ tail) cap crcEnabled = .ok frame ∧
            frame = ⟨seq, tsMs, msg.opcode, msg.payload, crcEnabled⟩ ∧
            frame.decodeMessage = .ok msg) ∧
    (∀ (buf : List UInt8) (cap : Nat) (frame : WireFrame) (msg : WireMessage),
      thermalWireDecodeFrame buf cap true = .ok frame → frame.decodeMessage = .ok msg →
      ∀ bufSz, wireHeaderLen + frame.payload.length + wireCrcLen ≤ bufSz →
        msg.encode bufSz frame.seq frame.tsMs true =
          .ok (buf.take (wireHeaderLen + frame.payload.length + wireCrcLen))) := by
  constructor
  · intro msg bufSz seq tsMs crcEnabled htyped hseq hts hbuf
    refine ⟨_, encode_eq htyped hbuf seq tsMs crcEnabled, fun cap tail hcap => ⟨_, ?_, rfl, ?_⟩⟩
    · exact decodeFrame_frameBytes hseq hts (length_payload_lt msg) hcap crcEnabled tail
    · exact decodeMessage_payload htyped seq tsMs crcEnabled
  · intro buf cap frame msg hframe hmsg bufSz hbuf
    obtain ⟨htyped, hop, hpayload⟩ := payload_of_decodeMessage hmsg
    obtain ⟨-, -, -, hstart⟩ := eq_frameBytes_of_decode hframe
    have hlen := length_frameBytes frame.opcode frame.seq frame.tsMs frame.payload true
    rw [encode_eq htyped (by rw [hpayload]; exact hbuf), hop, hpayload, hstart, ← hlen, List.take_left]

/-- A trip command with two bytes after its frame, received with a cap of 1024. -/
theorem wire_round_trip_set_trip :
    ∃ bytes, (WireMessage.cmdRequest (.setTrip 0 1 75000 (-2000))).encode 64 7 1000 true = .ok bytes ∧
      ∃ frame, thermalWireDecodeFrame (bytes ++ [0x54, 0x43]) wireMaxLinux true = .ok frame ∧
        frame.decodeMessage = .ok (.cmdRequest (.setTrip 0 1 75000 (-2000))) := by
  have htyped : (WireMessage.cmdRequest (.setTrip 0 1 75000 (-2000))).Typed :=
    ⟨by decide, by decide, by decide, by decide⟩
  obtain ⟨bytes, hbytes, hdecode⟩ :=
    wire_round_trip.1 _ 64 7 1000 true htyped (by decide) (by decide) (by decide)
  obtain ⟨frame, hframe, -, hmsg⟩ := hdecode wireMaxLinux [0x54, 0x43] (Or.inr (by decide))
  exact ⟨bytes, hbytes, frame, hframe, hmsg⟩

end ThermalCore
