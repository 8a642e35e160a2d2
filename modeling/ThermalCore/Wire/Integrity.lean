import Mathlib.Data.List.GetD
import ThermalCore.Lib.Crc
import ThermalCore.Wire.RoundTrip

/-!
# What the frame's CRC detects

The bit loop of `thermal_wire_crc16` feeds the bytes most significant bit first
into a 16-bit register with the polynomial `x^16 + x^12 + x^5 + 1`.  That
polynomial has a constant term and the factor `x + 1`, so a frame that is changed
in a short burst, or in an odd number of bits, is not accepted.
-/

namespace ThermalCore

/-! ## The bit loop -/

/-- The bits of a byte, most significant first. -/
def byteBits (b : UInt8) : List Bool := (List.range 8).map b.toBitVec.getMsbD

/-- The bits of some bytes, most significant first. -/
def wireBits (bs : List UInt8) : List Bool := bs.flatMap byteBits

/-- The polynomial, its leading term left out. -/
def crcPoly : BitVec 16 := 0x1021#16

/-- Eight bits to a byte. -/
@[simp] theorem length_byteBits (b : UInt8) : (byteBits b).length = 8 := rfl

/-- No bits of no bytes. -/
@[simp] theorem wireBits_nil : wireBits [] = [] := rfl

/-- The bits of the first byte come first. -/
@[simp] theorem wireBits_cons (b : UInt8) (bs : List UInt8) :
    wireBits (b :: bs) = byteBits b ++ wireBits bs := rfl

/-- Bits of bytes one behind the other. -/
theorem wireBits_append (xs ys : List UInt8) : wireBits (xs ++ ys) = wireBits xs ++ wireBits ys :=
  List.flatMap_append

/-- Eight bits to each byte. -/
theorem length_wireBits (bs : List UInt8) : (wireBits bs).length = 8 * bs.length := by
  induction bs with
  | nil => rfl
  | cons b bs ih =>
      rw [wireBits_cons, List.length_append, ih, length_byteBits, List.length_cons]
      omega

/-- The bit at a place. -/
theorem getD_byteBits (b : UInt8) (i : Nat) : (byteBits b).getD i false = b.toBitVec.getMsbD i := by
  by_cases hi : i < 8
  · simp [byteBits, hi]
  · simp [byteBits, hi, BitVec.getMsbD]

/-- One turn of the inner loop shifts the register. -/
theorem crcBit_eq_step (crc : BitVec 16) : crcBit crc = Crc.step crcPoly crc := by
  have hmask : crc &&& 0x8000#16 = if crc.msb = true then 0x8000#16 else 0#16 := by
    have hpow := BitVec.and_twoPow crc 15
    rwa [← BitVec.msb_eq_getLsbD_last] at hpow
  unfold crcBit Crc.step
  rw [hmask]
  cases crc.msb
  · rfl
  · rfl

/-- A byte above the low half of the register is its eight bits at the top. -/
theorem setWidth_shiftLeft_eq_align (b : UInt8) :
    b.toBitVec.setWidth 16 <<< 8 = Crc.align 16 (byteBits b) := by
  apply BitVec.eq_of_getMsbD_eq
  intro i hi
  rw [Crc.getMsbD_align _ hi, getD_byteBits, BitVec.getMsbD_shiftLeft, BitVec.getMsbD_setWidth]
  have hindex : i + 8 + 8 - 16 = i := by omega
  have hlow : 16 - 8 ≤ i + 8 := by omega
  rw [hindex]
  simp [hlow]

/-- One byte is eight bits fed. -/
theorem crcByte_eq_feed (crc : BitVec 16) (b : UInt8) :
    crcByte crc b = Crc.feed crcPoly crc (byteBits b) := by
  have hfun : crcBit = Crc.step crcPoly := funext crcBit_eq_step
  unfold crcByte
  rw [Crc.feed_eq_iterate_step (by simp), setWidth_shiftLeft_eq_align, hfun, length_byteBits]

/-- **Run**: the outer loop feeds all bits. -/
theorem foldl_crcByte_eq_feed (bs : List UInt8) (crc : BitVec 16) :
    bs.foldl crcByte crc = Crc.feed crcPoly crc (wireBits bs) := by
  induction bs generalizing crc with
  | nil => rfl
  | cons b bs ih => rw [List.foldl_cons, ih, wireBits_cons, Crc.feed_append, crcByte_eq_feed]

/-- The check is the register fed with the frame's bits. -/
theorem thermalWireCrc16_eq_feed (bs : List UInt8) :
    thermalWireCrc16 bs = Crc.feed crcPoly 0xFFFF#16 (wireBits bs) := foldl_crcByte_eq_feed bs _

/-! ## The trailer -/

/-- The trailer is stored low byte first. -/
theorem ofNat_getU16LE (lo hi : UInt8) :
    BitVec.ofNat 16 (getU16LE [lo, hi]) = Crc.align 16 (byteBits hi ++ byteBits lo) := by
  have hbit (b : UInt8) (i : Nat) (h : i < 8) : b.toBitVec.getMsbD i = b.toNat.testBit (7 - i) := by
    simp [BitVec.getMsbD_eq_getLsbD, h, BitVec.getLsbD]
  have hword (i : Nat) (h : i < 16) : (BitVec.ofNat 16 (getU16LE [lo, hi])).getMsbD i =
      (lo.toNat.testBit (15 - i) || (decide (8 ≤ 15 - i) && hi.toNat.testBit (15 - i - 8))) := by
    have hread : getU16LE [lo, hi] = lo.toNat ||| hi.toNat <<< 8 := rfl
    have hlow : 15 - i < 16 := by omega
    rw [BitVec.getMsbD_eq_getLsbD, BitVec.getLsbD_ofNat, hread, Nat.testBit_or, Nat.testBit_shiftLeft]
    simp [h, hlow]
  apply BitVec.eq_of_getMsbD_eq
  intro i hi'
  rw [hword i hi', Crc.getMsbD_align _ hi']
  by_cases hhigh : i < 8
  · have hzero : lo.toNat.testBit (15 - i) = false :=
      Nat.testBit_lt_two_pow (Nat.lt_of_lt_of_le lo.toNat_lt (Nat.pow_le_pow_right (by decide) (by omega)))
    have hindex : 15 - i - 8 = 7 - i := by omega
    have hge : 8 ≤ 15 - i := by omega
    rw [List.getD_append _ _ _ _ hhigh, getD_byteBits, hbit _ _ hhigh, hzero, hindex]
    simp [hge]
  · have hindex : 7 - (i - 8) = 15 - i := by omega
    have hlt : ¬8 ≤ 15 - i := by omega
    rw [List.getD_append_right _ _ _ _ (Nat.not_lt.mp hhigh), getD_byteBits, length_byteBits,
      hbit _ _ (by omega), hindex]
    simp [hlt]

/-- Checked bytes and their trailer have an even number of bits set together. -/
theorem parity_of_checked {written trailer : List UInt8} (hlen : trailer.length = wireCrcLen)
    (hcrc : getU16LE trailer = (thermalWireCrc16 written).toNat) :
    Crc.parity (wireBits (written ++ trailer)) = false := by
  obtain ⟨lo, hi, rfl⟩ := List.length_eq_two.mp hlen
  have hreg : Crc.align 16 (byteBits hi ++ byteBits lo) = Crc.feed crcPoly 0xFFFF#16 (wireBits written) := by
    rw [← ofNat_getU16LE, hcrc, BitVec.ofNat_toNat, BitVec.setWidth_eq, thermalWireCrc16_eq_feed]
  have hparity := congrArg Crc.regParity hreg
  have hinit : Crc.regParity 0xFFFF#16 = false := by decide
  rw [Crc.regParity_align (by simp), Crc.regParity_feed (by decide) (by decide), hinit,
    Crc.parity_append, Bool.false_xor] at hparity
  rw [wireBits_append, Crc.parity_append, wireBits_cons, wireBits_cons, wireBits_nil, List.append_nil,
    Crc.parity_append, ← hparity]
  cases Crc.parity (byteBits hi) <;> cases Crc.parity (byteBits lo) <;> rfl

/-- The trailer of a buffer that decodes is the CRC of what is before it. -/
theorem crc_of_decodeFrame {buf : List UInt8} {cap : Nat} {frame : WireFrame}
    (h : thermalWireDecodeFrame buf cap true = .ok frame) :
    getU16LE (buf.drop (wireHeaderLen + getU16LE (buf.drop 6))) =
      (thermalWireCrc16 (buf.take (wireHeaderLen + getU16LE (buf.drop 6)))).toNat := by
  unfold thermalWireDecodeFrame at h
  split at h
  · cases h
  · split at h
    · cases h
    · split at h
      · cases h
      · split at h
        · cases h
        · dsimp only at h
          split at h
          · cases h
          · split at h
            · cases h
            · split at h
              · cases h
              · next hcrc => exact by_contra fun hne => hcrc ⟨rfl, hne⟩

/-! ## Detection -/

/-- The changed bits of two blocks of one length. -/
def difference (xs ys : List UInt8) : List Bool := List.zipWith xor (wireBits xs) (wireBits ys)

/-- Frames of one length: the parity of what differs. -/
theorem parity_difference {xs ys : List UInt8} (h : xs.length = ys.length) :
    Crc.parity (difference xs ys) = (Crc.parity (wireBits xs) ^^ Crc.parity (wireBits ys)) :=
  Crc.parity_zipWith_xor (by rw [length_wireBits, length_wireBits, h])

/-- Two blocks of one length that differ in a short burst have different CRCs. -/
theorem crc_ne_of_isBurst {xs ys : List UInt8} (h : xs.length = ys.length)
    (hburst : Crc.IsBurst 16 (difference xs ys)) : thermalWireCrc16 xs ≠ thermalWireCrc16 ys := by
  intro heq
  rw [thermalWireCrc16_eq_feed, thermalWireCrc16_eq_feed] at heq
  have hlen : (wireBits xs).length = (wireBits ys).length := by rw [length_wireBits, length_wireBits, h]
  exact Crc.feed_ne_zero_of_isBurst (by decide) hburst (Crc.feed_difference hlen heq)

/-- An encoded frame is the bytes it checks with their trailer. -/
theorem checked_of_encode {bufSz seq tsMs : Nat} {opcode : WireOpcode} {payload bytes : List UInt8}
    (h : (do
      let header ← encodeFrame bufSz opcode seq tsMs payload.length
      finalizeFrame bufSz (header ++ payload) payload.length true) = .ok bytes) :
    bytes.length = wireHeaderLen + payload.length + wireCrcLen ∧
      getU16LE (bytes.drop 6) = payload.length ∧
      getU16LE (bytes.drop (wireHeaderLen + payload.length)) =
        (thermalWireCrc16 (bytes.take (wireHeaderLen + payload.length))).toNat := by
  have hbytes : payload.length ≤ 0xFFFF ∧ bytes = frameBytes opcode seq tsMs payload true := by
    by_cases hlong : payload.length > 0xFFFF
    · rw [encodeFrame, if_pos hlong] at h
      cases h
    · by_cases hsmall : bufSz < wireHeaderLen + payload.length + wireCrcLen
      · rw [encodeFrame, if_neg hlong, if_pos hsmall] at h
        cases h
      · rw [encode_eq_frameBytes (Nat.not_lt.mp hlong) (Nat.not_lt.mp hsmall)] at h
        cases h
        exact ⟨Nat.not_lt.mp hlong, rfl⟩
  obtain ⟨hlong, rfl⟩ := hbytes
  have hwritten : (writeHeader opcode seq payload.length tsMs ++ payload).length =
      wireHeaderLen + payload.length := by simp
  refine ⟨length_frameBytes opcode seq tsMs payload true, ?_, ?_⟩
  · unfold frameBytes
    dsimp only
    rw [List.append_assoc, writeHeader_append]
    exact getU16LE_put (Nat.lt_succ_of_le hlong) _
  · unfold frameBytes
    dsimp only
    rw [← hwritten, List.drop_left, List.take_left, if_pos rfl, getU16LE_put_last (BitVec.isLt _)]

/-- A frame encoded with a CRC is not accepted after a change of its header and
payload in at most 16 consecutive bits, nor after a change of an odd number of
bits anywhere, as long as its payload length is left alone. -/
theorem decodeFrame_detects {bufSz seq tsMs : Nat} {opcode : WireOpcode} {payload bytes changed : List UInt8}
    (hencode : (do
      let header ← encodeFrame bufSz opcode seq tsMs payload.length
      finalizeFrame bufSz (header ++ payload) payload.length true) = .ok bytes)
    (hlen : changed.length = bytes.length)
    (hfield : (changed.drop 6).take 2 = (bytes.drop 6).take 2)
    (hchange : (changed.drop (wireHeaderLen + payload.length) = bytes.drop (wireHeaderLen + payload.length) ∧
        Crc.IsBurst 16 (difference (changed.take (wireHeaderLen + payload.length))
          (bytes.take (wireHeaderLen + payload.length)))) ∨
      Odd ((difference changed bytes).count true))
    (cap : Nat) (tail : List UInt8) (frame : WireFrame) :
    thermalWireDecodeFrame (changed ++ tail) cap true ≠ .ok frame := by
  intro hdecode
  obtain ⟨hsize, hpl, hcrc⟩ := checked_of_encode hencode
  have hn : wireHeaderLen + payload.length ≤ bytes.length := by omega
  have hn' : wireHeaderLen + payload.length ≤ changed.length := by omega
  have hpl' : getU16LE ((changed ++ tail).drop 6) = payload.length := by
    have hshort : 6 + 2 ≤ changed.length := by
      unfold wireHeaderLen at hn'
      omega
    rw [getU16LE_eq, List.drop_append_of_le_length (by omega),
      List.take_append_of_le_length (by rw [List.length_drop]; omega), hfield, ← getU16LE_eq, hpl]
  have hcrc' := crc_of_decodeFrame hdecode
  rw [hpl', List.drop_append_of_le_length hn', List.take_append_of_le_length hn', getU16LE_eq,
    List.take_append_of_le_length (by rw [List.length_drop]; unfold wireCrcLen at hsize; omega),
    ← getU16LE_eq] at hcrc'
  obtain ⟨hsame, hburst⟩ | hodd := hchange
  · have hlens : (changed.take (wireHeaderLen + payload.length)).length =
        (bytes.take (wireHeaderLen + payload.length)).length := by
      rw [List.length_take_of_le hn, List.length_take_of_le hn']
    rw [hsame, hcrc] at hcrc'
    exact crc_ne_of_isBurst hlens hburst (BitVec.eq_of_toNat_eq hcrc').symm
  · have heven := parity_of_checked (by rw [List.length_drop]; omega) hcrc
    have heven' := parity_of_checked (by rw [List.length_drop]; omega) hcrc'
    rw [List.take_append_drop] at heven heven'
    have hparity := parity_difference hlen
    rw [heven, heven', Bool.false_xor, (Crc.parity_iff_odd_count _).mpr hodd] at hparity
    cases hparity

/-- A burst of three bits in the payload, and one bit of the payload with two of
the trailer. -/
theorem decodeFrame_detects_flips :
    thermalWireDecodeFrame [84, 67, 1, 1, 1, 0, 3, 0, 0, 0, 0, 0, 43, 192, 255, 2, 251] 0 true ≠
        .ok ⟨1, 0, .telemSample, [43, 192, 255], true⟩ ∧
      thermalWireDecodeFrame [84, 67, 1, 1, 1, 0, 3, 0, 0, 0, 0, 0, 43, 0, 255, 3, 250] 0 true ≠
        .ok ⟨1, 0, .telemSample, [43, 0, 255], true⟩ := by
  have hbytes : frameBytes .telemSample 1 0 [42, 0, 255] true =
      [84, 67, 1, 1, 1, 0, 3, 0, 0, 0, 0, 0, 42, 0, 255, 2, 251] := by decide +kernel
  have hencode := @encode_eq_frameBytes 64 [42, 0, 255] (by decide) (by decide)
    .telemSample 1 0 true
  rw [hbytes] at hencode
  constructor
  · exact @decodeFrame_detects 64 1 0 .telemSample [42, 0, 255] _
      [84, 67, 1, 1, 1, 0, 3, 0, 0, 0, 0, 0, 43, 192, 255, 2, 251] hencode rfl rfl
      (Or.inl ⟨rfl, 103, [true, true, true], 14, by decide +kernel, by decide, by decide⟩) 0 [] _
  · exact @decodeFrame_detects 64 1 0 .telemSample [42, 0, 255] _
      [84, 67, 1, 1, 1, 0, 3, 0, 0, 0, 0, 0, 43, 0, 255, 3, 250] hencode rfl rfl
      (Or.inr (by decide +kernel)) 0 [] _

end ThermalCore
