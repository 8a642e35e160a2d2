import ThermalCore.Hash.Canonical
import ThermalCore.Lib.BlockBuffer

/-!
# Incremental SHA-256

`support/sha256.c`.  A context keeps the hash of the full blocks seen so far, the
bytes of an unfinished block and a count of bits; `sha256_final` pads.  However a
message is cut into updates, the digest is that of the padded message block by
block.

The compression function is `sha256ProcessBlock` on one block, and the rest is buffering.
`Lib.BlockBuffer` says how a buffered function of blocks depends on the whole message
alone; padding adds one block or two, by the room left behind the message.
-/

namespace ThermalCore

open BlockBuffer

/-! ## FIPS 180-4 constants -/

def sha256K : Vector UInt32 64 := #v[
  0x428a2f98, 0x71374491, 0xb5c0fbcf, 0xe9b5dba5, 0x3956c25b, 0x59f111f1, 0x923f82a4, 0xab1c5ed5,
  0xd807aa98, 0x12835b01, 0x243185be, 0x550c7dc3, 0x72be5d74, 0x80deb1fe, 0x9bdc06a7, 0xc19bf174,
  0xe49b69c1, 0xefbe4786, 0x0fc19dc6, 0x240ca1cc, 0x2de92c6f, 0x4a7484aa, 0x5cb0a9dc, 0x76f988da,
  0x983e5152, 0xa831c66d, 0xb00327c8, 0xbf597fc7, 0xc6e00bf3, 0xd5a79147, 0x06ca6351, 0x14292967,
  0x27b70a85, 0x2e1b2138, 0x4d2c6dfc, 0x53380d13, 0x650a7354, 0x766a0abb, 0x81c2c92e, 0x92722c85,
  0xa2bfe8a1, 0xa81a664b, 0xc24b8b70, 0xc76c51a3, 0xd192e819, 0xd6990624, 0xf40e3585, 0x106aa070,
  0x19a4c116, 0x1e376c08, 0x2748774c, 0x34b0bcb5, 0x391c0cb3, 0x4ed8aa4a, 0x5b9cca4f, 0x682e6ff3,
  0x748f82ee, 0x78a5636f, 0x84c87814, 0x8cc70208, 0x90befffa, 0xa4506ceb, 0xbef9a3f7, 0xc67178f2]

/-! ## Helpers -/

def rotr32 (x n : UInt32) : UInt32 := x >>> n ||| x <<< (32 - n)

def bigSigma0 (x : UInt32) : UInt32 := rotr32 x 2 ^^^ rotr32 x 13 ^^^ rotr32 x 22

def bigSigma1 (x : UInt32) : UInt32 := rotr32 x 6 ^^^ rotr32 x 11 ^^^ rotr32 x 25

def lilSigma0 (x : UInt32) : UInt32 := rotr32 x 7 ^^^ rotr32 x 18 ^^^ x >>> 3

def lilSigma1 (x : UInt32) : UInt32 := rotr32 x 17 ^^^ rotr32 x 19 ^^^ x >>> 10

def sha256Ch (x y z : UInt32) : UInt32 := (x &&& y) ^^^ (~~~x &&& z)

def sha256Maj (x y z : UInt32) : UInt32 := (x &&& y) ^^^ (x &&& z) ^^^ (y &&& z)

/-! ## One block -/

/-- The block as sixteen words, extended to sixty-four. -/
def sha256Schedule (block : List UInt8) : Vector UInt32 64 :=
  let w := (default : Vector UInt32 64).forSlots 16 fun i _ =>
    (block.getD (i * 4) 0).toUInt32 <<< 24 ||| (block.getD (i * 4 + 1) 0).toUInt32 <<< 16 |||
      (block.getD (i * 4 + 2) 0).toUInt32 <<< 8 ||| (block.getD (i * 4 + 3) 0).toUInt32
  (List.range' 16 48).foldl
    (fun w i => w.put i (lilSigma1 (w.slot (i - 2)) + w.slot (i - 7) + lilSigma0 (w.slot (i - 15)) +
      w.slot (i - 16)))
    w

/-- The working variables. -/
structure Sha256Vars where
  a : UInt32
  b : UInt32
  c : UInt32
  d : UInt32
  e : UInt32
  f : UInt32
  g : UInt32
  h : UInt32

def sha256Round (w : Vector UInt32 64) (v : Sha256Vars) (i : Nat) : Sha256Vars :=
  let t1 := v.h + bigSigma1 v.e + sha256Ch v.e v.f v.g + sha256K.slot i + w.slot i
  let t2 := bigSigma0 v.a + sha256Maj v.a v.b v.c
  { h := v.g, g := v.f, f := v.e, e := v.d + t1, d := v.c, c := v.b, b := v.a, a := t1 + t2 }

/-- The block function on `ctx->state`. -/
def sha256ProcessBlock (state : Vector UInt32 8) (block : List UInt8) : Vector UInt32 8 :=
  let w := sha256Schedule block
  let v := (List.range 64).foldl (sha256Round w)
    ⟨state.slot 0, state.slot 1, state.slot 2, state.slot 3, state.slot 4, state.slot 5, state.slot 6,
      state.slot 7⟩
  #v[state.slot 0 + v.a, state.slot 1 + v.b, state.slot 2 + v.c, state.slot 3 + v.d,
    state.slot 4 + v.e, state.slot 5 + v.f, state.slot 6 + v.g, state.slot 7 + v.h]

/-! ## The interface -/

/-- `sha256_ctx_t`. -/
structure Sha256Ctx where
  state : Vector UInt32 8
  bitcount : UInt64
  buffer : Vector UInt8 64
  bufferLen : Nat

def sha256InitState : Vector UInt32 8 :=
  #v[0x6a09e667, 0xbb67ae85, 0x3c6ef372, 0xa54ff53a, 0x510e527f, 0x9b05688c, 0x1f83d9ab, 0x5be0cd19]

/-- The buffer is whatever the caller's memory held. -/
def sha256Init (buffer : Vector UInt8 64) : Sha256Ctx := ⟨sha256InitState, 0, buffer, 0⟩

/-- Full blocks straight from the input; the state and the bytes left. -/
def sha256FullBlocks (state : Vector UInt32 8) (p : List UInt8) : Vector UInt32 8 × List UInt8 :=
  if 64 ≤ p.length then sha256FullBlocks (sha256ProcessBlock state (p.take 64)) (p.drop 64)
  else (state, p)
termination_by p.length
decreasing_by
  rw [List.length_drop]
  omega

/-- The part of an update after the partial buffer. -/
def sha256Direct (p : List UInt8) (ctx : Sha256Ctx) : Sha256Ctx :=
  let r := sha256FullBlocks ctx.state p
  if 0 < r.2.length then
    { ctx with state := r.1, buffer := copy ctx.buffer 0 r.2, bufferLen := r.2.length }
  else { ctx with state := r.1 }

def sha256Update (ctx : Sha256Ctx) (data : List UInt8) : Sha256Ctx :=
  let ctx := { ctx with bitcount := ctx.bitcount + UInt64.ofNat data.length * 8 }
  if 0 < ctx.bufferLen then
    let need := 64 - ctx.bufferLen
    let take := if data.length < need then data.length else need
    let ctx :=
      { ctx with
        buffer := copy ctx.buffer ctx.bufferLen (data.take take)
        bufferLen := ctx.bufferLen + take }
    sha256Direct (data.drop take)
      (if ctx.bufferLen = 64 then
        { ctx with state := sha256ProcessBlock ctx.state ctx.buffer.toList, bufferLen := 0 }
      else ctx)
  else sha256Direct data ctx

/-- The bytes of a word, most significant first. -/
def wordBytes (x : UInt32) : List UInt8 :=
  [(x >>> 24 &&& 0xFF).toUInt8, (x >>> 16 &&& 0xFF).toUInt8, (x >>> 8 &&& 0xFF).toUInt8,
    (x &&& 0xFF).toUInt8]

/-- The eight bytes of the bit count, most significant first. -/
def bitcountBytes (bitcount : UInt64) : List UInt8 :=
  (List.range 8).map fun i => (bitcount >>> UInt64.ofNat (56 - i * 8) &&& 0xFF).toUInt8

def sha256Digest (state : Vector UInt32 8) : List UInt8 := state.toList.flatMap wordBytes

def sha256Final (ctx : Sha256Ctx) : Sha256Ctx × List UInt8 :=
  let ctx := { ctx with buffer := ctx.buffer.put ctx.bufferLen 0x80, bufferLen := ctx.bufferLen + 1 }
  let ctx :=
    if 56 < ctx.bufferLen then
      let buffer := copy ctx.buffer ctx.bufferLen (zeros (64 - ctx.bufferLen))
      { ctx with
        state := sha256ProcessBlock ctx.state buffer.toList
        buffer := buffer
        bufferLen := 0 }
    else ctx
  let buffer := copy ctx.buffer ctx.bufferLen (zeros (56 - ctx.bufferLen))
  let buffer := copy buffer 56 (bitcountBytes ctx.bitcount)
  let ctx := { ctx with state := sha256ProcessBlock ctx.state buffer.toList, buffer := buffer }
  (ctx, sha256Digest ctx.state)

/-! ## The padded message -/

/-- A length as 64 bits, most significant byte first. -/
def bigEndian64 (n : Nat) : List UInt8 := (List.range 8).map fun i => UInt8.ofNat (n / 256 ^ (7 - i))

/-- The standard padding: `0x80`, zeros up to the last eight bytes of a block, the
length in bits. -/
def sha256Padding (length : Nat) : List UInt8 :=
  0x80 :: zeros ((119 - length % 64) % 64) ++ bigEndian64 (8 * length)

/-- The digest of a whole message. -/
def sha256 (message : List UInt8) : List UInt8 :=
  sha256Digest <|
    (blocks 64 (message ++ sha256Padding message.length)).foldl sha256ProcessBlock sha256InitState

example : sha256 [97, 98, 99] =
    [0xba, 0x78, 0x16, 0xbf, 0x8f, 0x01, 0xcf, 0xea, 0x41, 0x41, 0x40, 0xde, 0x5d, 0xae, 0x22, 0x23,
      0xb0, 0x03, 0x61, 0xa3, 0x96, 0x17, 0x7a, 0x9c, 0xb4, 0x10, 0xff, 0x61, 0xf2, 0x00, 0x15, 0xad] := by
  decide +kernel

/-! ## Updates -/

/-- A context that has seen a message: its full blocks are hashed, the rest is in
the buffer. -/
structure Absorbed (ctx : Sha256Ctx) (message : List UInt8) : Prop where
  state : ctx.state = (blocks 64 message).foldl sha256ProcessBlock sha256InitState
  bitcount : ctx.bitcount = UInt64.ofNat (8 * message.length)
  bufferLen : ctx.bufferLen = (rest 64 message).length
  buffer : ctx.buffer.toList.take ctx.bufferLen = rest 64 message

theorem absorbed_init (buffer : Vector UInt8 64) : Absorbed (sha256Init buffer) [] where
  state := by simp [sha256Init]
  bitcount := rfl
  bufferLen := by simp [sha256Init]
  buffer := by simp [sha256Init]

theorem sha256FullBlocks_eq (state : Vector UInt32 8) (p : List UInt8) :
    sha256FullBlocks state p = ((blocks 64 p).foldl sha256ProcessBlock state, rest 64 p) := by
  induction state, p using sha256FullBlocks.induct with
  | case1 state p h ih =>
      rw [sha256FullBlocks, if_pos h, ih, blocks_of_le (by decide) h, rest_of_le (by decide) h,
        List.foldl_cons]
  | case2 state p h =>
      rw [sha256FullBlocks, if_neg h, blocks_of_lt (Nat.lt_of_not_le h), rest_of_lt (Nat.lt_of_not_le h),
        List.foldl_nil]

theorem bitcount_append (message data : List UInt8) :
    UInt64.ofNat (8 * message.length) + UInt64.ofNat data.length * 8 =
      UInt64.ofNat (8 * (message ++ data).length) := by
  rw [List.length_append, Nat.mul_add, UInt64.ofNat_add, Nat.mul_comm 8 data.length,
    UInt64.ofNat_mul data.length]
  rfl

section update

variable {ctx : Sha256Ctx} {message : List UInt8}

/-- With an empty buffer the input is cut where the whole message is. -/
theorem Absorbed.direct {ctx : Sha256Ctx} {message p : List UInt8}
    (hstate : ctx.state = (blocks 64 message).foldl sha256ProcessBlock sha256InitState)
    (hrest : rest 64 message = []) (hempty : ctx.bufferLen = 0)
    (hcount : ctx.bitcount = UInt64.ofNat (8 * (message ++ p).length)) :
    Absorbed (sha256Direct p ctx) (message ++ p) := by
  have hblocks : blocks 64 (message ++ p) = blocks 64 message ++ blocks 64 p := by
    rw [blocks_append (by decide), hrest, List.nil_append]
  have hleft : rest 64 (message ++ p) = rest 64 p := by
    rw [rest_append (by decide), hrest, List.nil_append]
  have hstate' : (blocks 64 p).foldl sha256ProcessBlock ctx.state =
      (blocks 64 (message ++ p)).foldl sha256ProcessBlock sha256InitState := by
    rw [hstate, hblocks, List.foldl_append]
  have hshort : (rest 64 p).length < 64 := length_rest_lt (by decide) p
  unfold sha256Direct
  rw [sha256FullBlocks_eq]
  dsimp only
  by_cases hmore : 0 < (rest 64 p).length
  · rw [if_pos hmore]
    refine ⟨hstate', hcount, congrArg List.length hleft.symm, ?_⟩
    have hcopy := @take_copy _ _ ctx.buffer 0 (rest 64 p) (by omega)
    simpa [hleft] using hcopy
  · rw [if_neg hmore]
    have hnil : rest 64 (message ++ p) = [] := by
      rw [hleft]
      exact List.length_eq_zero_iff.mp (by omega)
    exact ⟨hstate', hcount, by rw [hempty, hnil]; rfl, by rw [hempty, hnil]; rfl⟩

/-- A piece that does not fill the block only goes to the buffer. -/
theorem Absorbed.buffered (h : Absorbed ctx message) {data : List UInt8} {bitcount : UInt64}
    (hfew : ctx.bufferLen + data.length < 64)
    (hcount : bitcount = UInt64.ofNat (8 * (message ++ data).length)) :
    Absorbed
      { ctx with
        bitcount := bitcount
        buffer := copy ctx.buffer ctx.bufferLen data
        bufferLen := ctx.bufferLen + data.length }
      (message ++ data) := by
  have hlen := h.bufferLen
  have hshort : (rest 64 message ++ data).length < 64 := by
    rw [List.length_append]
    omega
  have hblocks : blocks 64 (message ++ data) = blocks 64 message := by
    rw [blocks_append (by decide), blocks_of_lt hshort, List.append_nil]
  have hrest : rest 64 (message ++ data) = rest 64 message ++ data := by
    rw [rest_append (by decide), rest_of_lt hshort]
  refine ⟨by rw [hblocks]; exact h.state, hcount, ?_, ?_⟩
  · rw [hrest, List.length_append, ← hlen]
  · rw [hrest, ← h.buffer]
    exact take_copy ctx.buffer (Nat.le_of_lt hfew)

/-- A piece that fills the block lets it through. -/
theorem Absorbed.filled (h : Absorbed ctx message) {data : List UInt8}
    (hfill : ctx.bufferLen + data.length = 64) :
    sha256ProcessBlock ctx.state (copy ctx.buffer ctx.bufferLen data).toList =
        (blocks 64 (message ++ data)).foldl sha256ProcessBlock sha256InitState ∧
      rest 64 (message ++ data) = [] := by
  have hblock : (copy ctx.buffer ctx.bufferLen data).toList = rest 64 message ++ data := by
    rw [toList_copy ctx.buffer hfill, h.buffer]
  have hlength : (rest 64 message ++ data).length = 64 := by
    rw [List.length_append, ← h.bufferLen, hfill]
  have hblocks : blocks 64 (message ++ data) = blocks 64 message ++ [rest 64 message ++ data] := by
    rw [blocks_append (by decide), blocks_of_length (by decide) hlength]
  have hrest : rest 64 (message ++ data) = [] := by
    rw [rest_append (by decide), rest_of_length (by decide) hlength]
  rw [hblock, hblocks, List.foldl_append, ← h.state]
  exact ⟨rfl, hrest⟩

/-- **An update** appends to the message. -/
theorem Absorbed.update (h : Absorbed ctx message) (data : List UInt8) :
    Absorbed (sha256Update ctx data) (message ++ data) := by
  have hcount := bitcount_append message data
  rw [← h.bitcount] at hcount
  have hshort : (rest 64 message).length < 64 := length_rest_lt (by decide) message
  have hlen := h.bufferLen
  unfold sha256Update
  dsimp only
  by_cases hpartial : 0 < ctx.bufferLen
  · rw [if_pos hpartial]
    by_cases hfew : data.length < 64 - ctx.bufferLen
    · rw [if_pos hfew, List.take_length, List.drop_length, if_neg (by omega)]
      have hkept := @Absorbed.buffered _ _ h data _ (by omega) hcount
      simpa [sha256Direct, sha256FullBlocks_eq, blocks_of_lt, rest_of_lt] using hkept
    · have hneed : ctx.bufferLen + (data.take (64 - ctx.bufferLen)).length = 64 := by
        rw [List.length_take]
        omega
      obtain ⟨hstate, hrest⟩ := h.filled hneed
      rw [if_neg hfew, if_pos (by omega)]
      have hcut : message ++ data =
          message ++ data.take (64 - ctx.bufferLen) ++ data.drop (64 - ctx.bufferLen) := by
        rw [List.append_assoc, List.take_append_drop]
      rw [hcut] at hcount ⊢
      exact Absorbed.direct hstate hrest rfl hcount
  · rw [if_neg hpartial]
    have hnil : rest 64 message = [] := List.length_eq_zero_iff.mp (by omega)
    exact Absorbed.direct h.state hnil (by dsimp only; omega) hcount

theorem absorbed_updates (buffer : Vector UInt8 64) (pieces : List (List UInt8)) :
    Absorbed (pieces.foldl sha256Update (sha256Init buffer)) pieces.flatten := by
  have hfrom : ∀ ctx message, Absorbed ctx message →
      Absorbed (pieces.foldl sha256Update ctx) (message ++ pieces.flatten) := by
    induction pieces with
    | nil => simp
    | cons piece pieces ih =>
        intro ctx message h
        simpa using ih _ _ (h.update piece)
  simpa using hfrom _ _ (absorbed_init buffer)

end update

/-! ## The digest -/

theorem length_bitcountBytes (bitcount : UInt64) : (bitcountBytes bitcount).length = 8 := by
  simp [bitcountBytes]

theorem length_bigEndian64 (n : Nat) : (bigEndian64 n).length = 8 := by
  simp [bigEndian64]

/-- A byte of the low 64 bits is a byte of the number. -/
theorem byte_mod_shiftRight (n : Nat) {k : Nat} (h : k + 8 ≤ 64) :
    n % 2 ^ 64 / 2 ^ k % 2 ^ 8 = n / 2 ^ k % 2 ^ 8 := by
  have hsplit : 2 ^ 64 = 2 ^ k * 2 ^ (64 - k) := by
    rw [← pow_add]
    congr 1
    omega
  rw [hsplit, Nat.mod_mul_right_div_self, Nat.mod_mod_of_dvd _ (pow_dvd_pow 2 (by omega))]

/-- The bytes the code writes are those of the length. -/
theorem bitcountBytes_ofNat (n : Nat) : bitcountBytes (UInt64.ofNat n) = bigEndian64 n := by
  unfold bitcountBytes bigEndian64
  refine List.map_congr_left fun i hi => ?_
  have hlt : i < 8 := List.mem_range.mp hi
  have hshift : (56 - i * 8) % 2 ^ 64 % 64 = 8 * (7 - i) := by omega
  have hpow : 256 ^ (7 - i) = 2 ^ (8 * (7 - i)) := by
    rw [pow_mul]
    rfl
  have hmask : (255 : UInt64).toNat = 2 ^ 8 - 1 := rfl
  apply UInt8.toNat_inj.mp
  simp only [UInt64.toNat_toUInt8, UInt64.toNat_and, UInt64.toNat_shiftRight, UInt64.toNat_ofNat',
    UInt8.toNat_ofNat']
  rw [hshift, hpow, hmask, Nat.and_two_pow_sub_one_eq_mod, Nat.mod_mod, Nat.shiftRight_eq_div_pow,
    byte_mod_shiftRight n (by omega)]

/-- Zeros up to byte 56, then the count. -/
theorem toList_lastBlock (v : Vector UInt8 64) {off : Nat} {count : List UInt8} (h : off ≤ 56)
    (hcount : count.length = 8) :
    (copy (copy v off (zeros (56 - off))) 56 count).toList =
      v.toList.take off ++ zeros (56 - off) ++ count := by
  have hlength : (zeros (56 - off)).length = 56 - off := length_zeros _
  have hzeros := @take_copy _ _ v off (zeros (56 - off)) (by omega)
  rw [hlength, Nat.add_sub_of_le h] at hzeros
  rw [toList_copy _ (by omega), hzeros]

/-- What the final call hashes: one block if the count has room in it, else two. -/
def lastBlocks (tail count : List UInt8) : List (List UInt8) :=
  if tail.length < 56 then [tail ++ 0x80 :: zeros (55 - tail.length) ++ count]
  else [tail ++ 0x80 :: zeros (63 - tail.length), zeros 56 ++ count]

/-- The padding fills up the blocks of the final call. -/
theorem blocks_padded (message : List UInt8) :
    blocks 64 (message ++ sha256Padding message.length) =
      blocks 64 message ++ lastBlocks (rest 64 message) (bigEndian64 (8 * message.length)) := by
  have hcount := length_bigEndian64 (8 * message.length)
  have hshort : (rest 64 message).length < 64 := length_rest_lt (by decide) message
  have hmod : message.length % 64 = (rest 64 message).length := length_rest (by decide) message
  rw [blocks_append (by decide), sha256Padding, hmod, lastBlocks]
  congr 1
  by_cases hone : (rest 64 message).length < 56
  · have hzeros : (119 - (rest 64 message).length) % 64 = 55 - (rest 64 message).length := by omega
    rw [if_pos hone, hzeros, List.append_assoc]
    exact blocks_of_length (by decide) (by simp; omega)
  · have hzeros : (119 - (rest 64 message).length) % 64 = 63 - (rest 64 message).length + 56 := by omega
    have hfirst : (rest 64 message ++ 0x80 :: zeros (63 - (rest 64 message).length)).length = 64 := by
      simp
      omega
    have hlast : (zeros 56 ++ bigEndian64 (8 * message.length)).length = 64 := by simp [hcount]
    have hcut : ∀ a, rest 64 message ++ (0x80 :: zeros (a + 56) ++ bigEndian64 (8 * message.length)) =
        (rest 64 message ++ 0x80 :: zeros a) ++ (zeros 56 ++ bigEndian64 (8 * message.length)) := by
      simp [zeros, List.replicate_add]
    rw [if_neg hone, hzeros, hcut, blocks_append_of_length (by decide) hfirst,
      blocks_of_length (by decide) hlast]

/-- The final call hashes its blocks and writes the state out. -/
theorem sha256Final_eq {ctx : Sha256Ctx} (h : ctx.bufferLen < 64) :
    (sha256Final ctx).2 =
      sha256Digest ((lastBlocks (ctx.buffer.toList.take ctx.bufferLen) (bitcountBytes ctx.bitcount)).foldl
        sha256ProcessBlock ctx.state) := by
  have hcount := length_bitcountBytes ctx.bitcount
  have hmark := take_put ctx.buffer 0x80 h
  have htail : (ctx.buffer.toList.take ctx.bufferLen).length = ctx.bufferLen := by
    simp
    omega
  unfold sha256Final lastBlocks
  dsimp only
  rw [htail]
  by_cases hone : ctx.bufferLen < 56
  · rw [if_pos hone, if_neg (by omega)]
    dsimp only
    rw [toList_lastBlock _ (by omega) hcount, hmark]
    have hzeros : 56 - (ctx.bufferLen + 1) = 55 - ctx.bufferLen := by omega
    simp [hzeros]
  · rw [if_neg hone, if_pos (by omega)]
    dsimp only
    rw [toList_lastBlock _ (by omega) hcount, toList_copy _ (by simp; omega), hmark]
    have hzeros : 64 - (ctx.bufferLen + 1) = 63 - ctx.bufferLen := by omega
    simp [hzeros]

/-- **The final call** pads the rest of the message. -/
theorem Absorbed.final {ctx : Sha256Ctx} {message : List UInt8} (h : Absorbed ctx message) :
    (sha256Final ctx).2 = sha256 message := by
  have hshort : (rest 64 message).length < 64 := length_rest_lt (by decide) message
  rw [sha256Final_eq (by rw [h.bufferLen]; exact hshort), h.buffer, h.bitcount, bitcountBytes_ofNat,
    h.state, ← List.foldl_append, ← blocks_padded, sha256]

/-- A message with its padding. -/
def sha256Padded (message : List UInt8) : List UInt8 := message ++ sha256Padding message.length

/-- **However a message is cut** into updates, the digest is that of the message
with the standard padding, block by block: one block after the full ones, or two
where the count has no room in the first. -/
theorem sha256_of_updates (buffer : Vector UInt8 64) (pieces : List (List UInt8)) :
    (sha256Final (pieces.foldl sha256Update (sha256Init buffer))).2 =
        sha256Digest ((blocks 64 (sha256Padded pieces.flatten)).foldl sha256ProcessBlock sha256InitState) ∧
      (blocks 64 (sha256Padded pieces.flatten)).flatten = sha256Padded pieces.flatten ∧
      (blocks 64 (sha256Padded pieces.flatten)).length =
        pieces.flatten.length / 64 + if pieces.flatten.length % 64 < 56 then 1 else 2 := by
  have hfinal := (absorbed_updates buffer pieces).final
  generalize pieces.flatten = message at hfinal ⊢
  have hblocks : (blocks 64 (sha256Padded message)).length =
      message.length / 64 + if message.length % 64 < 56 then 1 else 2 := by
    rw [sha256Padded, blocks_padded, List.length_append, length_blocks (by decide), length_rest (by decide),
      lastBlocks]
    split <;> rfl
  refine ⟨hfinal, ?_, hblocks⟩
  have haligned : (sha256Padded message).length % 64 = 0 := by
    simp only [sha256Padded, sha256Padding, List.length_append, List.length_cons, length_zeros,
      length_bigEndian64]
    omega
  have hrest : rest 64 (sha256Padded message) = [] := by
    rw [length_rest (by decide)] at haligned
    exact List.length_eq_zero_iff.mp haligned
  have hall := @flatten_blocks_append_rest _ 64 (sha256Padded message)
  rwa [hrest, List.append_nil] at hall

/-- Whatever pieces the writers feed it, the digest of a configuration is that of
its stream. -/
theorem configHash_of_pieces (cfg : Config) (buffer : Vector UInt8 64) (pieces : List (List UInt8))
    (h : pieces.flatten = hashStream cfg) :
    (sha256Final (pieces.foldl sha256Update (sha256Init buffer))).2 = sha256 (hashStream cfg) := by
  rw [(absorbed_updates buffer pieces).final, h]

end ThermalCore
