import ThermalCore.Wire.Serial

/-!
# Serial lines

What a line between a writer of frames and an accumulator carries: the frames
that are still to be dispatched, in the order they were written.  Behind bytes
that are not frames the accumulator finds its way back to the frames.

`Line` is the invariant of one direction: bytes in the buffer, bytes on the way, frames
owed.  Writing a frame and draining bytes keep it.  Resynchronisation is about what may
stand before the first of these frames.
-/

namespace ThermalCore

open Framing

/-! ## Frames as bytes -/

def WireFrame.bytes (fr : WireFrame) : List UInt8 :=
  frameBytes fr.opcode fr.seq fr.tsMs fr.payload fr.crcEnabled

/-- A frame the accumulator lets through. -/
structure WireFrame.Fits (rx : HilRx) (fr : WireFrame) : Prop where
  seq : fr.seq < 2 ^ 16
  tsMs : fr.tsMs < 2 ^ 32
  payload : fr.payload.length ≤ rx.receiveCap
  small : fr.payload.length < 2 ^ 16
  crc : fr.crcEnabled = rx.crcEnabled

section front

variable {rx : HilRx} {fr : WireFrame} {buf : List UInt8}

@[simp] theorem length_bytes (fr : WireFrame) :
    fr.bytes.length = wireHeaderLen + fr.payload.length + wireCrcLen := length_frameBytes ..

theorem bytes_eq_cons (fr : WireFrame) : ∃ rest, fr.bytes = wireMagic0 :: wireMagic1 :: rest := by
  unfold WireFrame.bytes frameBytes
  exact ⟨_, rfl⟩

/-- A whole frame is dispatched, whatever follows it. -/
theorem wireFront_bytes (h : fr.Fits rx) (tail : List UInt8) :
    wireFront rx (fr.bytes ++ tail) = some ([fr], tail) := by
  have hdecode : thermalWireDecodeFrame
      (frameBytes fr.opcode fr.seq fr.tsMs fr.payload fr.crcEnabled ++ tail) rx.receiveCap fr.crcEnabled = _ :=
    decodeFrame_frameBytes h.seq h.tsMs h.small (Or.inr h.payload) fr.crcEnabled tail
  have hrest : (fr.bytes ++ tail).drop (wireHeaderLen + fr.payload.length + wireCrcLen) = tail := by
    rw [← length_bytes fr, List.drop_left]
  unfold wireFront
  rw [← h.crc, WireFrame.bytes, hdecode]
  exact congrArg (fun rest => some ([fr], rest)) hrest

/-- What the decoder takes off the front of a buffer is a suffix of it. -/
theorem wireFront_suffix {found : List WireFrame} {rest : List UInt8}
    (h : wireFront rx buf = some (found, rest)) : rest <:+ buf := by
  unfold wireFront at h
  split at h
  · cases h
    exact List.drop_suffix ..
  · cases h
  · cases h
    exact List.drop_suffix ..

theorem crcEnabled_of_decode {cap : Nat} {crcEnabled : Bool}
    (h : thermalWireDecodeFrame buf cap crcEnabled = .ok fr) : fr.crcEnabled = crcEnabled := by
  obtain ⟨-, herr⟩ | ⟨-, e, -, herr⟩ | ⟨opcode, seq, payloadLen, tsMs, rest, hseq, hpl, hts, rfl⟩ :=
    decodeFrame_cases buf
  · rw [herr] at h
    cases h
  · have herr' := herr [] cap crcEnabled
    rw [List.append_nil, h] at herr'
    cases herr'
  · rw [decodeFrame_writeHeader hseq hpl hts] at h
    split_ifs at h
    cases h
    rfl

theorem fits_of_decode (h : thermalWireDecodeFrame buf rx.receiveCap rx.crcEnabled = .ok fr) : fr.Fits rx := by
  have hcap := rx.capped
  have hcrc := crcEnabled_of_decode h
  obtain ⟨-, herr⟩ | ⟨-, e, -, herr⟩ | ⟨opcode, seq, payloadLen, tsMs, rest, hseq, hpl, hts, rfl⟩ :=
    decodeFrame_cases buf
  · rw [herr] at h
    cases h
  · have herr' := herr [] rx.receiveCap rx.crcEnabled
    rw [List.append_nil, h] at herr'
    cases herr'
  · rw [decodeFrame_writeHeader hseq hpl hts] at h
    split_ifs at h with hover hshort
    cases h
    have hlen : (rest.take payloadLen).length ≤ payloadLen := List.length_take_le ..
    exact ⟨hseq, hts, by show (rest.take payloadLen).length ≤ _; omega, Nat.lt_of_le_of_lt hlen hpl, hcrc⟩

/-- With the CRC checked, what the decoder finds is a frame at the front, and
where it finds none it takes off one byte. -/
theorem wireFront_cases (hcrc : rx.crcEnabled = true) {found : List WireFrame} {rest : List UInt8}
    (h : wireFront rx buf = some (found, rest)) :
    (∃ fr, found = [fr] ∧ buf = fr.bytes ++ rest) ∨ found = [] ∧ rest = buf.drop 1 := by
  unfold wireFront at h
  split at h
  · next fr hdecode =>
      cases h
      rw [hcrc] at hdecode
      obtain ⟨-, -, -, hbuf⟩ := eq_frameBytes_of_decode hdecode
      have hchecked := crcEnabled_of_decode hdecode
      refine Or.inl ⟨fr, rfl, ?_⟩
      rw [WireFrame.bytes, hchecked]
      exact hbuf
  · cases h
  · cases h
    exact Or.inr ⟨rfl, rfl⟩

theorem fits_of_mem_scan (h : fr ∈ ((wireScanner rx).scan buf).1) : fr.Fits rx := by
  induction hn : buf.length using Nat.strongRecOn generalizing buf with
  | _ n ih =>
      cases hfront : wireFront rx buf with
      | none =>
          have hscan : (wireScanner rx).scan buf = _ := Scanner.scan_of_none hfront
          simp [hscan] at h
      | some p =>
          have hscan : (wireScanner rx).scan buf = _ := Scanner.scan_of_some hfront
          rw [hscan, List.mem_append] at h
          obtain hfound | hrest := h
          · unfold wireFront at hfront
            split at hfront
            · next hdecode =>
                cases hfront
                rw [List.mem_singleton.mp hfound]
                exact fits_of_decode hdecode
            · cases hfront
            · cases hfront
              cases hfound
          · exact ih _ (hn ▸ (wireFront_stable hfront).1) hrest rfl

end front

/-! ## Resynchronisation -/

section resync

variable {rx : HilRx} {fr : WireFrame}

/-- Behind noise, the scan comes to a frame unless one of the frames it finds
starts in the noise and reaches over the first byte of the frame. -/
theorem scan_behind_noise (hcrc : rx.crcEnabled = true) (h : fr.Fits rx) (noise tail : List UInt8)
    (hlong : rx.bufSize ≤ fr.bytes.length + tail.length) :
    (∃ found, (wireScanner rx).scan (noise ++ (fr.bytes ++ tail)) =
      (found ++ fr :: ((wireScanner rx).scan tail).1, ((wireScanner rx).scan tail).2)) ∨
    ∃ mid other, mid ≠ [] ∧ mid <:+ noise ∧ other.bytes <+: mid ++ (fr.bytes ++ tail) ∧
      mid.length < other.bytes.length ∧
      other ∈ ((wireScanner rx).scan (noise ++ (fr.bytes ++ tail))).1 := by
  have hframe : (wireScanner rx).scan (fr.bytes ++ tail) = _ :=
    Scanner.scan_of_some (wireFront_bytes h tail)
  obtain ⟨found, hscan⟩ | ⟨mid, hmid, hsuffix, hwait | ⟨found, rest, hfront, hcross, hsub⟩⟩ :=
    (wireScanner rx).aligned_or_crossed wireFront_suffix noise (fr.bytes ++ tail)
  · rw [hframe] at hscan
    exact Or.inl ⟨found, hscan⟩
  · have hroom := length_lt_of_wireFront_none hwait
    have hpos := List.length_pos_of_ne_nil hmid
    simp only [List.length_append] at hroom
    omega
  · have hpos := List.length_pos_of_ne_nil hmid
    obtain ⟨other, rfl, hbuf⟩ | ⟨-, rfl⟩ := wireFront_cases hcrc hfront
    · refine Or.inr ⟨mid, other, hmid, hsuffix, ⟨rest, hbuf.symm⟩, ?_, hsub (List.mem_singleton_self other)⟩
      have hlen := congrArg List.length hbuf
      simp only [List.length_append] at hlen hcross
      omega
    · simp only [List.length_drop, List.length_append] at hcross
      omega

/-- **Resynchronisation**: over any run that has read noise, a frame and enough
bytes behind it, the frame is dispatched and after it all that a scan of those
bytes finds, unless a frame with a matching CRC was dispatched that starts in the
noise and reaches over the frame's first byte. -/
theorem serial_resync (rx : HilRx) (hcrc : rx.crcEnabled = true) {fr : WireFrame} (h : fr.Fits rx)
    (noise tail : List UInt8) (hlong : rx.bufSize ≤ fr.bytes.length + tail.length) (is : List RxEvent)
    (hread : consumed rx is = noise ++ (fr.bytes ++ tail)) :
    let dispatched := (Machine.outputs (rxStep rx) ⟨[], []⟩ is).flatten
    (∃ found, dispatched = found ++ fr :: ((wireScanner rx).scan tail).1) ∨
      ∃ mid other, mid ≠ [] ∧ mid <:+ noise ∧ other.bytes <+: mid ++ (fr.bytes ++ tail) ∧
        mid.length < other.bytes.length ∧ other ∈ dispatched := by
  have hinit : Scanned rx [] [] ⟨[], []⟩ := ⟨[], rfl, Scanner.scan_of_none rfl⟩
  obtain ⟨read, hstream, hscan⟩ := scanned_run hinit is
  rw [List.nil_append] at hstream hscan
  have hread' : read = noise ++ (fr.bytes ++ tail) := by
    rw [← hread]
    simp [consumed, hstream]
  rw [hread'] at hscan
  have hfound := scan_behind_noise hcrc h noise tail hlong
  rw [hscan] at hfound
  obtain ⟨found, heq⟩ | hcross := hfound
  · exact Or.inl ⟨found, congrArg Prod.fst heq⟩
  · exact Or.inr hcross

/-- The firmware's receiver on a stray magic byte and a row of duty frames, of which the
first is dispatched. -/
theorem serial_resync_stray_byte :
    let fr : WireFrame := ⟨7, 1000, .cmdRequest, [0x01, 0x80, 0, 200], true⟩
    let tail := (List.replicate 14 fr.bytes).flatten
    let is : List RxEvent := [.arrive (wireMagic0 :: fr.bytes), .drain 10, .arrive tail, .drain 200, .drain 200]
    fr ∈ (Machine.outputs (rxStep hilRx) ⟨[], []⟩ is).flatten := by
  intro fr tail is
  have hread : consumed hilRx is = [wireMagic0] ++ (fr.bytes ++ tail) := by decide +kernel
  obtain ⟨found, hfound⟩ | ⟨mid, other, hmid, hsuffix, hprefix, -, -⟩ :=
    serial_resync hilRx rfl (show fr.Fits hilRx from ⟨by decide, by decide, by decide, by decide, rfl⟩)
      [wireMagic0] tail (by decide +kernel) is hread
  · simp [hfound]
  · obtain rfl : mid = [wireMagic0] := by
      obtain hnil | heq := List.suffix_cons_iff.mp hsuffix |>.symm.imp List.suffix_nil.mp id
      · exact (hmid hnil).elim
      · exact heq
    obtain ⟨rest, hrest⟩ := bytes_eq_cons other
    obtain ⟨more, hmore⟩ := bytes_eq_cons fr
    rw [hrest, hmore] at hprefix
    simp [wireMagic0, wireMagic1] at hprefix

end resync

/-! ## Noise without the magic pair -/

section noMagic

variable {rx : HilRx} {fr : WireFrame} {xs ys : List UInt8}

/-- No two bytes in a row are those a frame starts with. -/
def NoMagic (xs : List UInt8) : Prop := ¬[wireMagic0, wireMagic1] <:+: xs

theorem NoMagic.suffix (h : NoMagic xs) (hys : ys <:+ xs) : NoMagic ys :=
  fun hmagic => h (hmagic.trans hys.isInfix)

/-- A buffer that does not start with the magic pair loses its first byte. -/
theorem wireFront_of_badMagic (hlen : wireHeaderLen ≤ xs.length)
    (hmagic : ¬[wireMagic0, wireMagic1] <+: xs) : wireFront rx xs = some ([], xs.drop 1) := by
  match xs, hlen, hmagic with
  | b0 :: b1 :: rest, hlen, hmagic =>
      have hne : b0 ≠ wireMagic0 ∨ b1 ≠ wireMagic1 := by
        by_contra hboth
        simp only [not_or, not_not] at hboth
        obtain ⟨rfl, rfl⟩ := hboth
        exact hmagic ⟨rest, rfl⟩
      unfold wireFront thermalWireDecodeFrame
      simp only [List.getD_cons_zero, List.getD_cons_succ, if_neg (Nat.not_lt.mpr hlen), if_pos hne]

/-- Behind such noise a frame is found at once. -/
theorem scan_of_noMagic_append (h : NoMagic xs) {w : WireFrame} {rest : List UInt8} (hcrc : rx.crcEnabled = true)
    (hys : wireFront rx ys = some ([w], rest)) :
    (wireScanner rx).scan (xs ++ ys) = (wireScanner rx).scan ys := by
  obtain ⟨fr, -, rfl⟩ : ∃ fr : WireFrame, [w] = [fr] ∧ ys = fr.bytes ++ rest := by
    obtain hfr | ⟨hnil, -⟩ := wireFront_cases hcrc hys
    · exact hfr
    · cases hnil
  obtain ⟨more, hmore⟩ := bytes_eq_cons fr
  induction xs with
  | nil => rfl
  | cons x xs ih =>
      have hbad : ¬[wireMagic0, wireMagic1] <+: x :: xs ++ (fr.bytes ++ rest) := by
        intro hpre
        cases xs with
        | nil =>
            rw [hmore] at hpre
            simp [wireMagic0, wireMagic1] at hpre
        | cons y xs =>
            simp only [List.cons_append, List.cons_prefix_cons, List.nil_prefix, and_true] at hpre
            exact h ⟨[], xs, by simp [hpre]⟩
      have hlen : wireHeaderLen ≤ (x :: xs ++ (fr.bytes ++ rest)).length := by
        simp only [List.length_append, length_bytes]
        omega
      have hskip : (wireScanner rx).scan _ = _ := Scanner.scan_of_some (wireFront_of_badMagic hlen hbad)
      rw [hskip]
      exact ih (h.suffix (List.suffix_cons x xs))

/-- **Noise without the magic pair** carries nothing and hides nothing. -/
theorem carries_of_noMagic (hcrc : rx.crcEnabled = true) (h : NoMagic xs) : (wireScanner rx).Carries xs [] := by
  induction xs with
  | nil => exact Scanner.carries_nil rfl
  | cons x xs ih =>
      by_cases hlen : wireHeaderLen ≤ (x :: xs).length
      · have hbad : ¬[wireMagic0, wireMagic1] <+: x :: xs := fun hpre => h hpre.isInfix
        have hskip : (wireScanner rx).scan (x :: xs) = _ :=
          Scanner.scan_of_some (wireFront_of_badMagic hlen hbad)
        have hrest := ih (h.suffix (List.suffix_cons x xs))
        unfold Scanner.Carries at *
        rw [hskip]
        exact hrest
      · have hwait : (wireScanner rx).scan (x :: xs) = _ := Scanner.scan_of_none (by
          show wireFront rx (x :: xs) = none
          unfold wireFront thermalWireDecodeFrame
          rw [if_pos (Nat.lt_of_not_le hlen)])
        unfold Scanner.Carries
        rw [hwait]
        exact ⟨rfl, fun hys => scan_of_noMagic_append h hcrc hys⟩

end noMagic

/-! ## Lines -/

/-- An accumulator with the bytes on their way to it: its buffer waits, and the
line carries `ws`. -/
structure Line (rx : HilRx) (s : RxState) (ws : List WireFrame) : Prop where
  waits : wireFront rx s.buf = none
  carries : (wireScanner rx).Carries (s.buf ++ s.pending) ws

namespace Line

variable {rx : HilRx} {s : RxState} {ws : List WireFrame} {fr : WireFrame}

theorem write (h : Line rx s ws) (hfr : fr.Fits rx) :
    Line rx ⟨s.buf, s.pending ++ fr.bytes⟩ (ws ++ [fr]) where
  waits := h.waits
  carries := by
    have hfront := wireFront_bytes hfr []
    rw [List.append_nil] at hfront
    simpa using h.carries.write hfront rfl

theorem writes (h : Line rx s ws) {frs : List WireFrame} (hfrs : ∀ fr ∈ frs, fr.Fits rx) :
    Line rx ⟨s.buf, s.pending ++ frs.flatMap WireFrame.bytes⟩ (ws ++ frs) := by
  induction frs generalizing s ws with
  | nil => simpa using h
  | cons fr frs ih =>
      rw [List.forall_mem_cons] at hfrs
      simpa using ih (h.write hfrs.1) hfrs.2

/-- A drain dispatches the first of the frames a line carries. -/
theorem drain (h : Line rx s ws) (want : Nat) :
    ∃ vs, ws = (hilDrain rx s want).2 ++ vs ∧ Line rx (hilDrain rx s want).1 vs := by
  have hfree : rx.bufSize - s.buf.length > 0 := Nat.sub_pos_of_lt (length_lt_of_wireFront_none h.waits)
  have hcarries := h.carries
  rw [← List.take_append_drop (min want (rx.bufSize - s.buf.length)) s.pending, ← List.append_assoc] at hcarries
  obtain ⟨vs, hvs, hrest⟩ := hcarries.cut
  have hwaits := Scanner.front_scan (S := wireScanner rx)
    (s.buf ++ s.pending.take (min want (rx.bufSize - s.buf.length)))
  unfold hilDrain
  simp only [if_pos hfree]
  rw [drainLoop_eq_scan (Nat.le_refl _)]
  exact ⟨vs, hvs, hwaits, hrest⟩

theorem fits (h : Line rx s ws) (hfr : fr ∈ ws) : fr.Fits rx := by
  rw [← h.carries.1] at hfr
  exact fits_of_mem_scan hfr

/-- On a line whose bytes have all been read nothing is carried. -/
theorem eq_nil (h : Line rx s ws) (hread : s.pending = []) : ws = [] := by
  have hcarries := h.carries
  rw [hread, List.append_nil] at hcarries
  exact hcarries.eq_nil h.waits

end Line

/-- A scan of frames in a row finds them. -/
theorem scan_flatMap_bytes {rx : HilRx} {frs : List WireFrame} (h : ∀ fr ∈ frs, fr.Fits rx) :
    ((wireScanner rx).scan (frs.flatMap WireFrame.bytes)).1 = frs := by
  have hempty : Line rx ⟨[], []⟩ [] := ⟨rfl, Scanner.carries_nil rfl⟩
  have hline := hempty.writes h
  simpa using hline.carries.1

end ThermalCore
