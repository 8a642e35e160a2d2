import ThermalCore.Accepted
import ThermalCore.Wire.HilLink

/-!
# Readings over the HIL link

What the daemon's accessor reports for a sensor is the last sample of it that
arrived, while that is fresh, and a temperature the firmware's driver returned.

* `slot_dispatchMessage` — what one message does to the cell of a sensor;
* `cell_run` — along every run the cell is that of the last sample dispatched,
  whatever was on the line;
* `ReadingsInv` — the firmware caches and reports temperatures it has read, which
  needs the line to deliver what was put on it;
* `hil_reading_iff` — what the accessor makes of the two.
-/

namespace ThermalCore

open MachineInt

/-! ## The cell of a sensor -/

/-- A sample of a sensor, with the time it is dispatched at. -/
def sampleOf (slot nowMs : Nat) : WireMessage → Option (Nat × Int)
  | .telemSample signalId _ value => if signalId = tsigHilSensorTemp slot then some (nowMs, value) else none
  | .telemEvent .. | .cmdRequest _ | .cmdAck .. | .cmdNack .. => none

/-- The samples of a sensor the daemon dispatches in one event. -/
def arrivalsOf (slot : Nat) (o : LinkTraffic) : List (Nat × Int) :=
  (messages o.received).filterMap (sampleOf slot o.receivedAtMs)

/-- The cell a sample leaves. -/
def cellOf (arrival : Nat × Int) : HilSampleCell := ⟨arrival.2, arrival.1, true⟩

section cell

variable {slot nowMs : Nat}

/-- The high bits of an offset choose the kind of sample, the low ones the slot. -/
theorem hilSignal_cases {off : Nat} (h : off < 0x0100) :
    (u8 (u16 off &&& 0xF0) = tsigHilSubSensorTemp ↔ off < 16) ∧ u8 (u16 off &&& 0x0F) = off % 16 := by
  revert off
  decide +kernel

theorem tsigHilSensorTemp_of_lt (h : slot < maxSensors) : tsigHilSensorTemp slot = tsigHilBase + slot := by
  have hlt : slot < 8 := h
  unfold tsigHilSensorTemp tsigHilSubSensorTemp tsigHilBase
  rw [Nat.add_zero, u16_of_lt (by omega)]

/-- A sample of the sensor fills its cell, and nothing else changes it. -/
theorem slot_dispatchMessage (h : slot < maxSensors) (s : HilSerial) (msg : WireMessage) :
    (dispatchMessage nowMs s msg).sensorCache.slot slot =
      ((sampleOf slot nowMs msg).map cellOf).getD (s.sensorCache.slot slot) := by
  have hlt : slot < 8 := h
  cases msg with
  | telemSample signalId flags value =>
      unfold dispatchMessage dispatchTelemSample sampleOf
      rw [tsigHilSensorTemp_of_lt h]
      by_cases hrange : signalId ≥ tsigHilBase ∧ signalId < tsigHilBase + 0x0100
      · obtain ⟨off, rfl⟩ := Nat.exists_eq_add_of_le hrange.1
        obtain ⟨hsub, hmod⟩ := hilSignal_cases (show off < 0x0100 by omega)
        simp only [if_pos hrange, Nat.add_sub_cancel_left, hsub, hmod]
        by_cases hoff : off = slot
        · subst hoff
          simp [Nat.mod_eq_of_lt (show off < 16 by omega), show off < 16 by omega, hlt, cellOf]
        · rw [if_neg (show ¬tsigHilBase + off = tsigHilBase + slot by omega)]
          split_ifs with htemp
          · simp [Nat.mod_eq_of_lt htemp.1, hoff]
          · rfl
          · rfl
      · have hother : ¬signalId = tsigHilBase + slot := by
          intro heq
          exact hrange (by omega)
        simp [if_neg hrange, if_neg hother]
  | telemEvent | cmdRequest | cmdAck | cmdNack => rfl

/-- The cell after messages is that of the last sample among them. -/
theorem slot_foldl_dispatchMessage (h : slot < maxSensors) (s : HilSerial) (msgs : List WireMessage) :
    (msgs.foldl (dispatchMessage nowMs) s).sensorCache.slot slot =
      ((msgs.filterMap (sampleOf slot nowMs)).getLast?.map cellOf).getD (s.sensorCache.slot slot) := by
  induction msgs using List.reverseRecOn with
  | nil => rfl
  | append_singleton msgs msg ih =>
      rw [List.foldl_append, List.foldl_cons, List.foldl_nil, slot_dispatchMessage h, ih,
        List.filterMap_append]
      cases hmsg : sampleOf slot nowMs msg with
      | none => simp [hmsg]
      | some arrival => simp [hmsg]

/-- A cell is fresh where a sample has arrived that is not too old. -/
theorem fresh_cellOf {last : Option (Nat × Int)} {maxStalenessMs : Nat} :
    ((last.map cellOf).getD default).fresh nowMs maxStalenessMs = true ↔
      ∃ t temp, last = some (t, temp) ∧ subU32 nowMs t ≤ maxStalenessMs := by
  cases last with
  | none =>
      have hunseen : (default : HilSampleCell).everSeen = false := rfl
      simp [HilSampleCell.fresh, hunseen]
  | some arrival =>
      obtain ⟨t, temp⟩ := arrival
      have hfresh : ((some (t, temp)).map cellOf |>.getD default).fresh nowMs maxStalenessMs =
          decide (subU32 nowMs t ≤ maxStalenessMs) := rfl
      rw [hfresh, decide_eq_true_iff]
      simp

theorem mem_arrivals {os : List LinkTraffic} {t : Nat} {temp : Int}
    (h : (t, temp) ∈ os.flatMap (arrivalsOf slot)) :
    ∃ flags, .telemSample (tsigHilSensorTemp slot) flags temp ∈ messages (os.flatMap LinkTraffic.received) := by
  obtain ⟨o, ho, harrival⟩ := List.mem_flatMap.mp h
  obtain ⟨msg, hmsg, hsample⟩ := List.mem_filterMap.mp harrival
  obtain ⟨fr, hfr, hdecode⟩ := List.mem_filterMap.mp hmsg
  have hreceived : msg ∈ messages (os.flatMap LinkTraffic.received) :=
    List.mem_filterMap.mpr ⟨fr, List.mem_flatMap.mpr ⟨o, ho, hfr⟩, hdecode⟩
  cases msg with
  | telemSample signalId flags value =>
      simp only [sampleOf] at hsample
      split_ifs at hsample with hsig
      cases hsample
      exact ⟨flags, hsig ▸ hreceived⟩
  | telemEvent | cmdRequest | cmdAck | cmdNack => cases hsample

end cell

/-! ## Where a reading comes from -/

/-- The firmware's driver returned this temperature for the sensor in a pass. -/
def ReadIn (is : List LinkEvent) (slot : Nat) (temp : Int) : Prop :=
  ∃ inp, LinkEvent.pass inp ∈ is ∧ inp.readMc slot = some temp

/-- The firmware caches and reports temperatures it has read. -/
structure ReadingsInv (is : List LinkEvent) (s : HilLink) (os : List LinkTraffic) : Prop where
  cached : ∀ slot < maxSensors, s.peripheral.cachedValid.slot slot = true →
    ReadIn is slot (s.peripheral.cachedTempMc.slot slot)
  reported : ∀ slot < maxSensors, ∀ flags value,
    .telemSample (tsigHilSensorTemp slot) flags value ∈ messages (os.flatMap LinkTraffic.reported) →
      ReadIn is slot value

section run

variable {cfg : Config} {sensorOk : Bool} {s : HilLink} {is : List LinkEvent} {os : List LinkTraffic}

theorem ReadIn.later {slot : Nat} {temp : Int} (h : ReadIn is slot temp) (e : LinkEvent) :
    ReadIn (is ++ [e]) slot temp := by
  obtain ⟨inp, hmem, hread⟩ := h
  exact ⟨inp, List.mem_append_left _ hmem, hread⟩

/-- A refresh caches what it reads, and keeps the rest. -/
theorem cached_hilRefresh {p : HilPeripheral} {inp : HilPassInput} {slot : Nat}
    (h : (hilRefresh cfg sensorOk inp p).cachedValid.slot slot = true) :
    inp.readMc slot = some ((hilRefresh cfg sensorOk inp p).cachedTempMc.slot slot) ∨
      p.cachedValid.slot slot = true ∧
        (hilRefresh cfg sensorOk inp p).cachedTempMc.slot slot = p.cachedTempMc.slot slot := by
  unfold hilRefresh at h ⊢
  split_ifs at h ⊢
  · simp only [Vector.slot_forSlots] at h ⊢
    split_ifs at h ⊢
    · obtain ⟨temp, hread⟩ := Option.isSome_iff_exists.mp h
      simp [hread]
    · exact Or.inr ⟨h, rfl⟩
  · exact Or.inr ⟨h, rfl⟩

/-- A sample of a sensor in a pass is the cached temperature, and that is valid. -/
theorem mem_passMessages (hs : cfg.sensorCount ≤ maxSensors) (ha : cfg.actuatorCount ≤ maxActuators)
    {p : HilPeripheral} {ticksDelta : Nat → Nat} {commands : List WireFrame} {slot flags : Nat} {value : Int}
    (hslot : slot < maxSensors)
    (h : .telemSample (tsigHilSensorTemp slot) flags value ∈ passMessages cfg p ticksDelta commands) :
    p.cachedValid.slot slot = true ∧ value = p.cachedTempMc.slot slot := by
  have hlt : slot < 8 := hslot
  unfold passMessages hilSamples at h
  rw [List.mem_append, List.mem_map, List.mem_map] at h
  obtain ⟨x, hx, heq⟩ | ⟨fr, -, heq⟩ := h
  · obtain ⟨hsig, -, rfl⟩ := WireMessage.telemSample.inj heq
    rw [List.mem_append, Loop.mem_emit, Loop.mem_emit] at hx
    obtain ⟨i, hi, hx⟩ | ⟨i, hi, hx⟩ := hx
    · have hi8 : i < maxSensors := Nat.lt_of_lt_of_le hi hs
      split_ifs at hx with hvalid
      · obtain rfl := List.mem_singleton.mp hx
        rw [tsigHilSensorTemp_of_lt hslot, tsigHilSensorTemp_of_lt hi8] at hsig
        obtain rfl : i = slot := by omega
        exact ⟨hvalid, rfl⟩
      · cases hx
    · have hi2 : i < 2 := Nat.lt_of_lt_of_le hi ha
      obtain rfl := List.mem_singleton.mp hx
      rw [tsigHilSensorTemp_of_lt hslot] at hsig
      unfold tsigHilTachRpm tsigHilSubTachRpm tsigHilBase at hsig
      rw [u16_of_lt (by omega)] at hsig
      omega
  · have hreply := isReply_hilReply cfg fr
    rw [heq] at hreply
    cases hreply

/-- One event brings the cell of a sensor up to the last sample it dispatches. -/
theorem cell_step (cfg : Config) (sensorOk : Bool) {slot : Nat} (hslot : slot < maxSensors) {arrived : List (Nat × Int)}
    (h : s.daemon.sensorCache.slot slot = (arrived.getLast?.map cellOf).getD default) (e : LinkEvent) :
    (linkStep cfg sensorOk s e).1.daemon.sensorCache.slot slot =
      ((arrived ++ arrivalsOf slot (linkStep cfg sensorOk s e).2).getLast?.map cellOf).getD default := by
  cases e with
  | write tsMs slot' duty taken =>
      simpa [linkStep, bspHilSerialWriteActuator, arrivalsOf, messages] using h
  | pass inp => simpa [linkStep, arrivalsOf, messages] using h
  | drain nowMs want =>
      have harrivals : arrivalsOf slot (linkStep cfg sensorOk s (.drain nowMs want)).2 =
          (messages (bspHilSerialDrain ⟨s.daemon.rxBuf, s.toDaemon⟩ want).2).filterMap (sampleOf slot nowMs) := rfl
      have hcell : (linkStep cfg sensorOk s (.drain nowMs want)).1.daemon.sensorCache.slot slot = _ :=
        (congrArg (fun d : HilSerial => d.sensorCache.slot slot) (foldl_dispatchFrame nowMs _ _)).trans
          (slot_foldl_dispatchMessage hslot _ _)
      rw [hcell, harrivals, List.getLast?_append, Option.map_or]
      cases ((messages (bspHilSerialDrain ⟨s.daemon.rxBuf, s.toDaemon⟩ want).2).filterMap
        (sampleOf slot nowMs)).getLast? with
      | none => simpa using h
      | some arrival => rfl

/-- **The cell of a sensor** after a run is that of the last sample of it that was
dispatched, and empty before the first.  Nothing is asked of the line. -/
theorem cell_run (cfg : Config) (sensorOk : Bool) (boot : List UInt8) (is : List LinkEvent) {slot : Nat}
    (hslot : slot < maxSensors) :
    (Machine.after (linkStep cfg sensorOk) (hilLinkOpened boot) is).daemon.sensorCache.slot slot =
      (((Machine.outputs (linkStep cfg sensorOk) (hilLinkOpened boot) is).flatMap
        (arrivalsOf slot)).getLast?.map cellOf).getD default := by
  induction is using List.reverseRecOn with
  | nil => exact Vector.slot_replicate _ hslot
  | append_singleton is e ih =>
      rw [Machine.after_concat, Machine.outputs_concat, flatMap_concat]
      exact cell_step cfg sensorOk hslot ih e

/-- One event keeps what is cached and reported to temperatures read. -/
theorem ReadingsInv.step (hs : cfg.sensorCount ≤ maxSensors) (ha : cfg.actuatorCount ≤ maxActuators)
    (hc : CommandsInv cfg s os) (h : ReadingsInv is s os) {e : LinkEvent} (he : e.Sound) :
    ReadingsInv (is ++ [e]) (linkStep cfg sensorOk s e).1 (os ++ [(linkStep cfg sensorOk s e).2]) := by
  cases e with
  | write tsMs slot duty taken =>
      refine ⟨fun slot hslot hvalid => ?_, fun slot hslot flags value hmem => ?_⟩
      · exact (h.cached slot hslot hvalid).later _
      · exact (h.reported slot hslot flags value (by simpa [linkStep] using hmem)).later _
  | drain nowMs want =>
      refine ⟨fun slot hslot hvalid => ?_, fun slot hslot flags value hmem => ?_⟩
      · exact (h.cached slot hslot hvalid).later _
      · exact (h.reported slot hslot flags value (by simpa [linkStep] using hmem)).later _
  | pass inp =>
      obtain ⟨hnumbered, -, -, -, htyped⟩ := linkStep_pass cfg sensorOk hc.peripheral he
        (hc.seq_commands inp)
      have hcached : ∀ slot < maxSensors,
          (hilRefresh cfg sensorOk inp s.peripheral).cachedValid.slot slot = true →
            ReadIn (is ++ [.pass inp]) slot
              ((hilRefresh cfg sensorOk inp s.peripheral).cachedTempMc.slot slot) := by
        intro slot hslot hvalid
        obtain hread | ⟨hold, heq⟩ := cached_hilRefresh hvalid
        · exact ⟨inp, List.mem_append_right _ (List.mem_singleton_self _), hread⟩
        · rw [heq]
          exact (h.cached slot hslot hold).later _
      refine ⟨hcached, fun slot hslot flags value hmem => ?_⟩
      rw [flatMap_concat, messages_append, hnumbered, messages_numbered _ htyped, List.mem_append] at hmem
      obtain hold | hnow := hmem
      · exact (h.reported slot hslot flags value hold).later _
      · obtain ⟨hvalid, rfl⟩ := mem_passMessages hs ha hslot hnow
        exact hcached slot hslot hvalid

/-- Along every run the firmware caches and reports temperatures it has read. -/
theorem readingsInv_run (cfg : Config) (sensorOk : Bool) (hs : cfg.sensorCount ≤ maxSensors)
    (ha : cfg.actuatorCount ≤ maxActuators) (boot : List UInt8) (h : ∀ e ∈ is, e.Sound) :
    ReadingsInv is (Machine.after (linkStep cfg sensorOk) (hilLinkOpened boot) is)
      (Machine.outputs (linkStep cfg sensorOk) (hilLinkOpened boot) is) := by
  induction is using List.reverseRecOn with
  | nil =>
      refine ⟨fun slot hslot hvalid => ?_, fun slot _ flags value hmem => ?_⟩
      · have hpark : hilPeripheralBoot.cachedValid.slot slot = false := Vector.slot_replicate _ hslot
        rw [Machine.after_nil] at hvalid
        exact absurd hvalid (by simp [hilLinkOpened, hpark])
      · cases hmem
  | append_singleton is e ih =>
      rw [List.forall_mem_append] at h
      rw [Machine.after_concat, Machine.outputs_concat]
      exact (ih h.1).step hs ha (commandsInv_run cfg sensorOk boot h.1) (h.2 e (List.mem_singleton_self e))

/-- What the daemon dispatches, the firmware reported. -/
theorem mem_reported_of_received {boot : List UInt8} (hboot : NoMagic boot) (h : ∀ e ∈ is, e.Sound)
    {msg : WireMessage}
    (hmsg : msg ∈ messages
      ((Machine.outputs (linkStep cfg sensorOk) (hilLinkOpened boot) is).flatMap LinkTraffic.received)) :
    msg ∈ messages
      ((Machine.outputs (linkStep cfg sensorOk) (hilLinkOpened boot) is).flatMap LinkTraffic.reported) := by
  obtain ⟨ws, hline, -⟩ := (reportsInv_run cfg sensorOk hboot h).line
  rw [hline, messages_append]
  exact List.mem_append_left _ hmsg

end run

/-- **What the daemon reads over the link**: along any run, with the daemon's
configuration and the firmware's each their own, the accessor reports a sensor
valid exactly when a sample of it has been dispatched and the last one is no older
than the sensor's `max_staleness_ms`, as the 32-bit clock measures it; and its value
is that sample's.  Where the boot log has no magic bytes and the driver takes each
frame whole or not at all, that is a temperature the firmware's driver returned for
this sensor in a pass of the run. -/
theorem hil_reading_iff (cfg dcfg : Config) (hcfg : Accepted cfg) (sensorOk : Bool) (boot : List UInt8)
    (is : List LinkEvent) {slot : Nat} (hslot : slot < maxSensors) (hcount : slot < dcfg.sensorCount)
    (nowMs : Nat) :
    let s := Machine.after (linkStep cfg sensorOk) (hilLinkOpened boot) is
    let last := ((Machine.outputs (linkStep cfg sensorOk) (hilLinkOpened boot) is).flatMap
      (arrivalsOf slot)).getLast?
    let smp := bspHilSerialReadSensor dcfg s.daemon slot nowMs
    (smp.valid ≠ 0 ↔ ∃ t temp, last = some (t, temp) ∧
      subU32 nowMs t ≤ (dcfg.sensors.slot slot).maxStalenessMs) ∧
    ∀ t temp, last = some (t, temp) → smp.value = temp ∧
      (NoMagic boot → (∀ e ∈ is, e.Sound) → ReadIn is slot temp) := by
  intro s last smp
  have hrules := (validateCounts_iff cfg).mp ((accepted_iff cfg).mp hcfg).counts
  have hsmp : smp =
      { id := (dcfg.sensors.slot slot).id, kind := SampleKind.tempMc.code
        valid := ((s.daemon.sensorCache.slot slot).fresh nowMs (dcfg.sensors.slot slot).maxStalenessMs).toNat
        value := (s.daemon.sensorCache.slot slot).value } :=
    if_neg (by rintro (hge | hge) <;> omega)
  have hcell : s.daemon.sensorCache.slot slot = (last.map cellOf).getD default :=
    cell_run cfg sensorOk boot is hslot
  rw [hsmp, hcell]
  constructor
  · rw [← fresh_cellOf]
    simp
  · intro t temp hlast
    have hmem := List.mem_of_getLast? hlast
    refine ⟨by simp [hlast, cellOf], fun hboot h => ?_⟩
    obtain ⟨flags, hmsg⟩ := mem_arrivals hmem
    exact (readingsInv_run cfg sensorOk hrules.sensors hrules.actuators boot h).reported slot hslot flags
      temp (mem_reported_of_received hboot h hmsg)

/-- The reading of the run is good for a second, and was read. -/
theorem hil_reading_iff_oneDutyRun :
    let smp (nowMs : Nat) := bspHilSerialReadSensor oneFanConfig
      (Machine.after (linkStep oneFanConfig true) (hilLinkOpened [0x49, wireMagic0]) oneDutyRun).daemon 0 nowMs
    ((smp 2100).valid ≠ 0 ∧ (smp 2100).value = 45000) ∧ ¬(smp 2101).valid ≠ 0 ∧ ReadIn oneDutyRun 0 45000 := by
  have hread (nowMs : Nat) := hil_reading_iff oneFanConfig oneFanConfig accepted_oneFanConfig true
    [0x49, wireMagic0] oneDutyRun (show 0 < maxSensors by decide) (by decide) nowMs
  have hlast : ((Machine.outputs (linkStep oneFanConfig true) (hilLinkOpened [0x49, wireMagic0])
      oneDutyRun).flatMap (arrivalsOf 0)).getLast? = some (1100, 45000) := by decide +kernel
  dsimp only at hread ⊢
  simp only [hlast] at hread
  obtain ⟨hvalid, hvalue⟩ := hread 2100
  refine ⟨⟨hvalid.mpr ⟨1100, 45000, rfl, by decide⟩, (hvalue 1100 45000 rfl).1⟩, fun hlate => ?_,
    (hvalue 1100 45000 rfl).2 noMagic_bootLog oneDutyRun_sound⟩
  obtain ⟨t, temp, heq, hfresh⟩ := (hread 2101).1.mp hlate
  cases heq
  revert hfresh
  decide

end ThermalCore
