import ThermalCore.Marks
import ThermalCore.SampleOrder

/-!
# Snapshots and duties on the platforms

Every platform fills the sample array slot by slot: a temperature for each sensor,
a reading for each tach and, where it has contexts, a value for each of them.  On an
accepted configuration the core takes every such array, and finds each slot's own
sample in it.  The duties go back to the slots by their ids.
-/

namespace ThermalCore

open MachineInt

/-- What a driver answers: `valid` and `value`. -/
structure DriverReading where
  valid : Nat
  value : Int
deriving DecidableEq, Inhabited

/-- The id of a slot. -/
def slotId (cfg : Config) : SampleKind → Nat → Nat
  | .tempMc, slot => (cfg.sensors.slot slot).id
  | .tachRpm, slot => (cfg.actuators.slot slot).id
  | .contextI32, slot => (cfg.contexts.slot slot).id

def slotSample (cfg : Config) (kind : SampleKind) (slot : Nat) (r : DriverReading) : Sample :=
  ⟨slotId cfg kind slot, kind.code, r.valid, r.value⟩

/-- The slots in the order of the array; a platform may leave the contexts out. -/
def sampleSlots (cfg : Config) (contextCount : Nat) : List (SampleKind × Nat) :=
  (List.range cfg.sensorCount).map (Prod.mk .tempMc) ++
    ((List.range cfg.actuatorCount).map (Prod.mk .tachRpm) ++
      (List.range contextCount).map (Prod.mk .contextI32))

/-- The array of a platform whose drivers answer `read`. -/
def slotSamples (cfg : Config) (contextCount : Nat) (read : SampleKind → Nat → DriverReading) : List Sample :=
  (sampleSlots cfg contextCount).map fun x => slotSample cfg x.1 x.2 (read x.1 x.2)

section slots

variable {cfg : Config} {contextCount : Nat} {kind : SampleKind} {slot : Nat}

/-- How many slots of a kind the array has. -/
def slotCount (cfg : Config) (contextCount : Nat) : SampleKind → Nat
  | .tempMc => cfg.sensorCount
  | .tachRpm => cfg.actuatorCount
  | .contextI32 => contextCount

theorem mem_sampleSlots : (kind, slot) ∈ sampleSlots cfg contextCount ↔ slot < slotCount cfg contextCount kind := by
  cases kind <;> simp [sampleSlots, slotCount]

theorem nodup_sampleSlots (cfg : Config) (contextCount : Nat) : (sampleSlots cfg contextCount).Nodup := by
  have hkind (k : SampleKind) (n : Nat) : ((List.range n).map (Prod.mk k)).Nodup :=
    List.nodup_range.map (Prod.mk_right_injective k)
  unfold sampleSlots
  rw [List.nodup_append', List.nodup_append']
  refine ⟨hkind .tempMc _, ⟨hkind .tachRpm _, hkind .contextI32 _, ?_⟩, ?_⟩
  · simp [List.disjoint_left]
  · simp [List.disjoint_left]

theorem slotCount_le (hr : ConfigRules cfg) (hcontexts : contextCount ≤ cfg.contextCount) :
    slotCount cfg contextCount kind ≤ 8 := by
  have hcounts := (validateCounts_iff cfg).mp hr.counts
  have hsensors : cfg.sensorCount ≤ 8 := hcounts.sensors
  have hactuators : cfg.actuatorCount ≤ 2 := hcounts.actuators
  have hcontext : cfg.contextCount ≤ 4 := hcounts.contexts
  cases kind <;> simp only [slotCount] <;> omega

/-- The keys of the slots tell them apart. -/
theorem sampleKey_inj {kind' : SampleKind} {slot' : Nat} (h : slot < 8) (h' : slot' < 8)
    (heq : sampleKey kind.code slot = sampleKey kind'.code slot') : (kind, slot) = (kind', slot') := by
  have hall : ∀ s < 8, ∀ s' < 8,
      sampleKey kind.code s = sampleKey kind'.code s' → (kind, s) = (kind', s') := by
    cases kind <;> cases kind' <;> decide +kernel
  exact hall slot h slot' h' heq

/-- A sample resolves to its slot. -/
theorem sampleSlot_slotSample (hr : ConfigRules cfg) (hcontexts : contextCount ≤ cfg.contextCount)
    (h : slot < slotCount cfg contextCount kind) (r : DriverReading) :
    sampleSlot cfg (slotSample cfg kind slot r) = some slot := by
  cases kind with
  | tempMc => exact (findSensorSlot_eq_some hr).mpr ⟨h, rfl⟩
  | tachRpm => exact (findActuatorSlot_eq_some hr).mpr ⟨h, rfl⟩
  | contextI32 => exact (findContextSlot_eq_some hr).mpr ⟨Nat.lt_of_lt_of_le h hcontexts, rfl⟩

variable {read : SampleKind → Nat → DriverReading}

theorem scannable_slotSamples (hr : ConfigRules cfg) (hcontexts : contextCount ≤ cfg.contextCount) :
    Scannable cfg (slotSamples cfg contextCount read) := by
  have hkey : ∀ x ∈ sampleSlots cfg contextCount,
      sampleKeyOf cfg (slotSample cfg x.1 x.2 (read x.1 x.2)) = some (sampleKey x.1.code x.2) := by
    rintro ⟨kind, slot⟩ hx
    unfold sampleKeyOf
    rw [sampleSlot_slotSample hr hcontexts (mem_sampleSlots.mp hx), Option.map_some]
    rfl
  constructor
  · intro smp hmem
    obtain ⟨x, hx, rfl⟩ := List.mem_map.mp hmem
    rw [hkey x hx]
    exact Option.some_ne_none _
  · unfold slotSamples
    rw [List.map_map]
    refine (nodup_sampleSlots cfg contextCount).map_on ?_
    rintro ⟨kind, slot⟩ hx ⟨kind', slot'⟩ hx' heq
    rw [Function.comp_apply, Function.comp_apply, hkey _ hx, hkey _ hx', Option.some.injEq] at heq
    have hlt := Nat.lt_of_lt_of_le (mem_sampleSlots.mp hx) (slotCount_le hr hcontexts)
    have hlt' := Nat.lt_of_lt_of_le (mem_sampleSlots.mp hx') (slotCount_le hr hcontexts)
    exact sampleKey_inj hlt hlt' heq

@[simp] theorem entries_snapshotOf (nowMs : Nat) (samples : List Sample) :
    (snapshotOf nowMs samples).entries = samples := by
  simp [snapshotOf, InputSnapshot.entries]

/-- The array holds the samples of every slot. -/
theorem length_slotSamples_le (hr : ConfigRules cfg) (hcontexts : contextCount ≤ cfg.contextCount) :
    (slotSamples cfg contextCount read).length ≤ maxSamplesPerSnapshot := by
  have hcounts := (validateCounts_iff cfg).mp hr.counts
  have hsensors : cfg.sensorCount ≤ 8 := hcounts.sensors
  have hactuators : cfg.actuatorCount ≤ 2 := hcounts.actuators
  have hcontext : cfg.contextCount ≤ 4 := hcounts.contexts
  simp only [slotSamples, sampleSlots, List.length_map, List.length_append, List.length_range]
  show cfg.sensorCount + (cfg.actuatorCount + contextCount) ≤ 16
  omega

/-- The core takes the snapshot. -/
theorem admissible_slotSamples (hr : ConfigRules cfg) (hcontexts : contextCount ≤ cfg.contextCount)
    (nowMs : Nat) : Admissible cfg (snapshotOf nowMs (slotSamples cfg contextCount read)) := by
  have hlen : (slotSamples cfg contextCount read).length ≤ maxSamplesPerSnapshot :=
    length_slotSamples_le hr hcontexts
  have hscannable : Scannable cfg (slotSamples cfg contextCount read) := scannable_slotSamples hr hcontexts
  have hscan := (scanSamples_eq_ok_iff cfg [] _).mpr ⟨hscannable, by simp⟩
  simp only [Admissible, preflightSnapshot, entries_snapshotOf, hscan]
  simp [snapshotOf, Nat.not_lt.mpr hlen, Check.failIf]

/-- The core finds the slot's sample in it. -/
theorem find_slotSamples (hr : ConfigRules cfg) (hcontexts : contextCount ≤ cfg.contextCount) (nowMs : Nat)
    (h : slot < slotCount cfg contextCount kind) :
    (snapshotOf nowMs (slotSamples cfg contextCount read)).find kind (slotId cfg kind slot) =
      some (slotSample cfg kind slot (read kind slot)) := by
  have hmem : slotSample cfg kind slot (read kind slot) ∈ slotSamples cfg contextCount read :=
    List.mem_map.mpr ⟨(kind, slot), mem_sampleSlots.mpr h, rfl⟩
  unfold InputSnapshot.find
  rw [entries_snapshotOf]
  have hsome : (slotSamples cfg contextCount read).find? (fun smp =>
      smp.kind == kind.code && smp.id == slotId cfg kind slot) ≠ none := by
    intro hnone
    simpa [slotSample] using List.find?_eq_none.mp hnone _ hmem
  obtain ⟨found, hfound⟩ := Option.ne_none_iff_exists'.mp hsome
  have hmatch := List.find?_some hfound
  simp only [Bool.and_eq_true, beq_iff_eq] at hmatch
  rw [hfound, (scannable_slotSamples hr hcontexts).unique (List.mem_of_find?_eq_some hfound) hmem hmatch.1 hmatch.2]

end slots

/-! ## Duties -/

/-- The slot a duty goes to: the first with the command's id. -/
def dutySlot (cfg : Config) (id : Nat) : Option Nat :=
  Loop.first cfg.actuatorCount fun s => (cfg.actuators.slot s).id == id

theorem dutySlot_id {cfg : Config} (hr : ConfigRules cfg) {a : Nat} (ha : a < cfg.actuatorCount) :
    dutySlot cfg (cfg.actuators.slot a).id = some a :=
  (findActuatorSlot_eq_some hr).mpr ⟨ha, rfl⟩

/-- The commands of an accepted step: one for each fan, with the duty the core keeps. -/
theorem commands_of_step {cfg : Config} (hr : ConfigRules cfg) {cb : Callbacks} {core : Core} {inp : InputSnapshot}
    {out : OutputFrame} (hin : Admissible cfg inp) :
    let r := thermalCoreStep cfg cb core inp out
    r.out.actuatorCmdCount = cfg.actuatorCount ∧ ∀ a < cfg.actuatorCount,
      dutySlot cfg (r.out.actuatorCmds.slot a).actuatorId = some a ∧
        (r.out.actuatorCmds.slot a).duty = (r.core.actuators.slot a).prevDuty := by
  intro r
  have hout : r.out = outputFrame cfg (passDecided cfg cb inp core) out := by
    simp only [r, thermalCoreStep_accepted hin]
  refine ⟨by rw [hout]; rfl, fun a ha => ⟨?_, ?_⟩⟩
  · rw [hout, outputFrame, Vector.slot_forSlots_lt _ _ hr.actuatorCount_le ha]
    exact dutySlot_id hr ha
  · exact (step_duty hr hin ha).trans (step_prevDuty hr hin ha).symm

end ThermalCore
