import Mathlib.Data.List.Find
import Mathlib.Data.List.Nodup
import ThermalCore.Stages

/-!
# The order of the samples in a snapshot

The preflight walks the sample array and every filter looks its sample up by a
first match.  Whether the walk succeeds depends only on which samples there are,
it has one error to fail with, and once it has succeeded every lookup has at
most one match.  So a step cannot tell two orders of the same samples apart.

Permuting the samples of an accepted snapshot permutes nothing else: the lookups are by
kind and id, and accepted snapshots have one sample for each.
-/

namespace ThermalCore

open MachineInt Check

/-! ## The scan, without its order -/

/-- The key the scan records for a sample, `none` for an unknown kind or id. -/
def sampleKeyOf (cfg : Config) (smp : Sample) : Option Nat :=
  (sampleSlot cfg smp).map (sampleKey smp.kind)

/-- Every sample resolves, and no two address the same slot of one kind. -/
structure Scannable (cfg : Config) (smps : List Sample) : Prop where
  resolved : ∀ smp ∈ smps, sampleKeyOf cfg smp ≠ none
  distinct : (smps.map (sampleKeyOf cfg)).Nodup

theorem Scannable.perm {cfg : Config} {smps smps' : List Sample} (hperm : smps.Perm smps')
    (h : Scannable cfg smps) : Scannable cfg smps' where
  resolved smp hmem := h.resolved smp (hperm.mem_iff.mpr hmem)
  distinct := (hperm.map _).nodup_iff.mp h.distinct

/-- The scan succeeds on a scannable list whose keys are new. -/
theorem scanSamples_eq_ok_iff (cfg : Config) (seen : List Nat) (smps : List Sample) :
    scanSamples cfg seen smps = .ok () ↔
      Scannable cfg smps ∧ ∀ smp ∈ smps, ∀ key ∈ seen, sampleKeyOf cfg smp ≠ some key := by
  induction smps generalizing seen with
  | nil =>
      have hnil : Scannable cfg [] := ⟨by simp, by simp⟩
      simp [scanSamples, hnil]
  | cons smp rest ih =>
      unfold scanSamples
      cases hslot : sampleSlot cfg smp with
      | none =>
          have hkey : sampleKeyOf cfg smp = none := by rw [sampleKeyOf, hslot, Option.map_none]
          constructor
          · intro h
            cases h
          · intro h
            exact absurd hkey (h.1.resolved smp (List.mem_cons_self ..))
      | some slot =>
          have hkey : sampleKeyOf cfg smp = some (sampleKey smp.kind slot) := by
            rw [sampleKeyOf, hslot, Option.map_some]
          dsimp only
          by_cases hseen : sampleKey smp.kind slot ∈ seen
          · rw [if_pos hseen]
            constructor
            · intro h
              cases h
            · intro h
              exact absurd hkey (h.2 smp (List.mem_cons_self ..) _ hseen)
          · rw [if_neg hseen, ih]
            constructor
            · rintro ⟨⟨hres, hdist⟩, hnew⟩
              refine ⟨⟨?_, ?_⟩, ?_⟩
              · intro other hmem
                rcases List.mem_cons.mp hmem with rfl | htail
                · rw [hkey]
                  exact Option.some_ne_none _
                · exact hres other htail
              · rw [List.map_cons, List.nodup_cons]
                refine ⟨?_, hdist⟩
                intro hmem
                obtain ⟨other, htail, heq⟩ := List.mem_map.mp hmem
                exact hnew other htail _ (List.mem_append_right _ (List.mem_singleton_self _))
                  (heq.trans hkey)
              · intro other hmem key hin
                rcases List.mem_cons.mp hmem with rfl | htail
                · rw [hkey]
                  intro heq
                  exact hseen (Option.some.inj heq ▸ hin)
                · exact hnew other htail key (List.mem_append_left _ hin)
            · rintro ⟨⟨hres, hdist⟩, hnew⟩
              rw [List.map_cons, List.nodup_cons] at hdist
              refine ⟨⟨?_, hdist.2⟩, ?_⟩
              · exact fun other htail => hres other (List.mem_cons_of_mem _ htail)
              · intro other htail key hin heq
                rcases List.mem_append.mp hin with hold | hone
                · exact hnew other (List.mem_cons_of_mem _ htail) key hold heq
                · rw [List.mem_singleton.mp hone, ← hkey] at heq
                  exact hdist.1 (heq ▸ List.mem_map_of_mem htail)

/-- The one error of the scan. -/
theorem scanSamples_cases (cfg : Config) (seen : List Nat) (smps : List Sample) :
    scanSamples cfg seen smps = .ok () ∨ scanSamples cfg seen smps = .error .errInvalidArg := by
  induction smps generalizing seen with
  | nil => exact Or.inl rfl
  | cons smp rest ih =>
      unfold scanSamples
      cases sampleSlot cfg smp with
      | none => exact Or.inr rfl
      | some slot =>
          dsimp only
          split
          · exact Or.inr rfl
          · exact ih _

theorem scanSamples_perm (cfg : Config) {smps smps' : List Sample} (hperm : smps.Perm smps') :
    scanSamples cfg [] smps = scanSamples cfg [] smps' := by
  have hiff : scanSamples cfg [] smps = .ok () ↔ scanSamples cfg [] smps' = .ok () := by
    rw [scanSamples_eq_ok_iff, scanSamples_eq_ok_iff]
    constructor
    · intro h
      exact ⟨h.1.perm hperm, by simp⟩
    · intro h
      exact ⟨h.1.perm hperm.symm, by simp⟩
  rcases scanSamples_cases cfg [] smps with hok | herr
  · rw [hok, hiff.mp hok]
  · rcases scanSamples_cases cfg [] smps' with hok' | herr'
    · rw [hok', hiff.mpr hok']
    · rw [herr, herr']

/-! ## Lookups -/

/-- Two samples of a scannable list with one kind and one id are the same. -/
theorem Scannable.unique {cfg : Config} {smps : List Sample} (h : Scannable cfg smps) {x y : Sample}
    (hx : x ∈ smps) (hy : y ∈ smps) (hkind : x.kind = y.kind) (hid : x.id = y.id) : x = y := by
  have hkeys : sampleKeyOf cfg x = sampleKeyOf cfg y := by
    unfold sampleKeyOf sampleSlot
    rw [hkind, hid]
  exact List.inj_on_of_nodup_map h.distinct hx hy hkeys

/-! ## Steps -/

/-- Two snapshots that differ in the order of their samples. -/
structure SamplesPermuted (inp inp' : InputSnapshot) : Prop where
  nowMs : inp'.nowMs = inp.nowMs
  sampleCount : inp'.sampleCount = inp.sampleCount
  null : inp'.samples.isNone = inp.samples.isNone
  entries : inp.entries.Perm inp'.entries

section step

variable {cfg : Config} {inp inp' : InputSnapshot}

theorem preflightSnapshot_permuted (h : SamplesPermuted inp inp') :
    preflightSnapshot cfg inp' = preflightSnapshot cfg inp := by
  unfold preflightSnapshot
  simp only [h.sampleCount, h.null, scanSamples_perm cfg h.entries]

theorem find_permuted (h : SamplesPermuted inp inp') (hin : Admissible cfg inp) (kind : SampleKind)
    (id : Nat) : inp'.find kind id = inp.find kind id := by
  have hscan : Scannable cfg inp.entries := by
    unfold Admissible preflightSnapshot at hin
    simp only [bind_eq_ok, scanSamples_eq_ok_iff] at hin
    exact hin.2.2.1
  symm
  apply List.find?_eq_find?_of_perm h.entries
  rintro x ⟨hx, hpx⟩ y ⟨hy, hpy⟩
  simp only [Bool.and_eq_true, beq_iff_eq] at hpx hpy
  exact hscan.unique hx hy (hpx.1.trans hpy.1.symm) (hpx.2.trans hpy.2.symm)

/-- An accepted step reads a snapshot through its lookups and its time. -/
theorem passDecided_congr (cb : Callbacks) (core : Core) (hnow : inp'.nowMs = inp.nowMs)
    (hfind : ∀ kind id, inp'.find kind id = inp.find kind id) :
    passDecided cfg cb inp' core = passDecided cfg cb inp core ∧
      passDone cfg cb inp' core = passDone cfg cb inp core := by
  have hsense : senseCore cfg inp' core = senseCore cfg inp core := by
    unfold senseCore step4ContextFilters step3bTach step3SensorFilters
    simp only [hfind, hnow]
  obtain ⟨now, count, samples⟩ := inp
  obtain ⟨now', count', samples'⟩ := inp'
  dsimp only at hnow
  subst hnow
  unfold passDone passDecided passDetectors passRequests passZones
  rw [hsense]
  exact ⟨rfl, rfl⟩

/-- **Sample order does not matter**: with the same samples in another order a
step returns the same status, leaves the same core, writes the same frame and
makes the same calls. -/
theorem thermalCoreStep_permuted (cb : Callbacks) (core : Core) (out : OutputFrame)
    (h : SamplesPermuted inp inp') :
    thermalCoreStep cfg cb core inp' out = thermalCoreStep cfg cb core inp out := by
  have hpre : preflightSnapshot cfg inp' = _ := preflightSnapshot_permuted h
  cases hstatus : preflightSnapshot cfg inp with
  | error e =>
      unfold thermalCoreStep
      rw [hpre, hstatus]
  | ok u =>
      obtain ⟨hdecided, hdone⟩ := passDecided_congr cb core h.nowMs
        (find_permuted h hstatus)
      unfold thermalCoreStep
      rw [hpre, hstatus, hdecided, hdone]

/-- A tach before the temperature instead of after it, on a core whose fan is off. -/
theorem thermalCoreStep_permuted_tach :
    let inp := snapshotOf 100 [⟨1, SampleKind.tempMc.code, 1, 60000⟩, ⟨5, SampleKind.tachRpm.code, 1, 900⟩]
    let inp' := snapshotOf 100 [⟨5, SampleKind.tachRpm.code, 1, 900⟩, ⟨1, SampleKind.tempMc.code, 1, 60000⟩]
    thermalCoreStep oneFanConfig ⟨true, true⟩ (initCore oneFanConfig) inp' default =
      thermalCoreStep oneFanConfig ⟨true, true⟩ (initCore oneFanConfig) inp default :=
  thermalCoreStep_permuted _ _ _ ⟨rfl, rfl, rfl, List.Perm.swap _ _ _⟩

end step

end ThermalCore
