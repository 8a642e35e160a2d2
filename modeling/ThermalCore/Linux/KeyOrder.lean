import ThermalCore.Linux.LoaderSections
import ThermalCore.Linux.SelectorViews
import Mathlib.Data.List.Nodup

/-!
# The order of the root keys

The loader's header promises that references between sections resolve in any
order.  A load is determined by the document as a map from keys to values
together with which of the sections `zones` and `policy_modifiers` stand before
`telemetry`: the selectors are expanded against those alone.

The steps of all keys but `telemetry` commute, so their order does not matter; the
telemetry step can be moved to the end when it is given the view of the
configuration it had at its place.  Four views are possible.  The order of the keys
matters exactly when the selectors do not expand alike in all of them, and
`Linux.SelectorViews` says for which selectors that is.
-/

namespace ThermalCore

open Check Footprint

variable {runtime : Bool} {ms ms' : List Member}

/-! ## The steps of the two passes -/

/-- An accepting step of pass A. -/
def stepA (runtime : Bool) (m : Member) (st : LoadState) : Option LoadState :=
  (passAMember runtime st m).toOption

/-- An accepting step of pass B. -/
def stepB (runtime : Bool) (m : Member) (st : LoadState) : Option LoadState :=
  (passBMember runtime st m).toOption

/-- Pass A is a run of its steps. -/
theorem toOption_passATopLevel (st : LoadState) :
    (passATopLevel runtime ms st).toOption = run (stepA runtime) ms st :=
  toOption_foldlM _ _ _

/-- The arm found for a key is one of the table and has that key. -/
theorem mem_of_findArm {σ : Type} {arms : List (Arm σ)} {key : Bytes} {arm : Arm σ}
    (h : findArm arms key = some arm) : arm ∈ arms ∧ ascii arm.key = key :=
  ⟨List.mem_of_find?_eq_some h, by simpa using List.find?_some h⟩

/-- A step of pass A tests, or writes the section of its key and reads no other. -/
theorem stepA_writes (runtime : Bool) (m : Member) :
    IsTest (stepA runtime m) ∨
      ∃ i ∈ passASections, ascii i.key = m.1 ∧ Writes loadComponents i ∅ (stepA runtime m) := by
  unfold stepA passAMember
  cases hfind : findArm (passAArms runtime) m.1 with
  | none => exact Or.inl (Or.inl fun _ => rfl)
  | some arm =>
      obtain ⟨harm, hkey⟩ := mem_of_findArm hfind
      obtain ⟨i, hi, hikey, hwrites⟩ := armWrites_passA harm
      exact Or.inr ⟨i, hi, hikey ▸ hkey, hwrites m.1 m.2⟩

/-- A step of pass B but telemetry tests, or writes the section of its key and reads those of pass
A. -/
theorem stepB_writes (runtime : Bool) {m : Member} (hm : m.1 ≠ ascii "telemetry") :
    IsTest (stepB runtime m) ∨
      ∃ i, (i ∉ passASections ∧ i ≠ .telemetry) ∧ ascii i.key = m.1 ∧
        Writes loadComponents i passASections (stepB runtime m) := by
  unfold stepB passBMember
  by_cases hlong : m.1.length + 1 > 64
  · simp only [if_pos hlong]
    exact Or.inl (Or.inr fun _ => rfl)
  · simp only [if_neg hlong]
    cases hfind : findArm (passBArms runtime) m.1 with
    | none => exact Or.inl (Or.inr fun _ => rfl)
    | some arm =>
        obtain ⟨harm, hkey⟩ := mem_of_findArm hfind
        have htelemetry : arm.key ≠ "telemetry" := fun h => hm (by rw [← hkey, h])
        rcases armWrites_passB harm htelemetry with htests | ⟨i, hi, hikey, hwrites⟩
        · exact Or.inl (htests m.1 m.2)
        · exact Or.inr ⟨i, hi, hikey ▸ hkey, hwrites m.1 m.2⟩

/-- The telemetry step writes its section from the view of the configuration. -/
theorem stepB_telemetry {m : Member} (hm : m.1 = ascii "telemetry") (st : LoadState) :
    stepB runtime m st =
      (parseTelemetryObject runtime st.cfg m.1 m.2 st.cfg.telemetry).toOption.map fun c =>
        LoadSection.put .telemetry c st := by
  have hshort : ¬m.1.length + 1 > 64 := by
    rw [hm]
    decide
  have hfind : findArm (passBArms runtime) m.1 = some (telemetryArm runtime) := by
    rw [hm]
    simp [findArm, passBArms, topLevelIntArm, intArm, passADone, telemetryArm, ascii]
  unfold stepB passBMember
  rw [if_neg hshort, hfind]
  exact bind_toOption_eq_map _ _

/-- Steps of pass A for different keys commute. -/
theorem commute_stepA {m m' : Member} (hne : m.1 ≠ m'.1) :
    Commute (stepA runtime m) (stepA runtime m') := by
  rcases stepA_writes runtime m with htest | ⟨i, -, hi, hwrites⟩
  · exact htest.commute _
  · rcases stepA_writes runtime m' with htest' | ⟨j, -, hj, hwrites'⟩
    · exact (htest'.commute _).symm
    · have hij : i ≠ j := by
        rintro rfl
        exact hne (hi.symm.trans hj)
      exact hwrites.commute hwrites' hij (Set.notMem_empty i) (Set.notMem_empty j)

/-- Steps of pass B for different keys commute, telemetry aside. -/
theorem commute_stepB {m m' : Member} (hm : m.1 ≠ ascii "telemetry") (hm' : m'.1 ≠ ascii "telemetry")
    (hne : m.1 ≠ m'.1) : Commute (stepB runtime m) (stepB runtime m') := by
  rcases stepB_writes runtime hm with htest | ⟨i, hi, hikey, hwrites⟩
  · exact htest.commute _
  · rcases stepB_writes runtime hm' with htest' | ⟨j, hj, hjkey, hwrites'⟩
    · exact (htest'.commute _).symm
    · have hij : i ≠ j := by
        rintro rfl
        exact hne (hikey.symm.trans hjkey)
      exact hwrites.commute hwrites' hij hi.1 hj.1

/-! ## Reordering without telemetry -/

/-- Different members of an object with distinct keys have different keys. -/
theorem fst_ne_of_nodup (hkeys : (ms.map Prod.fst).Nodup) {m m' : Member} (hm : m ∈ ms) (hm' : m' ∈ ms)
    (hne : m ≠ m') : m.1 ≠ m'.1 := fun h =>
  hne (List.inj_on_of_nodup_map hkeys hm hm' h)

/-- Pass A does not depend on the order of the keys. -/
theorem run_stepA_perm (hkeys : (ms.map Prod.fst).Nodup) (hperm : ms.Perm ms') (st : LoadState) :
    run (stepA runtime) ms st = run (stepA runtime) ms' st :=
  run_perm hperm (fun _ hm _ hm' hne => commute_stepA (fst_ne_of_nodup hkeys hm hm' hne)) st

/-- The members pass B reads other than telemetry. -/
def otherMembers (ms : List Member) : List Member := ms.filter fun m => m.1 != ascii "telemetry"

/-- The telemetry members, at most one when the keys are distinct. -/
def telemetryMembers (ms : List Member) : List Member := ms.filter fun m => m.1 == ascii "telemetry"

/-- The members other than `telemetry`. -/
theorem mem_otherMembers {m : Member} : m ∈ otherMembers ms ↔ m ∈ ms ∧ m.1 ≠ ascii "telemetry" := by
  simp [otherMembers]

/-- Pass B without telemetry does not depend on the order of the keys. -/
theorem run_stepB_perm (hkeys : (ms.map Prod.fst).Nodup) (hperm : ms.Perm ms') (st : LoadState) :
    run (stepB runtime) (otherMembers ms) st = run (stepB runtime) (otherMembers ms') st := by
  apply run_perm (hperm.filter _)
  intro m hm m' hm' hne
  rw [← otherMembers, mem_otherMembers] at hm hm'
  exact commute_stepB hm.2 hm'.2 (fst_ne_of_nodup hkeys hm.1 hm'.1 hne)

/-- Pass B without telemetry writes nothing of pass A and no telemetry. -/
theorem writesWithin_stepB (hother : ∀ m ∈ ms, m.1 ≠ ascii "telemetry") :
    WritesWithin loadComponents (fun i => i ∉ passASections ∧ i ≠ .telemetry) passASections
      (stepB runtime) ms := by
  intro m hm
  rcases stepB_writes runtime (hother m hm) with htest | ⟨i, hi, -, hwrites⟩
  · exact Or.inl htest
  · exact Or.inr ⟨i, hi, hwrites⟩

/-- A section no member of the list is keyed with is not written. -/
theorem frame_stepB {i : LoadSection} {s s' : LoadState} (hother : ∀ m ∈ ms, m.1 ≠ ascii "telemetry")
    (hkey : ∀ m ∈ ms, m.1 ≠ ascii i.key) (hrun : run (stepB runtime) ms s = some s') :
    LoadSection.view i s' = LoadSection.view i s := by
  have hwithin : WritesWithin loadComponents (fun j => j ≠ i) passASections (stepB runtime) ms := by
    intro m hm
    rcases stepB_writes runtime (hother m hm) with htest | ⟨j, -, hjkey, hwrites⟩
    · exact Or.inl htest
    · refine Or.inr ⟨j, ?_, hwrites⟩
      rintro rfl
      exact hkey m hm hjkey.symm
  exact run_frame hwithin (fun h => h rfl) hrun

/-! ## The load as a function of what telemetry has seen -/

/-- The telemetry section, expanded against the sections seen. -/
def seenTelemetry (runtime : Bool) (seen : SeenSections) (m : Member) (st : LoadState) :
    Option LoadState :=
  (parseTelemetryObject runtime (seenView seen st.cfg) m.1 m.2 st.cfg.telemetry).toOption.map
    fun c => LoadSection.put .telemetry c st

/-- The order-free reading of a document: every other section first, then
telemetry against the sections in `seen`. -/
def loadSeen (runtime : Bool) (jsonLen : Nat) (seen : SeenSections) (ms : List Member) :
    Option Config :=
  if (jsonLen : Int) > MachineInt.i32Max ∨ (Json.object ms).tokenCount > jsmnMaxTokens then none
  else
    (passATopLevel runtime ms loadStateZeroed).toOption.bind fun st =>
      (run (stepB runtime) (otherMembers ms) st).bind fun st =>
        (run (seenTelemetry runtime seen) (telemetryMembers ms) st).bind fun st =>
          (requireTopLevel ms).toOption.bind fun _ => (validated st.cfg).toOption

/-- `l₁ ++ tel :: l₂` reads exactly the sections in `seen` before telemetry. -/
structure Realises (seen : SeenSections) (l₁ l₂ : List Member) : Prop where
  zones : ∀ m ∈ (if seen.zones then l₂ else l₁), m.1 ≠ ascii "zones"
  modifiers : ∀ m ∈ (if seen.modifiers then l₂ else l₁), m.1 ≠ ascii "policy_modifiers"

/-- Nothing that pass B fills has been read. -/
structure Fresh (st : LoadState) : Prop where
  zones : LoadSection.view .zones st = (default, 0)
  modifiers : LoadSection.view .policyModifiers st = (default, 0)

/-- Pass A fills no section of pass B. -/
theorem fresh_of_passA {st : LoadState}
    (h : (passATopLevel runtime ms loadStateZeroed).toOption = some st) : Fresh st := by
  rw [toOption_passATopLevel] at h
  have hwithin : WritesWithin loadComponents (· ∈ passASections) ∅ (stepA runtime) ms := by
    intro m _
    rcases stepA_writes runtime m with htest | ⟨i, hi, -, hwrites⟩
    · exact Or.inl htest
    · exact Or.inr ⟨i, hi, hwrites⟩
  constructor
  · exact run_frame hwithin (j := .zones) (by simp) h
  · exact run_frame hwithin (j := .policyModifiers) (by simp) h

/-- A section stands before telemetry with its final contents or not at all. -/
theorem view_of_order {i : LoadSection} {before : Bool} {l₁ l₂ : List Member} {st s₁ s₂ : LoadState}
    (hkey : ∀ m ∈ (if before then l₂ else l₁), m.1 ≠ ascii i.key)
    (h₁ : ∀ m ∈ l₁, m.1 ≠ ascii "telemetry") (h₂ : ∀ m ∈ l₂, m.1 ≠ ascii "telemetry")
    (hrun₁ : run (stepB runtime) l₁ st = some s₁) (hrun₂ : run (stepB runtime) l₂ s₁ = some s₂) :
    LoadSection.view i s₁ = if before then LoadSection.view i s₂ else LoadSection.view i st := by
  cases before with
  | true => exact (frame_stepB h₂ hkey hrun₂).symm
  | false => exact frame_stepB h₁ hkey hrun₁

/-- Where telemetry stands among the other sections shows only in what it is
expanded against. -/
theorem sameSelectors_of_realises {seen : SeenSections} {l₁ l₂ : List Member} {st s₁ s₂ : LoadState}
    (hfresh : Fresh st) (hreal : Realises seen l₁ l₂) (h₁ : ∀ m ∈ l₁, m.1 ≠ ascii "telemetry")
    (h₂ : ∀ m ∈ l₂, m.1 ≠ ascii "telemetry") (hrun₁ : run (stepB runtime) l₁ st = some s₁)
    (hrun₂ : run (stepB runtime) l₂ s₁ = some s₂) : SameSelectors s₁.cfg (seenView seen s₂.cfg) := by
  have hpassA (i : LoadSection) (hi : i ∈ passASections) :
      LoadSection.view i s₁ = LoadSection.view i s₂ :=
    (run_frame (writesWithin_stepB h₂) (fun h => h.1 hi) hrun₂).symm
  have hsame := (samePassA_of_view hpassA).1
  have hzones := view_of_order (i := .zones) hreal.zones h₁ h₂ hrun₁ hrun₂
  rw [hfresh.zones] at hzones
  have hmodifiers := view_of_order (i := .policyModifiers) hreal.modifiers h₁ h₂ hrun₁ hrun₂
  rw [hfresh.modifiers] at hmodifiers
  have hview : (s₁.cfg.zones, s₁.cfg.zoneCount) =
      ((seenView seen s₂.cfg).zones, (seenView seen s₂.cfg).zoneCount) := by
    simp only [seenView]
    cases hseen : seen.zones <;> rw [hseen] at hzones <;> exact hzones
  have hcount : s₁.cfg.modifierCount = (seenView seen s₂.cfg).modifierCount := by
    simp only [seenView]
    cases hseen : seen.modifiers <;> rw [hseen] at hmodifiers <;> exact congrArg Prod.snd hmodifiers
  rw [Prod.mk.injEq] at hview
  exact { toSamePassA := ⟨hsame.sensors, hsame.sensorCount, hsame.contexts, hsame.contextCount,
            hsame.actuators, hsame.actuatorCount⟩
          zones := hview.1
          zoneCount := hview.2
          modifierCount := hcount }

/-- Pass B with telemetry in the middle is pass B without it, then telemetry
against what stood before. -/
theorem run_stepB_split {seen : SeenSections} {l₁ l₂ : List Member} {tel : Member} {st : LoadState}
    (htel : tel.1 = ascii "telemetry") (hfresh : Fresh st) (hreal : Realises seen l₁ l₂)
    (h₁ : ∀ m ∈ l₁, m.1 ≠ ascii "telemetry") (h₂ : ∀ m ∈ l₂, m.1 ≠ ascii "telemetry") :
    run (stepB runtime) (l₁ ++ tel :: l₂) st =
      (run (stepB runtime) (l₁ ++ l₂) st).bind (seenTelemetry runtime seen tel) := by
  rw [run_append, run_append]
  cases hrun₁ : run (stepB runtime) l₁ st with
  | none => rfl
  | some s₁ =>
      rw [Option.bind_some, Option.bind_some, run_cons, stepB_telemetry htel, Option.bind_map]
      have hput (c : TelemetryCfg) : run (stepB runtime) l₂ (LoadSection.put .telemetry c s₁) =
          (run (stepB runtime) l₂ s₁).map fun s => LoadSection.put .telemetry c s :=
        run_put (writesWithin_stepB h₂) (fun h => h.2 rfl) (by simp) c s₁
      cases hrun₂ : run (stepB runtime) l₂ s₁ with
      | none =>
          cases (parseTelemetryObject runtime s₁.cfg tel.1 tel.2 s₁.cfg.telemetry).toOption with
          | none => rfl
          | some c =>
              have hc := hput c
              rw [hrun₂] at hc
              exact hc
      | some s₂ =>
          have hsame := sameSelectors_of_realises hfresh hreal h₁ h₂ hrun₁ hrun₂
          have htelemetry : LoadSection.view .telemetry s₂ = LoadSection.view .telemetry s₁ :=
            frame_stepB h₂ h₂ hrun₂
          simp only [LoadSection.view] at htelemetry
          rw [Option.bind_some, seenTelemetry, htelemetry, ← hsame.parseTelemetryObject]
          cases (parseTelemetryObject runtime s₁.cfg tel.1 tel.2 s₁.cfg.telemetry).toOption with
          | none => rfl
          | some c =>
              have hc := hput c
              rw [hrun₂] at hc
              exact hc

/-! ## Every order is some view, every view some order -/

/-- What the loader accepts of a root object. -/
def load (runtime : Bool) (jsonLen : Nat) (ms : List Member) : Option Config :=
  (thermalConfigJsmnParse runtime jsonLen (.object ms)).toOption

variable {jsonLen : Nat}

/-- A load is accepted when both passes, the required keys and the validator accept. -/
theorem load_eq : load runtime jsonLen ms =
    if (jsonLen : Int) > MachineInt.i32Max ∨ (Json.object ms).tokenCount > jsmnMaxTokens then none
    else
      (passATopLevel runtime ms loadStateZeroed).toOption.bind fun st =>
        (run (stepB runtime) ms st).bind fun st =>
          (requireTopLevel ms).toOption.bind fun _ => (validated st.cfg).toOption := by
  unfold load thermalConfigJsmnParse
  by_cases hlen : (jsonLen : Int) > MachineInt.i32Max
  · rw [if_pos hlen, if_pos (Or.inl hlen)]
    rfl
  · by_cases htokens : (Json.object ms).tokenCount > jsmnMaxTokens
    · rw [if_neg hlen, if_pos htokens, if_pos (Or.inr htokens)]
      rfl
    · rw [if_neg hlen, if_neg htokens, if_neg (not_or.mpr ⟨hlen, htokens⟩)]
      simp only [toOption_bind, passBTopLevel, toOption_foldlM]
      simp only [Option.bind_assoc]
      rfl

/-- Distinct keys leave at most one telemetry member. -/
theorem others_of_nodup {l₁ l₂ : List Member} {tel : Member} (htel : tel.1 = ascii "telemetry")
    (hkeys : ((l₁ ++ tel :: l₂).map Prod.fst).Nodup) :
    (∀ m ∈ l₁, m.1 ≠ ascii "telemetry") ∧ ∀ m ∈ l₂, m.1 ≠ ascii "telemetry" := by
  rw [List.map_append, List.map_cons, List.nodup_append, List.nodup_cons] at hkeys
  obtain ⟨-, ⟨hnotin, -⟩, hdisjoint⟩ := hkeys
  constructor
  · intro m hm
    rw [← htel]
    exact hdisjoint m.1 (List.mem_map_of_mem hm) tel.1 (by simp)
  · intro m hm heq
    rw [htel, ← heq] at hnotin
    exact hnotin (List.mem_map_of_mem hm)

/-- The members around `telemetry`. -/
theorem otherMembers_split {l₁ l₂ : List Member} {tel : Member} (htel : tel.1 = ascii "telemetry")
    (h₁ : ∀ m ∈ l₁, m.1 ≠ ascii "telemetry") (h₂ : ∀ m ∈ l₂, m.1 ≠ ascii "telemetry") :
    otherMembers (l₁ ++ tel :: l₂) = l₁ ++ l₂ := by
  have h₁' : l₁.filter (fun m => m.1 != ascii "telemetry") = l₁ := by
    rw [List.filter_eq_self]
    simpa using h₁
  have h₂' : l₂.filter (fun m => m.1 != ascii "telemetry") = l₂ := by
    rw [List.filter_eq_self]
    simpa using h₂
  simp [otherMembers, h₁', h₂', htel]

/-- With distinct keys there is one `telemetry`. -/
theorem telemetryMembers_split {l₁ l₂ : List Member} {tel : Member} (htel : tel.1 = ascii "telemetry")
    (h₁ : ∀ m ∈ l₁, m.1 ≠ ascii "telemetry") (h₂ : ∀ m ∈ l₂, m.1 ≠ ascii "telemetry") :
    telemetryMembers (l₁ ++ tel :: l₂) = [tel] := by
  have h₁' : l₁.filter (fun m => m.1 == ascii "telemetry") = [] := by
    rw [List.filter_eq_nil_iff]
    simpa using h₁
  have h₂' : l₂.filter (fun m => m.1 == ascii "telemetry") = [] := by
    rw [List.filter_eq_nil_iff]
    simpa using h₂
  simp [telemetryMembers, h₁', h₂', htel]

/-- A load is the load that gives telemetry the sections before it. -/
theorem load_eq_loadSeen {seen : SeenSections} {l₁ l₂ : List Member} {tel : Member}
    (htel : tel.1 = ascii "telemetry") (hkeys : ((l₁ ++ tel :: l₂).map Prod.fst).Nodup)
    (hreal : Realises seen l₁ l₂) :
    load runtime jsonLen (l₁ ++ tel :: l₂) = loadSeen runtime jsonLen seen (l₁ ++ tel :: l₂) := by
  obtain ⟨h₁, h₂⟩ := others_of_nodup htel hkeys
  rw [load_eq, loadSeen]
  split
  · rfl
  · cases hpassA : (passATopLevel runtime (l₁ ++ tel :: l₂) loadStateZeroed).toOption with
    | none => rfl
    | some st =>
        have hsplit : run (stepB runtime) (l₁ ++ tel :: l₂) st =
            (run (stepB runtime) (l₁ ++ l₂) st).bind (seenTelemetry runtime seen tel) :=
          run_stepB_split htel (fresh_of_passA hpassA) hreal h₁ h₂
        simp only [Option.bind_some, hsplit, otherMembers_split htel h₁ h₂,
          telemetryMembers_split htel h₁ h₂, Option.bind_assoc]
        congr 1
        funext st'
        simp only [run_singleton]

/-- Without telemetry there is nothing to see. -/
theorem load_eq_loadSeen_of_absent (h : ∀ m ∈ ms, m.1 ≠ ascii "telemetry") (seen : SeenSections) :
    load runtime jsonLen ms = loadSeen runtime jsonLen seen ms := by
  have hother : otherMembers ms = ms := by
    rw [otherMembers, List.filter_eq_self]
    simpa using h
  have htelemetry : telemetryMembers ms = [] := by
    rw [telemetryMembers, List.filter_eq_nil_iff]
    simpa using h
  rw [load_eq, loadSeen, hother, htelemetry]
  rfl

/-- Every order of the members reads them in some view. -/
theorem exists_load_eq_loadSeen (runtime : Bool) (jsonLen : Nat) (hkeys : (ms.map Prod.fst).Nodup) :
    ∃ seen, load runtime jsonLen ms = loadSeen runtime jsonLen seen ms := by
  by_cases habsent : ∀ m ∈ ms, m.1 ≠ ascii "telemetry"
  · exact ⟨⟨true, true⟩, load_eq_loadSeen_of_absent habsent _⟩
  · push Not at habsent
    obtain ⟨tel, hmem, htel⟩ := habsent
    obtain ⟨l₁, l₂, rfl⟩ := List.append_of_mem hmem
    have hunique (key : Bytes) (hbefore : ∃ m ∈ l₁, m.1 = key) : ∀ m ∈ l₂, m.1 ≠ key := by
      rintro m hm rfl
      obtain ⟨m', hm', heq⟩ := hbefore
      rw [List.map_append, List.nodup_append] at hkeys
      exact hkeys.2.2 m'.1 (List.mem_map_of_mem hm') m.1
        (List.mem_map_of_mem (List.mem_cons_of_mem _ hm)) heq
    have hreal (key : Bytes) :
        ∀ m ∈ (if decide (∃ m ∈ l₁, m.1 = key) then l₂ else l₁), m.1 ≠ key := by
      by_cases hbefore : ∃ m ∈ l₁, m.1 = key
      · simpa only [hbefore, decide_true, if_true] using hunique key hbefore
      · rw [decide_eq_false hbefore, if_neg Bool.false_ne_true]
        exact fun m hm heq => hbefore ⟨m, hm, heq⟩
    exact ⟨⟨decide (∃ m ∈ l₁, m.1 = ascii "zones"), decide (∃ m ∈ l₁, m.1 = ascii "policy_modifiers")⟩,
      load_eq_loadSeen htel hkeys ⟨hreal _, hreal _⟩⟩

/-- The token count does not depend on the order. -/
theorem membersTokenCount_perm (hperm : ms.Perm ms') :
    membersTokenCount ms = membersTokenCount ms' := by
  induction hperm with
  | nil => rfl
  | cons m _ ih => simp only [membersTokenCount, ih]
  | swap m m' l =>
      simp only [membersTokenCount]
      omega
  | trans _ _ ih₁ ih₂ => exact ih₁.trans ih₂

/-- The required keys do not depend on the order. -/
theorem requireTopLevel_perm (hperm : ms.Perm ms') : requireTopLevel ms = requireTopLevel ms' := by
  have hseen (required : List String) : allSeen required ms = allSeen required ms' := by
    unfold allSeen
    congr 1
    funext key
    exact hperm.any_eq
  simp only [requireTopLevel, hseen]

/-- The order-free reading does not depend on the order. -/
theorem loadSeen_perm (seen : SeenSections) (hkeys : (ms.map Prod.fst).Nodup) (hperm : ms.Perm ms') :
    loadSeen runtime jsonLen seen ms = loadSeen runtime jsonLen seen ms' := by
  have htelemetry (st : LoadState) : run (seenTelemetry runtime seen) (telemetryMembers ms) st =
      run (seenTelemetry runtime seen) (telemetryMembers ms') st := by
    apply run_perm (hperm.filter _)
    intro m hm m' hm' hne
    simp only [List.mem_filter, beq_iff_eq] at hm hm'
    exact absurd (hm.2.trans hm'.2.symm) (fst_ne_of_nodup hkeys hm.1 hm'.1 hne)
  simp only [loadSeen, Json.tokenCount, membersTokenCount_perm hperm, toOption_passATopLevel,
    run_stepA_perm hkeys hperm, run_stepB_perm hkeys hperm, htelemetry, requireTopLevel_perm hperm]

/-- Every view is the reading of some order. -/
theorem exists_order (runtime : Bool) (jsonLen : Nat) (seen : SeenSections) {tel : Member} (hmem : tel ∈ ms)
    (htel : tel.1 = ascii "telemetry") (hkeys : (ms.map Prod.fst).Nodup) :
    ∃ ms', ms.Perm ms' ∧ load runtime jsonLen ms' = loadSeen runtime jsonLen seen ms := by
  obtain ⟨a, b, rfl⟩ := List.append_of_mem hmem
  let before (m : Member) : Bool :=
    (seen.zones && m.1 == ascii "zones") || (seen.modifiers && m.1 == ascii "policy_modifiers")
  have hperm : (a ++ tel :: b).Perm
      ((a ++ b).filter before ++ tel :: (a ++ b).filter fun m => !before m) := by
    have hfilter := (List.filter_append_perm before (a ++ b)).symm
    exact List.perm_middle.trans ((hfilter.cons tel).trans List.perm_middle.symm)
  have hzones (m : Member) (heq : m.1 = ascii "zones") : before m = seen.zones := by
    have hne : (ascii "zones" == ascii "policy_modifiers") = false := by decide
    simp [before, heq, hne]
  have hmodifiers (m : Member) (heq : m.1 = ascii "policy_modifiers") :
      before m = seen.modifiers := by
    have hne : (ascii "policy_modifiers" == ascii "zones") = false := by decide
    simp [before, heq, hne]
  have hreal : Realises seen ((a ++ b).filter before) ((a ++ b).filter fun m => !before m) := by
    constructor
    · intro m hm heq
      cases hseen : seen.zones <;> simp [hseen, hzones m heq] at hm
    · intro m hm heq
      cases hseen : seen.modifiers <;> simp [hseen, hmodifiers m heq] at hm
  refine ⟨_, hperm, ?_⟩
  rw [load_eq_loadSeen htel ((hperm.map Prod.fst).nodup_iff.mp hkeys) hreal]
  exact (loadSeen_perm seen hkeys hperm).symm

/-! ## Filled sections -/

/-- The document has the array section, with at least one element. -/
def SectionFilled (ms : List Member) (key : String) : Prop :=
  ∃ elems, (ascii key, Json.array elems) ∈ ms ∧ elems ≠ []

/-- An accepted array section counts its elements. -/
theorem parseArray_ok {σ : Type} {limit : Nat} {tooMany : String}
    {elem : Nat → Bytes → Json → σ → Load σ} {setCount : Nat → σ → σ} {path : Bytes} {v : Json}
    {st st' : σ} (h : parseArray limit tooMany elem setCount path v st = .ok st') :
    ∃ elems st₁, v = .array elems ∧ st' = setCount elems.length st₁ := by
  cases v with
  | array elems =>
      simp only [parseArray] at h
      split at h
      · exact absurd h (by simp [setErr])
      · rw [load_bind_eq_ok] at h
        obtain ⟨st₁, -, hset⟩ := h
        rw [Except.ok.injEq] at hset
        exact ⟨elems, st₁, rfl, hset.symm⟩
  | object ms => exact absurd h (by simp [parseArray, setErr])
  | string s => exact absurd h (by simp [parseArray, setErr])
  | primitive s => exact absurd h (by simp [parseArray, setErr])

/-- Acceptance with a result is that result. -/
theorem toOption_eq_some {α : Type} {x : Load α} {a : α} : x.toOption = some a ↔ x = .ok a := by
  cases x <;> simp [Except.toOption]

/-- The step of a root key with an arm. -/
theorem stepB_of_findArm {m : Member} {arm : Arm LoadState} {s s' : LoadState}
    (hfind : findArm (passBArms runtime) m.1 = some arm) (h : stepB runtime m s = some s') :
    arm.parse m.1 m.2 s = .ok s' := by
  unfold stepB passBMember at h
  rw [toOption_eq_some] at h
  split at h
  · exact absurd h (by simp [setErr])
  · rw [hfind] at h
    exact h

/-- The count of an array section after pass B is the length of the array in the document. -/
theorem count_of_run (i : LoadSection) (count : LoadState → Nat) {st st' : LoadState} {limit : Nat}
    {tooMany : String} {elem : Nat → Bytes → Json → LoadState → Load LoadState}
    {setCount : Nat → LoadState → LoadState}
    (hfind : findArm (passBArms runtime) (ascii i.key) = some ⟨i.key, parseArray limit tooMany elem setCount⟩)
    (hset : ∀ n s, count (setCount n s) = n)
    (hview : ∀ s t, LoadSection.view i s = LoadSection.view i t → count s = count t)
    (hother : ∀ m ∈ ms, m.1 ≠ ascii "telemetry") (hkeys : (ms.map Prod.fst).Nodup)
    (hzero : count st = 0) (hrun : run (stepB runtime) ms st = some st') :
    0 < count st' ↔ SectionFilled ms i.key := by
  by_cases hpresent : ∃ m ∈ ms, m.1 = ascii i.key
  · obtain ⟨m, hm, hkey⟩ := hpresent
    obtain ⟨a, b, rfl⟩ := List.append_of_mem hm
    rw [run_append, Option.bind_eq_some_iff] at hrun
    obtain ⟨s₁, -, hrun⟩ := hrun
    rw [run_cons, Option.bind_eq_some_iff] at hrun
    obtain ⟨s₂, hmember, hrest⟩ := hrun
    have hafter : ∀ m' ∈ b, m'.1 ≠ ascii i.key := by
      intro m' hm' heq
      rw [List.map_append, List.map_cons, List.nodup_append, List.nodup_cons] at hkeys
      refine hkeys.2.1.1 ?_
      rw [hkey, ← heq]
      exact List.mem_map_of_mem hm'
    have hkept : LoadSection.view i st' = LoadSection.view i s₂ :=
      frame_stepB (fun m' hm' => hother m' (by simp [hm'])) hafter hrest
    obtain ⟨elems, s₃, hv, hcount⟩ := parseArray_ok (stepB_of_findArm (hkey ▸ hfind) hmember)
    rw [hview _ _ hkept, hcount, hset, List.length_pos_iff]
    constructor
    · intro hne
      refine ⟨elems, ?_, hne⟩
      rw [← hkey, ← hv]
      exact hm
    · rintro ⟨elems', hmem', hne⟩
      have hsame : m = (ascii i.key, Json.array elems') :=
        List.inj_on_of_nodup_map hkeys hm hmem' hkey
      rw [hsame, Json.array.injEq] at hv
      exact hv ▸ hne
  · have hkept : LoadSection.view i st' = LoadSection.view i st :=
      frame_stepB hother (fun m hm heq => hpresent ⟨m, hm, heq⟩) hrun
    rw [hview _ _ hkept, hzero]
    constructor
    · exact fun h => absurd h (by simp)
    · rintro ⟨elems, hmem, -⟩
      exact absurd ⟨_, hmem, rfl⟩ hpresent

/-- There are zones behind pass B exactly when the document's `zones` are not empty. -/
theorem zoneCount_of_run {st st' : LoadState} (hfresh : Fresh st)
    (hother : ∀ m ∈ ms, m.1 ≠ ascii "telemetry") (hkeys : (ms.map Prod.fst).Nodup)
    (hrun : run (stepB runtime) ms st = some st') : 0 < st'.cfg.zoneCount ↔ SectionFilled ms "zones" :=
  count_of_run .zones (fun st => st.cfg.zoneCount)
    (show findArm (passBArms runtime) (ascii "zones") = some ⟨"zones", parseZones⟩ by
      simp [findArm, passBArms, topLevelIntArm, intArm, passADone, ascii])
    (fun _ _ => rfl) (fun _ _ h => congrArg Prod.snd h) hother hkeys (congrArg Prod.snd hfresh.zones) hrun

/-- There are modifiers behind pass B exactly when `policy_modifiers` is not empty. -/
theorem modifierCount_of_run {st st' : LoadState} (hfresh : Fresh st)
    (hother : ∀ m ∈ ms, m.1 ≠ ascii "telemetry") (hkeys : (ms.map Prod.fst).Nodup)
    (hrun : run (stepB runtime) ms st = some st') : 0 < st'.cfg.modifierCount ↔ SectionFilled ms "policy_modifiers" :=
  count_of_run .policyModifiers (fun st => st.cfg.modifierCount)
    (show findArm (passBArms runtime) (ascii "policy_modifiers") = some ⟨"policy_modifiers", parsePolicyModifiers⟩ by
      simp [findArm, passBArms, topLevelIntArm, intArm, passADone, ascii])
    (fun _ _ => rfl) (fun _ _ h => congrArg Prod.snd h) hother hkeys (congrArg Prod.snd hfresh.modifiers) hrun

/-- Leaving `telemetry` out does not touch the other sections. -/
theorem sectionFilled_otherMembers {key : String} (hkey : ascii key ≠ ascii "telemetry") :
    SectionFilled (otherMembers ms) key ↔ SectionFilled ms key := by
  simp [SectionFilled, mem_otherMembers, hkey]

/-! ## The order of the keys -/

/-- No telemetry selector refers to a zones or modifiers section that is there and filled. -/
def SelectorsOrderFree (ms : List Member) : Prop :=
  ∀ tms sel, (ascii "telemetry", Json.object tms) ∈ ms → IsSelector tms sel →
    (readsZones sel = true → ¬SectionFilled ms "zones") ∧
      (readsModifiers sel = true → ¬SectionFilled ms "policy_modifiers")

/-- The sections of an accepted document, and its telemetry in the view. -/
theorem loadSeen_eq_some {seen : SeenSections} {tms : List Member} {cfg : Config}
    (hkeys : (ms.map Prod.fst).Nodup) (hmem : (ascii "telemetry", Json.object tms) ∈ ms)
    (h : loadSeen runtime jsonLen seen ms = some cfg) :
    ∃ st st', (passATopLevel runtime ms loadStateZeroed).toOption = some st ∧
      run (stepB runtime) (otherMembers ms) st = some st' ∧
      parseTelemetryObject runtime (seenView seen st'.cfg) (ascii "telemetry") (.object tms)
        st'.cfg.telemetry = .ok cfg.telemetry := by
  obtain ⟨l₁, l₂, rfl⟩ := List.append_of_mem hmem
  have htel : ((ascii "telemetry", Json.object tms) : Member).1 = ascii "telemetry" := rfl
  obtain ⟨h₁, h₂⟩ := others_of_nodup htel hkeys
  have hmembers := telemetryMembers_split htel h₁ h₂
  unfold loadSeen at h
  split at h
  · exact absurd h (by simp)
  · simp only [hmembers, Option.bind_eq_some_iff, run_singleton] at h
    obtain ⟨st, hpassA, st', hrun, st'', htel, -, -, hvalid⟩ := h
    simp only [seenTelemetry, Option.map_eq_some_iff, toOption_eq_some] at htel
    obtain ⟨t, ht, rfl⟩ := htel
    refine ⟨st, st', hpassA, hrun, ?_⟩
    rw [toOption_eq_some] at hvalid
    unfold validated at hvalid
    split at hvalid
    · rw [Except.ok.injEq] at hvalid
      rw [← hvalid]
      exact ht
    · exact absurd hvalid (by simp)

/-- The other members are not `telemetry`. -/
theorem others_of_otherMembers : ∀ m ∈ otherMembers ms, m.1 ≠ ascii "telemetry" := fun _ hm =>
  (mem_otherMembers.mp hm).2

/-- The other members have distinct keys too. -/
theorem nodup_otherMembers (hkeys : (ms.map Prod.fst).Nodup) :
    ((otherMembers ms).map Prod.fst).Nodup :=
  hkeys.sublist (List.filter_sublist.map Prod.fst)

/-- The telemetry of a document with order-free selectors, in any view. -/
theorem seenTelemetry_of_orderFree (runtime : Bool) (seen : SeenSections) {st : LoadState} {m : Member} (hm : m ∈ ms)
    (hkey : m.1 = ascii "telemetry") (hfree : SelectorsOrderFree ms)
    (hzones : 0 < st.cfg.zoneCount ↔ SectionFilled ms "zones")
    (hmodifiers : 0 < st.cfg.modifierCount ↔ SectionFilled ms "policy_modifiers") :
    seenTelemetry runtime seen m st = seenTelemetry runtime ⟨true, true⟩ m st := by
  obtain ⟨key, v⟩ := m
  obtain rfl : key = ascii "telemetry" := hkey
  cases v with
  | object tms =>
      have hcounts (sel : Bytes) (hsel : IsSelector tms sel) :
          (readsZones sel = true → st.cfg.zoneCount = 0) ∧
            (readsModifiers sel = true → st.cfg.modifierCount = 0) := by
        obtain ⟨hz, hm⟩ := hfree tms sel hm hsel
        exact ⟨fun hreads => Nat.eq_zero_of_not_pos (mt hzones.mp (hz hreads)),
          fun hreads => Nat.eq_zero_of_not_pos (mt hmodifiers.mp (hm hreads))⟩
      simp only [seenTelemetry, seenView_all, parseTelemetry_seenView seen hcounts]
  | array elems => simp only [seenTelemetry, parseTelemetryObject, parseObject]
  | string s => simp only [seenTelemetry, parseTelemetryObject, parseObject]
  | primitive s => simp only [seenTelemetry, parseTelemetryObject, parseObject]

/-- Every view of a document with order-free selectors reads the same. -/
theorem loadSeen_of_orderFree (seen : SeenSections) (hkeys : (ms.map Prod.fst).Nodup)
    (hfree : SelectorsOrderFree ms) :
    loadSeen runtime jsonLen seen ms = loadSeen runtime jsonLen ⟨true, true⟩ ms := by
  unfold loadSeen
  split
  · rfl
  · refine Option.bind_congr fun st hpassA => Option.bind_congr fun st' hrun => ?_
    have hzones := zoneCount_of_run (fresh_of_passA hpassA) others_of_otherMembers
      (nodup_otherMembers hkeys) hrun
    have hmodifiers := modifierCount_of_run (fresh_of_passA hpassA) others_of_otherMembers
      (nodup_otherMembers hkeys) hrun
    rw [sectionFilled_otherMembers (by decide)] at hzones hmodifiers
    by_cases habsent : ∃ tel ∈ ms, tel.1 = ascii "telemetry"
    · obtain ⟨tel, hmem, htel⟩ := habsent
      have hsame := seenTelemetry_of_orderFree runtime seen hmem htel hfree hzones hmodifiers
      obtain ⟨l₁, l₂, rfl⟩ := List.append_of_mem hmem
      obtain ⟨h₁, h₂⟩ := others_of_nodup htel hkeys
      rw [telemetryMembers_split htel h₁ h₂, run_singleton, run_singleton, hsame]
    · have hnil : telemetryMembers ms = [] := by
        rw [telemetryMembers, List.filter_eq_nil_iff]
        intro m hm heq
        exact habsent ⟨m, hm, by simpa using heq⟩
      rw [hnil, run_nil, run_nil]

/-- Reordering the root members of a document with distinct keys never changes
the outcome, exactly when no order is accepted or the selectors are order-free. -/
theorem thermalConfigJsmnParse_order_iff (runtime : Bool) (jsonLen : Nat) (ms : List Member)
    (hkeys : (ms.map Prod.fst).Nodup) :
    (∀ ms', ms.Perm ms' → (thermalConfigJsmnParse runtime jsonLen (.object ms')).toOption =
        (thermalConfigJsmnParse runtime jsonLen (.object ms)).toOption) ↔
      ∀ seen, (loadSeen runtime jsonLen seen ms).isSome → SelectorsOrderFree ms := by
  constructor
  · intro hall seen hsome tms sel hmem hsel
    obtain ⟨cfg, hcfg⟩ := Option.isSome_iff_exists.mp hsome
    have hview (seen' : SeenSections) : loadSeen runtime jsonLen seen' ms = some cfg := by
      obtain ⟨l, hl, hload⟩ := exists_order runtime jsonLen seen hmem rfl hkeys
      obtain ⟨l', hl', hload'⟩ :=
        exists_order runtime jsonLen seen' hmem rfl hkeys
      rw [← hcfg, ← hload, ← hload']
      exact (hall l' hl').trans (hall l hl).symm
    obtain ⟨st, st', hpassA, hrun, hnone⟩ := loadSeen_eq_some hkeys hmem (hview ⟨false, false⟩)
    obtain ⟨st₁, st₁', hpassA₁, hrun₁, hfull⟩ := loadSeen_eq_some hkeys hmem (hview ⟨true, true⟩)
    rw [hpassA, Option.some.injEq] at hpassA₁
    subst hpassA₁
    rw [hrun, Option.some.injEq] at hrun₁
    subst hrun₁
    have hzones := zoneCount_of_run (fresh_of_passA hpassA) others_of_otherMembers
      (nodup_otherMembers hkeys) hrun
    rw [sectionFilled_otherMembers (by decide)] at hzones
    constructor
    · intro hreads hfilled
      exact parseTelemetry_unseen_ne hsel (Or.inl ⟨hreads, hzones.mpr hfilled⟩) hnone hfull rfl
    · intro hreads _
      exact parseTelemetry_unseen_ne hsel (Or.inr hreads) hnone hfull rfl
  · intro hfree ms' hperm
    obtain ⟨seen, hseen⟩ := exists_load_eq_loadSeen runtime jsonLen hkeys
    obtain ⟨seen', hseen'⟩ := exists_load_eq_loadSeen runtime jsonLen
      ((hperm.map Prod.fst).nodup_iff.mp hkeys)
    rw [← loadSeen_perm seen' hkeys hperm] at hseen'
    show load runtime jsonLen ms' = load runtime jsonLen ms
    rw [hseen, hseen']
    by_cases hany : SelectorsOrderFree ms
    · rw [loadSeen_of_orderFree seen hkeys hany, loadSeen_of_orderFree seen' hkeys hany]
    · have hnone (seen : SeenSections) : loadSeen runtime jsonLen seen ms = none := by
        rw [← Option.not_isSome_iff_eq_none]
        exact fun hsome => hany (hfree seen hsome)
      rw [hnone, hnone]

/-! ## One document, two orders -/

/-- A JSON number. -/
def jsonNumber (literal : String) : Json := .primitive (ascii literal)

/-- A JSON string. -/
def jsonString (s : String) : Json := .string (ascii s)

/-- A JSON object with the keys spelled out. -/
def jsonObject (ms : List (String × Json)) : Json := .object (ms.map fun m => (ascii m.1, m.2))

/-- One sensor and one fan. -/
def oneFanMembers : List Member :=
  [(ascii "config_version", jsonNumber "1"),
    (ascii "control_period_ms", jsonNumber "100"),
    (ascii "sensors", .array
      [jsonObject
        [("id", jsonNumber "1"), ("name", jsonString "soc"), ("iir_alpha_q16", jsonNumber "65536"),
          ("max_staleness_ms", jsonNumber "1000")]]),
    (ascii "actuators", .array
      [jsonObject
        [("id", jsonNumber "1"), ("name", jsonString "fan"), ("pwm_min", jsonNumber "0"),
          ("pwm_max", jsonNumber "255"), ("state_pwm", .array [jsonNumber "0", jsonNumber "255"])]])]

/-- A zone of the sensor and the fan. -/
def oneZoneMember : Member :=
  (ascii "zones", .array
    [jsonObject
      [("name", jsonString "cpu"), ("sensors", .array [jsonString "soc"]),
        ("aggregation", jsonString "max"), ("governor", jsonString "step_wise"),
        ("fallback_temp_mc", jsonNumber "90000"), ("actuators", .array [jsonString "fan"]),
        ("trips", .array
          [jsonObject
            [("temp_mc", jsonNumber "80000"), ("hyst_mc", jsonNumber "2000"),
              ("severity", jsonString "critical"), ("cooling_state", jsonNumber "1")]])]])

/-- Telemetry with one selector. -/
def oneSelectorMember (sel : String) : Member :=
  (ascii "telemetry", .object [(ascii "signals", .array [jsonString sel])])

/-- With `zone_temp_*` the document is accepted when telemetry follows the
zones and rejected when it precedes them. -/
theorem zone_selector_depends_on_order :
    (((oneFanMembers ++ [oneZoneMember, oneSelectorMember "zone_temp_*"]).map Prod.fst).Nodup ∧
      (oneFanMembers ++ [oneZoneMember, oneSelectorMember "zone_temp_*"]).Perm
        (oneFanMembers ++ [oneSelectorMember "zone_temp_*", oneZoneMember])) ∧
    (thermalConfigJsmnParse true 460 (.object
      (oneFanMembers ++ [oneZoneMember, oneSelectorMember "zone_temp_*"]))).toOption.isSome = true ∧
    (thermalConfigJsmnParse true 460 (.object
      (oneFanMembers ++ [oneSelectorMember "zone_temp_*", oneZoneMember]))).toOption.isSome = false := by
  refine ⟨⟨by decide, (List.Perm.swap _ _ []).append_left _⟩, ?_, ?_⟩
  · decide +kernel
  · decide +kernel

/-- With `actuator_pwm_*` both orders of the document are read alike. -/
theorem actuator_selector_order_free :
    (thermalConfigJsmnParse true 463 (.object
      (oneFanMembers ++ [oneSelectorMember "actuator_pwm_*", oneZoneMember]))).toOption =
    (thermalConfigJsmnParse true 463 (.object
      (oneFanMembers ++ [oneZoneMember, oneSelectorMember "actuator_pwm_*"]))).toOption := by
  refine (thermalConfigJsmnParse_order_iff true 463 _ (by decide)).mpr (fun _ _ => ?_) _
    ((List.Perm.swap _ _ []).append_left _)
  rintro tms sel hmem ⟨elems, s, hsignals, hs, rfl⟩
  have htms : tms = [(ascii "signals", .array [jsonString "actuator_pwm_*"])] := by
    simpa [oneFanMembers, oneZoneMember, oneSelectorMember, ascii] using hmem
  subst htms
  have helems : elems = [jsonString "actuator_pwm_*"] := by
    simpa using hsignals
  subst helems
  have hsel : s = ascii "actuator_pwm_*" := by
    simpa [jsonString] using hs
  subst hsel
  exact ⟨fun h => absurd h (by decide), fun h => absurd h (by decide)⟩

end ThermalCore
