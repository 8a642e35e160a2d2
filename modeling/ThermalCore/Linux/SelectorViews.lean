import ThermalCore.Linux.LoaderPasses

/-!
# Telemetry selectors against a partial configuration

What a selector expands to when the zones or the modifiers of a configuration
have not been read: the same, for one that does not refer to them; nothing at
all, for one that does, except for `fault_*`, which lists fewer signals.

A view is the configuration with the sections that were not read emptied.  The last
section compares the whole telemetry block in two views: it is the same, or refused in
one of them, or shorter by the signals of the missing section.
-/

namespace ThermalCore

/-! ## Views of a configuration -/

/-- Which of the two sections of pass B the selectors refer to have been read. -/
structure SeenSections where
  zones : Bool
  modifiers : Bool
deriving DecidableEq

/-- The configuration with the sections not seen still empty. -/
def seenView (seen : SeenSections) (cfg : Config) : Config :=
  { cfg with
    zones := if seen.zones then cfg.zones else default
    zoneCount := if seen.zones then cfg.zoneCount else 0
    modifiers := if seen.modifiers then cfg.modifiers else default
    modifierCount := if seen.modifiers then cfg.modifierCount else 0 }

/-- Where both sections were seen, the view is the configuration. -/
@[simp] theorem seenView_all (cfg : Config) : seenView ⟨true, true⟩ cfg = cfg := rfl

/-! ## Selectors that refer to a section -/

/-- The selector refers to the zones. -/
def readsZones (sel : Bytes) : Bool :=
  sel == ascii "fault_*" || sel == ascii "zone_cooling_state_*" ||
    (ascii "zone_temp_").isPrefixOf sel || (ascii "zone_aggregation_valid_").isPrefixOf sel ||
    (ascii "pid_terms_").isPrefixOf sel

/-- The selector refers to the modifiers. -/
def readsModifiers (sel : Bytes) : Bool := sel == ascii "modifier_pwm_cap_*"

variable {cfg : Config} {path sel : Bytes}

/-- A selector that does not refer to zones has the same signals for any zones. -/
theorem selectorSignals_zones_eq (h : readsZones sel = false) (zones : Vector ZoneCfg maxZones)
    (zoneCount : Nat) :
    selectorSignals { cfg with zones := zones, zoneCount := zoneCount } path sel =
      selectorSignals cfg path sel := by
  simp only [readsZones, Bool.or_eq_false_iff, beq_eq_false_iff_ne] at h
  obtain ⟨⟨⟨⟨hfault, hcooling⟩, htemp⟩, hvalid⟩, hpid⟩ := h
  have hwild (stem lit : String) (hstem : (ascii stem).isPrefixOf sel = false)
      (hlit : (ascii stem).isPrefixOf (ascii lit) = true) : (ascii lit == sel) = false := by
    rw [beq_eq_false_iff_ne]
    rintro rfl
    rw [hlit] at hstem
    exact absurd hstem (by simp)
  have htempAll := hwild "zone_temp_" "zone_temp_*" htemp (by decide)
  have hvalidAll := hwild "zone_aggregation_valid_" "zone_aggregation_valid_*" hvalid (by decide)
  have hpidAll := hwild "pid_terms_" "pid_terms_*" hpid (by decide)
  have hcoolingAll : (ascii "zone_cooling_state_*" == sel) = false := by
    rw [beq_eq_false_iff_ne]
    exact Ne.symm hcooling
  have hfaultAll : (ascii "fault_*" == sel) = false := by
    rw [beq_eq_false_iff_ne]
    exact Ne.symm hfault
  simp only [selectorSignals, wildcardSelectors, namedSignals, namedSelectors, List.find?_cons,
    htempAll, hvalidAll, hpidAll, hcoolingAll, hfaultAll, htemp, hvalid, hpid]
  rfl

/-- A selector that does not refer to modifiers has the same signals for any modifiers. -/
theorem selectorSignals_modifiers_eq (h : readsModifiers sel = false)
    (modifiers : Vector ModifierCfg maxModifiers) (modifierCount : Nat) :
    selectorSignals { cfg with modifiers := modifiers, modifierCount := modifierCount } path sel =
      selectorSignals cfg path sel := by
  rw [readsModifiers, beq_eq_false_iff_ne] at h
  have hall : (ascii "modifier_pwm_cap_*" == sel) = false := by
    rw [beq_eq_false_iff_ne]
    exact Ne.symm h
  simp only [selectorSignals, wildcardSelectors, List.find?_cons, hall]
  rfl

/-- Without zones no zone name resolves. -/
theorem resolveNameInZones_of_empty (h : cfg.zoneCount = 0) (s : Bytes) :
    resolveNameInZones cfg s = none := by
  rw [resolveNameInZones, h]
  rfl

/-- The contents of an empty zone array do not matter. -/
theorem selectorSignals_of_no_zones (h : cfg.zoneCount = 0) (zones : Vector ZoneCfg maxZones) :
    selectorSignals { cfg with zones := zones, zoneCount := 0 } path sel =
      selectorSignals cfg path sel := by
  have hzones : resolveNameInZones { cfg with zones := zones, zoneCount := 0 } =
      resolveNameInZones cfg := by
    funext s
    rw [resolveNameInZones_of_empty h, resolveNameInZones_of_empty rfl]
  simp only [selectorSignals, wildcardSelectors, namedSignals, namedSelectors, h, hzones]
  rfl

/-- The modifiers count through their number alone. -/
theorem selectorSignals_of_no_modifiers (h : cfg.modifierCount = 0)
    (modifiers : Vector ModifierCfg maxModifiers) :
    selectorSignals { cfg with modifiers := modifiers, modifierCount := 0 } path sel =
      selectorSignals cfg path sel := by
  simp only [selectorSignals, wildcardSelectors, h]
  rfl

/-- A selector expands alike in every view when the sections it refers to are empty. -/
theorem selectorSignals_seenView (seen : SeenSections)
    (hzones : readsZones sel = true → cfg.zoneCount = 0)
    (hmodifiers : readsModifiers sel = true → cfg.modifierCount = 0) :
    selectorSignals (seenView seen cfg) path sel = selectorSignals cfg path sel := by
  have hz (cfg' : Config) (hcount : cfg'.zoneCount = cfg.zoneCount) (zones : Vector ZoneCfg maxZones) :
      selectorSignals { cfg' with zones := zones, zoneCount := 0 } path sel =
        selectorSignals cfg' path sel := by
    cases hreads : readsZones sel with
    | true => exact selectorSignals_of_no_zones (hcount.trans (hzones hreads)) zones
    | false => exact selectorSignals_zones_eq hreads zones 0
  have hm (modifiers : Vector ModifierCfg maxModifiers) :
      selectorSignals { cfg with modifiers := modifiers, modifierCount := 0 } path sel =
        selectorSignals cfg path sel := by
    cases hreads : readsModifiers sel with
    | true => exact selectorSignals_of_no_modifiers (hmodifiers hreads) modifiers
    | false => exact selectorSignals_modifiers_eq hreads modifiers 0
  obtain ⟨seenZones, seenModifiers⟩ := seen
  cases seenZones <;> cases seenModifiers
  · exact (hz { cfg with modifiers := default, modifierCount := 0 } rfl default).trans (hm default)
  · exact hz cfg rfl default
  · exact hm default
  · rfl

/-! ## Selectors that cannot be expanded -/

/-- Literals neither of which starts with the other do not both start a string. -/
theorem not_both_stems {p q : Bytes} (hpq : p.isPrefixOf q = false) (hqp : q.isPrefixOf p = false)
    (hp : p.isPrefixOf sel = true) (hq : q.isPrefixOf sel = true) : False := by
  rw [List.isPrefixOf_iff_prefix] at hp hq
  rcases List.prefix_or_prefix_of_prefix hp hq with h | h
  · rw [List.isPrefixOf_iff_prefix.mpr h] at hpq
    exact absurd hpq (by simp)
  · rw [List.isPrefixOf_iff_prefix.mpr h] at hqp
    exact absurd hqp (by simp)

/-- A selector with a stem that no zone selector shares does not refer to the zones. -/
theorem not_readsZones_of_stem (stem : Bytes) (hstem : stem.isPrefixOf sel = true)
    (hstems : ∀ lit ∈ ["fault_*", "zone_cooling_state_*", "zone_temp_", "zone_aggregation_valid_",
      "pid_terms_"], stem.isPrefixOf (ascii lit) = false ∧ (ascii lit).isPrefixOf stem = false) :
    readsZones sel = false := by
  have hliteral (lit : String) (hlit : stem.isPrefixOf (ascii lit) = false) : sel ≠ ascii lit := by
    rintro rfl
    rw [hstem] at hlit
    exact absurd hlit (by simp)
  have hprefixed (lit : String) (hlit : stem.isPrefixOf (ascii lit) = false ∧
      (ascii lit).isPrefixOf stem = false) : (ascii lit).isPrefixOf sel = false := by
    rw [← Bool.not_eq_true]
    exact not_both_stems hlit.1 hlit.2 hstem
  simp only [readsZones, Bool.or_eq_false_iff, beq_eq_false_iff_ne]
  exact ⟨⟨⟨⟨hliteral _ (hstems "fault_*" (by simp)).1,
    hliteral _ (hstems "zone_cooling_state_*" (by simp)).1⟩, hprefixed _ (hstems _ (by simp))⟩,
    hprefixed _ (hstems _ (by simp))⟩, hprefixed _ (hstems _ (by simp))⟩

/-- A selector that names a zone does not resolve against no zones. -/
theorem selectorSignals_of_no_zones_eq_none (h : cfg.zoneCount = 0) (hreads : readsZones sel = true)
    (hfault : sel ≠ ascii "fault_*") : (selectorSignals cfg path sel).toOption = none := by
  unfold selectorSignals
  cases hwild : (wildcardSelectors cfg).find? fun w => ascii w.1 == sel with
  | some w =>
      have hmem := List.mem_of_find?_eq_some hwild
      have hkey : ascii w.1 = sel := by simpa using List.find?_some hwild
      have hother (lit : String) (hlit : readsZones (ascii lit) = false) : w.1 ≠ lit := by
        rintro rfl
        rw [hkey, hreads] at hlit
        exact absurd hlit (by simp)
      simp only [wildcardSelectors, List.mem_cons, List.not_mem_nil, or_false] at hmem
      rcases hmem with rfl | rfl | rfl | rfl | rfl | rfl | rfl | rfl | rfl
      · simp [h, setErr, Except.toOption]
      · simp [h, setErr, Except.toOption]
      · simp [h, setErr, Except.toOption]
      · exact absurd rfl (hother "actuator_pwm_*" (by decide))
      · exact absurd rfl (hother "actuator_rpm_*" (by decide))
      · simp [h, setErr, Except.toOption]
      · exact absurd rfl (hother "modifier_pwm_cap_*" (by decide))
      · exact absurd hkey.symm hfault
      · exact absurd rfl (hother "fan_health_*" (by decide))
  | none =>
      have hspeed : sel ≠ ascii "speed_kmh" := by
        rintro rfl
        exact absurd hreads (by decide)
      simp only [namedSignals, if_neg hspeed]
      cases hnamed : (namedSelectors cfg).find? fun s => (ascii s.stem).isPrefixOf sel with
      | none => rfl
      | some s =>
          have hmem := List.mem_of_find?_eq_some hnamed
          have hstem : (ascii s.stem).isPrefixOf sel = true := by simpa using List.find?_some hnamed
          have hzone (h' : s.resolve = resolveNameInZones cfg) (rest : Bytes) :
              (s.expand path rest).toOption = none := by
            rw [NamedSelector.expand, h', resolveNameInZones_of_empty h]
            rfl
          have hother (hfree : readsZones sel = false) :
              ∀ x : Load (List Nat), x.toOption = none := by
            rw [hreads] at hfree
            exact absurd hfree (by simp)
          simp only [namedSelectors, List.mem_cons, List.not_mem_nil, or_false] at hmem
          rcases hmem with rfl | rfl | rfl | rfl | rfl | rfl
          · exact hother (not_readsZones_of_stem (ascii "context_") hstem (by decide)) _
          · exact hzone rfl _
          · exact hzone rfl _
          · exact hother (not_readsZones_of_stem (ascii "actuator_pwm_") hstem (by decide)) _
          · exact hother (not_readsZones_of_stem (ascii "actuator_rpm_") hstem (by decide)) _
          · exact hzone rfl _

/-- Without modifiers a selector that refers to them is refused. -/
theorem selectorSignals_of_no_modifiers_eq_none (h : cfg.modifierCount = 0)
    (hreads : readsModifiers sel = true) : (selectorSignals cfg path sel).toOption = none := by
  rw [readsModifiers, beq_iff_eq] at hreads
  have hfind : (wildcardSelectors cfg).find? (fun w => ascii w.1 == sel) =
      some ("modifier_pwm_cap_*", (List.range cfg.modifierCount).map tsigModifierPwmCapAt) := by
    rw [hreads]
    simp [wildcardSelectors, ascii]
  rw [selectorSignals, hfind, h]
  rfl

/-- `fault_*` in full. -/
theorem selectorSignals_fault {sigs : List Nat}
    (h : selectorSignals cfg path (ascii "fault_*") = .ok sigs) :
    sigs.length = cfg.actuatorCount + cfg.sensorCount + cfg.zoneCount + cfg.contextCount := by
  have hfind : (wildcardSelectors cfg).find? (fun w => ascii w.1 == ascii "fault_*") =
      some ("fault_*", (List.range cfg.actuatorCount).map tsigFaultStallState ++
        (List.range cfg.sensorCount).map tsigFaultStuckSensorState ++
        (List.range cfg.zoneCount).map tsigFaultRunawayState ++
        (List.range cfg.contextCount).map tsigFaultStaleContextState) := by
    simp [wildcardSelectors, ascii]
  rw [selectorSignals, hfind] at h
  simp only at h
  split at h
  · exact absurd h (by simp [setErr])
  · rw [Except.ok.injEq] at h
    rw [← h]
    simp only [List.length_append, List.length_map, List.length_range]

/-- Signals of a selector with nothing seen, and with everything: no more in the
former, fewer when the selector refers to a filled section. -/
theorem length_signals_unseen {sigs sigs' : List Nat}
    (h : selectorSignals (seenView ⟨false, false⟩ cfg) path sel = .ok sigs)
    (h' : selectorSignals cfg path sel = .ok sigs') :
    sigs.length ≤ sigs'.length ∧
      (readsZones sel = true → 0 < cfg.zoneCount → sigs.length < sigs'.length) ∧
      readsModifiers sel = false := by
  have hmodifiers : readsModifiers sel = false := by
    rw [← Bool.not_eq_true]
    intro hreads
    have hnone : (selectorSignals (seenView ⟨false, false⟩ cfg) path sel).toOption = none :=
      selectorSignals_of_no_modifiers_eq_none rfl hreads
    rw [h] at hnone
    exact absurd hnone (by simp [Except.toOption])
  cases hreads : readsZones sel with
  | false =>
      have hsame : selectorSignals (seenView ⟨false, false⟩ cfg) path sel =
          selectorSignals cfg path sel :=
        selectorSignals_seenView _ (fun hz => absurd (hreads.symm.trans hz) (by simp))
          (fun hm => absurd (hmodifiers.symm.trans hm) (by simp))
      rw [h, h', Except.ok.injEq] at hsame
      exact ⟨Nat.le_of_eq (by rw [hsame]), by simp, hmodifiers⟩
  | true =>
      by_cases hfault : sel = ascii "fault_*"
      · subst hfault
        have hlen : sigs.length = cfg.actuatorCount + cfg.sensorCount + 0 + cfg.contextCount :=
          selectorSignals_fault h
        have hlen' := selectorSignals_fault h'
        exact ⟨by omega, fun _ hpos => by omega, hmodifiers⟩
      · have hnone : (selectorSignals (seenView ⟨false, false⟩ cfg) path sel).toOption = none :=
          selectorSignals_of_no_zones_eq_none rfl hreads hfault
        rw [h] at hnone
        exact absurd hnone (by simp [Except.toOption])

/-! ## The telemetry section in two views -/

/-- A chain of parsers succeeds when each of them does. -/
theorem load_bind_eq_ok {α β : Type} {x : Load α} {f : α → Load β} {b : β} :
    (x >>= f) = .ok b ↔ ∃ a, x = .ok a ∧ f a = .ok b := by
  cases x with
  | error e => simp [bind, Except.bind]
  | ok a => simp [bind, Except.bind]

section TwoRuns

variable {α σ : Type} {f g : σ → α → Load σ} {R S : σ → σ → Prop} {l : List α}

/-- Any two accepting steps on the element keep the states related. -/
def StepsKeep (f g : σ → α → Load σ) (R : σ → σ → Prop) (a : α) : Prop :=
  ∀ s t s' t', R s t → f s a = .ok s' → g t a = .ok t' → R s' t'

/-- Two runs of a loop stay related when every two steps do. -/
theorem foldlM_two_runs (hstep : ∀ a ∈ l, StepsKeep f g R a) {s t s' t' : σ} (hst : R s t)
    (hf : l.foldlM f s = .ok s') (hg : l.foldlM g t = .ok t') : R s' t' := by
  induction l generalizing s t with
  | nil =>
      obtain rfl : s = s' := by simpa [pure, Except.pure] using hf
      obtain rfl : t = t' := by simpa [pure, Except.pure] using hg
      exact hst
  | cons a l ih =>
      rw [List.foldlM_cons, load_bind_eq_ok] at hf hg
      obtain ⟨s₁, hfa, hfl⟩ := hf
      obtain ⟨t₁, hga, hgl⟩ := hg
      have hnext := hstep a (by simp) s t s₁ t₁ hst hfa hga
      exact ih (fun b hb => hstep b (List.mem_cons_of_mem _ hb)) hnext hfl hgl

/-- Two runs of a loop that pass an element whose steps tell them apart. -/
theorem foldlM_two_runs_strict (hR : ∀ a ∈ l, StepsKeep f g R a) (hS : ∀ a ∈ l, StepsKeep f g S a)
    {a : α} (ha : a ∈ l)
    (hstrict : ∀ s t s' t', R s t → f s a = .ok s' → g t a = .ok t' → S s' t') {s t s' t' : σ}
    (hst : R s t) (hf : l.foldlM f s = .ok s') (hg : l.foldlM g t = .ok t') : S s' t' := by
  obtain ⟨l₁, l₂, rfl⟩ := List.append_of_mem ha
  rw [List.foldlM_append, load_bind_eq_ok] at hf hg
  obtain ⟨s₁, hf₁, hf₂⟩ := hf
  obtain ⟨t₁, hg₁, hg₂⟩ := hg
  rw [List.foldlM_cons, load_bind_eq_ok] at hf₂ hg₂
  obtain ⟨s₂, hfa, hfl⟩ := hf₂
  obtain ⟨t₂, hga, hgl⟩ := hg₂
  have h₁ : R s₁ t₁ := foldlM_two_runs (fun b hb => hR b (by simp [hb])) hst hf₁ hg₁
  have h₂ : S s₂ t₂ := hstrict s₁ t₁ s₂ t₂ h₁ hfa hga
  exact foldlM_two_runs (fun b hb => hS b (by simp [hb])) h₂ hfl hgl

end TwoRuns

/-- The first section has at least `k` signals fewer. -/
def Behind (k : Nat) (t t' : TelemetryCfg) : Prop :=
  t.enabledSignalCount + k ≤ t'.enabledSignalCount

/-- Appending signals adds their number to the count. -/
theorem count_append {sigs : List Nat} {t t' : TelemetryCfg}
    (h : sigs.foldlM (telemetryAppend path) t = .ok t') :
    t'.enabledSignalCount = t.enabledSignalCount + sigs.length := by
  induction sigs generalizing t with
  | nil =>
      obtain rfl : t = t' := by simpa [pure, Except.pure] using h
      rfl
  | cons sig sigs ih =>
      rw [List.foldlM_cons, load_bind_eq_ok] at h
      obtain ⟨t₁, hhead, htail⟩ := h
      rw [ih htail]
      unfold telemetryAppend at hhead
      split at hhead
      · exact absurd hhead (by simp [setErr])
      · rw [Except.ok.injEq] at hhead
        have hone : t₁.enabledSignalCount = t.enabledSignalCount + 1 := by rw [← hhead]
        rw [hone, List.length_cons]
        omega

/-- What an accepted element of `signals` adds. -/
theorem parseSelector_ok {v : Json} {t t' : TelemetryCfg} (h : parseSelector cfg path v t = .ok t') :
    ∃ s sigs, v = .string s ∧ selectorSignals cfg path (cString s) = .ok sigs ∧
      t'.enabledSignalCount = t.enabledSignalCount + sigs.length := by
  unfold parseSelector at h
  cases v with
  | string s =>
      simp only [tokStrCopy] at h
      by_cases hlong : s.length + 1 > nameMax * 2
      · rw [if_pos hlong] at h
        exact absurd h (by simp [setErr])
      · rw [if_neg hlong] at h
        simp only [telemetryExpandOne, load_bind_eq_ok] at h
        obtain ⟨sigs, hsigs, happend⟩ := h
        exact ⟨s, sigs, rfl, hsigs, count_append happend⟩
  | object ms => exact absurd h (by simp [tokStrCopy, setErr])
  | array elems => exact absurd h (by simp [tokStrCopy, setErr])
  | primitive s => exact absurd h (by simp [tokStrCopy, setErr])

/-- Nothing seen on the left, everything on the right: an element of `signals`
keeps the left behind. -/
theorem parseSelector_behind (k : Nat) (v : Json) {t u t' u' : TelemetryCfg} (h : Behind k t u)
    (ht : parseSelector (seenView ⟨false, false⟩ cfg) path v t = .ok t')
    (hu : parseSelector cfg path v u = .ok u') : Behind k t' u' := by
  obtain ⟨s, sigs, hv, hsigs, hcount⟩ := parseSelector_ok ht
  obtain ⟨s', sigs', hv', hsigs', hcount'⟩ := parseSelector_ok hu
  obtain rfl : s = s' := by rw [hv, Json.string.injEq] at hv'; exact hv'
  have hle := (length_signals_unseen hsigs hsigs').1
  unfold Behind at h ⊢
  omega

/-- A selector that refers to a filled section tells the two views apart. -/
theorem parseSelector_strict {s : Bytes} {t u t' u' : TelemetryCfg} (h : Behind 0 t u)
    (hreads : (readsZones (cString s) = true ∧ 0 < cfg.zoneCount) ∨ readsModifiers (cString s) = true)
    (ht : parseSelector (seenView ⟨false, false⟩ cfg) path (.string s) t = .ok t')
    (hu : parseSelector cfg path (.string s) u = .ok u') : Behind 1 t' u' := by
  obtain ⟨s₁, sigs, hs₁, hsigs, hcount⟩ := parseSelector_ok ht
  obtain ⟨s₂, sigs', hs₂, hsigs', hcount'⟩ := parseSelector_ok hu
  rw [Json.string.injEq] at hs₁ hs₂
  subst hs₁ hs₂
  obtain ⟨hle, hlt, hmodifiers⟩ := length_signals_unseen hsigs hsigs'
  rcases hreads with ⟨hzones, hpos⟩ | hreads
  · have hless := hlt hzones hpos
    unfold Behind at h ⊢
    omega
  · rw [hmodifiers] at hreads
    exact absurd hreads (by simp)

/-- A list of selectors keeps the lag between the two views. -/
theorem parseSignals_behind (k : Nat) (v : Json) {t u t' u' : TelemetryCfg} (h : Behind k t u)
    (ht : parseList (fun _ => parseSelector (seenView ⟨false, false⟩ cfg)) path v t = .ok t')
    (hu : parseList (fun _ => parseSelector cfg) path v u = .ok u') : Behind k t' u' := by
  cases v with
  | array elems =>
      refine foldlM_two_runs (R := Behind k) ?_ h ht hu
      intro e _ s s' t t' hst hs hs'
      exact parseSelector_behind k e.1 hst hs hs'
  | object ms => exact absurd ht (by simp [parseList, setErr])
  | string s => exact absurd ht (by simp [parseList, setErr])
  | primitive s => exact absurd ht (by simp [parseList, setErr])

/-- A selector that refers to a filled section makes the partial view fall behind. -/
theorem parseSignals_strict {elems : List Json} {s : Bytes} (hmem : .string s ∈ elems)
    {t u t' u' : TelemetryCfg} (h : Behind 0 t u)
    (hreads : (readsZones (cString s) = true ∧ 0 < cfg.zoneCount) ∨ readsModifiers (cString s) = true)
    (ht : parseList (fun _ => parseSelector (seenView ⟨false, false⟩ cfg)) path (.array elems) t = .ok t')
    (hu : parseList (fun _ => parseSelector cfg) path (.array elems) u = .ok u') : Behind 1 t' u' := by
  obtain ⟨j, hj⟩ := List.mem_iff_getElem?.mp hmem
  have hidx : (Json.string s, j) ∈ elems.zipIdx := List.mem_zipIdx_iff_getElem?.mpr hj
  refine foldlM_two_runs_strict (R := Behind 0) (S := Behind 1) ?_ ?_ hidx ?_ h ht hu
  · intro e _ s s' t t' hst hs hs'
    exact parseSelector_behind 0 e.1 hst hs hs'
  · intro e _ s s' t t' hst hs hs'
    exact parseSelector_behind 1 e.1 hst hs hs'
  · intro s s' t t' hst hs hs'
    exact parseSelector_strict hst hreads hs hs'

variable {runtime : Bool}

/-- An accepted member of the telemetry section: the selectors, or one that adds no signal. -/
theorem parseTelemetryMember_ok {m : Member} {t t' : TelemetryCfg}
    (h : parseMember (telemetryArms runtime cfg) path m t = .ok t') :
    if m.1 = ascii "signals" then
      parseList (fun _ => parseSelector cfg) (subPath path m.1) m.2 t = .ok t'
    else t'.enabledSignalCount = t.enabledSignalCount := by
  unfold parseMember at h
  split at h
  · exact absurd h (by simp [setErr])
  · cases hfind : findArm (telemetryArms runtime cfg) m.1 with
    | none =>
        rw [hfind] at h
        exact absurd h (by simp [setErrf])
    | some arm =>
        rw [hfind] at h
        have hmem : arm ∈ telemetryArms runtime cfg := List.mem_of_find?_eq_some hfind
        have hkey : ascii arm.key = m.1 := by simpa using List.find?_some hfind
        have hother (lit : String) (hlit : ascii lit ≠ ascii "signals") (hm : ascii lit = m.1) :
            m.1 ≠ ascii "signals" := fun heq => hlit (hm.trans heq)
        simp only [telemetryArms, List.mem_cons, List.not_mem_nil, or_false] at hmem
        rcases hmem with rfl | rfl | rfl | rfl
        · rw [if_neg (hother "enable" (by decide) hkey)]
          simp only [boolArm] at h
          split at h
          · rw [Except.ok.injEq] at h
            rw [← h]
          · exact absurd h (by simp [setErr])
        · rw [if_neg (hother "period_ticks" (by decide) hkey)]
          simp only [intArm, load_bind_eq_ok] at h
          obtain ⟨val, -, hset⟩ := h
          rw [Except.ok.injEq] at hset
          rw [← hset]
        · rw [if_pos hkey.symm]
          exact h
        · rw [if_neg (hother "transport" (by decide) hkey)]
          simp only [platformStrArm] at h
          split at h
          · exact absurd h (by simp [setErr])
          · rw [Except.ok.injEq] at h
            rw [← h]
            rfl

/-- Any member of `telemetry` keeps the lag between the two views. -/
theorem parseTelemetryMember_behind (k : Nat) (m : Member) {t u t' u' : TelemetryCfg}
    (h : Behind k t u)
    (ht : parseMember (telemetryArms runtime (seenView ⟨false, false⟩ cfg)) path m t = .ok t')
    (hu : parseMember (telemetryArms runtime cfg) path m u = .ok u') : Behind k t' u' := by
  have ht' := parseTelemetryMember_ok ht
  have hu' := parseTelemetryMember_ok hu
  by_cases hkey : m.1 = ascii "signals"
  · rw [if_pos hkey] at ht' hu'
    exact parseSignals_behind k m.2 h ht' hu'
  · rw [if_neg hkey] at ht' hu'
    unfold Behind at h ⊢
    omega

/-- A selector of the document: a string among the signals of its telemetry section. -/
def IsSelector (tms : List Member) (sel : Bytes) : Prop :=
  ∃ elems s, (ascii "signals", Json.array elems) ∈ tms ∧ Json.string s ∈ elems ∧ sel = cString s

/-- With a selector that refers to a filled section the two views differ, if both are accepted. -/
theorem parseTelemetry_unseen_ne {tms : List Member} {sel : Bytes} (hsel : IsSelector tms sel)
    (hreads : (readsZones sel = true ∧ 0 < cfg.zoneCount) ∨ readsModifiers sel = true)
    {t t₁ t₂ : TelemetryCfg}
    (h₁ : parseTelemetryObject runtime (seenView ⟨false, false⟩ cfg) path (.object tms) t = .ok t₁)
    (h₂ : parseTelemetryObject runtime cfg path (.object tms) t = .ok t₂) : t₁ ≠ t₂ := by
  obtain ⟨elems, s, hsignals, hmem, rfl⟩ := hsel
  simp only [parseTelemetryObject, parseObject, load_bind_eq_ok, allSeen, List.all_nil, if_true,
    Except.ok.injEq] at h₁ h₂
  obtain ⟨s₁, hrun₁, rfl⟩ := h₁
  obtain ⟨s₂, hrun₂, rfl⟩ := h₂
  have hbehind : Behind 1 s₁ s₂ := by
    refine foldlM_two_runs_strict (R := Behind 0) (S := Behind 1) ?_ ?_ hsignals ?_ ?_ hrun₁ hrun₂
    · intro m _ s s' t t' hst hs hs'
      exact parseTelemetryMember_behind 0 m hst hs hs'
    · intro m _ s s' t t' hst hs hs'
      exact parseTelemetryMember_behind 1 m hst hs hs'
    · intro s s' t t' hst hs hs'
      exact parseSignals_strict hmem hst hreads (by simpa using parseTelemetryMember_ok hs)
        (by simpa using parseTelemetryMember_ok hs')
    · exact Nat.le_refl t.enabledSignalCount
  rintro rfl
  unfold Behind at hbehind
  omega

/-- A run depends only on the steps of the members it has. -/
theorem foldlM_congr_mem {α σ : Type} {f g : σ → α → Load σ} {l : List α}
    (h : ∀ a ∈ l, ∀ s, f s a = g s a) (s : σ) : l.foldlM f s = l.foldlM g s := by
  induction l generalizing s with
  | nil => rfl
  | cons a l ih =>
      rw [List.foldlM_cons, List.foldlM_cons, h a (by simp)]
      congr 1
      funext s'
      exact ih (fun b hb => h b (List.mem_cons_of_mem _ hb)) s'

/-- Without a selector that refers to a filled section every view gives the same telemetry. -/
theorem parseTelemetry_seenView {tms : List Member} (seen : SeenSections)
    (hsel : ∀ sel, IsSelector tms sel → (readsZones sel = true → cfg.zoneCount = 0) ∧
      (readsModifiers sel = true → cfg.modifierCount = 0)) (t : TelemetryCfg) :
    parseTelemetryObject runtime (seenView seen cfg) path (.object tms) t =
      parseTelemetryObject runtime cfg path (.object tms) t := by
  have hmember : ∀ m ∈ tms, ∀ t, parseMember (telemetryArms runtime (seenView seen cfg)) path m t =
      parseMember (telemetryArms runtime cfg) path m t := by
    intro m hm t
    have hsignals (hkey : m.1 = ascii "signals") (path : Bytes) :
        parseList (fun _ => parseSelector (seenView seen cfg)) path m.2 t =
          parseList (fun _ => parseSelector cfg) path m.2 t := by
      cases hv : m.2 with
      | array elems =>
          refine foldlM_congr_mem ?_ t
          intro e he t
          have helem : e.1 ∈ elems := List.fst_mem_of_mem_zipIdx he
          cases hs : e.1 with
          | string s =>
              have hmem : (ascii "signals", Json.array elems) ∈ tms := by
                rw [← hkey, ← hv]
                exact hm
              obtain ⟨hzones, hmodifiers⟩ := hsel _ ⟨elems, s, hmem, hs ▸ helem, rfl⟩
              have hsignals (path : Bytes) : selectorSignals (seenView seen cfg) path (cString s) =
                  selectorSignals cfg path (cString s) :=
                selectorSignals_seenView seen hzones hmodifiers
              unfold parseSelector tokStrCopy
              by_cases hlong : s.length + 1 > nameMax * 2
              · simp only [if_pos hlong]
              · simp only [if_neg hlong, telemetryExpandOne, hsignals]
          | object ms => rfl
          | array elems => rfl
          | primitive s => rfl
      | object ms => rfl
      | string s => rfl
      | primitive s => rfl
    unfold parseMember
    by_cases hkey : m.1 = ascii "signals"
    · have hfind (cfg : Config) : findArm (telemetryArms runtime cfg) m.1 =
          some { key := "signals", parse := parseList fun _ => parseSelector cfg } := by
        rw [hkey]
        simp [findArm, telemetryArms, boolArm, intArm, ascii]
      rw [hfind, hfind]
      simp only [hsignals hkey]
    · have hne : (ascii "signals" == m.1) = false := by
        rw [beq_eq_false_iff_ne]
        exact Ne.symm hkey
      have hfind : findArm (telemetryArms runtime (seenView seen cfg)) m.1 =
          findArm (telemetryArms runtime cfg) m.1 := by
        simp only [findArm, telemetryArms, List.find?_cons, hne]
      rw [hfind]
  simp only [parseTelemetryObject, parseObject, parseMembers, foldlM_congr_mem hmember t]

end ThermalCore
