import LitellmOperator.Resources.Overlap

/-! # Extra settings

The raw settings of `spec.generalSettings.extra` and `spec.litellmSettings.extra` are merged into
their sections after all builders have run. The configuration is compared with the one of the same
instance without extra settings (`plain`).
-/

set_option autoImplicit false

namespace LitellmOperator

open Go Kube

section

variable (inst : LiteLLMInstance)

def plain : LiteLLMInstance :=
  { inst with spec :=
    { inst.spec with
      generalSettings := inst.spec.generalSettings.map (fun gs => { gs with extra := [] })
      litellmSettings := inst.spec.litellmSettings.map (fun ll => { ll with extra := [] }) } }

def extraOf (name : String) : StrMap RawJSON :=
  if name = generalSettingsKey then (inst.spec.generalSettings.map (·.extra)).getD []
  else (inst.spec.litellmSettings.map (·.extra)).getD []

/-- The value of an extra setting, if it is well-formed. -/
def decodedAt (lib : Ext) (extra : StrMap RawJSON) (k : String) : Option Value :=
  (extra.get? k).bind (fun raw =>
    if raw.raw = "" then none else (lib.unmarshal raw).map Value.ofJson)

/-- An instance whose extra settings are maps. -/
structure ExtraInput where
  inst : LiteLLMInstance
  distinct : ∀ name, (extraOf inst name).Distinct

/-- The keys `skipped` of a section, in order, are the well-formed extra keys that are there without
them; the section has all others as well. -/
structure Merges (lib : Ext) (extra : StrMap RawJSON) (before after : StrMap Value)
    (skipped : List String) : Prop where
  values : ∀ k, after.get? k = (before.get? k).or (decodedAt lib extra k)
  reported : ∀ k, k ∈ skipped ↔ (before.get? k).isSome ∧ (decodedAt lib extra k).isSome
  ordered : skipped.Pairwise (· < ·)

/-! ## One section -/

section

variable {lib : Ext} {extra : StrMap RawJSON} (h : extra.Distinct)

theorem decodedSettings_cons (e : String × RawJSON) : decodedSettings lib (e :: extra) =
    (if e.2.raw = "" then [] else ((lib.unmarshal e.2).map (fun v => (e.1, Value.ofJson v))).toList)
      ++ decodedSettings lib extra := by
  unfold decodedSettings decodeJSONParams
  by_cases hraw : e.2.raw = ""
  · simp [hraw]
  · cases hv : lib.unmarshal e.2 <;> simp [hraw, hv]

theorem mem_of_decoded {k : String} (hk : k ∈ (decodedSettings lib extra).keys) :
    k ∈ extra.keys := by
  simp only [decodedSettings, decodeJSONParams, StrMap.keys, List.map_map, List.mem_map,
    List.mem_filterMap] at hk ⊢
  obtain ⟨_, ⟨e, he, hsome⟩, rfl⟩ := hk
  refine ⟨e, he, ?_⟩
  split at hsome
  · cases hsome
  · obtain ⟨v, -, rfl⟩ := Option.map_eq_some_iff.mp hsome
    rfl

include h in
theorem get?_decodedSettings (k : String) :
    (decodedSettings lib extra).get? k = decodedAt lib extra k := by
  induction extra with
  | nil => rfl
  | cons e extra ih =>
    obtain ⟨hhead, htail⟩ := List.nodup_cons.mp h
    have hnone : e.1 = k → StrMap.get? (decodedSettings lib extra) k = none := by
      rintro rfl
      by_contra hne
      exact hhead (mem_of_decoded (StrMap.mem_keys.mpr (Option.isSome_iff_ne_none.mpr hne)))
    rw [decodedSettings_cons, decodedAt, StrMap.get?_cons]
    by_cases hk : e.1 = k
    · by_cases hraw : e.2.raw = ""
      · simp [hk, hraw, hnone]
      · cases hv : lib.unmarshal e.2 <;> simp [hk, hraw, hv, hnone, StrMap.get?_cons]
    · rw [if_neg hk, ← decodedAt, ← ih htail]
      by_cases hraw : e.2.raw = ""
      · simp [hraw]
      · cases lib.unmarshal e.2 <;> simp [hk, hraw, StrMap.get?_cons]

include h in
theorem distinct_decodedSettings : (decodedSettings lib extra).Distinct := by
  induction extra with
  | nil => exact List.nodup_nil
  | cons e extra ih =>
    obtain ⟨hhead, htail⟩ := List.nodup_cons.mp h
    have hfresh : e.1 ∉ (decodedSettings lib extra).keys := fun hk => hhead (mem_of_decoded hk)
    rw [decodedSettings_cons]
    by_cases hraw : e.2.raw = ""
    · simpa [hraw] using ih htail
    · cases hv : lib.unmarshal e.2 with
      | none => simpa [hraw, hv] using ih htail
      | some v => simpa [hraw, hv, StrMap.Distinct, StrMap.keys] using And.intro hfresh (ih htail)

end

/-- **One key after the other.** A key that is there is skipped, another one is written. -/
theorem mergeKeys_spec (decoded : StrMap Value) {ks : List String} (hks : ks.Nodup)
    (config : StrMap Value) (skipped : List String) :
    let out := ks.foldl (fun acc k =>
      if (acc.1.get? k).isSome then (acc.1, acc.2 ++ [k])
      else (acc.1.set k ((decoded.get? k).getD .null), acc.2)) (config, skipped)
    out.2 = skipped ++ ks.filter (fun k => (config.get? k).isSome) ∧
      ∀ k, out.1.get? k = (config.get? k).or
        (if k ∈ ks then some ((decoded.get? k).getD .null) else none) := by
  induction ks generalizing config skipped with
  | nil => simp
  | cons k ks ih =>
    obtain ⟨hk, hks⟩ := List.nodup_cons.mp hks
    by_cases htaken : (config.get? k).isSome = true
    · obtain ⟨hskip, hget⟩ := ih hks config (skipped ++ [k])
      refine ⟨by simpa [htaken] using hskip, fun k' => ?_⟩
      obtain ⟨v, hv⟩ := Option.isSome_iff_exists.mp htaken
      have hget' := hget k'
      by_cases he : k' = k
      · subst he
        simpa [htaken, hv] using hget'
      · simpa [htaken, he] using hget'
    · obtain ⟨hskip, hget⟩ := ih hks (config.set k ((decoded.get? k).getD .null)) skipped
      have hnone : config.get? k = none := by simpa using htaken
      refine ⟨?_, fun k' => ?_⟩
      · have hsame : ks.filter (fun k' => ((config.set k ((decoded.get? k).getD .null)).get?
            k').isSome) = ks.filter (fun k' => (config.get? k').isSome) := by
          refine List.filter_congr (fun k' hk' => ?_)
          rw [StrMap.get?_set_ne]
          exact fun he => hk (he ▸ hk')
        simpa [htaken, hsame] using hskip
      · have hget' := hget k'
        by_cases he : k' = k
        · subst he
          simpa [htaken, hnone] using hget'
        · rw [StrMap.get?_set_ne _ _ (Ne.symm he)] at hget'
          simpa [htaken, he] using hget'

theorem merges_applyExtraSettings (lib : Ext) {extra : StrMap RawJSON} (h : extra.Distinct)
    (config : StrMap Value) :
    Merges lib extra config (applyExtraSettings lib extra config).1
      (applyExtraSettings lib extra config).2 := by
  have hdistinct : (decodedSettings lib extra).Distinct := distinct_decodedSettings h
  have hnodup := StrMap.nodup_sortedKeys hdistinct
  obtain ⟨hskip, hget⟩ := mergeKeys_spec (decodedSettings lib extra) hnodup config []
  rw [List.nil_append] at hskip
  refine ⟨fun k => (hget k).trans ?_, fun k => ?_, ?_⟩
  · simp only [StrMap.mem_sortedKeys, get?_decodedSettings h]
    cases decodedAt lib extra k <;> simp
  · show k ∈ _ ↔ _
    rw [applyExtraSettings, hskip, List.mem_filter, StrMap.mem_sortedKeys, get?_decodedSettings h]
    exact and_comm
  · rw [applyExtraSettings, hskip]
    refine List.Pairwise.filter _ ?_
    exact ((List.pairwise_insertionSort (· ≤ ·) _).and hnodup).imp
      (fun hab => lt_of_le_of_ne hab.1 hab.2)

/-! ## The configuration -/

/-- **The named section.** The extra settings are merged into it, all else stays. -/
theorem extraInSection_spec (lib : Ext) (name : String) {extra : StrMap RawJSON}
    (h : extra.Distinct) (config : StrMap Value) :
    let out := extraInSection lib name extra config
    ∃ skipped, Merges lib extra (sectionOf config name) (sectionOf out.1 name) skipped ∧
      out.2 = skipped.map (fun k => name ++ "." ++ k) ∧
      ∀ name', name' ≠ name → out.1.get? name' = config.get? name' := by
  by_cases hempty : extra.isEmpty = true
  · obtain rfl := List.isEmpty_iff.mp hempty
    exact ⟨[], merges_applyExtraSettings lib h _, rfl, fun _ _ => rfl⟩
  · have hout : extraInSection lib name extra config = _ := if_neg hempty
    have hsection : sectionOf (extraInSection lib name extra config).1 name =
        (applyExtraSettings lib extra (sectionOf config name)).1 := by
      simp [hout, sectionOf]
    refine ⟨_, hsection ▸ merges_applyExtraSettings lib h _, by rw [hout], fun name' hne => ?_⟩
    rw [hout]
    exact StrMap.get?_set_ne _ _ hne.symm

theorem sectionOf_congr {config config' : StrMap Value} {name : String}
    (h : config.get? name = config'.get? name) :
    sectionOf config name = sectionOf config' name := by
  rw [sectionOf, h, sectionOf]

theorem sectionBuilders_plain (lib : Ext) (inst : LiteLLMInstance)
    (guardrails : List LiteLLMGuardrail) :
    sectionBuilders lib (plain inst) guardrails = sectionBuilders lib inst guardrails := by
  have hgeneral : buildGeneralSettings (plain inst).spec.generalSettings =
      buildGeneralSettings inst.spec.generalSettings := by
    show buildGeneralSettings (inst.spec.generalSettings.map _) = _
    cases inst.spec.generalSettings <;> rfl
  have hlitellm : buildLiteLLMSettings (plain inst).spec.litellmSettings =
      buildLiteLLMSettings inst.spec.litellmSettings := by
    show buildLiteLLMSettings (inst.spec.litellmSettings.map _) = _
    cases inst.spec.litellmSettings <;> rfl
  unfold sectionBuilders
  simp only [hgeneral, hlitellm]
  rfl

theorem noExtra_plain : NoExtra (plain inst) := by
  refine ⟨fun gs hgs => ?_, fun ll hll => ?_⟩
  · obtain ⟨_, _, rfl⟩ := Option.map_eq_some_iff.mp hgs
    rfl
  · obtain ⟨_, _, rfl⟩ := Option.map_eq_some_iff.mp hll
    rfl

/-- **Extra settings neither override nor vanish.** Next to the configuration without them, each of
the two sections has its own extra settings merged in, the other entries are the same, and the
reported keys are the skipped ones, those of `general_settings` first. -/
theorem extra_settings_merged (lib : Ext) (input : ExtraInput)
    (guardrails : List LiteLLMGuardrail) :
    let extended := generateProxyConfigWithConflicts lib input.inst guardrails
    let derived := generateProxyConfig lib (plain input.inst) guardrails
    let merges := fun name => Merges lib (extraOf input.inst name) (sectionOf derived name)
      (sectionOf extended.1 name)
    ∃ general litellm, merges "general_settings" general ∧ merges "litellm_settings" litellm ∧
      extended.2 = general.map ("general_settings." ++ ·) ++ litellm.map ("litellm_settings." ++ ·)
      ∧ ∀ name, name ≠ "general_settings" → name ≠ "litellm_settings" →
        extended.1.get? name = derived.get? name := by
  intro extended derived merges
  have hderived : derived = (sectionBuilders lib input.inst guardrails).foldl
      (fun config build => build config) startConfig := by
    rw [← sectionBuilders_plain]
    exact generateProxyConfig_of_noExtra (noExtra_plain _)
  obtain ⟨general, hgeneral, hreported, hsame⟩ := extraInSection_spec lib generalSettingsKey
    (input.distinct generalSettingsKey) derived
  obtain ⟨litellm, hlitellm, hreported', hsame'⟩ := extraInSection_spec lib litellmSettingsKey
    (input.distinct litellmSettingsKey) (extraInSection lib generalSettingsKey
      (extraOf input.inst generalSettingsKey) derived).1
  have hextended : extended = applyAllExtraSettings lib input.inst derived := by
    rw [hderived]
    rfl
  -- neither section is the other one, so each is merged as if it were alone
  have hne : litellmSettingsKey ≠ generalSettingsKey := by decide
  have hfirst := sectionOf_congr (hsame' _ hne.symm)
  rw [sectionOf_congr (hsame _ hne)] at hlitellm
  refine ⟨general, litellm, ?_, ?_, ?_, fun name h h' => ?_⟩
  · show Merges _ _ _ (sectionOf extended.1 generalSettingsKey) _
    rw [hextended]
    exact hfirst.symm ▸ hgeneral
  · show Merges _ _ _ (sectionOf extended.1 litellmSettingsKey) _
    rw [hextended]
    exact hlitellm
  · rw [hextended]
    exact congrArg₂ (· ++ ·) hreported hreported'
  · rw [hextended]
    exact (hsame' name h').trans (hsame name h)

end

namespace Sample

/-- Every extra setting is decoded as a text. -/
def textLib : Ext := { lib with unmarshal := fun raw => some (.str raw.raw) }

/-- One of two extra settings is there without it. -/
def extraInput : ExtraInput where
  inst :=
    { metadata := { name := "proxy", ns := "apps" }
      spec :=
        { generalSettings := some
            { budgetDuration := "30d"
              extra := [("budget_duration", ⟨"7d"⟩), ("ui_access_mode", ⟨"all"⟩)] } }
      status := {} }
  distinct name := by
    unfold extraOf
    split <;> decide

end Sample

theorem extra_settings_merged_skipped :
    let extended := generateProxyConfigWithConflicts Sample.textLib Sample.extraInput.inst []
    let derived := generateProxyConfig Sample.textLib (plain Sample.extraInput.inst) []
    extended.2 = ["general_settings.budget_duration"] ∧
      ∀ k, (sectionOf extended.1 "general_settings").get? k =
        ((sectionOf derived "general_settings").get? k).or
          (decodedAt Sample.textLib (extraOf Sample.extraInput.inst "general_settings") k) := by
  obtain ⟨general, litellm, hgeneral, -⟩ := extra_settings_merged Sample.textLib Sample.extraInput []
  exact ⟨by decide +kernel, hgeneral.values⟩

end LitellmOperator
