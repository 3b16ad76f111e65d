import LitellmOperator.Record.Basic
import LitellmOperator.Resources.Config

/-! # Slots of the proxy configuration

Each section builder of `internal/resources/configmap.go` writes whole values into slots of the
configuration: a key of one of the three sections of settings, or the list of guardrails. Here each
builder is shown to add its values to whatever configuration it is given, and to write into no slot
but its own (`Builds`).
-/

set_option autoImplicit false

namespace LitellmOperator

open Go Kube Record

/-! ## Leaves and slots -/

/-- The value at a path of keys, if it is not a map. -/
def leafAt : List String → Value → Option Value
  | [], .map _ => none
  | [], v => some v
  | key :: path, .map fields => (StrMap.get? fields key).bind (leafAt path)
  | _ :: _, _ => none

/-- A slot of the configuration: a key of it, or a key of one of its sections. -/
abbrev Slot : Type := String × Option String

variable (config : StrMap Value)

def valueAt : Slot → Option Value
  | (name, none) => (config.get? name).bind (leafAt [])
  | (name, some key) => (sectionOf config name).get? key

/-- The slot that a path leads to or through. -/
def slotOf (name : String) : List String → Slot
  | [] => (name, none)
  | key :: _ => (name, some key)

theorem leafAt_of_leaf {v w : Value} (h : leafAt [] v = some w) : leafAt [] w = some w := by
  cases v <;> cases h <;> rfl

theorem leafAt_config (name : String) (path : List String) : leafAt (name :: path) (.map config) =
      (valueAt config (slotOf name path)).bind (leafAt path.tail) := by
  have hmap : leafAt (name :: path) (.map config) = (config.get? name).bind (leafAt path) := rfl
  rw [hmap]
  cases path with
  | nil =>
    show _ = ((config.get? name).bind (leafAt [])).bind (leafAt [])
    cases hv : (config.get? name).bind (leafAt []) with
    | none => rfl
    | some w =>
      obtain ⟨v, -, hw⟩ := Option.bind_eq_some_iff.mp hv
      exact (leafAt_of_leaf hw).symm
  | cons key rest =>
    show _ = ((sectionOf config name).get? key).bind (leafAt rest)
    unfold sectionOf
    cases config.get? name with
    | none => rfl
    | some v => cases v <;> rfl

/-- The sections of settings. -/
def settingsSections : List String := [generalSettingsKey, litellmSettingsKey, routerSettingsKey]

/-- The sections of settings are maps, and nothing else is one. -/
def Shaped : Prop :=
  ∀ name v, config.get? name = some v → (leafAt [] v = none ↔ name ∈ settingsSections)

theorem shaped_nil : Shaped [] := by
  intro name v h
  cases h

variable {name : String}

theorem Shaped.set {config : StrMap Value} (h : Shaped config) {v : Value}
    (hv : leafAt [] v = none ↔ name ∈ settingsSections) : Shaped (config.set name v) := by
  intro name' v' h'
  by_cases he : name = name'
  · subst he
    rw [StrMap.get?_set_self] at h'
    cases h'
    exact hv
  · rw [StrMap.get?_set_ne _ _ he] at h'
    exact h name' v' h'

theorem Shaped.valueAt_section {config : StrMap Value} (h : Shaped config)
    (hname : name ∈ settingsSections) : valueAt config (name, none) = none := by
  show (config.get? name).bind (leafAt []) = none
  cases hv : config.get? name with
  | none => rfl
  | some v => exact (h name v hv).mpr hname

theorem Shaped.sectionOf_eq_nil {config : StrMap Value} (h : Shaped config)
    (hname : name ∉ settingsSections) : sectionOf config name = [] := by
  unfold sectionOf
  split
  · rename_i m hm
    exact absurd ((h name _ hm).mp rfl) hname
  · rfl

/-! ## What a change of a section does to the slots -/

theorem sectionOf_set_self (config m : StrMap Value) (name : String) :
    sectionOf (config.set name (.map m)) name = m := by
  unfold sectionOf
  rw [StrMap.get?_set_self]

theorem sectionOf_set_ne {name name' : String} (v : Value) (h : name ≠ name') :
    sectionOf (config.set name v) name' = sectionOf config name' := by
  unfold sectionOf
  rw [StrMap.get?_set_ne _ _ h]

theorem valueAt_set_ne {name name' : String} (v : Value) (h : name ≠ name') (key : Option String) :
    valueAt (config.set name v) (name', key) = valueAt config (name', key) := by
  cases key with
  | none =>
    show ((config.set name v).get? name').bind _ = (config.get? name').bind _
    rw [StrMap.get?_set_ne _ _ h]
  | some key =>
    show (sectionOf (config.set name v) name').get? key = _
    rw [sectionOf_set_ne config v h]
    rfl

theorem shaped_inSection {config : StrMap Value} (h : Shaped config)
    (hname : name ∈ settingsSections) (f : StrMap Value → StrMap Value) :
    Shaped (inSection name f config) :=
  h.set (iff_of_true rfl hname)

theorem adds_inSection {config : StrMap Value} (h : Shaped config) (hname : name ∈ settingsSections)
    {f : StrMap Value → StrMap Value}
    (hf : ∀ key, (f (sectionOf config name)).get? key = ((f []).get? key).or ((sectionOf config
      name).get? key)) :
    Adds valueAt [] (inSection name f) config := by
  rintro ⟨name', key⟩
  by_cases he : name = name'
  · subst he
    cases key with
    | none =>
      -- before and after the change the section is a map
      rw [(shaped_inSection h hname f).valueAt_section hname,
        (shaped_inSection shaped_nil hname f).valueAt_section hname, h.valueAt_section hname]
      rfl
    | some key =>
      show (sectionOf (config.set name _) name).get? key =
        ((sectionOf (StrMap.set [] name _) name).get? key).or _
      rw [sectionOf_set_self, sectionOf_set_self]
      exact hf key
  · have hempty : valueAt (inSection name f []) (name', key) = none :=
      (valueAt_set_ne [] _ he key).trans (by cases key <;> rfl)
    rw [hempty, Option.none_or]
    exact valueAt_set_ne config _ he key

/-! ## Settings -/

variable (m : StrMap Value)

theorem putSettings_cons_some (key : String) (v : Value) (settings : List (String × Option Value)) :
    putSettings m ((key, some v) :: settings) = putSettings (m.set key v) settings := rfl

theorem get?_set_or (key key' : String) (v : Value) :
    (m.set key v).get? key' = ((StrMap.set [] key v).get? key').or (m.get? key') := by
  by_cases h : key = key'
  · subst h
    rw [StrMap.get?_set_self, StrMap.get?_set_self, Option.some_or]
  · rw [StrMap.get?_set_ne _ _ h, StrMap.get?_set_ne _ _ h]
    rfl

theorem get?_putSettings (settings : List (String × Option Value)) (key : String) :
    (putSettings m settings).get? key = ((putSettings [] settings).get? key).or (m.get? key) := by
  induction settings generalizing m with
  | nil => rfl
  | cons s settings ih =>
    obtain ⟨key', v⟩ := s
    cases v with
    | none => exact ih m
    | some v =>
      rw [putSettings_cons_some, putSettings_cons_some, ih, ih (StrMap.set [] key' v),
        get?_set_or m, Option.or_assoc]

variable {settings : List (String × Option Value)}

theorem mem_of_get?_putSettings {key : String} {v : Value}
    (h : (putSettings [] settings).get? key = some v) : key ∈ settings.map Prod.fst := by
  induction settings with
  | nil => cases h
  | cons s settings ih =>
    obtain ⟨key', v'⟩ := s
    rw [List.map_cons, List.mem_cons]
    rcases v' with _ | v'
    · exact .inr (ih h)
    by_cases he : key' = key
    · exact .inl he.symm
    · rw [putSettings_cons_some, get?_putSettings, StrMap.get?_set_ne _ _ he] at h
      exact .inr (ih (by simpa [StrMap.get?] using h))

theorem get?_putSettings_of_nodup (h : (settings.map Prod.fst).Nodup) (key : String) :
    (putSettings [] settings).get? key = (settings.lookup key).join := by
  induction settings with
  | nil => rfl
  | cons s settings ih =>
    obtain ⟨key', v⟩ := s
    obtain ⟨hnew, hrest⟩ := List.nodup_cons.mp h
    by_cases he : key = key'
    · subst he
      have habsent : (putSettings [] settings).get? key = none := by
        by_contra hne
        obtain ⟨w, hw⟩ := Option.ne_none_iff_exists'.mp hne
        exact hnew (mem_of_get?_putSettings hw)
      rw [List.lookup_cons_self]
      cases v with
      | none => exact habsent
      | some v =>
        rw [putSettings_cons_some, get?_putSettings, habsent, StrMap.get?_set_self]
        rfl
    · have hlookup : ((key', v) :: settings).lookup key = settings.lookup key := by
        rw [List.lookup_cons, beq_false_of_ne he]
      rw [hlookup, ← ih hrest]
      cases v with
      | none => rfl
      | some v =>
        rw [putSettings_cons_some, get?_putSettings, StrMap.get?_set_ne _ _ (Ne.symm he)]
        exact Option.or_none

theorem putSettings_eq_nil_iff : putSettings [] settings = [] ↔ ∀ s ∈ settings, s.2 = none := by
  constructor
  · intro h
    induction settings with
    | nil => simp
    | cons s settings ih =>
      obtain ⟨key, v⟩ := s
      rcases v with _ | v
      · exact List.forall_mem_cons.mpr ⟨rfl, ih h⟩
      -- a key that is written stays
      have hget := get?_putSettings (StrMap.set [] key v) settings key
      rw [← putSettings_cons_some, h, StrMap.get?_set_self] at hget
      cases (putSettings [] settings).get? key <;> simp [StrMap.get?] at hget
  · intro h
    induction settings with
    | nil => rfl
    | cons s settings ih =>
      obtain ⟨hs, hrest⟩ := List.forall_mem_cons.mp h
      obtain ⟨key, v⟩ := s
      cases hs
      exact ih hrest

/-! ## Builders -/

/-- The builder writes at most into the given slots. -/
def Confined (slots : List Slot) (build : StrMap Value → StrMap Value) : Prop :=
  ∀ slot, (valueAt (build []) slot).isSome → slot ∈ slots

/-- The builder adds to every configuration, and at most into the given slots. -/
structure Builds (slots : List Slot) (build : StrMap Value → StrMap Value) : Prop where
  shaped : ∀ {config}, Shaped config → Shaped (build config)
  adds : ∀ {config}, Shaped config → Adds valueAt [] build config
  confined : Confined slots build

theorem valueAt_nil (slot : Slot) : valueAt [] slot = none := by
  obtain ⟨name, key⟩ := slot
  cases key <;> rfl

theorem Confined.eq_none {slots : List Slot} {build : StrMap Value → StrMap Value}
    (h : Confined slots build) {slot : Slot} (hslot : slot ∉ slots) :
    valueAt (build []) slot = none := by
  by_contra hne
  exact hslot (h slot (Option.isSome_iff_ne_none.mpr hne))

theorem builds_skip (slots : List Slot) : Builds slots (fun config => config) where
  shaped := fun h => h
  adds := fun _ slot => by rw [valueAt_nil, Option.none_or]
  confined := fun slot h => by simp [valueAt_nil] at h

section

variable {slots slots' : List Slot} {build build' : StrMap Value → StrMap Value}

theorem Builds.andThen (h : Builds slots build) (h' : Builds slots' build') :
    Builds (slots ++ slots') (fun config => build' (build config)) where
  shaped := fun hconfig => h'.shaped (h.shaped hconfig)
  adds := by
    intro config hconfig slot
    rw [h'.adds (h.shaped hconfig) slot, h.adds hconfig slot, h'.adds (h.shaped shaped_nil) slot,
      Option.or_assoc]
  confined := by
    intro slot hslot
    rw [h'.adds (h.shaped shaped_nil) slot] at hslot
    cases hlast : valueAt (build' []) slot with
    | some v => exact List.mem_append_right _ (h'.confined slot (by rw [hlast]; rfl))
    | none =>
      rw [hlast, Option.none_or] at hslot
      exact List.mem_append_left _ (h.confined slot hslot)

theorem Builds.unless (h : Builds slots build) (p : Prop) [Decidable p] :
    Builds slots (fun config => if p then config else build config) := by
  by_cases hp : p
  · simp only [if_pos hp]
    exact builds_skip slots
  · simp only [if_neg hp]
    exact h

theorem builds_whenSet {A : Type} {make : A → StrMap Value → StrMap Value}
    (h : ∀ a, Builds slots (make a)) (x : Option A) (enabled : A → Bool) :
    Builds slots (whenSet x enabled make) := by
  rcases x with _ | a
  · exact builds_skip slots
  show Builds slots (fun config => if enabled a then make a config else config)
  by_cases ha : enabled a = true
  · simp only [if_pos ha]
    exact h a
  · simp only [if_neg ha]
    exact builds_skip slots

end

/-- The slots of some keys of a section. -/
def slotsIn (name : String) (keys : List String) : List Slot := keys.map (fun key => (name, some key))

theorem confined_inSection (f : StrMap Value → StrMap Value) {keys : List String}
    (h : ∀ key v, (f []).get? key = some v → key ∈ keys) (hname : name ∈ settingsSections) :
    Confined (slotsIn name keys) (inSection name f) := by
  rintro ⟨name', key⟩ hslot
  by_cases he : name = name'
  · subst he
    rcases key with _ | key
    · rw [(shaped_inSection shaped_nil hname f).valueAt_section hname] at hslot
      cases hslot
    have hget : valueAt (inSection name f []) (name, some key) = (f []).get? key := by
      show (sectionOf (StrMap.set [] name _) name).get? key = _
      rw [sectionOf_set_self]
      rfl
    rw [hget] at hslot
    obtain ⟨v, hv⟩ := Option.isSome_iff_exists.mp hslot
    exact List.mem_map.mpr ⟨key, h key v hv, rfl⟩
  · have hempty : valueAt (inSection name f []) (name', key) = none :=
      (valueAt_set_ne [] _ he key).trans (valueAt_nil _)
    rw [hempty] at hslot
    cases hslot

theorem builds_putInSection (hname : name ∈ settingsSections)
    (settings : List (String × Option Value)) :
    Builds (slotsIn name (settings.map Prod.fst)) (putInSection name settings) where
  shaped := fun h => shaped_inSection h hname _
  adds := fun h => adds_inSection h hname (fun key => get?_putSettings _ settings key)
  confined := confined_inSection _ (fun _ _ h => mem_of_get?_putSettings h) hname

theorem general_mem : generalSettingsKey ∈ settingsSections := .head _
theorem litellm_mem : litellmSettingsKey ∈ settingsSections := .tail _ (.head _)
theorem router_mem : routerSettingsKey ∈ settingsSections := .tail _ (.tail _ (.head _))

theorem builds_putLiteLLMFlag (key : String) (b : Option Bool) :
    Builds (slotsIn litellmSettingsKey [key]) (putLiteLLMFlag key b) := by
  cases b with
  | none => exact builds_skip _
  | some b => exact builds_putInSection litellm_mem [(key, some (.bool b))]

theorem builds_putGeneral (key : String) (v : Option Value) :
    Builds (slotsIn generalSettingsKey [key]) (putGeneral key v) := by
  cases v with
  | none => exact builds_skip _
  | some v => exact builds_putInSection general_mem [(key, some v)]

theorem builds_liteLLMSettings (ll : Option LiteLLMSettingsSpec) :
    Builds (slotsIn litellmSettingsKey ["json_logs", "check_provider_endpoint"])
      (buildLiteLLMSettings ll) := by
  cases ll with
  | none => exact builds_skip _
  | some ll =>
    have h := (builds_putLiteLLMFlag "json_logs" ll.jsonLogs).andThen
      (builds_putLiteLLMFlag "check_provider_endpoint" ll.checkProviderEndpoint)
    exact h

theorem builds_fallbackConfig (fb : FallbackSpec) : Builds (slotsIn litellmSettingsKey
        ["default_fallbacks", "content_policy_fallbacks", "context_window_fallbacks"] ++
      slotsIn routerSettingsKey ["fallbacks", "max_fallbacks"]) (buildFallbackConfig fb) := by
  have hlitellm := (builds_putInSection litellm_mem
    [("default_fallbacks", listSetting fb.defaultFallbacks),
      ("content_policy_fallbacks", modelFallbackEntriesToMaps fb.contentPolicyFallbacks),
      ("context_window_fallbacks", modelFallbackEntriesToMaps fb.contextWindowFallbacks)]).unless
    ((fb.defaultFallbacks.isEmpty && fb.contentPolicyFallbacks.isEmpty &&
      fb.contextWindowFallbacks.isEmpty) = true)
  have hrouter := (builds_putInSection router_mem
    [("fallbacks", modelFallbackEntriesToMaps fb.modelFallbacks),
      ("max_fallbacks", intSetting fb.maxFallbacks)]).unless
    ((fb.modelFallbacks.isEmpty && fb.maxFallbacks.isNone) = true)
  exact hlitellm.andThen hrouter

variable (sso : SSOSpec)

/-- The part of the SSO builder that writes the field of the team IDs. -/
def ssoTeamField (config : StrMap Value) : StrMap Value :=
  if sso.teamIDsJWTField = "" then config
  else inSection generalSettingsKey
    (·.set "litellm_jwtauth" (.map [("team_ids_jwt_field", .str sso.teamIDsJWTField)])) config

theorem builds_ssoTeamField :
    Builds (slotsIn generalSettingsKey ["litellm_jwtauth"]) (ssoTeamField sso) :=
  (builds_putInSection general_mem
    [("litellm_jwtauth", some (.map [("team_ids_jwt_field", .str sso.teamIDsJWTField)]))]).unless
    (sso.teamIDsJWTField = "")

/-- The SSO builder writes the field of the team IDs, after and before something else. -/
theorem buildSSOConfig_parts : ∃ before after,
    Builds (slotsIn litellmSettingsKey ["default_internal_user_params", "default_team_params"])
      before ∧
    Builds (slotsIn generalSettingsKey ["custom_sso"]) after ∧
    buildSSOConfig sso = fun config => after (ssoTeamField sso (before config)) := by
  have hbefore := (builds_putInSection litellm_mem [("default_internal_user_params",
        sso.defaultUserParams.map (fun p => .map (mapDefaultUserParams p))),
      ("default_team_params",
        sso.defaultTeamParams.map (fun p => .map (mapDefaultTeamParams p)))]).unless
    ((sso.defaultUserParams.isNone && sso.defaultTeamParams.isNone) = true)
  have hafter := (builds_putInSection general_mem
    [("custom_sso", some (.str (customSSOModulePath sso.customSSOHandler)))]).unless
    (customSSOModulePath sso.customSSOHandler = "")
  exact ⟨_, _, hbefore, hafter, rfl⟩

theorem builds_ssoConfig :
    Builds (slotsIn litellmSettingsKey ["default_internal_user_params", "default_team_params"] ++
        slotsIn generalSettingsKey ["litellm_jwtauth"] ++
        slotsIn generalSettingsKey ["custom_sso"]) (buildSSOConfig sso) := by
  obtain ⟨before, after, hbefore, hafter, heq⟩ := buildSSOConfig_parts sso
  rw [heq]
  exact (hbefore.andThen (builds_ssoTeamField sso)).andThen hafter

theorem builds_customerBudget (spec : DefaultCustomerBudgetSpec) :
    Builds (slotsIn litellmSettingsKey ["max_end_user_budget", "max_end_user_budget_id"])
      (buildDefaultCustomerBudget spec) :=
  (builds_putInSection litellm_mem [("max_end_user_budget", floatSetting spec.maxBudget),
      ("max_end_user_budget_id", textSetting spec.budgetID)]).unless
    ((spec.maxBudget.isNone && spec.budgetID = "") = true)

theorem builds_auditLogs (auditLogs : Option AuditLogSpec) :
    Builds (slotsIn generalSettingsKey ["store_audit_logs"] ++
      slotsIn litellmSettingsKey ["audit_log_retention_days"]) (buildAuditLogs auditLogs) := by
  have hstore := builds_putInSection general_mem [("store_audit_logs", some (.bool true))]
  rcases auditLogs with _ | auditLogs
  · exact builds_skip _
  obtain ⟨enabled, retentionDays⟩ := auditLogs
  cases enabled with
  | false => exact builds_skip _
  | true =>
    cases retentionDays with
    | none => exact hstore.andThen (builds_skip _)
    | some n =>
      exact hstore.andThen
        (builds_putInSection litellm_mem [("audit_log_retention_days", some (.int n))])

theorem builds_spendLogRetention (retention : Option SpendLogRetentionSpec) :
    Builds (slotsIn generalSettingsKey
        ["maximum_spend_logs_retention_period", "maximum_spend_logs_retention_interval"])
      (fun config => match retention with
        | none => config
        | some retention => putInSection generalSettingsKey
            [("maximum_spend_logs_retention_period", textSetting retention.maxRetentionPeriod),
              ("maximum_spend_logs_retention_interval", textSetting retention.cleanupInterval)]
            config) := by
  cases retention with
  | none => exact builds_skip _
  | some retention =>
    exact builds_putInSection general_mem
      [("maximum_spend_logs_retention_period", textSetting retention.maxRetentionPeriod),
        ("maximum_spend_logs_retention_interval", textSetting retention.cleanupInterval)]

theorem builds_loggingConfig (logging : InstanceLoggingSpec) :
    Builds (slotsIn generalSettingsKey ["store_audit_logs"] ++
        slotsIn litellmSettingsKey ["audit_log_retention_days"] ++
        slotsIn litellmSettingsKey ["turn_off_message_logging"] ++
        slotsIn litellmSettingsKey ["redact_user_api_key_info"] ++
        slotsIn generalSettingsKey
          ["maximum_spend_logs_retention_period", "maximum_spend_logs_retention_interval"])
      (buildLoggingConfig logging) :=
  (((builds_auditLogs logging.auditLogs).andThen
    (builds_putLiteLLMFlag "turn_off_message_logging" logging.turnOffMessageLogging)).andThen
    (builds_putLiteLLMFlag "redact_user_api_key_info" logging.redactUserAPIKeyInfo)).andThen
    (builds_spendLogRetention logging.spendLogRetention)

theorem builds_adminUIConfig (adminUI : AdminUISpec) :
    Builds (slotsIn generalSettingsKey ["ui_access_mode"] ++
        slotsIn generalSettingsKey ["store_model_in_db"] ++
        slotsIn generalSettingsKey ["default_team_disabled"]) (buildAdminUIConfig adminUI) :=
  ((builds_putGeneral "ui_access_mode"
    (if adminUI.adminOnly = some true then some (.str "admin_only") else none)).andThen
    (builds_putGeneral "store_model_in_db" (boolSetting adminUI.storeModelInDB))).andThen
    (builds_putGeneral "default_team_disabled" (boolSetting adminUI.defaultTeamDisabled))

theorem builds_setList (hname : name ∉ settingsSections) (xs : List Value) :
    Builds [(name, none)] (fun config => config.set name (.list xs)) := by
  have hself : ∀ config, valueAt (StrMap.set config name (.list xs)) (name, none) =
      some (.list xs) := by
    intro config
    show ((StrMap.set config name (.list xs)).get? name).bind (leafAt []) = _
    rw [StrMap.get?_set_self]
    rfl
  have hkeys : ∀ config key, valueAt (StrMap.set config name (.list xs)) (name, some key) =
      none := by
    intro config key
    show (sectionOf _ name).get? key = none
    unfold sectionOf
    rw [StrMap.get?_set_self]
    rfl
  refine ⟨fun h => h.set (iff_of_false (by simp [leafAt]) hname), fun {config} h => ?_, ?_⟩
  · rintro ⟨name', key⟩
    by_cases he : name = name'
    · subst he
      rcases key with _ | key
      · rw [hself, hself, Option.some_or]
      have hnone : valueAt config (name, some key) = none := by
        show (sectionOf config name).get? key = none
        rw [h.sectionOf_eq_nil hname]
        rfl
      rw [hkeys, hkeys, hnone, Option.or_none]
    · rw [valueAt_set_ne _ _ he, valueAt_set_ne _ _ he, valueAt_nil, Option.none_or]
  · rintro ⟨name', key⟩ hslot
    by_cases he : name = name'
    · subst he
      cases key with
      | none => exact .head _
      | some key =>
        rw [hkeys] at hslot
        cases hslot
    · rw [valueAt_set_ne _ _ he, valueAt_nil] at hslot
      cases hslot

theorem builds_guardrailsList (lib : Ext) (inst : LiteLLMInstance)
    (guardrails : List LiteLLMGuardrail) :
    Builds [("guardrails", none)] (buildGuardrailsList lib inst guardrails) :=
  (builds_setList (by decide) _).unless
    (((guardrails.filter (fun g => g.spec.instanceRef.name = inst.metadata.name)).map
      (guardrailEntry lib)).isEmpty = true)

end LitellmOperator
