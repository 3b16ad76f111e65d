import LitellmOperator.Resources.Slots

/-! # Section builders that write over each other

Two slots of the proxy configuration have two builders. `default_team_disabled` holds a flag, of
which the later one stands. `litellm_jwtauth` holds a map, which the JWT builder replaces rather
than extends, so that the field of the team IDs that the SSO builder put there is lost unless the
JWT section of the spec sets it too (`builders_keep_writes_iff`).
-/

set_option autoImplicit false

namespace LitellmOperator

open Go Kube Record

/-! ## All builders -/

/-- The slots that each builder may write into, in the order of the builders. -/
def builderSlots : List (List Slot) := [slotsIn generalSettingsKey
      ["proxy_batch_write_at", "master_key_required", "alert_types", "alerting",
        "alerting_threshold", "alert_to_webhook_url", "background_health_checks",
        "health_check_interval", "health_check_details",
        "health_check_skip_disabled_background_models", "custom_key_generate", "allow_user_auth",
        "max_budget", "budget_duration", "global_max_parallel_requests",
        "proxy_budget_rescheduler_min_time", "proxy_budget_rescheduler_max_time"],
    slotsIn routerSettingsKey
      ["routing_strategy", "num_retries", "timeout", "retry_after", "stream_timeout",
        "enable_pre_call_checks", "model_group_alias", "allowed_fails", "cooldown_time",
        "retry_policy", "model_group_retry_policy", "enable_tag_filtering",
        "tag_filtering_match_any", "default_max_parallel_requests", "provider_budget_config"],
    slotsIn generalSettingsKey ["database_connection_pool_limit"],
    slotsIn litellmSettingsKey ["json_logs", "check_provider_endpoint"],
    slotsIn litellmSettingsKey
        ["default_fallbacks", "content_policy_fallbacks", "context_window_fallbacks"] ++
      slotsIn routerSettingsKey ["fallbacks", "max_fallbacks"],
    slotsIn litellmSettingsKey ["default_internal_user_params", "default_team_params"] ++
      slotsIn generalSettingsKey ["litellm_jwtauth"] ++ slotsIn generalSettingsKey ["custom_sso"],
    slotsIn litellmSettingsKey ["success_callback", "failure_callback"],
    slotsIn litellmSettingsKey ["cache", "cache_params"],
    slotsIn generalSettingsKey
      ["allowed_ips", "use_x_forwarded_for", "max_request_size_mb", "max_response_size_mb"],
    slotsIn generalSettingsKey ["pass_through_endpoints"],
    slotsIn generalSettingsKey ["enable_jwt_auth", "litellm_jwtauth"],
    slotsIn generalSettingsKey ["enable_oauth2_auth", "oauth2_config_mappings"],
    slotsIn generalSettingsKey
      ["enforce_rbac", "admin_only_routes", "allowed_routes", "default_team_disabled",
        "key_generation_settings", "role_permissions"],
    slotsIn litellmSettingsKey ["max_end_user_budget", "max_end_user_budget_id"],
    slotsIn generalSettingsKey ["key_management_system", "key_management_settings"],
    slotsIn generalSettingsKey ["store_audit_logs"] ++
      slotsIn litellmSettingsKey ["audit_log_retention_days"] ++
      slotsIn litellmSettingsKey ["turn_off_message_logging"] ++
      slotsIn litellmSettingsKey ["redact_user_api_key_info"] ++
      slotsIn generalSettingsKey
        ["maximum_spend_logs_retention_period", "maximum_spend_logs_retention_interval"],
    slotsIn generalSettingsKey ["ui_access_mode"] ++
      slotsIn generalSettingsKey ["store_model_in_db"] ++
      slotsIn generalSettingsKey ["default_team_disabled"],
    [("guardrails", none)]]

/-- Writes a whole section, unless it is empty. -/
def putSection (name : String) (m config : StrMap Value) : StrMap Value :=
  match mapSetting m with
  | none => config
  | some settings => config.set name settings

variable {m : StrMap Value}

theorem putSection_of_isEmpty (h : m.isEmpty = true) (name : String) :
    putSection name m = fun config => config := by
  funext config
  simp [putSection, mapSetting, h]

theorem putSection_of_not_isEmpty (h : ¬ m.isEmpty = true) (name : String) :
    putSection name m = inSection name (fun _ => m) := by
  funext config
  simp [putSection, mapSetting, h, inSection]

variable {name : String}

theorem confined_putSection (hname : name ∈ settingsSections) {keys : List String}
    (h : ∀ key v, m.get? key = some v → key ∈ keys) :
    Confined (slotsIn name keys) (putSection name m) := by
  by_cases hm : m.isEmpty = true
  · rw [putSection_of_isEmpty hm]
    exact (builds_skip _).confined
  · rw [putSection_of_not_isEmpty hm]
    exact confined_inSection _ h hname

variable {config : StrMap Value}

theorem shaped_putSection (h : Shaped config) (hname : name ∈ settingsSections) (m : StrMap Value) :
    Shaped (putSection name m config) := by
  by_cases hm : m.isEmpty = true
  · rw [putSection_of_isEmpty hm]
    exact h
  · rw [putSection_of_not_isEmpty hm]
    exact shaped_inSection h hname _

theorem adds_putSection (h : Shaped config) (hname : name ∈ settingsSections)
    (hnew : sectionOf config name = []) (m : StrMap Value) :
    Adds valueAt [] (putSection name m) config := by
  by_cases hm : m.isEmpty = true
  · rw [putSection_of_isEmpty hm]
    exact (builds_skip []).adds h
  · rw [putSection_of_not_isEmpty hm]
    refine adds_inSection h hname (fun key => ?_)
    rw [hnew]
    exact Option.or_none.symm

theorem sectionOf_putSection_ne (config m : StrMap Value) {name name' : String}
    (h : name ≠ name') : sectionOf (putSection name m config) name' = sectionOf config name' := by
  by_cases hm : m.isEmpty = true
  · rw [putSection_of_isEmpty hm]
  · rw [putSection_of_not_isEmpty hm]
    exact sectionOf_set_ne config _ h

variable {build : StrMap Value → StrMap Value}

section

variable (lib : Ext) (inst : LiteLLMInstance) (guardrails : List LiteLLMGuardrail)

/-- The builders of the general and the router settings run first and write whole sections. -/
theorem sectionBuilders_eq : sectionBuilders lib inst guardrails =
      putSection generalSettingsKey (buildGeneralSettings inst.spec.generalSettings) ::
      putSection routerSettingsKey (buildRouterSettings inst.spec.routerSettings) ::
      (sectionBuilders lib inst guardrails).drop 2 := rfl

theorem builds_rest : List.Forall₂ Builds (builderSlots.drop 2)
    ((sectionBuilders lib inst guardrails).drop 2) := by
  refine .cons (builds_whenSet (fun pool => ?_) _ _) <| .cons (builds_liteLLMSettings _) <|
    .cons (builds_whenSet builds_fallbackConfig _ _) <|
    .cons (builds_whenSet builds_ssoConfig _ _) <|
    .cons (builds_whenSet (fun callbacks => ?_) _ _) <|
    .cons (builds_whenSet (fun c => ?_) _ _) <| .cons (builds_whenSet (fun ips => ?_) _ _) <|
    .cons ?_ <| .cons (builds_whenSet (fun jwt => ?_) _ _) <|
    .cons (builds_whenSet (fun oauth2 => ?_) _ _) <| .cons (builds_whenSet (fun rbac => ?_) _ _) <|
    .cons (builds_whenSet builds_customerBudget _ _) <|
    .cons (builds_whenSet (fun sm => ?_) _ _) <| .cons (builds_whenSet builds_loggingConfig _ _) <|
    .cons (builds_whenSet builds_adminUIConfig _ _) <|
    .cons (builds_guardrailsList lib inst guardrails) .nil
  · exact builds_putInSection general_mem [("database_connection_pool_limit", some _)]
  · exact builds_putInSection litellm_mem [("success_callback", _), ("failure_callback", _)]
  · exact builds_putInSection litellm_mem [("cache", _), ("cache_params", _)]
  · exact builds_putInSection general_mem
      [("allowed_ips", _), ("use_x_forwarded_for", _), ("max_request_size_mb", _),
        ("max_response_size_mb", _)]
  · exact (builds_putInSection general_mem [("pass_through_endpoints",
        some (.list (inst.spec.passThroughEndpoints.map passThroughEntry)))]).unless
      (inst.spec.passThroughEndpoints.isEmpty = true)
  · exact builds_putInSection general_mem [("enable_jwt_auth", _), ("litellm_jwtauth", _)]
  · exact builds_putInSection general_mem [("enable_oauth2_auth", _), ("oauth2_config_mappings", _)]
  · exact builds_putInSection general_mem
      [("enforce_rbac", _), ("admin_only_routes", _), ("allowed_routes", _),
        ("default_team_disabled", _), ("key_generation_settings", _), ("role_permissions", _)]
  · exact builds_putInSection general_mem
      [("key_management_system", _), ("key_management_settings", _)]

theorem confined_generalSettings (spec : Option GeneralSettingsSpec) :
    Confined (builderSlots.headD []) (putSection generalSettingsKey (buildGeneralSettings spec)) := by
  refine confined_putSection general_mem (fun key v h => ?_)
  cases spec with
  | none => cases h
  | some spec => exact mem_of_get?_putSettings h

theorem confined_routerSettings (spec : Option RouterSettingsSpec) :
    Confined (builderSlots.tail.headD [])
      (putSection routerSettingsKey (buildRouterSettings spec)) := by
  refine confined_putSection router_mem (fun key v h => ?_)
  cases spec with
  | none => cases h
  | some spec => exact mem_of_get?_putSettings h

theorem confined_builders :
    List.Forall₂ Confined builderSlots (sectionBuilders lib inst guardrails) := by
  rw [sectionBuilders_eq]
  exact .cons (confined_generalSettings _) (.cons (confined_routerSettings _)
    ((builds_rest lib inst guardrails).imp (fun _ _ h => h.confined)))

/-- The configuration that the builders start from. -/
def startConfig : StrMap Value := [("model_list", .list [])]

theorem shaped_startConfig : Shaped startConfig := by
  show Shaped (StrMap.set [] "model_list" (.list []))
  exact shaped_nil.set (iff_of_false (by simp [leafAt]) (by decide))

variable {builds : List (StrMap Value → StrMap Value)} {slots : List (List Slot)}

theorem addAll_of_builds (h : List.Forall₂ Builds slots builds) (hconfig : Shaped config) :
    AddAll valueAt [] builds config := by
  induction h generalizing config with
  | nil => trivial
  | cons hbuild _ ih => exact ⟨hbuild.adds hconfig, ih (hbuild.shaped hconfig)⟩

theorem addAll_builders : AddAll valueAt [] (sectionBuilders lib inst guardrails) startConfig := by
  have hgeneral := shaped_putSection shaped_startConfig general_mem
    (buildGeneralSettings inst.spec.generalSettings)
  rw [sectionBuilders_eq]
  refine ⟨adds_putSection shaped_startConfig general_mem rfl _,
    adds_putSection hgeneral router_mem ?_ _,
    addAll_of_builds (builds_rest lib inst guardrails) (shaped_putSection hgeneral router_mem _)⟩
  exact sectionOf_putSection_ne startConfig _ (by decide)

theorem exists_builds (h : List.Forall₂ Builds slots builds) :
    ∀ build ∈ builds, ∃ s, Builds s build := by
  induction h with
  | nil => simp
  | cons hbuild _ ih => exact List.forall_mem_cons.mpr ⟨⟨_, hbuild⟩, ih⟩

/-- Run alone, a builder adds to the configuration that all of them start from. -/
theorem adds_alone (h : build ∈ sectionBuilders lib inst guardrails) :
    Adds valueAt [] build startConfig := by
  rw [sectionBuilders_eq] at h
  rcases List.mem_cons.mp h with rfl | h
  · exact adds_putSection shaped_startConfig general_mem rfl _
  · rcases List.mem_cons.mp h with rfl | h
    · exact adds_putSection shaped_startConfig router_mem rfl _
    · obtain ⟨slots, hbuild⟩ := exists_builds (builds_rest lib inst guardrails) build h
      exact hbuild.adds shaped_startConfig

/-! ## The values in one slot -/

/-- What the builders write into a slot, in their order. -/
def writtenInto (slot : Slot) : List (Option Value) :=
  (sectionBuilders lib inst guardrails).map (fun build => valueAt (build []) slot)

theorem map_valueAt (h : List.Forall₂ Confined slots builds) (slot : Slot) :
    builds.map (fun build => valueAt (build []) slot) =
      List.zipWith (fun s build => if slot ∈ s then valueAt (build []) slot else none)
        slots builds := by
  induction h with
  | nil => rfl
  | @cons s build _ _ hbuild _ ih =>
    rw [List.map_cons, List.zipWith_cons_cons, ih]
    by_cases hs : slot ∈ s
    · rw [if_pos hs]
    · rw [if_neg hs, hbuild.eq_none hs]

/-- The slots that two builders may write into. -/
def jwtAuthSlot : Slot := (generalSettingsKey, some "litellm_jwtauth")
def defaultTeamSlot : Slot := (generalSettingsKey, some "default_team_disabled")

theorem builderSlots_apart : builderSlots.Pairwise (fun s s' =>
    ∀ slot ∈ s, slot ∈ s' → slot = jwtAuthSlot ∨ slot = defaultTeamSlot) := by
  decide +kernel

theorem valueAt_eq_none_of_apart (h : List.Forall₂ Confined slots builds) {slot : Slot}
    (hslots : ∀ s ∈ slots, slot ∉ s) :
    ∀ x ∈ builds.map (fun build => valueAt (build []) slot), x = none := by
  induction h with
  | nil => simp
  | cons hbuild _ ih =>
    obtain ⟨hs, hrest⟩ := List.forall_mem_cons.mp hslots
    exact List.forall_mem_cons.mpr ⟨hbuild.eq_none hs, ih hrest⟩

theorem pairwise_of_apart (h : List.Forall₂ Confined slots builds) {slot : Slot}
    (hslots : slots.Pairwise (fun s s' => slot ∈ s → slot ∉ s')) :
    (builds.map (fun build => valueAt (build []) slot)).Pairwise (Covers leafAt) := by
  induction h with
  | nil => exact .nil
  | @cons s build slots' builds' hbuild hrest ih =>
    obtain ⟨hs, htail⟩ := List.pairwise_cons.mp hslots
    refine List.pairwise_cons.mpr ⟨fun y hy => ?_, ih htail⟩
    by_cases hmem : slot ∈ s
    · -- this builder may write the slot, so no later one does
      rw [valueAt_eq_none_of_apart hrest (fun s' hs' => hs s' hs' hmem) y hy]
      exact covers_none_right _
    · show Covers leafAt (valueAt (build []) slot) y
      rw [hbuild.eq_none hmem]
      exact covers_none_left y

theorem writtenInto_jwtAuth : writtenInto lib inst guardrails jwtAuthSlot =
      [none, none, none, none, none,
        valueAt (whenSet inst.spec.sso (·.enabled) buildSSOConfig []) jwtAuthSlot,
        none, none, none, none,
        valueAt (whenSet inst.spec.jwtAuth (·.enabled) buildJWTAuthConfig []) jwtAuthSlot,
        none, none, none, none, none, none, none] :=
  map_valueAt (confined_builders lib inst guardrails) jwtAuthSlot

theorem writtenInto_defaultTeam : writtenInto lib inst guardrails defaultTeamSlot =
      [none, none, none, none, none, none, none, none, none, none, none, none,
        valueAt (whenSet inst.spec.rbac (·.enabled) buildRBACConfig []) defaultTeamSlot,
        none, none, none,
        valueAt (whenSet inst.spec.adminUI (fun _ => true) buildAdminUIConfig []) defaultTeamSlot,
        none] :=
  map_valueAt (confined_builders lib inst guardrails) defaultTeamSlot

end

/-! ### The flag -/

theorem covers_of_leaves {x y : Option Value} (hx : ∀ v ∈ x, leafAt [] v = some v)
    (hy : ∀ w ∈ y, leafAt [] w = some w) : Covers leafAt x y := by
  intro v hv w hw path hpath
  cases path with
  | nil => rw [hy w hw]; rfl
  | cons key path =>
    have hleaf := hx v hv
    cases v <;> first | cases hpath | cases hleaf

theorem leaf_boolSetting {b : Option Bool} {v : Value} (h : v ∈ boolSetting b) :
    leafAt [] v = some v := by
  cases b <;> cases h
  rfl

theorem valueAt_putInSection {settings : List (String × Option Value)}
    (h : (settings.map Prod.fst).Nodup) (key : String) :
    valueAt (putInSection name settings []) (name, some key) = (settings.lookup key).join := by
  show (sectionOf (StrMap.set [] name _) name).get? key = _
  rw [sectionOf_set_self]
  exact get?_putSettings_of_nodup h key

theorem valueAt_whenSet {A : Type} (x : Option A) (enabled : A → Bool)
    (make : A → StrMap Value → StrMap Value) (slot : Slot) :
    valueAt (whenSet x enabled make []) slot =
      (x.filter enabled).bind (fun a => valueAt (make a []) slot) := by
  cases x with
  | none => exact valueAt_nil slot
  | some a =>
    by_cases ha : enabled a = true
    · simp [whenSet, Option.filter, ha]
    · simp [whenSet, Option.filter, ha, valueAt_nil]

theorem valueAt_rbacConfig (rbac : RBACSpec) :
    valueAt (buildRBACConfig rbac []) defaultTeamSlot = boolSetting rbac.defaultTeamDisabled := by
  unfold buildRBACConfig defaultTeamSlot
  rw [valueAt_putInSection (by simp)]
  rfl

theorem valueAt_putGeneral (key : String) (v : Option Value) :
    valueAt (putGeneral key v []) (generalSettingsKey, some key) = v := by
  cases v with
  | none => rfl
  | some v =>
    show valueAt (putInSection generalSettingsKey [(key, some v)] []) _ = _
    rw [valueAt_putInSection (by simp)]
    simp

theorem valueAt_adminUIConfig (adminUI : AdminUISpec) :
    valueAt (buildAdminUIConfig adminUI []) defaultTeamSlot =
      boolSetting adminUI.defaultTeamDisabled := by
  have hbefore := (builds_putGeneral "ui_access_mode"
    (if adminUI.adminOnly = some true then some (.str "admin_only") else none)).andThen
    (builds_putGeneral "store_model_in_db" (boolSetting adminUI.storeModelInDB))
  have hadds := (builds_putGeneral "default_team_disabled"
    (boolSetting adminUI.defaultTeamDisabled)).adds (hbefore.shaped shaped_nil) defaultTeamSlot
  rw [hbefore.confined.eq_none (by decide), Option.or_none, defaultTeamSlot,
    valueAt_putGeneral] at hadds
  exact hadds

theorem pairwise_defaultTeam (lib : Ext) (inst : LiteLLMInstance)
    (guardrails : List LiteLLMGuardrail) :
    (writtenInto lib inst guardrails defaultTeamSlot).Pairwise (Covers leafAt) := by
  have hcovers : Covers leafAt
      (valueAt (whenSet inst.spec.rbac (·.enabled) buildRBACConfig []) defaultTeamSlot)
      (valueAt (whenSet inst.spec.adminUI (fun _ => true) buildAdminUIConfig [])
        defaultTeamSlot) := by
    rw [valueAt_whenSet, valueAt_whenSet]
    refine covers_of_leaves (fun v hv => ?_) (fun w hw => ?_)
    · obtain ⟨rbac, -, hv⟩ := Option.bind_eq_some_iff.mp hv
      exact leaf_boolSetting ((valueAt_rbacConfig rbac).symm.trans hv)
    · obtain ⟨adminUI, -, hw⟩ := Option.bind_eq_some_iff.mp hw
      exact leaf_boolSetting ((valueAt_adminUIConfig adminUI).symm.trans hw)
  rw [writtenInto_defaultTeam]
  simp [covers_none_left, covers_none_right, hcovers]

/-! ### The map -/

theorem valueAt_ssoConfig (sso : SSOSpec) : valueAt (buildSSOConfig sso []) jwtAuthSlot =
      if sso.teamIDsJWTField = "" then none
      else some (.map [("team_ids_jwt_field", .str sso.teamIDsJWTField)]) := by
  obtain ⟨before, after, hbefore, hafter, heq⟩ := buildSSOConfig_parts sso
  have hteam := builds_ssoTeamField sso
  have hself : valueAt (ssoTeamField sso []) jwtAuthSlot =
      if sso.teamIDsJWTField = "" then none
      else some (.map [("team_ids_jwt_field", .str sso.teamIDsJWTField)]) := by
    unfold ssoTeamField
    by_cases h : sso.teamIDsJWTField = ""
    · rw [if_pos h, if_pos h]
      rfl
    · rw [if_neg h, if_neg h]
      rfl
  -- the other two parts of the builder do not touch the slot
  show valueAt _ jwtAuthSlot = _
  rw [heq, hafter.adds (hteam.shaped (hbefore.shaped shaped_nil)),
    hafter.confined.eq_none (by decide), Option.none_or, hteam.adds (hbefore.shaped shaped_nil),
    hbefore.confined.eq_none (by decide), Option.or_none, hself]

variable (jwt : JWTAuthSpec)

/-- The map that the JWT builder writes. -/
def jwtAuthMap : StrMap Value := putSettings [] (jwtSettings jwt ++ buildJWTMappings jwt)

theorem valueAt_jwtAuthConfig :
    valueAt (buildJWTAuthConfig jwt []) jwtAuthSlot = mapSetting (jwtAuthMap jwt) := by
  unfold buildJWTAuthConfig jwtAuthSlot
  rw [valueAt_putInSection (by simp)]
  rfl

theorem jwtAuthMap_teamIDs :
    (jwtAuthMap jwt).get? "team_ids_jwt_field" = textSetting jwt.teamIDsJWTField := by
  have hkeys : ((jwtSettings jwt ++ buildJWTMappings jwt).map Prod.fst).Nodup := by
    -- the keys do not depend on the section
    show ((jwtSettings { enabled := true } ++ buildJWTMappings { enabled := true }).map
      Prod.fst).Nodup
    decide
  unfold jwtAuthMap
  rw [get?_putSettings_of_nodup hkeys]
  rfl

theorem textSetting_eq_none {s : String} : textSetting s = none ↔ s = "" := by
  simp [textSetting]

theorem listSetting_eq_none {xs : List String} : listSetting xs = none ↔ xs = [] := by
  simp [listSetting]

theorem valuesSetting_eq_none {xs : List Value} : valuesSetting xs = none ↔ xs = [] := by
  simp [valuesSetting]

theorem scopeMappings_eq_nil {jwt : JWTAuthSpec} :
    scopeMappings jwt = [] ↔ jwt.scopeModelMappings = [] ∧ jwt.scopeMappings = [] := by
  have hsorted : jwt.scopeModelMappings.sortedKeys = [] ↔ jwt.scopeModelMappings = [] := by
    rw [← List.length_eq_zero_iff, ← List.length_eq_zero_iff]
    simp [StrMap.sortedKeys, StrMap.sorted, StrMap.keys]
  rw [scopeMappings, List.append_eq_nil_iff, List.map_eq_nil_iff, List.map_eq_nil_iff, hsorted]

/-- The section sets nothing beyond its switch and what goes into the environment. -/
def JWTAuthSpec.Bare : Prop := jwt =
    { enabled := jwt.enabled, publicKeyURL := jwt.publicKeyURL, issuer := jwt.issuer,
      audience := jwt.audience }

instance (jwt : JWTAuthSpec) : Decidable jwt.Bare := inferInstanceAs (Decidable (_ = _))

theorem jwtAuthMap_eq_nil_iff : jwtAuthMap jwt = [] ↔ jwt.Bare := by
  unfold jwtAuthMap
  rw [putSettings_eq_nil_iff]
  simp only [jwtSettings, buildJWTMappings, List.cons_append, List.nil_append,
    List.forall_mem_cons, textSetting_eq_none, listSetting_eq_none, valuesSetting_eq_none,
    scopeMappings_eq_nil, boolSetting, intSetting, Option.map_eq_none_iff, List.map_eq_nil_iff]
  constructor
  · intro h
    cases jwt
    simp_all [JWTAuthSpec.Bare]
  · intro h
    rw [h]
    simp

/-- The path of the field that the SSO section sets. -/
def teamIDsPath : List String := [generalSettingsKey, "litellm_jwtauth", "team_ids_jwt_field"]

/-- The JWT section leaves the field that the SSO section sets, or it sets the field itself, or it
sets nothing at all. -/
def KeepsTeamIDs (spec : LiteLLMInstanceSpec) : Prop :=
  ∀ sso ∈ spec.sso, ∀ jwt ∈ spec.jwtAuth, sso.enabled = true → jwt.enabled = true →
    sso.teamIDsJWTField = "" ∨ jwt.teamIDsJWTField ≠ "" ∨ jwt.Bare

theorem leafAt_jwtAuthMap :
    leafAt ["team_ids_jwt_field"] (.map (jwtAuthMap jwt)) = textSetting jwt.teamIDsJWTField := by
  show ((jwtAuthMap jwt).get? "team_ids_jwt_field").bind (leafAt []) = _
  rw [jwtAuthMap_teamIDs]
  unfold textSetting
  split <;> rfl

theorem path_of_ssoLeaf {field : String} {path : List String}
    (h : (leafAt path (.map [("team_ids_jwt_field", .str field)])).isSome) :
    path = ["team_ids_jwt_field"] := by
  cases path with
  | nil => cases h
  | cons key path =>
    have hmap : leafAt (key :: path) (.map [("team_ids_jwt_field", .str field)]) =
        (StrMap.get? [("team_ids_jwt_field", .str field)] key).bind (leafAt path) := rfl
    rw [hmap, StrMap.get?_cons] at h
    by_cases he : "team_ids_jwt_field" = key
    · rw [if_pos he] at h
      cases path with
      | nil => rw [he]
      | cons _ _ => cases h
    · rw [if_neg he] at h
      cases h

theorem pairwise_jwtAuth (lib : Ext) (inst : LiteLLMInstance) (guardrails : List LiteLLMGuardrail)
    (h : KeepsTeamIDs inst.spec) :
    (writtenInto lib inst guardrails jwtAuthSlot).Pairwise (Covers leafAt) := by
  have hcovers : Covers leafAt
      (valueAt (whenSet inst.spec.sso (·.enabled) buildSSOConfig []) jwtAuthSlot)
      (valueAt (whenSet inst.spec.jwtAuth (·.enabled) buildJWTAuthConfig []) jwtAuthSlot) := by
    rw [valueAt_whenSet, valueAt_whenSet]
    intro v hv w hw path hpath
    obtain ⟨sso, hsso, hv⟩ := Option.bind_eq_some_iff.mp hv
    obtain ⟨jwt, hjwt, hw⟩ := Option.bind_eq_some_iff.mp hw
    obtain ⟨hsso, hssoOn⟩ := Option.filter_eq_some_iff.mp hsso
    obtain ⟨hjwt, hjwtOn⟩ := Option.filter_eq_some_iff.mp hjwt
    rw [valueAt_ssoConfig] at hv
    rw [valueAt_jwtAuthConfig, mapSetting] at hw
    by_cases hfield : sso.teamIDsJWTField = ""
    · rw [if_pos hfield] at hv
      cases hv
    · by_cases hempty : (jwtAuthMap jwt).isEmpty = true
      · rw [if_pos hempty] at hw
        cases hw
      · -- both write, so the JWT section has to set the field
        rw [if_neg hfield] at hv
        rw [if_neg hempty] at hw
        cases hv
        cases hw
        have hbare : ¬ jwt.Bare := by
          rw [← jwtAuthMap_eq_nil_iff, ← List.isEmpty_iff]
          exact hempty
        have hset : jwt.teamIDsJWTField ≠ "" :=
          ((h sso hsso jwt hjwt hssoOn hjwtOn).resolve_left hfield).resolve_right hbare
        rw [path_of_ssoLeaf hpath, leafAt_jwtAuthMap, textSetting, if_neg hset]
        rfl
  rw [writtenInto_jwtAuth]
  simp [covers_none_left, covers_none_right, hcovers]

/-! ## Settings that stay -/

/-- Run alone, the builder writes `v` at the path. A section that is switched off, or one that sets
nothing, writes nothing. -/
def Writes (build : StrMap Value → StrMap Value) (path : List String) (v : Value) : Prop :=
  leafAt path (.map (build startConfig)) = some v ∧ leafAt path (.map startConfig) ≠ some v

/-- Where a builder writes a leaf, the configuration has the one of the last builder to write it. -/
def KeepsWrites (lib : Ext) (inst : LiteLLMInstance) (guardrails : List LiteLLMGuardrail) : Prop :=
  ∀ path build v, build ∈ sectionBuilders lib inst guardrails → Writes build path v →
    ∃ before last after w, sectionBuilders lib inst guardrails = before ++ last :: after ∧
      Writes last path w ∧ (∀ later ∈ after, ∀ u, ¬ Writes later path u) ∧
      leafAt path (.map (generateProxyConfig lib inst guardrails)) = some w

/-- There are no raw settings. -/
def NoExtra (inst : LiteLLMInstance) : Prop := (∀ gs ∈ inst.spec.generalSettings, gs.extra = []) ∧
    ∀ ll ∈ inst.spec.litellmSettings, ll.extra = []

section

variable {lib : Ext} {inst : LiteLLMInstance} {guardrails : List LiteLLMGuardrail}

theorem generateProxyConfig_of_noExtra (h : NoExtra inst) :
    generateProxyConfig lib inst guardrails =
      (sectionBuilders lib inst guardrails).foldl (fun config build => build config)
        startConfig := by
  have hgeneral : (inst.spec.generalSettings.map (·.extra)).getD [] = [] := by
    cases hgs : inst.spec.generalSettings with
    | none => rfl
    | some gs => exact h.1 gs hgs
  have hlitellm : (inst.spec.litellmSettings.map (·.extra)).getD [] = [] := by
    cases hll : inst.spec.litellmSettings with
    | none => rfl
    | some ll => exact h.2 ll hll
  unfold generateProxyConfig generateProxyConfigWithConflicts applyAllExtraSettings
  rw [hgeneral, hlitellm]
  rfl

theorem valueAt_startConfig {slot : Slot} (h : slot ≠ ("model_list", none)) :
    valueAt startConfig slot = none := by
  obtain ⟨name, key⟩ := slot
  by_cases hname : "model_list" = name
  · subst hname
    cases key with
    | none => exact absurd rfl h
    | some key => rfl
  · show valueAt (StrMap.set [] "model_list" (.list [])) (name, key) = none
    rw [valueAt_set_ne _ _ hname]
    exact valueAt_nil _

/-- The value that the configuration has in a slot is the last one written. -/
theorem valueAt_generateProxyConfig (h : NoExtra inst) (slot : Slot) :
    valueAt (generateProxyConfig lib inst guardrails) slot =
      (lastOf (writtenInto lib inst guardrails slot)).or (valueAt startConfig slot) := by
  rw [generateProxyConfig_of_noExtra h]
  exact look_foldl (addAll_builders lib inst guardrails) slot

theorem valueAt_modelList (h : build ∈ sectionBuilders lib inst guardrails) :
    valueAt (build []) ("model_list", none) = none :=
  valueAt_eq_none_of_apart (confined_builders lib inst guardrails) (by decide) _
    (List.mem_map_of_mem h)

/-- What a builder writes at a path is the leaf of what it writes into the slot. -/
theorem writes_iff (hbuild : build ∈ sectionBuilders lib inst guardrails) {name : String}
    {path : List String} {v : Value} :
    Writes build (name :: path) v ↔
      (valueAt (build []) (slotOf name path)).bind (leafAt path.tail) = some v := by
  unfold Writes
  rw [leafAt_config, leafAt_config, adds_alone lib inst guardrails hbuild]
  by_cases hslot : slotOf name path = ("model_list", none)
  · rw [hslot, valueAt_modelList hbuild, Option.none_or]
    constructor
    · intro h
      exact absurd h.1 h.2
    · intro h
      cases h
  · rw [valueAt_startConfig hslot, Option.or_none]
    simp

theorem pairwise_writtenInto (h : KeepsTeamIDs inst.spec) (slot : Slot) :
    (writtenInto lib inst guardrails slot).Pairwise (Covers leafAt) := by
  by_cases hjwt : slot = jwtAuthSlot
  · rw [hjwt]
    exact pairwise_jwtAuth lib inst guardrails h
  · by_cases hteam : slot = defaultTeamSlot
    · rw [hteam]
      exact pairwise_defaultTeam lib inst guardrails
    · refine pairwise_of_apart (confined_builders lib inst guardrails)
        (builderSlots_apart.imp (fun hs hmem hmem' => ?_))
      rcases hs slot hmem hmem' with he | he
      · exact hjwt he
      · exact hteam he

theorem keepsWrites_of_keepsTeamIDs (hextra : NoExtra inst) (h : KeepsTeamIDs inst.spec) :
    KeepsWrites lib inst guardrails := by
  intro path build v hbuild hwrites
  cases path with
  | nil => cases hwrites.1
  | cons name path =>
    have hwritten := (writes_iff hbuild).mp hwrites
    -- some builder writes the path, hence there is a last one
    have hsome : lastOf ((sectionBuilders lib inst guardrails).map (fun build =>
        (valueAt (build []) (slotOf name path)).bind (leafAt path.tail))) ≠ none := by
      intro hnone
      have hbuilt := lastOf_eq_none_iff.mp hnone _ (List.mem_map_of_mem hbuild)
      rw [hwritten] at hbuilt
      cases hbuilt
    obtain ⟨w, hw⟩ := Option.ne_none_iff_exists'.mp hsome
    obtain ⟨before, last, after, hsplit, hlast, hafter⟩ := exists_last hw
    have hmem : last ∈ sectionBuilders lib inst guardrails := by
      rw [hsplit]
      exact List.mem_append_right _ (.head _)
    refine ⟨before, last, after, w, hsplit, (writes_iff hmem).mpr hlast, ?_, ?_⟩
    · intro later hlater u hu
      have hmem' : later ∈ sectionBuilders lib inst guardrails := by
        rw [hsplit]
        exact List.mem_append_right _ (.tail _ hlater)
      have hnone := hafter later hlater
      rw [(writes_iff hmem').mp hu] at hnone
      cases hnone
    · have hpart : (lastOf (writtenInto lib inst guardrails (slotOf name path))).bind
          (leafAt path.tail) = some w := by
        rw [← lastOf_map_bind (pairwise_writtenInto h _), writtenInto, List.map_map]
        exact hw
      obtain ⟨x, hx, hleaf⟩ := Option.bind_eq_some_iff.mp hpart
      rw [leafAt_config, valueAt_generateProxyConfig hextra, hx]
      exact hleaf

theorem keepsTeamIDs_of_keepsWrites (hextra : NoExtra inst)
    (h : KeepsWrites lib inst guardrails) : KeepsTeamIDs inst.spec := by
  intro sso hsso jwt hjwt hssoOn hjwtOn
  by_cases hfield : sso.teamIDsJWTField = ""
  · exact .inl hfield
  · by_cases hbare : jwt.Bare
    · exact .inr (.inr hbare)
    · refine .inr (.inl (fun hunset => ?_))
      have hmem : whenSet inst.spec.sso (·.enabled) buildSSOConfig ∈
          sectionBuilders lib inst guardrails := by
        simp [sectionBuilders]
      have hssoValue : valueAt (whenSet inst.spec.sso (·.enabled) buildSSOConfig []) jwtAuthSlot =
          some (.map [("team_ids_jwt_field", .str sso.teamIDsJWTField)]) := by
        rw [valueAt_whenSet, Option.filter_eq_some_iff.mpr ⟨hsso, hssoOn⟩, Option.bind_some,
          valueAt_ssoConfig, if_neg hfield]
      have hjwtValue : valueAt (whenSet inst.spec.jwtAuth (·.enabled) buildJWTAuthConfig [])
          jwtAuthSlot = some (.map (jwtAuthMap jwt)) := by
        rw [valueAt_whenSet, Option.filter_eq_some_iff.mpr ⟨hjwt, hjwtOn⟩, Option.bind_some,
          valueAt_jwtAuthConfig, mapSetting, if_neg]
        rw [List.isEmpty_iff, jwtAuthMap_eq_nil_iff]
        exact hbare
      -- the SSO builder writes the field, but the map that stands in the end is the other one
      obtain ⟨_, _, _, w, _, _, _, hfinal⟩ := h teamIDsPath _ _ hmem ((writes_iff hmem).mpr (by
          show (valueAt _ jwtAuthSlot).bind (leafAt ["team_ids_jwt_field"]) = _
          rw [hssoValue]
          rfl))
      have hleaf : (valueAt (generateProxyConfig lib inst guardrails) jwtAuthSlot).bind
          (leafAt ["team_ids_jwt_field"]) = some w :=
        (leafAt_config _ generalSettingsKey _).symm.trans hfinal
      rw [valueAt_generateProxyConfig hextra, writtenInto_jwtAuth, hssoValue, hjwtValue] at hleaf
      have hmap : leafAt ["team_ids_jwt_field"] (.map (jwtAuthMap jwt)) = some w := hleaf
      rw [leafAt_jwtAuthMap, hunset] at hmap
      cases hmap

/-- **Builders keep each other's settings unless the JWT section replaces the SSO field.** Without
raw settings, every leaf that a builder writes is in the configuration, with the value of the last
builder to write it, exactly if the JWT section leaves the field of the team IDs to the SSO
section, sets it as well, or sets nothing. -/
theorem builders_keep_writes_iff (lib : Ext) (inst : LiteLLMInstance)
    (guardrails : List LiteLLMGuardrail) (hextra : NoExtra inst) :
    KeepsWrites lib inst guardrails ↔ KeepsTeamIDs inst.spec :=
  ⟨keepsTeamIDs_of_keepsWrites hextra, keepsWrites_of_keepsTeamIDs hextra⟩

end

/-! ## Sign-on and tokens together -/

namespace Sample

def configLib : Ext := lib

/-- Single sign-on reads the teams from `groups`; tokens are accepted as well. -/
def signedOn (jwt : JWTAuthSpec) : LiteLLMInstance where
  metadata := { name := "proxy", ns := "apps" }
  spec :=
    { sso := some
        { enabled := true, provider := "generic", clientID := ⟨"sso", "id"⟩,
          clientSecret := ⟨"sso", "secret"⟩, teamIDsJWTField := "groups" }
      jwtAuth := some jwt }
  status := {}

end Sample

/-- With a scope for administrators in the JWT section, the field that the SSO builder writes when
it runs alone is not in the configuration. -/
theorem sso_field_replaced : (∃ build ∈ sectionBuilders Sample.configLib
        (Sample.signedOn { enabled := true, adminJWTScope := "admin" }) [],
      Writes build teamIDsPath (.str "groups")) ∧
    leafAt teamIDsPath (.map (generateProxyConfig Sample.configLib
      (Sample.signedOn { enabled := true, adminJWTScope := "admin" }) [])) = none := by
  refine ⟨⟨_, List.mem_of_getElem? (i := 5) rfl, rfl, ?_⟩, rfl⟩
  intro h
  cases h

/-- A JWT section that names the same claim keeps it. -/
theorem builders_keep_writes_same_claim : KeepsWrites Sample.configLib (Sample.signedOn
      { enabled := true, adminJWTScope := "admin", teamIDsJWTField := "groups" }) [] := by
  refine (builders_keep_writes_iff _ _ _ ⟨?_, ?_⟩).mpr ?_
  · intro gs h
    cases h
  · intro ll h
    cases h
  · intro sso _ jwt hjwt _ _
    cases hjwt
    exact .inr (.inl (by decide))

end LitellmOperator
