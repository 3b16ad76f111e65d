import LitellmOperator.Resources.Deployment

/-! # The configuration file of the proxy

`internal/resources/configmap.go`: the sections of the spec are written one after the other into a
tree of settings, which is rendered as YAML into a ConfigMap. Raw extra settings come last and never
replace what is there. The order in which Go ranges over a map does not matter here, since the keys
of one range are different; where the source sorts, so does the model.
-/

set_option autoImplicit false

namespace LitellmOperator

open Go Kube

/-! ## Library functions -/

/-- What building the objects of an instance takes from libraries, and the fixed text of the
dashboard. -/
structure InstanceExt extends Ext where
  /-- `yaml.Marshal`. -/
  yamlMarshal : StrMap Value → Except String String
  /-- SHA-256 in hexadecimal. -/
  sha256Hex : List UInt8 → String
  /-- `json.Marshal` of the placement settings that are set. -/
  marshalScheduling : PodSchedulingSpec → String
  /-- `grafanaDashboardJSON` of a namespace and a name. -/
  grafanaDashboardJSON : String → String → String

/-! ## Settings as trees -/

mutual

/-- A decoded JSON value as a tree of settings. -/
def Value.ofJson : Json → Value
  | .null => .null
  | .bool b => .bool b
  | .num f => .float f.bits
  | .str s => .str s
  | .arr xs => .list (Value.ofJsons xs)
  | .obj fields => .map (Value.ofFields fields)

def Value.ofJsons : List Json → List Value
  | [] => []
  | x :: xs => Value.ofJson x :: Value.ofJsons xs

def Value.ofFields : List (String × Json) → List (String × Value)
  | [] => []
  | (k, v) :: fields => (k, Value.ofJson v) :: Value.ofFields fields

end

/-- A text that is written unless it is empty. -/
def textSetting (s : String) : Option Value := if s = "" then none else some (.str s)

def listSetting (xs : List String) : Option Value := if xs.isEmpty then none else some (.strs xs)

def mapSetting (m : StrMap Value) : Option Value := if m.isEmpty then none else some (.map m)

def boolSetting (b : Option Bool) : Option Value := b.map .bool

def intSetting (n : Option Int) : Option Value := n.map .int

def floatSetting (f : Option Float64) : Option Value := f.map (fun f => .float f.bits)

/-- A flag that is only written when it is on. -/
def flagSetting (b : Bool) : Option Value := if b then some (.bool true) else none

/-- Writes those of the settings that are set. -/
def putSettings (m : StrMap Value) (settings : List (String × Option Value)) : StrMap Value :=
  settings.foldl (fun m s => match s.2 with
    | none => m
    | some v => m.set s.1 v) m

/-- The map under a key of the configuration, empty if there is none. -/
def sectionOf (config : StrMap Value) (name : String) : StrMap Value :=
  match config.get? name with
  | some (.map m) => m
  | _ => []

variable (name : String)

/-- The change `f` to a section, which is created if it is not there
(`ensureGeneralSettings`, `ensureLiteLLMSettings`). -/
def inSection (f : StrMap Value → StrMap Value) (config : StrMap Value) : StrMap Value :=
  config.set name (.map (f (sectionOf config name)))

/-- Writes settings into a section. The section is created even if none of them is set. -/
def putInSection (settings : List (String × Option Value)) (config : StrMap Value) : StrMap Value :=
  inSection name (fun m => putSettings m settings) config

def generalSettingsKey : String := "general_settings"
def litellmSettingsKey : String := "litellm_settings"
def routerSettingsKey : String := "router_settings"

/-! ## General, router and library settings -/

def buildGeneralSettings (spec : Option GeneralSettingsSpec) : StrMap Value :=
  match spec with
  | none => []
  | some spec => putSettings [] [("proxy_batch_write_at",
          if spec.proxyBatchWriteAt > 0 then some (.int spec.proxyBatchWriteAt) else none),
        ("master_key_required", boolSetting spec.masterKeyRequired),
        ("alert_types", listSetting spec.alertTypes),
        ("alerting", listSetting spec.alerting),
        ("alerting_threshold", intSetting spec.alertingThreshold),
        ("alert_to_webhook_url",
          if spec.alertToWebhookURL.isEmpty then none else some (.strMap spec.alertToWebhookURL)),
        ("background_health_checks", boolSetting spec.backgroundHealthChecks),
        ("health_check_interval", intSetting spec.healthCheckInterval),
        ("health_check_details", boolSetting spec.healthCheckDetails),
        ("health_check_skip_disabled_background_models",
          boolSetting spec.healthCheckSkipDisabledModels),
        ("custom_key_generate", textSetting spec.customKeyGenerate),
        ("allow_user_auth", boolSetting spec.allowUserAuth),
        ("max_budget", spec.maxBudget.map .str),
        ("budget_duration", textSetting spec.budgetDuration),
        ("global_max_parallel_requests", intSetting spec.globalMaxParallelRequests),
        ("proxy_budget_rescheduler_min_time", intSetting spec.budgetReschedulerMinTime),
        ("proxy_budget_rescheduler_max_time", intSetting spec.budgetReschedulerMaxTime)]

def intMap (m : StrMap Int) : Value := .map (m.map (fun e => (e.1, .int e.2)))

def providerBudgetValue (b : ProviderBudget) : Value :=
  .map [("budget_limit", .str b.budgetLimit), ("time_period", .str b.timePeriod)]

def buildRouterSettings (spec : Option RouterSettingsSpec) : StrMap Value :=
  match spec with
  | none => []
  | some spec => putSettings [] [("routing_strategy", textSetting spec.routingStrategy),
        ("num_retries", intSetting spec.numRetries),
        ("timeout", intSetting spec.timeout),
        ("retry_after", intSetting spec.retryAfter),
        ("stream_timeout", intSetting spec.streamTimeout),
        ("enable_pre_call_checks", boolSetting spec.enablePreCallChecks),
        ("model_group_alias",
          if spec.modelGroupAlias.isEmpty then none else some (.strMap spec.modelGroupAlias)),
        ("allowed_fails", intSetting spec.allowedFails),
        ("cooldown_time", intSetting spec.cooldownTime),
        ("retry_policy",
          if spec.retryPolicy.isEmpty then none else some (intMap spec.retryPolicy)),
        ("model_group_retry_policy",
          mapSetting (spec.modelGroupRetryPolicy.map (fun e => (e.1, intMap e.2)))),
        ("enable_tag_filtering", flagSetting (spec.enableTagFiltering = some true)),
        ("tag_filtering_match_any", boolSetting spec.tagFilteringMatchAny),
        ("default_max_parallel_requests", intSetting spec.defaultMaxParallelRequests),
        ("provider_budget_config",
          mapSetting (spec.providerBudgetConfig.map (fun e => (e.1, providerBudgetValue e.2))))]

def buildLiteLLMSettings (ll : Option LiteLLMSettingsSpec) (config : StrMap Value) :
    StrMap Value :=
  match ll with
  | none => config
  | some ll =>
    let config := match ll.jsonLogs with
      | none => config
      | some b => inSection litellmSettingsKey (·.set "json_logs" (.bool b)) config
    match ll.checkProviderEndpoint with
    | none => config
    | some b => inSection litellmSettingsKey (·.set "check_provider_endpoint" (.bool b)) config

def modelFallbackEntriesToMaps (entries : List ModelFallbackEntry) : Option Value :=
  if entries.isEmpty then none
  else some (.list (entries.map (fun e => .map [(e.model, .strs e.fallbacks)])))

def buildFallbackConfig (fb : FallbackSpec) (config : StrMap Value) : StrMap Value :=
  let config :=
    if fb.defaultFallbacks.isEmpty && fb.contentPolicyFallbacks.isEmpty &&
        fb.contextWindowFallbacks.isEmpty then config
    else putInSection litellmSettingsKey [("default_fallbacks", listSetting fb.defaultFallbacks),
        ("content_policy_fallbacks", modelFallbackEntriesToMaps fb.contentPolicyFallbacks),
        ("context_window_fallbacks", modelFallbackEntriesToMaps fb.contextWindowFallbacks)] config
  if fb.modelFallbacks.isEmpty && fb.maxFallbacks.isNone then config
  else putInSection routerSettingsKey [("fallbacks", modelFallbackEntriesToMaps fb.modelFallbacks),
      ("max_fallbacks", intSetting fb.maxFallbacks)] config

/-! ## Sign-on and authorization -/

def defaultUserTeamValue (t : DefaultUserTeam) : Value :=
  .map (putSettings [("team_id", .str t.teamID)]
    [("user_role", textSetting t.role), ("max_budget_in_team", floatSetting t.maxBudgetInTeam)])

def mapDefaultUserParams (p : DefaultUserParams) : StrMap Value := putSettings []
    [("max_budget", floatSetting p.maxBudget), ("budget_duration", textSetting p.budgetDuration),
      ("models", listSetting p.models),
      ("user_role", textSetting p.userRole),
      ("teams", if p.teams.isEmpty then none else some (.list (p.teams.map defaultUserTeamValue)))]

def mapDefaultTeamParams (p : DefaultTeamParams) : StrMap Value := putSettings []
    [("max_budget", floatSetting p.maxBudget), ("budget_duration", textSetting p.budgetDuration),
      ("models", listSetting p.models),
      ("tpm_limit", intSetting p.tpmLimit),
      ("rpm_limit", intSetting p.rpmLimit)]

/-- `strings.TrimSuffix(s, ".py")`. -/
def trimPy (s : String) : String :=
  match stripFront? ['y', 'p', '.'] s.toList.reverse with
  | some rest => String.ofList rest.reverse
  | none => s

def customSSOModulePath (handler : Option CustomSSOHandlerSpec) : String :=
  match handler with
  | none => ""
  | some handler =>
    if handler.modulePath ≠ "" then handler.modulePath
    else
      match handler.configMapRef with
      | none => ""
      | some ref =>
        if ref.functionName = "" then ""
        else "custom_sso_handlers." ++ trimPy (orDefault ref.fileName "handler.py") ++ "." ++
          ref.functionName

def buildSSOConfig (sso : SSOSpec) (config : StrMap Value) : StrMap Value :=
  let config :=
    if sso.defaultUserParams.isNone && sso.defaultTeamParams.isNone then config
    else putInSection litellmSettingsKey [("default_internal_user_params",
          sso.defaultUserParams.map (fun p => .map (mapDefaultUserParams p))),
        ("default_team_params",
          sso.defaultTeamParams.map (fun p => .map (mapDefaultTeamParams p)))] config
  let config :=
    if sso.teamIDsJWTField = "" then config
    else inSection generalSettingsKey
      (·.set "litellm_jwtauth" (.map [("team_ids_jwt_field", .str sso.teamIDsJWTField)])) config
  let path := customSSOModulePath sso.customSSOHandler
  if path = "" then config
  else inSection generalSettingsKey (·.set "custom_sso" (.str path)) config

def scopeMappingValue (m : JWTScopeMapping) : Value := .map (putSettings [("scope", .str m.scope)]
    [("models", listSetting m.models), ("routes", listSetting m.routes)])

variable (jwt : JWTAuthSpec)

/-- The scope mappings of the map, in the order of its keys, and then those of the list. -/
def scopeMappings : List Value := jwt.scopeModelMappings.sortedKeys.map (fun s =>
    .map [("scope", .str s), ("models", .strs ((jwt.scopeModelMappings.get? s).getD []))]) ++
  jwt.scopeMappings.map scopeMappingValue

def routingOverrideValue (o : JWTRoutingOverride) : Value := .map (putSettings [("iss", .str o.iss)]
    [("client_id", textSetting o.clientID), ("scope", textSetting o.scope),
      ("aud", textSetting o.aud), ("path", textSetting o.path)])

def valuesSetting (xs : List Value) : Option Value := if xs.isEmpty then none else some (.list xs)

def buildJWTMappings : List (String × Option Value) :=
  [("scope_mappings", valuesSetting (scopeMappings jwt)),
    ("role_mappings", valuesSetting (jwt.roleMappings.map (fun m =>
      .map [("role", .str m.role), ("internal_role", .str m.internalRole)]))),
    ("jwt_litellm_role_map", valuesSetting (jwt.jwtLiteLLMRoleMap.map (fun m =>
      .map [("jwt_role", .str m.jwtRole), ("litellm_role", .str m.litellmRole)]))),
    ("routing_overrides", valuesSetting (jwt.routingOverrides.map routingOverrideValue))]

def jwtSettings : List (String × Option Value) :=
  [("admin_jwt_scope", textSetting jwt.adminJWTScope),
    ("team_id_jwt_field", textSetting jwt.teamIDJWTField),
    ("team_ids_jwt_field", textSetting jwt.teamIDsJWTField),
    ("team_alias_jwt_field", textSetting jwt.teamAliasJWTField),
    ("team_id_default", textSetting jwt.teamIDDefault),
    ("org_id_jwt_field", textSetting jwt.orgIDJWTField),
    ("org_alias_jwt_field", textSetting jwt.orgAliasJWTField),
    ("user_id_jwt_field", textSetting jwt.userIDJWTField),
    ("user_email_jwt_field", textSetting jwt.userEmailJWTField),
    ("user_role_jwt_field", textSetting jwt.userRoleJWTField),
    ("user_roles_jwt_field", textSetting jwt.userRolesJWTField),
    ("user_allowed_email_domain", textSetting jwt.userAllowedEmailDomain),
    ("object_id_jwt_field", textSetting jwt.objectIDJWTField),
    ("roles_jwt_field", textSetting jwt.rolesJWTField),
    ("end_user_id_jwt_field", textSetting jwt.endUserIDJWTField),
    ("custom_validate", textSetting jwt.customValidate),
    ("virtual_key_claim_field", textSetting jwt.virtualKeyClaimField),
    ("oidc_userinfo_endpoint", textSetting jwt.oidcUserInfoEndpoint),
    ("admin_allowed_routes", listSetting jwt.adminAllowedRoutes),
    ("team_allowed_routes", listSetting jwt.teamAllowedRoutes),
    ("user_allowed_roles", listSetting jwt.userAllowedRoles),
    ("user_id_upsert", boolSetting jwt.userIDUpsert),
    ("team_id_upsert", boolSetting jwt.teamIDUpsert),
    ("team_claim_fallback", boolSetting jwt.teamClaimFallback),
    ("enforce_rbac", boolSetting jwt.enforceRBAC),
    ("enforce_team_based_model_access", boolSetting jwt.enforceTeamBasedModelAccess),
    ("enforce_scope_based_access", boolSetting jwt.enforceScopeBasedAccess),
    ("sync_user_role_and_teams", boolSetting jwt.syncUserRoleAndTeams),
    ("oidc_userinfo_enabled", boolSetting jwt.oidcUserInfoEnabled),
    ("public_key_ttl", intSetting jwt.publicKeyTTL),
    ("virtual_key_mapping_cache_ttl", intSetting jwt.virtualKeyMappingCacheTTL),
    ("oidc_userinfo_cache_ttl", intSetting jwt.oidcUserInfoCacheTTL)]

def buildJWTAuthConfig (config : StrMap Value) : StrMap Value :=
  putInSection generalSettingsKey [("enable_jwt_auth", some (.bool true)),
      ("litellm_jwtauth", mapSetting (putSettings [] (jwtSettings jwt ++ buildJWTMappings jwt)))]
    config

def buildOAuth2AuthConfig (oauth2 : OAuth2AuthSpec) (config : StrMap Value) : StrMap Value :=
  putInSection generalSettingsKey [("enable_oauth2_auth", some (.bool true)),
      ("oauth2_config_mappings", mapSetting (oauth2.configMappings.foldl (fun m e =>
        m.set e.name (.map [("jwt_field", .str e.jwtField),
          ("litellm_attribute", .str e.litellmAttribute)])) []))] config

def keyGenerationSettings (kg : KeyGenerationSettings) : StrMap Value := putSettings []
    [("team_key_generation", kg.teamKeyGeneration.map (fun roles =>
        .map [("allowed_team_member_roles", .strs roles)])),
      ("personal_key_generation", kg.personalKeyGeneration.map (fun roles =>
        .map [("allowed_user_roles", .strs roles)]))]

def rolePermissionValue (permissions : StrMap RolePermission) (role : String) : Value :=
  let perm := (permissions.get? role).getD {}
  .map (putSettings [("role", .str role)]
    [("routes", listSetting perm.routes), ("models", listSetting perm.models)])

def buildRBACConfig (rbac : RBACSpec) (config : StrMap Value) : StrMap Value :=
  putInSection generalSettingsKey [("enforce_rbac", some (.bool true)),
      ("admin_only_routes", listSetting rbac.adminOnlyRoutes),
      ("allowed_routes", listSetting rbac.allowedRoutes),
      ("default_team_disabled", boolSetting rbac.defaultTeamDisabled),
      ("key_generation_settings",
        rbac.keyGeneration.bind (fun kg => mapSetting (keyGenerationSettings kg))),
      ("role_permissions", valuesSetting
        (rbac.rolePermissions.sortedKeys.map (rolePermissionValue rbac.rolePermissions)))] config

/-! ## Caching -/

/-- A reference to an environment variable in the configuration. -/
def osEnviron : String := "os.environ/" ++ name

variable (inst : LiteLLMInstance) (caching : CachingSpec)

def redisCacheSettings : List (String × Option Value) :=
  match caching.redis with
  | some redis =>
    [("host", textSetting redis.host), ("port", intSetting redis.port),
      ("password", redis.passwordSecretRef.map (fun _ =>
        .str (osEnviron "CACHE_REDIS_PASSWORD"))),
      ("ssl", flagSetting redis.ssl)]
  | none =>
    match inst.spec.redis with
    | none => []
    | some redis =>
      if redis.enabled && redis.host ≠ "" then
        [("host", some (.str redis.host)), ("port", some (.int (orDefaultInt redis.port 6379))),
          ("password", redis.passwordSecretRef.map (fun _ =>
            .str (osEnviron "REDIS_PASSWORD")))]
      else []

def s3CacheSettings (s3 : CacheS3Spec) : List (String × Option Value) :=
  [("s3_bucket_name", some (.str s3.bucketName)), ("s3_region_name", textSetting s3.region),
    ("s3_aws_access_key_id", s3.credentialsSecretRef.map (fun _ =>
      .str (osEnviron "CACHE_S3_ACCESS_KEY_ID"))),
    ("s3_aws_secret_access_key", s3.credentialsSecretRef.map (fun _ =>
      .str (osEnviron "CACHE_S3_SECRET_ACCESS_KEY")))]

def gcsCacheSettings (gcs : CacheGCSSpec) : List (String × Option Value) :=
  [("s3_bucket_name", some (.str gcs.bucketName)),
    ("s3_aws_access_key_id", gcs.credentialsSecretRef.map (fun _ =>
      .str (osEnviron "CACHE_GCS_SERVICE_ACCOUNT_JSON")))]

def qdrantCacheSettings (qdrant : CacheQdrantSpec) : List (String × Option Value) :=
  [("qdrant_semantic_cache_embedding_model", some (.str "text-embedding-ada-002")),
    ("qdrant_url", some (.str qdrant.url)),
    ("qdrant_api_key", qdrant.apiKeySecretRef.map (fun _ =>
      .str (osEnviron "CACHE_QDRANT_API_KEY"))),
    ("qdrant_collection_name", textSetting qdrant.collectionName)]

/-- The settings of the cache's backend. -/
def cacheBackendSettings : List (String × Option Value) :=
  let cacheType := orDefault caching.type "redis"
  if cacheType = "redis" ∨ cacheType = "redis-semantic" then redisCacheSettings inst caching
  else if cacheType = "s3" then (caching.s3.map s3CacheSettings).getD []
  else if cacheType = "gcs" then (caching.gcs.map gcsCacheSettings).getD []
  else if cacheType = "qdrant" then (caching.qdrant.map qdrantCacheSettings).getD []
  else []

def cacheParams : StrMap Value :=
  putSettings [("type", .str (orDefault caching.type "redis"))]
    (cacheBackendSettings inst caching ++
      [("ttl", intSetting caching.ttl), ("namespace", textSetting caching.ns),
        ("supported_call_types", listSetting caching.supportedCallTypes),
        ("mode", if caching.mode = "default_off" then some (.str "default_off") else none)])

def buildCachingConfig (config : StrMap Value) : StrMap Value :=
  putInSection litellmSettingsKey
    [("cache", some (.bool true)), ("cache_params", some (.map (cacheParams inst caching)))] config

/-! ## Endpoints and limits -/

def buildIPAllowlistConfig (ipAllowlist : IPAllowlistSpec) (config : StrMap Value) :
    StrMap Value :=
  putInSection generalSettingsKey [("allowed_ips", some (.strs ipAllowlist.allowedIPs)),
      ("use_x_forwarded_for", flagSetting (ipAllowlist.useXForwardedFor = some true)),
      ("max_request_size_mb", intSetting ipAllowlist.maxRequestSizeMB),
      ("max_response_size_mb", intSetting ipAllowlist.maxResponseSizeMB)] config

/-- The headers of an endpoint: the static ones, then those backed by Secrets over them. -/
def passThroughHeaders (ep : PassThroughEndpoint) : StrMap String :=
  ep.headerSecrets.foldl (fun headers hs =>
    headers.set hs.headerName
      (hs.valuePrefix ++ osEnviron (passThroughEnvVarName ep.path hs.headerName))) ep.headers

def passThroughEntry (ep : PassThroughEndpoint) : Value :=
  .map (putSettings [("path", .str ep.path), ("target", .str ep.target)]
    [("auth", boolSetting ep.auth), ("forward_headers", boolSetting ep.forwardHeaders),
      ("include_subpath", boolSetting ep.includeSubpath), ("methods", listSetting ep.methods),
      ("default_query_params",
        if ep.defaultQueryParams.isEmpty then none else some (.strMap ep.defaultQueryParams)),
      ("headers",
        if (passThroughHeaders ep).isEmpty then none else some (.strMap (passThroughHeaders ep)))])

def buildPassThroughEndpointsConfig (endpoints : List PassThroughEndpoint)
    (config : StrMap Value) : StrMap Value :=
  inSection generalSettingsKey
    (·.set "pass_through_endpoints" (.list (endpoints.map passThroughEntry))) config

def buildDefaultCustomerBudget (spec : DefaultCustomerBudgetSpec) (config : StrMap Value) :
    StrMap Value :=
  if spec.maxBudget.isNone && spec.budgetID = "" then config
  else putInSection litellmSettingsKey [("max_end_user_budget", floatSetting spec.maxBudget),
      ("max_end_user_budget_id", textSetting spec.budgetID)] config

/-! ## Secret manager, logging, admin user interface -/

def buildSecretManagerConfig (sm : SecretManagerSpec) (config : StrMap Value) : StrMap Value :=
  putInSection generalSettingsKey [("key_management_system", some (.str sm.provider)),
      ("key_management_settings", mapSetting (putSettings []
        [("hosted_keys", listSetting sm.hostedKeys),
          ("store_virtual_keys", boolSetting sm.storeVirtualKeys),
          ("prefix_for_stored_virtual_keys", textSetting sm.prefixForStoredVirtualKeys),
          ("access_mode", textSetting sm.accessMode),
          ("primary_secret_name", textSetting sm.primarySecretName)]))] config

def buildAuditLogs (auditLogs : Option AuditLogSpec) (config : StrMap Value) : StrMap Value :=
  match auditLogs with
  | none => config
  | some auditLogs =>
    if !auditLogs.enabled then config
    else
      let config := inSection generalSettingsKey (·.set "store_audit_logs" (.bool true)) config
      match auditLogs.retentionDays with
      | none => config
      | some n => inSection litellmSettingsKey (·.set "audit_log_retention_days" (.int n)) config

/-- A flag of the library settings; the section is only created when it is set. -/
def putLiteLLMFlag (key : String) (b : Option Bool) (config : StrMap Value) : StrMap Value :=
  match b with
  | none => config
  | some b => inSection litellmSettingsKey (·.set key (.bool b)) config

def buildLoggingConfig (logging : InstanceLoggingSpec) (config : StrMap Value) : StrMap Value :=
  let config := buildAuditLogs logging.auditLogs config
  let config := putLiteLLMFlag "turn_off_message_logging" logging.turnOffMessageLogging config
  let config := putLiteLLMFlag "redact_user_api_key_info" logging.redactUserAPIKeyInfo config
  match logging.spendLogRetention with
  | none => config
  | some retention => putInSection generalSettingsKey
      [("maximum_spend_logs_retention_period", textSetting retention.maxRetentionPeriod),
        ("maximum_spend_logs_retention_interval", textSetting retention.cleanupInterval)] config

/-- A general setting; the section is only created when it is set. -/
def putGeneral (key : String) (v : Option Value) (config : StrMap Value) : StrMap Value :=
  match v with
  | none => config
  | some v => inSection generalSettingsKey (·.set key v) config

def buildAdminUIConfig (adminUI : AdminUISpec) (config : StrMap Value) : StrMap Value :=
  let config := putGeneral "ui_access_mode"
    (if adminUI.adminOnly = some true then some (.str "admin_only") else none) config
  let config := putGeneral "store_model_in_db" (boolSetting adminUI.storeModelInDB) config
  putGeneral "default_team_disabled" (boolSetting adminUI.defaultTeamDisabled) config

/-! ## Guardrails -/

def genericGuardrailStreamingKeys : List String :=
  ["streaming_transform_mode", "streaming_sampling_rate", "streaming_end_of_stream_only"]

variable (lib : Ext)

/-- `DecodeJSONParams` as settings. -/
def decodedSettings (params : StrMap RawJSON) : StrMap Value :=
  (decodeJSONParams lib params).map (fun e => (e.1, Value.ofJson e.2))

variable (g : LiteLLMGuardrail)

/-- The parameters of a guardrail that the operator sets itself. -/
def guardrailBaseParams : StrMap Value := putSettings
    [("guardrail", .str (if g.spec.provider = "custom_guardrail" then g.spec.guardrailClass
        else g.spec.provider)),
      ("mode", .str g.spec.mode)]
    [("api_key", g.spec.apiKeySecretRef.map (fun _ =>
        .str (osEnviron (guardrailEnvVarName g.spec.guardrailName)))),
      ("api_base", textSetting g.spec.apiBase),
      ("default_on", boolSetting g.spec.defaultOn),
      ("unreachable_fallback", textSetting g.spec.unreachableFallback)]

def guardrailParams : StrMap Value :=
  let params := guardrailBaseParams g
  let decoded := decodedSettings lib g.spec.params
  if g.spec.provider = "generic_guardrail_api" then
    putSettings params (("additional_provider_specific_params", mapSetting decoded) ::
        genericGuardrailStreamingKeys.map (fun k => (k, decoded.get? k)))
  else
    decoded.foldl (fun ps e => if (ps.get? e.1).isSome then ps else ps.set e.1 e.2) params

def guardrailEntry : Value :=
  .map [("guardrail_name", .str g.spec.guardrailName),
    ("litellm_params", .map (guardrailParams lib g))]

def buildGuardrailsList (inst : LiteLLMInstance) (guardrails : List LiteLLMGuardrail)
    (config : StrMap Value) : StrMap Value :=
  let entries := (guardrails.filter (fun g => g.spec.instanceRef.name = inst.metadata.name)).map
    (guardrailEntry lib)
  if entries.isEmpty then config else config.set "guardrails" (.list entries)

/-! ## Extra settings -/

/-- Merges raw settings into a section without replacing anything; with it, the keys that were
skipped. -/
def applyExtraSettings (extra : StrMap RawJSON) (config : StrMap Value) :
    StrMap Value × List String :=
  let decoded := decodedSettings lib extra
  decoded.sortedKeys.foldl (fun acc k =>
    if (acc.1.get? k).isSome then (acc.1, acc.2 ++ [k])
    else (acc.1.set k ((decoded.get? k).getD .null), acc.2)) (config, [])

/-- Merges raw settings into the named section of the configuration, if there are any. -/
def extraInSection (name : String) (extra : StrMap RawJSON) (config : StrMap Value) :
    StrMap Value × List String :=
  if extra.isEmpty then (config, [])
  else
    let applied := applyExtraSettings lib extra (sectionOf config name)
    (config.set name (.map applied.1), applied.2.map (fun k => name ++ "." ++ k))

def applyAllExtraSettings (inst : LiteLLMInstance) (config : StrMap Value) :
    StrMap Value × List String :=
  let general := extraInSection lib generalSettingsKey
    ((inst.spec.generalSettings.map (·.extra)).getD []) config
  let litellm := extraInSection lib litellmSettingsKey
    ((inst.spec.litellmSettings.map (·.extra)).getD []) general.1
  (litellm.1, general.2 ++ litellm.2)

/-! ## The configuration -/

/-- Runs a builder on a section of the spec if it is there and switched on. -/
def whenSet {A : Type} (x : Option A) (enabled : A → Bool)
    (build : A → StrMap Value → StrMap Value) (config : StrMap Value) : StrMap Value :=
  match x with
  | none => config
  | some a => if enabled a then build a config else config

/-- The section builders in the order in which they run. -/
def sectionBuilders (inst : LiteLLMInstance) (guardrails : List LiteLLMGuardrail) :
    List (StrMap Value → StrMap Value) :=
  let spec := inst.spec
  [(fun config => match mapSetting (buildGeneralSettings spec.generalSettings) with
      | none => config
      | some gs => config.set generalSettingsKey gs),
    (fun config => match mapSetting (buildRouterSettings spec.routerSettings) with
      | none => config
      | some rs => config.set routerSettingsKey rs),
    whenSet spec.database.connectionPool (fun pool => pool.maxConnections > 0) (fun pool =>
      inSection generalSettingsKey
        (·.set "database_connection_pool_limit" (.int pool.maxConnections))),
    buildLiteLLMSettings spec.litellmSettings,
    whenSet spec.fallbacks (fun _ => true) buildFallbackConfig,
    whenSet spec.sso (·.enabled) buildSSOConfig,
    whenSet spec.callbacks (fun c => !c.types.isEmpty) (fun c =>
      putInSection litellmSettingsKey [("success_callback", some (.strs c.types)),
        ("failure_callback", some (.strs c.types))]),
    whenSet spec.caching (·.enabled) (buildCachingConfig inst),
    whenSet (spec.security.bind (·.ipAllowlist)) (·.enabled) buildIPAllowlistConfig,
    (fun config => if spec.passThroughEndpoints.isEmpty then config
      else buildPassThroughEndpointsConfig spec.passThroughEndpoints config),
    whenSet spec.jwtAuth (·.enabled) buildJWTAuthConfig,
    whenSet spec.oauth2Auth (·.enabled) buildOAuth2AuthConfig,
    whenSet spec.rbac (·.enabled) buildRBACConfig,
    whenSet spec.defaultCustomerBudget (fun _ => true) buildDefaultCustomerBudget,
    whenSet spec.secretManager (fun _ => true) buildSecretManagerConfig,
    whenSet spec.logging (fun _ => true) buildLoggingConfig,
    whenSet spec.adminUI (fun _ => true) buildAdminUIConfig,
    buildGuardrailsList lib inst guardrails]

def generateProxyConfigWithConflicts (inst : LiteLLMInstance) (guardrails : List LiteLLMGuardrail) :
    StrMap Value × List String :=
  applyAllExtraSettings lib inst
    ((sectionBuilders lib inst guardrails).foldl (fun config build => build config)
      [("model_list", .list [])])

def generateProxyConfig (inst : LiteLLMInstance) (guardrails : List LiteLLMGuardrail) :
    StrMap Value :=
  (generateProxyConfigWithConflicts lib inst guardrails).1

def extraSettingsConflicts (inst : LiteLLMInstance) (guardrails : List LiteLLMGuardrail) :
    List String :=
  (generateProxyConfigWithConflicts lib inst guardrails).2

def buildConfigMap (lib : InstanceExt) (inst : LiteLLMInstance) (labels : StrMap String)
    (guardrails : List LiteLLMGuardrail) : Except String ConfigMap :=
  (lib.yamlMarshal (generateProxyConfig lib.toExt inst guardrails)).map (fun configYAML =>
    { metadata :=
        { name := inst.metadata.name ++ "-config", ns := inst.metadata.ns, labels := some labels }
      data := [(configFileName, configYAML)] })

end LitellmOperator
