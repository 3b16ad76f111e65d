import LitellmOperator.Api.Requests
import LitellmOperator.Kube.Workload

/-! # The settings of a proxy

The sections of `LiteLLMInstanceSpec` that describe how the proxy is configured, as opposed to how
it is deployed (further below). Most of them end up in the configuration file, some in the
environment of the pod.
-/

set_option autoImplicit false

namespace LitellmOperator

open Go Kube

/-! ## General, router and library settings -/

structure GeneralSettingsSpec where
  extra : StrMap RawJSON := []
  proxyBatchWriteAt : Int := 0
  masterKeyRequired : Option Bool := none
  alertTypes : List String := []
  alerting : List String := []
  alertingThreshold : Option Int := none
  alertToWebhookURL : StrMap String := []
  backgroundHealthChecks : Option Bool := none
  healthCheckInterval : Option Int := none
  healthCheckDetails : Option Bool := none
  healthCheckSkipDisabledModels : Option Bool := none
  customKeyGenerate : String := ""
  allowUserAuth : Option Bool := none
  maxBudget : Option String := none
  budgetDuration : String := ""
  globalMaxParallelRequests : Option Int := none
  budgetReschedulerMinTime : Option Int := none
  budgetReschedulerMaxTime : Option Int := none
  deriving DecidableEq

structure ModelFallbackEntry where
  model : String
  fallbacks : List String
  deriving DecidableEq

structure FallbackSpec where
  defaultFallbacks : List String := []
  modelFallbacks : List ModelFallbackEntry := []
  contentPolicyFallbacks : List ModelFallbackEntry := []
  contextWindowFallbacks : List ModelFallbackEntry := []
  maxFallbacks : Option Int := none
  deriving DecidableEq

structure ProviderBudget where
  budgetLimit : String
  timePeriod : String
  deriving DecidableEq

structure RouterSettingsSpec where
  routingStrategy : String := ""
  numRetries : Option Int := none
  timeout : Option Int := none
  retryAfter : Option Int := none
  allowedFails : Option Int := none
  cooldownTime : Option Int := none
  retryPolicy : StrMap Int := []
  modelGroupRetryPolicy : StrMap (StrMap Int) := []
  enableTagFiltering : Option Bool := none
  tagFilteringMatchAny : Option Bool := none
  defaultMaxParallelRequests : Option Int := none
  providerBudgetConfig : StrMap ProviderBudget := []
  streamTimeout : Option Int := none
  enablePreCallChecks : Option Bool := none
  modelGroupAlias : StrMap String := []
  deriving DecidableEq

structure LiteLLMSettingsSpec where
  jsonLogs : Option Bool := none
  checkProviderEndpoint : Option Bool := none
  extra : StrMap RawJSON := []
  deriving DecidableEq

structure CallbacksSpec where
  types : List String := []
  envVars : List EnvVar := []
  deriving DecidableEq

structure DefaultCustomerBudgetSpec where
  maxBudget : Option Float64 := none
  budgetID : String := ""
  deriving DecidableEq

/-! ## Sign-on and authorization -/

structure DefaultUserTeam where
  teamID : String
  maxBudgetInTeam : Option Float64 := none
  role : String := ""
  deriving DecidableEq

structure DefaultUserParams where
  maxBudget : Option Float64 := none
  budgetDuration : String := ""
  models : List String := []
  userRole : String := ""
  teams : List DefaultUserTeam := []
  deriving DecidableEq

structure DefaultTeamParams where
  maxBudget : Option Float64 := none
  budgetDuration : String := ""
  models : List String := []
  tpmLimit : Option Int := none
  rpmLimit : Option Int := none
  deriving DecidableEq

structure UserAttributeMappings where
  userID : String := ""
  email : String := ""
  displayName : String := ""
  firstName : String := ""
  lastName : String := ""
  role : String := ""
  deriving DecidableEq

structure CustomSSOHandlerConfigMapRef where
  name : String
  fileName : String := ""
  functionName : String
  deriving DecidableEq

structure CustomSSOHandlerSpec where
  modulePath : String := ""
  configMapRef : Option CustomSSOHandlerConfigMapRef := none
  deriving DecidableEq

structure SSOSpec where
  enabled : Bool
  provider : String
  clientID : SecretKeyRef
  clientSecret : SecretKeyRef
  tenantID : String := ""
  authorizationEndpoint : String := ""
  tokenEndpoint : String := ""
  userinfoEndpoint : String := ""
  scopes : List String := []
  teamIDsJWTField : String := ""
  userAttributeMappings : Option UserAttributeMappings := none
  defaultUserParams : Option DefaultUserParams := none
  defaultTeamParams : Option DefaultTeamParams := none
  customSSOHandler : Option CustomSSOHandlerSpec := none
  logoutURL : String := ""
  deriving DecidableEq

structure SCIMSpec where
  enabled : Bool
  tokenSecretRef : Option SecretKeyRef := none
  generatedTokenSecretName : String := ""
  deriving DecidableEq

structure JWTScopeMapping where
  scope : String
  models : List String := []
  routes : List String := []
  deriving DecidableEq

structure JWTRoleMapping where
  role : String
  internalRole : String
  deriving DecidableEq

structure JWTLiteLLMRoleMapEntry where
  jwtRole : String
  litellmRole : String
  deriving DecidableEq

structure JWTRoutingOverride where
  iss : String
  clientID : String := ""
  scope : String := ""
  aud : String := ""
  path : String := ""
  deriving DecidableEq

/-- The claims `litellm_jwtauth` reads, and how the proxy acts on them. -/
structure JWTAuthSpec where
  enabled : Bool
  publicKeyURL : String := ""
  issuer : String := ""
  audience : String := ""
  adminJWTScope : String := ""
  adminAllowedRoutes : List String := []
  teamIDJWTField : String := ""
  teamIDsJWTField : String := ""
  orgIDJWTField : String := ""
  userIDJWTField : String := ""
  userIDUpsert : Option Bool := none
  userEmailJWTField : String := ""
  userRoleJWTField : String := ""
  userRolesJWTField : String := ""
  userAllowedRoles : List String := []
  enforceRBAC : Option Bool := none
  objectIDJWTField : String := ""
  endUserIDJWTField : String := ""
  publicKeyTTL : Option Int := none
  scopeModelMappings : StrMap (List String) := []
  scopeMappings : List JWTScopeMapping := []
  rolesJWTField : String := ""
  roleMappings : List JWTRoleMapping := []
  jwtLiteLLMRoleMap : List JWTLiteLLMRoleMapEntry := []
  teamAliasJWTField : String := ""
  orgAliasJWTField : String := ""
  teamIDDefault : String := ""
  teamAllowedRoutes : List String := []
  teamIDUpsert : Option Bool := none
  teamClaimFallback : Option Bool := none
  userAllowedEmailDomain : String := ""
  enforceTeamBasedModelAccess : Option Bool := none
  enforceScopeBasedAccess : Option Bool := none
  syncUserRoleAndTeams : Option Bool := none
  customValidate : String := ""
  virtualKeyClaimField : String := ""
  virtualKeyMappingCacheTTL : Option Int := none
  routingOverrides : List JWTRoutingOverride := []
  oidcUserInfoEnabled : Option Bool := none
  oidcUserInfoEndpoint : String := ""
  oidcUserInfoCacheTTL : Option Int := none
  deriving DecidableEq

structure OAuth2Mapping where
  name : String
  jwtField : String
  litellmAttribute : String
  deriving DecidableEq

structure OAuth2AuthSpec where
  enabled : Bool
  configMappings : List OAuth2Mapping := []
  deriving DecidableEq

structure KeyGenerationSettings where
  /-- `teamKeyGeneration.allowedTeamMemberRoles`. -/
  teamKeyGeneration : Option (List String) := none
  /-- `personalKeyGeneration.allowedUserRoles`. -/
  personalKeyGeneration : Option (List String) := none
  deriving DecidableEq

structure RolePermission where
  routes : List String := []
  models : List String := []
  deriving DecidableEq

structure RBACSpec where
  enabled : Bool
  adminOnlyRoutes : List String := []
  allowedRoutes : List String := []
  keyGeneration : Option KeyGenerationSettings := none
  rolePermissions : StrMap RolePermission := []
  defaultTeamDisabled : Option Bool := none
  deriving DecidableEq

/-! ## Caching -/

structure CacheRedisSpec where
  host : String := ""
  port : Option Int := none
  passwordSecretRef : Option SecretKeyRef := none
  ssl : Bool := false
  deriving DecidableEq

structure CacheS3Spec where
  bucketName : String
  region : String := ""
  credentialsSecretRef : Option SecretKeyRef := none
  deriving DecidableEq

structure CacheGCSSpec where
  bucketName : String
  credentialsSecretRef : Option SecretKeyRef := none
  deriving DecidableEq

structure CacheQdrantSpec where
  url : String
  apiKeySecretRef : Option SecretKeyRef := none
  collectionName : String := ""
  deriving DecidableEq

structure CachingSpec where
  enabled : Bool
  type : String := ""
  redis : Option CacheRedisSpec := none
  s3 : Option CacheS3Spec := none
  gcs : Option CacheGCSSpec := none
  qdrant : Option CacheQdrantSpec := none
  ttl : Option Int := none
  ns : String := ""
  supportedCallTypes : List String := []
  mode : String := ""
  deriving DecidableEq

/-! ## Pass-through endpoints -/

structure HeaderSecretRef where
  headerName : String
  /-- Written before the value (`prefix`). -/
  valuePrefix : String := ""
  secretRef : SecretKeyRef
  deriving DecidableEq

structure PassThroughEndpoint where
  path : String
  target : String
  auth : Option Bool := none
  forwardHeaders : Option Bool := none
  includeSubpath : Option Bool := none
  methods : List String := []
  headers : StrMap String := []
  headerSecrets : List HeaderSecretRef := []
  defaultQueryParams : StrMap String := []
  deriving DecidableEq

/-! ## Secret manager, logging and the admin user interface -/

structure AWSSecretManagerConfig where
  region : String
  roleARN : String := ""
  sessionName : String := ""
  webIdentityTokenPath : String := ""
  stsEndpoint : String := ""
  deriving DecidableEq

structure AzureKeyVaultConfig where
  vaultURI : String
  tenantID : String
  deriving DecidableEq

structure VaultConfig where
  address : String
  ns : String := ""
  mountName : String := ""
  pathPrefix : String := ""
  refreshInterval : Option Int := none
  deriving DecidableEq

structure SecretManagerSpec where
  provider : String
  credentialsSecretRef : Option SecretRef := none
  hostedKeys : List String := []
  storeVirtualKeys : Option Bool := none
  prefixForStoredVirtualKeys : String := ""
  accessMode : String := ""
  primarySecretName : String := ""
  aws : Option AWSSecretManagerConfig := none
  azure : Option AzureKeyVaultConfig := none
  vault : Option VaultConfig := none
  deriving DecidableEq

structure AuditLogSpec where
  enabled : Bool
  retentionDays : Option Int := none
  deriving DecidableEq

structure SpendLogRetentionSpec where
  maxRetentionPeriod : String := ""
  cleanupInterval : String := ""
  deriving DecidableEq

structure InstanceLoggingSpec where
  auditLogs : Option AuditLogSpec := none
  turnOffMessageLogging : Option Bool := none
  redactUserAPIKeyInfo : Option Bool := none
  spendLogRetention : Option SpendLogRetentionSpec := none
  deriving DecidableEq

structure AdminUISpec where
  disabled : Option Bool := none
  adminOnly : Option Bool := none
  storeModelInDB : Option Bool := none
  defaultTeamDisabled : Option Bool := none
  apiDocBaseURL : String := ""
  docsURL : String := ""
  rootRedirectURL : String := ""
  logoURL : String := ""
  emailLogoURL : String := ""
  emailSupportContact : String := ""
  /-- The name of the ConfigMap. -/
  colorThemeConfigMapRef : Option String := none
  deriving DecidableEq

/-! ## Guardrails -/

structure LiteLLMGuardrailSpec where
  instanceRef : InstanceRef
  guardrailName : String
  provider : String
  guardrailClass : String := ""
  unreachableFallback : String := ""
  mode : String
  apiKeySecretRef : Option SecretKeyRef := none
  apiBase : String := ""
  defaultOn : Option Bool := none
  params : StrMap RawJSON := []
  envVars : List EnvVar := []
  deriving DecidableEq

abbrev LiteLLMGuardrail : Type := Resource LiteLLMGuardrailSpec Unit

/-! ## Instances

The sections of `LiteLLMInstanceSpec` that describe what runs in the cluster: the image, the
database and the Redis it uses, and the objects around the Deployment. Placement settings that are
only passed on are kept as text, as in `Kube/Workload.lean`.
-/

structure ImageSpec where
  repository : String := ""
  tag : String := ""
  pullPolicy : String := ""
  pullSecrets : List SecretRef := []
  deriving DecidableEq

structure WorkloadSpec where
  managed : Option Bool := none
  endpoint : String := ""
  deriving DecidableEq

structure AutoscalingSpec where
  enabled : Bool
  minReplicas : Int := 0
  maxReplicas : Int
  targetCPUUtilization : Option Int := none
  targetMemoryUtilization : Option Int := none
  deriving DecidableEq

structure MasterKeySpec where
  secretRef : Option SecretKeyRef := none
  autoGenerate : Bool := false
  deriving DecidableEq

structure SaltKeySpec where
  secretRef : Option SecretKeyRef := none
  autoGenerate : Bool := false
  deriving DecidableEq

structure CASecretRef where
  name : String
  key : String := ""
  deriving DecidableEq

structure TLSSpec where
  serverCertSecretRef : Option SecretRef := none
  trustedCASecretRef : Option CASecretRef := none
  clientCertSecretRef : Option SecretRef := none
  deriving DecidableEq

/-! ## Database and Redis -/

structure CNPGBackupSpec where
  enabled : Bool
  schedule : String := ""
  suspend : Bool := false
  method : String := ""
  deriving DecidableEq

structure CloudNativePGSpec where
  clusterName : String
  backup : Option CNPGBackupSpec := none
  deriving DecidableEq

structure ExternalDBSpec where
  connectionSecretRef : SecretKeyRef
  deriving DecidableEq

structure ManagedDBSpec where
  enabled : Bool
  deriving DecidableEq

structure ConnectionPoolSpec where
  maxConnections : Int := 0
  deriving DecidableEq

structure DatabaseImageSpec where
  repository : String := ""
  tag : String := ""
  pullPolicy : String := ""
  deriving DecidableEq

structure MigrationSpec where
  enabled : Bool
  useDatabaseImage : Bool := false
  databaseImage : Option DatabaseImageSpec := none
  deriving DecidableEq

structure DatabaseTLSSpec where
  caSecretRef : Option CASecretRef := none
  clientCertSecretRef : Option SecretRef := none
  deriving DecidableEq

structure DatabaseSpec where
  cloudNativePG : Option CloudNativePGSpec := none
  external : Option ExternalDBSpec := none
  managed : Option ManagedDBSpec := none
  connectionPool : Option ConnectionPoolSpec := none
  migration : Option MigrationSpec := none
  tls : Option DatabaseTLSSpec := none
  deriving DecidableEq

structure RedisSpec where
  enabled : Bool
  connectionSecretRef : Option SecretKeyRef := none
  host : String := ""
  port : Int := 0
  passwordSecretRef : Option SecretKeyRef := none
  deriving DecidableEq

/-! ## Objects around the Deployment -/

structure ServiceSpec where
  type : String := ""
  port : Int := 0
  deriving DecidableEq

structure ServiceAccountSpec where
  annotations : Option (StrMap String) := none
  labels : StrMap String := []
  deriving DecidableEq

structure DeploymentSpec where
  annotations : StrMap String := []
  deriving DecidableEq

structure PodSchedulingSpec where
  nodeSelector : StrMap String := []
  tolerations : List String := []
  affinity : Option String := none
  deriving DecidableEq

structure IngressTLSSpec where
  enabled : Bool
  secretName : String := ""
  deriving DecidableEq

structure IngressSpec where
  enabled : Bool
  ingressClassName : Option String := none
  host : String := ""
  tls : Option IngressTLSSpec := none
  annotations : Option (StrMap String) := none
  deriving DecidableEq

structure RouteSpec where
  enabled : Bool
  host : String := ""
  tlsTermination : String := ""
  deriving DecidableEq

structure GatewayParentRef where
  name : String
  ns : String := ""
  sectionName : String := ""
  deriving DecidableEq

structure GatewayHTTPRouteSpec where
  enabled : Bool
  host : String := ""
  parentRefs : List GatewayParentRef := []
  annotations : Option (StrMap String) := none
  deriving DecidableEq

structure IPAllowlistSpec where
  enabled : Bool
  allowedIPs : List String := []
  useXForwardedFor : Option Bool := none
  maxRequestSizeMB : Option Int := none
  maxResponseSizeMB : Option Int := none
  deriving DecidableEq

structure NetworkPolicySpec where
  enabled : Bool
  allowedNamespaces : List String := []
  deriving DecidableEq

structure SecuritySpec where
  networkPolicy : Option NetworkPolicySpec := none
  runAsNonRoot : Option Bool := none
  ipAllowlist : Option IPAllowlistSpec := none
  deriving DecidableEq

structure HealthCheckSpec where
  livenessInitialDelay : Int := 0
  readinessInitialDelay : Int := 0
  startupFailureThreshold : Int := 0
  deriving DecidableEq

structure PDBSpec where
  enabled : Bool
  minAvailable : Option Int := none
  maxUnavailable : Option Int := none
  deriving DecidableEq

structure ServiceMonitorAuthorization where
  type : String := ""
  credentials : Option SecretKeyRef := none
  deriving DecidableEq

structure ServiceMonitorSpec where
  enabled : Bool
  interval : String := ""
  labels : StrMap String := []
  path : String := ""
  authorization : Option ServiceMonitorAuthorization := none
  deriving DecidableEq

structure PrometheusRuleSpec where
  enabled : Bool
  labels : StrMap String := []
  disabledAlerts : List String := []
  deriving DecidableEq

structure GrafanaDashboardSpec where
  enabled : Bool
  labels : StrMap String := []
  folder : String := ""
  deriving DecidableEq

structure ObservabilitySpec where
  serviceMonitor : Option ServiceMonitorSpec := none
  prometheusRule : Option PrometheusRuleSpec := none
  grafanaDashboard : Option GrafanaDashboardSpec := none
  deriving DecidableEq

structure UpgradeSpec where
  strategy : String := ""
  maxUnavailable : Option Int := none
  maxSurge : Option Int := none
  autoRollback : Bool := false
  deriving DecidableEq

/-! ## LiteLLMInstance

Which namespaces and kinds an instance admits, its config sync policy, and the instance itself with
its sections of workload and settings. Clock times of the status are left out, and so are the
status fields that no controller here sets or reads (the database's and the config sync's).
-/

/-! ## Admission -/

/-- `metav1.LabelSelectorRequirement`. -/
structure LabelSelectorRequirement where
  key : String
  operator : String
  values : List String := []
  deriving DecidableEq

/-- `metav1.LabelSelector`. -/
structure LabelSelector where
  matchLabels : StrMap String := []
  matchExpressions : List LabelSelectorRequirement := []
  deriving DecidableEq

/-- `NamespacesFrom`; `unset` is the empty string. -/
inductive NamespacesFrom where
  | unset
  | same
  | all
  | selector
  deriving DecidableEq

/-- The kinds that `spec.allowedNamespaces.kinds` can list. -/
inductive AllowedNamespaceKind where
  | virtualKey
  | team
  | user
  | organization
  | budget
  | customer
  deriving DecidableEq

def AllowedNamespaceKind.toString : AllowedNamespaceKind → String
  | virtualKey => "LiteLLMVirtualKey"
  | team => "LiteLLMTeam"
  | user => "LiteLLMUser"
  | organization => "LiteLLMOrganization"
  | budget => "LiteLLMBudget"
  | customer => "LiteLLMCustomer"

structure AllowedNamespaces where
  fromNamespaces : NamespacesFrom := .unset
  selector : Option LabelSelector := none
  kinds : List AllowedNamespaceKind := []
  deriving DecidableEq

/-- `(*AllowedNamespaces).AllowsKind`; the receiver may be nil. -/
def AllowedNamespaces.allowsKind (a : Option AllowedNamespaces) (kind : String) : Bool :=
  match a with
  | none => false
  | some a =>
    if a.kinds.isEmpty then kind = AllowedNamespaceKind.virtualKey.toString
    else a.kinds.any (fun k => k.toString = kind)

/-! ## Config sync -/

/-- `unmanagedResourcePolicy`; `unset` is the empty string. -/
inductive UnmanagedResourcePolicy where
  | unset
  | preserve
  | prune
  | adopt
  deriving DecidableEq

/-- `conflictResolution`; `unset` is the empty string. -/
inductive ConflictResolution where
  | unset
  | crdWins
  | apiWins
  | manual
  deriving DecidableEq

structure ConfigSyncSpec where
  unmanagedResourcePolicy : UnmanagedResourcePolicy := .unset
  conflictResolution : ConflictResolution := .unset
  deriving DecidableEq

/-! ## The instance -/

structure LiteLLMInstanceSpec where
  image : ImageSpec := {}
  workload : Option WorkloadSpec := none
  replicas : Int := 0
  autoscaling : Option AutoscalingSpec := none
  masterKey : MasterKeySpec := {}
  database : DatabaseSpec := {}
  redis : Option RedisSpec := none
  saltKey : Option SaltKeySpec := none
  generalSettings : Option GeneralSettingsSpec := none
  routerSettings : Option RouterSettingsSpec := none
  litellmSettings : Option LiteLLMSettingsSpec := none
  fallbacks : Option FallbackSpec := none
  service : ServiceSpec := {}
  serviceAccount : Option ServiceAccountSpec := none
  deployment : Option DeploymentSpec := none
  podScheduling : Option PodSchedulingSpec := none
  ingress : Option IngressSpec := none
  route : Option RouteSpec := none
  gatewayHTTPRoute : Option GatewayHTTPRouteSpec := none
  security : Option SecuritySpec := none
  healthCheck : Option HealthCheckSpec := none
  resources : Option ResourceRequirements := none
  podDisruptionBudget : Option PDBSpec := none
  topologySpreadConstraints : List String := []
  extraEnvVars : List EnvVar := []
  extraEnvFrom : List EnvFromSource := []
  callbacks : Option CallbacksSpec := none
  observability : Option ObservabilitySpec := none
  upgrade : Option UpgradeSpec := none
  sso : Option SSOSpec := none
  scim : Option SCIMSpec := none
  jwtAuth : Option JWTAuthSpec := none
  oauth2Auth : Option OAuth2AuthSpec := none
  caching : Option CachingSpec := none
  passThroughEndpoints : List PassThroughEndpoint := []
  defaultCustomerBudget : Option DefaultCustomerBudgetSpec := none
  secretManager : Option SecretManagerSpec := none
  rbac : Option RBACSpec := none
  logging : Option InstanceLoggingSpec := none
  adminUI : Option AdminUISpec := none
  tls : Option TLSSpec := none
  extraVolumes : List Volume := []
  extraVolumeMounts : List VolumeMount := []
  allowedNamespaces : Option AllowedNamespaces := none
  deriving DecidableEq

structure UnhealthyPod where
  name : String
  phase : String := ""
  reason : String := ""
  message : String := ""
  restartCount : Int := 0
  deriving DecidableEq

/-- Whether something is configured, and by which provider. -/
structure ProviderStatus where
  configured : Bool := false
  provider : String := ""
  deriving DecidableEq

structure SCIMStatus where
  configured : Bool := false
  tokenSecretName : String := ""
  deriving DecidableEq

structure LicenseStatus where
  active : Bool
  secretName : String := ""
  deriving DecidableEq

structure RedisStatus where
  connected : Bool := false
  deriving DecidableEq

structure BackupStatus where
  configured : Bool := false
  deriving DecidableEq

structure LiteLLMInstanceStatus where
  ready : Bool := false
  replicas : Int := 0
  readyReplicas : Int := 0
  endpoint : String := ""
  version : String := ""
  redis : Option RedisStatus := none
  sso : Option ProviderStatus := none
  scim : Option SCIMStatus := none
  secretManager : Option ProviderStatus := none
  license : Option LicenseStatus := none
  backup : Option BackupStatus := none
  lastSuccessfulRevision : String := ""
  unhealthyPods : List UnhealthyPod := []
  conditions : List Condition := []
  deriving DecidableEq

abbrev LiteLLMInstance : Type := Resource LiteLLMInstanceSpec LiteLLMInstanceStatus

end LitellmOperator
