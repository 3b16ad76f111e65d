import LitellmOperator.Controller.Common

/-! # The Deployment of an instance

`internal/resources/deployment.go`: the pod template of the proxy with its environment, volumes and
probes. The environment is a list in which a name may occur more than once; the pod takes the last
entry. The functions are named as in the source; those that write a value only when it is set share
`envIfSet`.
-/

set_option autoImplicit false

namespace LitellmOperator

open Go Kube

/-! ## Constants -/

def defaultImageRepo : String := "ghcr.io/berriai/litellm"
def nonRootImageRepo : String := "ghcr.io/berriai/litellm-non_root"
def configMountDir : String := "/app/config"
def configFileName : String := "proxy_server_config.yaml"
def configFilePath : String := configMountDir ++ "/" ++ configFileName
def volumeNameColorTheme : String := "color-theme"
def volumeNameCustomSSO : String := "custom-sso-handler"
def customSSOMountDir : String := "/app/custom_sso_handlers"
def volumeNameTLSServer : String := "tls-server"
def tlsServerMountDir : String := "/etc/litellm/tls/server"
def volumeNameTLSCA : String := "tls-ca"
def tlsCAMountDir : String := "/etc/litellm/tls/ca"
def volumeNameTLSClient : String := "tls-client"
def tlsClientMountDir : String := "/etc/litellm/tls/client"
def tlsCertKey : String := "tls.crt"
def tlsKeyKey : String := "tls.key"
def volumeNameDBTLSCA : String := "db-tls-ca"
def dbTLSCAMountDir : String := "/etc/litellm/db-tls/ca"
def volumeNameDBTLSClient : String := "db-tls-client"
def dbTLSClientMountDir : String := "/etc/litellm/db-tls/client"

/-- The given text, or a default for the empty one. -/
def orDefault (s dflt : String) : String := if s = "" then dflt else s

/-- The given number, or a default for zero. -/
def orDefaultInt (n dflt : Int) : Int := if n = 0 then dflt else n

def caSecretKey (ref : CASecretRef) : String := orDefault ref.key caCrtKey

variable (inst : LiteLLMInstance)

def serveTLS : Bool := (inst.spec.tls.bind (·.serverCertSecretRef)).isSome

def podSecurityContext (nonRoot : Bool) : PodSecurityContext :=
  if nonRoot then
    { runAsNonRoot := some true, runAsUser := some 65534, fsGroup := some 65534 }
  else {}

/-- `spec.security.runAsNonRoot`. -/
def runsAsNonRoot : Bool := (inst.spec.security.bind (·.runAsNonRoot)) = some true

/-! ## Environment variables -/

def envValue (name value : String) : EnvVar := { name := name, value := value }

/-- A variable that is only written with a value. -/
def envIfSet (name value : String) : List EnvVar :=
  if value = "" then [] else [envValue name value]

def envFromSecret (envName : String) (ref : SecretKeyRef) : EnvVar where
  name := envName
  valueFrom := some { secretKeyRef := some ⟨ref.name, ref.key⟩ }

/-- `[^A-Za-z0-9]` replaced by an underscore. -/
def sanitizeEnvVarSegment (s : String) : String :=
  String.ofList (s.toList.map (fun c => if c.isAlphanum then c else '_'))

/-- `strings.ToUpper` on ASCII letters. -/
def toUpper (s : String) : String := String.ofList (s.toList.map Char.toUpper)

def guardrailEnvVarName (guardrailName : String) : String :=
  toUpper ("GUARDRAIL_" ++ sanitizeEnvVarSegment guardrailName ++ "_API_KEY")

def passThroughEnvVarName (path headerName : String) : String :=
  let p := String.ofList (path.toList.dropWhile (· = '/'))
  toUpper ("PASSTHROUGH_" ++ sanitizeEnvVarSegment p ++ "_" ++ sanitizeEnvVarSegment headerName)

def masterKeyEnvVars : List EnvVar :=
  match inst.spec.masterKey.secretRef with
  | some ref => [envFromSecret "LITELLM_MASTER_KEY" ref]
  | none =>
    if inst.spec.masterKey.autoGenerate then
      [envFromSecret "LITELLM_MASTER_KEY" ⟨inst.metadata.name ++ "-master-key", "master-key"⟩]
    else []

def saltKeyEnvVars : List EnvVar :=
  match inst.spec.saltKey with
  | none => []
  | some saltKey =>
    match saltKey.secretRef with
    | some ref => [envFromSecret "LITELLM_SALT_KEY" ref]
    | none =>
      if saltKey.autoGenerate then
        [envFromSecret "LITELLM_SALT_KEY" ⟨inst.metadata.name ++ "-salt-key", "salt-key"⟩]
      else []

/-- The database connection, for the proxy and for the migration Job. -/
def databaseEnvVars : List EnvVar :=
  match inst.spec.database.external with
  | some external => [envFromSecret "DATABASE_URL" external.connectionSecretRef]
  | none =>
    match inst.spec.database.cloudNativePG with
    | some cnpg => [envFromSecret "DATABASE_URL" ⟨cnpg.clusterName ++ "-app", "uri"⟩]
    | none =>
      if inst.spec.database.managed.any (·.enabled) then
        [envFromSecret "DATABASE_URL" ⟨inst.metadata.name ++ "-db", "database-url"⟩]
      else []

def redisEnvVars : List EnvVar :=
  match inst.spec.redis with
  | none => []
  | some redis =>
    if !redis.enabled then []
    else
      match redis.connectionSecretRef with
      | some ref => [envFromSecret "REDIS_URL" ref]
      | none =>
        if redis.host = "" then []
        else
          let port := orDefaultInt redis.port 6379
          [envValue "REDIS_HOST" redis.host, envValue "REDIS_PORT" (toString port),
            envValue "REDIS_URL" ("redis://" ++ redis.host ++ ":" ++ toString port)] ++
          (redis.passwordSecretRef.map (envFromSecret "REDIS_PASSWORD")).toList

def proxyBaseURL : String :=
  let fromService : String :=
    (if serveTLS inst then "https" else "http") ++ "://" ++ inst.metadata.name ++ "." ++
      inst.metadata.ns ++ ".svc:" ++ toString (orDefaultInt inst.spec.service.port 4000)
  match inst.spec.ingress with
  | none => fromService
  | some ingress =>
    if ingress.enabled && ingress.host ≠ "" then
      (if ingress.tls.any (·.enabled) then "https" else "http") ++ "://" ++ ingress.host
    else fromService

/-- The endpoints of a provider that is configured by them. -/
def ssoEndpointEnvVars (sso : SSOSpec) : List EnvVar :=
  envIfSet "GENERIC_AUTHORIZATION_ENDPOINT" sso.authorizationEndpoint ++
  envIfSet "GENERIC_TOKEN_ENDPOINT" sso.tokenEndpoint ++
  envIfSet "GENERIC_USERINFO_ENDPOINT" sso.userinfoEndpoint

def ssoProviderEnvVars (sso : SSOSpec) : List EnvVar :=
  if sso.provider = "azure-entra" then
    [envFromSecret "MICROSOFT_CLIENT_ID" sso.clientID,
      envFromSecret "MICROSOFT_CLIENT_SECRET" sso.clientSecret] ++
    envIfSet "MICROSOFT_TENANT" sso.tenantID
  else if sso.provider = "okta" then ssoEndpointEnvVars sso
  else if sso.provider = "google" then
    [envFromSecret "GOOGLE_CLIENT_ID" sso.clientID,
      envFromSecret "GOOGLE_CLIENT_SECRET" sso.clientSecret]
  else if sso.provider = "generic-oidc" then
    ssoEndpointEnvVars sso ++
    (if sso.scopes.isEmpty then []
      else [envValue "GENERIC_SCOPE" (" ".intercalate sso.scopes)])
  else []

def userAttributeEnvVars (m : UserAttributeMappings) : List EnvVar :=
  envIfSet "GENERIC_USER_ID_ATTRIBUTE" m.userID ++
  envIfSet "GENERIC_USER_EMAIL_ATTRIBUTE" m.email ++
  envIfSet "GENERIC_USER_DISPLAY_NAME_ATTRIBUTE" m.displayName ++
  envIfSet "GENERIC_USER_FIRST_NAME_ATTRIBUTE" m.firstName ++
  envIfSet "GENERIC_USER_LAST_NAME_ATTRIBUTE" m.lastName ++
  envIfSet "GENERIC_USER_ROLE_ATTRIBUTE" m.role

def ssoEnvVars : List EnvVar :=
  match inst.spec.sso with
  | none => []
  | some sso =>
    if !sso.enabled then []
    else
      [envFromSecret "GENERIC_CLIENT_ID" sso.clientID,
        envFromSecret "GENERIC_CLIENT_SECRET" sso.clientSecret,
        envValue "PROXY_BASE_URL" (proxyBaseURL inst)] ++
      envIfSet "PROXY_LOGOUT_URL" sso.logoutURL ++
      ssoProviderEnvVars sso ++
      (sso.userAttributeMappings.map userAttributeEnvVars).getD []

/-- The Secret a generated SCIM token is kept in. -/
def generatedSCIMTokenSecret (scim : SCIMSpec) : String :=
  orDefault scim.generatedTokenSecretName "litellm-scim-token"

def scimEnvVars : List EnvVar :=
  match inst.spec.scim with
  | none => []
  | some scim =>
    if !scim.enabled then []
    else
      [envValue "SCIM_ENABLED" "true", envFromSecret "SCIM_TOKEN"
          (scim.tokenSecretRef.getD ⟨generatedSCIMTokenSecret scim, "token"⟩)]

def awsEnvVars (aws : AWSSecretManagerConfig) : List EnvVar :=
  [envValue "AWS_REGION_NAME" aws.region] ++
  envIfSet "aws_role_name" aws.roleARN ++
  envIfSet "aws_session_name" aws.sessionName ++
  envIfSet "aws_web_identity_token" aws.webIdentityTokenPath ++
  envIfSet "AWS_STS_ENDPOINT" aws.stsEndpoint

def azureEnvVars (azure : AzureKeyVaultConfig) : List EnvVar :=
  [envValue "AZURE_KEY_VAULT_URI" azure.vaultURI, envValue "AZURE_TENANT_ID" azure.tenantID]

def vaultEnvVars (vault : VaultConfig) : List EnvVar := [envValue "HCP_VAULT_ADDR" vault.address] ++
  envIfSet "HCP_VAULT_NAMESPACE" vault.ns ++
  envIfSet "HCP_VAULT_MOUNT_NAME" vault.mountName ++
  envIfSet "HCP_VAULT_PATH_PREFIX" vault.pathPrefix ++
  (vault.refreshInterval.map (fun n => envValue "HCP_VAULT_REFRESH_INTERVAL" (toString n))).toList

def secretManagerEnvVars : List EnvVar :=
  match inst.spec.secretManager with
  | none => []
  | some sm =>
    (sm.aws.map awsEnvVars).getD [] ++ (sm.azure.map azureEnvVars).getD [] ++
      (sm.vault.map vaultEnvVars).getD []

def secretManagerEnvFrom : List EnvFromSource :=
  match inst.spec.secretManager.bind (·.credentialsSecretRef) with
  | none => []
  | some ref => [{ secretRef := some ref.name }]

def cachingEnvVars : List EnvVar :=
  match inst.spec.caching with
  | none => []
  | some caching =>
    if !caching.enabled then []
    else
      let cacheType := orDefault caching.type "redis"
      if cacheType = "redis" ∨ cacheType = "redis-semantic" then
        ((caching.redis.bind (·.passwordSecretRef)).map
          (envFromSecret "CACHE_REDIS_PASSWORD")).toList
      else if cacheType = "s3" then
        match caching.s3.bind (·.credentialsSecretRef) with
        | none => []
        | some ref =>
          [envFromSecret "CACHE_S3_ACCESS_KEY_ID" ⟨ref.name, "aws_access_key_id"⟩,
            envFromSecret "CACHE_S3_SECRET_ACCESS_KEY" ⟨ref.name, "aws_secret_access_key"⟩]
      else if cacheType = "gcs" then
        ((caching.gcs.bind (·.credentialsSecretRef)).map
          (envFromSecret "CACHE_GCS_SERVICE_ACCOUNT_JSON")).toList
      else if cacheType = "qdrant" then
        ((caching.qdrant.bind (·.apiKeySecretRef)).map
          (envFromSecret "CACHE_QDRANT_API_KEY")).toList
      else []

def passThroughEnvVars : List EnvVar := inst.spec.passThroughEndpoints.flatMap (fun ep =>
    ep.headerSecrets.map (fun hs =>
      envFromSecret (passThroughEnvVarName ep.path hs.headerName) hs.secretRef))

def adminUIEnvVars : List EnvVar :=
  match inst.spec.adminUI with
  | none => []
  | some ui =>
    (if ui.disabled = some true then [envValue "DISABLE_ADMIN_UI" "True"] else []) ++
    envIfSet "LITELLM_UI_API_DOC_BASE_URL" ui.apiDocBaseURL ++
    envIfSet "DOCS_URL" ui.docsURL ++
    envIfSet "ROOT_REDIRECT_URL" ui.rootRedirectURL ++
    envIfSet "UI_LOGO_PATH" ui.logoURL ++
    envIfSet "EMAIL_LOGO_URL" ui.emailLogoURL ++
    envIfSet "EMAIL_SUPPORT_CONTACT" ui.emailSupportContact

def jwtAuthEnvVars : List EnvVar :=
  match inst.spec.jwtAuth with
  | none => []
  | some jwt =>
    if !jwt.enabled then []
    else
      envIfSet "JWT_PUBLIC_KEY_URL" jwt.publicKeyURL ++ envIfSet "JWT_ISSUER" jwt.issuer ++
        envIfSet "JWT_AUDIENCE" jwt.audience

def tlsEnvVars : List EnvVar :=
  match inst.spec.tls with
  | none => []
  | some tls =>
    (if tls.serverCertSecretRef.isSome then
      [envValue "SSL_CERTFILE_PATH" (tlsServerMountDir ++ "/" ++ tlsCertKey),
        envValue "SSL_KEYFILE_PATH" (tlsServerMountDir ++ "/" ++ tlsKeyKey)] else []) ++
    (tls.trustedCASecretRef.map
      (fun ref => envValue "SSL_CERT_FILE" (tlsCAMountDir ++ "/" ++ caSecretKey ref))).toList ++
    (if tls.clientCertSecretRef.isSome then
      [envValue "SSL_CERTIFICATE" (tlsClientMountDir ++ "/" ++ tlsCertKey)] else [])

def buildEnvVars (licenseSecretName : String) : List EnvVar :=
  [envValue "CONFIG_FILE_PATH" configFilePath, envValue "STORE_MODEL_IN_DB" "True"] ++
  masterKeyEnvVars inst ++ saltKeyEnvVars inst ++ databaseEnvVars inst ++ redisEnvVars inst ++
  ssoEnvVars inst ++ scimEnvVars inst ++ secretManagerEnvVars inst ++ cachingEnvVars inst ++
  passThroughEnvVars inst ++ ((inst.spec.callbacks.map (·.envVars)).getD []) ++
  adminUIEnvVars inst ++ jwtAuthEnvVars inst ++ tlsEnvVars inst ++
  (if licenseSecretName = "" then []
    else [envFromSecret "LITELLM_LICENSE" ⟨licenseSecretName, "license-key"⟩])

/-- Appends a variable unless there is one of its name. -/
def addEnvOnce (vars : List EnvVar) (e : EnvVar) : List EnvVar :=
  if vars.any (fun v => v.name = e.name) then vars else vars ++ [e]

/-- The variables one guardrail asks for: its API key first, then its own. -/
def guardrailVars (g : LiteLLMGuardrail) : List EnvVar := (g.spec.apiKeySecretRef.map
    (envFromSecret (guardrailEnvVarName g.spec.guardrailName))).toList ++ g.spec.envVars

def guardrailEnvVars (guardrails : List LiteLLMGuardrail) : List EnvVar :=
  (guardrails.filter (fun g => g.spec.instanceRef.name = inst.metadata.name)).foldl
    (fun vars g => (guardrailVars g).foldl addEnvOnce vars) []

/-- The user's entries override the operator's by name, in the operator's places; the others follow
in the user's order. -/
def mergeEnvVars (operator user : List EnvVar) : List EnvVar :=
  if user.isEmpty then operator
  else
    let byName (name : String) : Option EnvVar := (user.filter (fun e => e.name = name)).getLast?
    let merged := operator.map (fun e => (byName e.name).getD e)
    let others := user.filter (fun e => !operator.any (fun o => o.name = e.name))
    merged ++ others.foldl addEnvOnce []

/-! ## Volumes -/

def secretVolume (name secretName : String) : Volume :=
  { name := name, secret := some { name := secretName } }

def configMapVolume (name configMapName : String) : Volume :=
  { name := name, configMap := some { name := configMapName } }

def readOnlyMount (name mountPath : String) : VolumeMount :=
  { name := name, mountPath := mountPath, readOnly := true }

/-- The ConfigMap of a custom sign-on handler, empty if there is none. -/
def customSSOConfigMapName : String :=
  match inst.spec.sso with
  | none => ""
  | some sso =>
    if !sso.enabled then ""
    else ((sso.customSSOHandler.bind (·.configMapRef)).map (·.name)).getD ""

/-- The Secrets of the proxy's own TLS, each with its volume and where it is mounted. -/
def tlsSecrets : List (String × String × String) :=
  match inst.spec.tls with
  | none => []
  | some tls =>
    (tls.serverCertSecretRef.map
      (fun ref => (volumeNameTLSServer, tlsServerMountDir, ref.name))).toList ++
    (tls.trustedCASecretRef.map (fun ref => (volumeNameTLSCA, tlsCAMountDir, ref.name))).toList ++
    (tls.clientCertSecretRef.map
      (fun ref => (volumeNameTLSClient, tlsClientMountDir, ref.name))).toList

/-- The same for the connection to the database. -/
def dbTLSSecrets : List (String × String × String) :=
  match inst.spec.database.tls with
  | none => []
  | some tls =>
    (tls.caSecretRef.map (fun ref => (volumeNameDBTLSCA, dbTLSCAMountDir, ref.name))).toList ++
    (tls.clientCertSecretRef.map
      (fun ref => (volumeNameDBTLSClient, dbTLSClientMountDir, ref.name))).toList

def secretMounts (secrets : List (String × String × String)) : List VolumeMount :=
  secrets.map (fun s => readOnlyMount s.1 s.2.1)

def secretVolumes (secrets : List (String × String × String)) : List Volume :=
  secrets.map (fun s => secretVolume s.1 s.2.2)

def tlsVolumeMounts : List VolumeMount := secretMounts (tlsSecrets inst)
def tlsVolumes : List Volume := secretVolumes (tlsSecrets inst)
def dbTLSVolumeMounts : List VolumeMount := secretMounts (dbTLSSecrets inst)
def dbTLSVolumes : List Volume := secretVolumes (dbTLSSecrets inst)

/-- The ConfigMap of the admin user interface's colours. -/
def colorThemeConfigMap : Option String := inst.spec.adminUI.bind (·.colorThemeConfigMapRef)

def buildVolumeMounts : List VolumeMount :=
  [readOnlyMount "config" configMountDir, { name := "tmp", mountPath := "/tmp" }] ++
  (if (colorThemeConfigMap inst).isSome then
    [{ name := volumeNameColorTheme
       mountPath := "/app/enterprise/enterprise_ui/enterprise_colors.json"
       subPath := "enterprise_colors.json"
       readOnly := true }] else []) ++
  (if customSSOConfigMapName inst = "" then []
    else [readOnlyMount volumeNameCustomSSO customSSOMountDir]) ++
  tlsVolumeMounts inst ++ dbTLSVolumeMounts inst ++ inst.spec.extraVolumeMounts

def buildVolumes : List Volume := [configMapVolume "config" (inst.metadata.name ++ "-config"),
    { name := "tmp", emptyDir := true }] ++
  ((colorThemeConfigMap inst).map (configMapVolume volumeNameColorTheme)).toList ++
  (if customSSOConfigMapName inst = "" then []
    else [configMapVolume volumeNameCustomSSO (customSSOConfigMapName inst)]) ++
  tlsVolumes inst ++ dbTLSVolumes inst ++ inst.spec.extraVolumes

/-! ## Probes -/

/-- A delay of the spec if it is positive, else the default. -/
def positiveOr (n : Option Int) (dflt : Int) : Int :=
  match n with
  | none => dflt
  | some n => if n > 0 then n else dflt

def healthCheckInitialDelay (probe : String) : Int :=
  if probe = "liveness" then
    positiveOr (inst.spec.healthCheck.map (·.livenessInitialDelay)) 15
  else if probe = "readiness" then
    positiveOr (inst.spec.healthCheck.map (·.readinessInitialDelay)) 10
  else 10

def startupFailureThreshold : Int :=
  positiveOr (inst.spec.healthCheck.map (·.startupFailureThreshold)) 30

def proxyProbe (path : String) : HTTPGetAction :=
  ⟨path, 4000, if serveTLS inst then "HTTPS" else "HTTP"⟩

/-! ## The Deployment -/

/-- The image of the proxy, for both the Deployment and a migration Job that uses it. -/
def gatewayImage : String := orDefault inst.spec.image.repository
    (if runsAsNonRoot inst then nonRootImageRepo else defaultImageRepo) ++ ":" ++
  orDefault inst.spec.image.tag "latest"

def defaultResources : ResourceRequirements where
  requests := [("cpu", "250m"), ("memory", "512Mi")]
  limits := [("cpu", "2"), ("memory", "2Gi")]

def buildContainer (licenseSecretName : String) (guardrails : List LiteLLMGuardrail) :
    Container where
  name := "litellm"
  image := gatewayImage inst
  imagePullPolicy := orDefault inst.spec.image.pullPolicy "IfNotPresent"
  ports := [⟨"http", 4000, "TCP"⟩]
  env := mergeEnvVars (buildEnvVars inst licenseSecretName ++ guardrailEnvVars inst guardrails)
    inst.spec.extraEnvVars
  envFrom := secretManagerEnvFrom inst ++ inst.spec.extraEnvFrom
  volumeMounts := buildVolumeMounts inst
  livenessProbe := some
    { httpGet := proxyProbe inst "/health/liveliness"
      initialDelaySeconds := healthCheckInitialDelay inst "liveness"
      periodSeconds := 15
      timeoutSeconds := 5 }
  readinessProbe := some
    { httpGet := proxyProbe inst "/health/readiness"
      initialDelaySeconds := healthCheckInitialDelay inst "readiness"
      periodSeconds := 10
      timeoutSeconds := 5 }
  startupProbe := some
    { httpGet := proxyProbe inst "/health/liveliness"
      periodSeconds := 5
      failureThreshold := startupFailureThreshold inst }
  resources := inst.spec.resources.getD defaultResources
  allowPrivilegeEscalation := some false

def buildStrategy : DeploymentStrategy :=
  match inst.spec.upgrade with
  | none => { type := "RollingUpdate", rollingUpdate := some {} }
  | some upgrade =>
    if upgrade.strategy = "recreate" then { type := "Recreate" }
    else
      { type := "RollingUpdate"
        rollingUpdate := some ⟨upgrade.maxUnavailable, upgrade.maxSurge⟩ }

/-- `spec.replicas`, where zero stands for one. -/
def specReplicas : Int := orDefaultInt inst.spec.replicas 1

def buildDeployment (labels : StrMap String) (licenseSecretName : String)
    (guardrails : List LiteLLMGuardrail) : Deployment where
  metadata :=
    { name := inst.metadata.name
      ns := inst.metadata.ns
      labels := some labels
      annotations := inst.spec.deployment.bind (fun d =>
        if d.annotations.isEmpty then none else some d.annotations) }
  spec :=
    { replicas := some (specReplicas inst)
      selector := labels
      strategy := buildStrategy inst
      template :=
        { labels := labels
          spec :=
            { serviceAccountName := inst.metadata.name
              imagePullSecrets := inst.spec.image.pullSecrets.map (·.name)
              containers := [buildContainer inst licenseSecretName guardrails]
              volumes := buildVolumes inst
              securityContext := some (podSecurityContext (runsAsNonRoot inst))
              topologySpreadConstraints := inst.spec.topologySpreadConstraints
              nodeSelector := (inst.spec.podScheduling.map (·.nodeSelector)).getD []
              tolerations := (inst.spec.podScheduling.map (·.tolerations)).getD []
              affinity := inst.spec.podScheduling.bind (·.affinity) } } }
  status := {}

end LitellmOperator
