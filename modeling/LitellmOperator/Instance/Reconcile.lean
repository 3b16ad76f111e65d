import LitellmOperator.Instance.Children

/-! # The status of an instance

`litellminstance_controller.go`, the functions that find out how the instance is and report it:
the state of the Deployment and its pods, the Secrets the spec refers to, and the proxy's own health
endpoints. None of them can fail; what they cannot find out they leave out or report.
-/

set_option autoImplicit false

namespace LitellmOperator

open Effect Go Kube InstanceCtl

section

/-- The controller: its libraries, and whether it has a factory for clients of the proxy. -/
structure LiteLLMInstanceReconciler where
  lib : InstanceExt
  clientFactory : Bool := true

/-! ## Endpoint and sections -/

variable (inst : LiteLLMInstance)

def instanceEndpoint : String :=
  let service := (if serveTLS inst then "https" else "http") ++ "://" ++ inst.metadata.name ++
    "." ++ inst.metadata.ns ++ ".svc:" ++ toString (servicePort inst)
  match inst.spec.workload with
  | none => service
  | some w => if w.endpoint ≠ "" then w.endpoint else service

/-- The sections that are set and do nothing while the workload is not managed. -/
def ignoredConfigSections : List String :=
  let add (set : Bool) (path : String) : List String := if set then [path] else []
  add inst.spec.sso.isSome "spec.sso" ++
  add inst.spec.scim.isSome "spec.scim" ++
  add inst.spec.jwtAuth.isSome "spec.jwtAuth" ++
  add inst.spec.oauth2Auth.isSome "spec.oauth2Auth" ++
  add inst.spec.rbac.isSome "spec.rbac" ++
  add inst.spec.security.isSome "spec.security" ++
  add inst.spec.logging.isSome "spec.logging" ++
  add inst.spec.adminUI.isSome "spec.adminUI" ++
  add inst.spec.caching.isSome "spec.caching" ++
  add inst.spec.routerSettings.isSome "spec.routerSettings" ++
  add inst.spec.callbacks.isSome "spec.callbacks" ++
  add (!inst.spec.passThroughEndpoints.isEmpty) "spec.passThroughEndpoints" ++
  add inst.spec.secretManager.isSome "spec.secretManager" ++
  add (inst.status.license.any (·.active)) "license injection"

/-! ## Pods -/

def podHealthMaxReported : Nat := 3

def statusMessageMaxLen : Nat := 512

/-- `strings.TrimSpace`. -/
def trimSpace (s : String) : String :=
  let space (c : Char) : Bool := isSpace c || c = '\n'
  String.ofList ((s.toList.dropWhile space).reverse.dropWhile space).reverse

/-- The first `n` bytes of a text. Each byte left of a character that is cut in two is stored as a
replacement character. -/
def takeBytes : Nat → List Char → List Char
  | _, [] => []
  | n, c :: cs =>
    if c.utf8Size ≤ n then c :: takeBytes (n - c.utf8Size) cs
    else List.replicate n (Char.ofNat 0xfffd)

def truncateStatusMessage (msg : String) : String :=
  let msg := trimSpace msg
  if msg.utf8ByteSize ≤ statusMessageMaxLen then msg
  else String.ofList (takeBytes (statusMessageMaxLen - 3) msg.toList) ++ "..."

/-- Why a container is at fault, if it is: reason and message. -/
def containerFault (cs : ContainerStatus) : Option (String × String) :=
  let terminated : Option (String × String) :=
    match cs.state.terminated with
    | none => none
    | some (code, reason, message) =>
      if code = 0 then none
      else some (orDefault reason "ContainerTerminated",
        truncateStatusMessage ("exit code " ++ toString code ++ " " ++ message))
  match cs.state.waiting with
  | none => terminated
  | some (reason, message) =>
    if reason = "" ∨ reason = "ContainerCreating" ∨ reason = "PodInitializing" then terminated
    else
      match cs.lastTerminationState.terminated with
      | none => some (reason, truncateStatusMessage message)
      | some (code, lastReason, lastMessage) =>
        some (reason, truncateStatusMessage
          ("last exit code " ++ toString code ++ " (" ++ lastReason ++ ") " ++ lastMessage))

/-- The first container at fault; the restarts are those of the last container looked at. -/
def containersFault (out : UnhealthyPod) : List ContainerStatus → UnhealthyPod × Bool
  | [] => (out, false)
  | cs :: rest =>
    let out := { out with restartCount := cs.restartCount }
    match containerFault cs with
    | some (reason, message) => ({ out with reason := reason, message := message }, true)
    | none => containersFault out rest

def summarizePodHealth (pod : Pod) : Option UnhealthyPod :=
  let found := containersFault { name := pod.metadata.name, phase := pod.status.phase }
    pod.status.containerStatuses
  let out := found.1
  if found.2 then some out
  else if pod.status.phase = "Failed" then
    some { out with
      reason := orDefault pod.status.reason "PodFailed"
      message := truncateStatusMessage pod.status.message }
  else if pod.status.phase = "Pending" then
    match pod.status.conditions.find? (fun c => c.type = "PodScheduled" && c.status = .false) with
    | some c => some { out with reason := c.reason, message := truncateStatusMessage c.message }
    | none => some { out with reason := "Pending" }
  else none

def inspectPodHealth : InstanceCtl (List UnhealthyPod) := do
  match ← listPods inst.metadata.ns (labelsForInstance inst.metadata.name) with
  | .error _ => return []
  | .ok pods => return (pods.filterMap summarizePodHealth).take podHealthMaxReported

/-- Reports the faults of unhealthy pods. The event is meant for a cause that is another than before,
but `meta.FindStatusCondition` returns a reference into the list of conditions, and
`meta.SetStatusCondition` updates an entry that exists in place: what is compared is the condition as
it is after the update, if there was one before. -/
def reportUnhealthy (first : UnhealthyPod) (count : Nat) :
    InstanceCtl LiteLLMInstance := do
  let prev := findStatusCondition inst.status.conditions conditionPodsHealthy
  let msg := toString count ++ " unhealthy pod(s); " ++ first.name ++ ": " ++ first.reason
  let msg := if first.message ≠ "" then truncateStatusMessage (msg ++ " — " ++ first.message)
    else msg
  let inst := setCondition inst conditionPodsHealthy .false first.reason msg
  let prev := prev.bind (fun _ => findStatusCondition inst.status.conditions conditionPodsHealthy)
  if !prev.any (fun c => c.reason = first.reason) then
    emitEvent .warning eventReasonHealthDegraded
      ("Proxy pod " ++ first.name ++ ": " ++ first.reason ++ " " ++ first.message)
  return inst

def setPodsHealthyCondition : InstanceCtl LiteLLMInstance :=
  if inst.status.ready then
    pure (setCondition { inst with status.unhealthyPods := [] } conditionPodsHealthy .true
      "AllPodsHealthy" "Proxy pods are running")
  else do
    let unhealthy ← inspectPodHealth inst
    let inst := { inst with status.unhealthyPods := unhealthy }
    match unhealthy with
    | [] =>
      return setCondition inst conditionPodsHealthy .false "PodsNotReady"
        "Waiting for proxy pods to become ready"
    | first :: _ => reportUnhealthy inst first unhealthy.length

/-! ## Secrets the spec refers to -/

def reconcileSecretManagerStatus : InstanceCtl LiteLLMInstance :=
  match inst.spec.secretManager with
  | none => pure { inst with status.secretManager := none }
  | some sm =>
    match sm.credentialsSecretRef with
    | none => pure { inst with status.secretManager := some ⟨true, sm.provider⟩ }
    | some ref => do
      match ← getChild .secret ⟨inst.metadata.ns, ref.name⟩ with
      | .ok _ => return { inst with status.secretManager := some ⟨true, sm.provider⟩ }
      | .error _ =>
        emitEvent .warning eventReasonSecretNotFound
          ("Secret manager credentials Secret " ++ quote ref.name ++ " not found")
        return { inst with status.secretManager := some ⟨false, sm.provider⟩ }

def requireSecretKeys (name field : String) (keys : List String) :
    InstanceCtl Unit := do
  match ← getChild .secret ⟨inst.metadata.ns, name⟩ with
  | .error _ =>
    emitEvent .warning eventReasonSecretNotFound
      (field ++ ": Secret " ++ quote name ++ " not found")
  | .ok secret =>
    let secret : Secret := secret
    keys.forM (fun k =>
      if (secret.data.get? k).isSome then pure ()
      else emitEvent .warning eventReasonSecretKeyMissing
        (field ++ ": Secret " ++ quote name ++ " is missing key " ++ quote k))

/-- A check of an optional reference to a Secret. -/
def requireRef {A : Type} (ref : Option A) (check : A → InstanceCtl Unit) : InstanceCtl Unit :=
  match ref with
  | none => pure ()
  | some a => check a

def requireServerCert (ref : SecretRef) : InstanceCtl Unit := do
  requireSecretKeys inst ref.name "spec.tls.serverCertSecretRef" ["tls.crt", "tls.key"]
  let ca ← operatorProxyCACert client inst
  if ca = "" then
    emitEvent .warning eventReasonValidationFailed
      ("spec.tls.serverCertSecretRef: serving HTTPS but no CA is resolvable for " ++
        "operator->proxy calls; add ca.crt to the server cert Secret or set " ++
        "spec.tls.trustedCASecretRef (a publicly-trusted cert needs neither)")

def requireCA (field : String) (ref : CASecretRef) : InstanceCtl Unit :=
  requireSecretKeys inst ref.name field [orDefault ref.key caCrtKey]

def requireClientCert (field : String) (ref : SecretRef) : InstanceCtl Unit :=
  requireSecretKeys inst ref.name field ["tls.crt", "tls.key"]

def validateTLSSecrets : InstanceCtl Unit := do
  requireRef inst.spec.tls (fun tls => do
    requireRef tls.serverCertSecretRef (requireServerCert inst)
    requireRef tls.clientCertSecretRef (requireClientCert inst "spec.tls.clientCertSecretRef")
    requireRef tls.trustedCASecretRef (requireCA inst "spec.tls.trustedCASecretRef"))
  requireRef inst.spec.database.tls (fun tls => do
    requireRef tls.caSecretRef (requireCA inst "spec.database.tls.caSecretRef")
    requireRef tls.clientCertSecretRef
      (requireClientCert inst "spec.database.tls.clientCertSecretRef"))

/-! ## Enterprise features -/

def enterpriseFeatures : List String :=
  (if inst.spec.jwtAuth.any (·.enabled) then ["JWT auth"] else []) ++
  (if inst.spec.oauth2Auth.any (·.enabled) then ["OAuth2 auth"] else []) ++
  (if inst.spec.rbac.any (fun rbac =>
      rbac.enabled && (rbac.keyGeneration.isSome || !rbac.rolePermissions.isEmpty)) then
    ["RBAC (key_generation_settings, role_permissions)"] else [])

def checkEnterpriseFeaturesWarning : InstanceCtl LiteLLMInstance := do
  let features := enterpriseFeatures inst
  if !features.isEmpty && !inst.status.license.any (·.active) then
    let msg := ", ".intercalate features ++ " requires a LiteLLM Enterprise license"
    emitEvent .warning eventReasonEnterpriseRequired msg
    return setCondition inst conditionEnterpriseFeatures .true conditionEnterpriseFeatures msg
  else return removeCondition inst conditionEnterpriseFeatures

/-! ## Health of the proxy -/

/-- The connection to the proxy, if the master key can be read. -/
def proxyConn : InstanceCtl (Option ProxyConn) :=
  match masterKeyRef inst with
  | none => pure none
  | some ref => do
    match ← (getSecretValue client inst.metadata.ns (some ref)).run with
    | .error _ => return none
    | .ok masterKey =>
      let caCert ← operatorProxyCACert client inst
      return some ⟨inst.status.endpoint, masterKey, caCert⟩

variable (r : LiteLLMInstanceReconciler)

def proxyReachable (inst : LiteLLMInstance) : InstanceCtl Bool :=
  if !r.clientFactory then pure false
  else do
    match ← proxyConn inst with
    | none => return false
    | some conn =>
      match ← health conn .checkLiveness with
      | .error _ => return false
      | .ok _ => return true

def isRedisBackedCaching : Bool :=
  inst.spec.caching.any (fun c => c.enabled && ["", "redis", "redis-semantic"].contains c.type)

/-- The verdict of a cache ping. -/
def redisConnected (ping : Except Error CachePingResponse) : Bool :=
  match ping with
  | .error _ => false
  | .ok ping => ping.pingResponse || toLower ping.status = "healthy"

def reportRedis (ping : Except Error CachePingResponse) :
    InstanceCtl LiteLLMInstance := do
  let prevConnected := inst.status.redis.any (·.connected)
  let connected := redisConnected ping
  let inst := { inst with status.redis := some ⟨connected⟩ }
  if connected then
    if !prevConnected then
      emitEvent .normal eventReasonRedisConnected "Redis connection restored"
    return setCondition inst conditionRedisReady .true "RedisConnected"
      "Redis connection is healthy"
  else
    let msg := match ping with
      | .error e => "Redis cache ping failed: " ++ e.error
      | .ok _ => "Redis connection is not healthy"
    if prevConnected then
      emitEvent .warning eventReasonRedisDisconnected "Redis connection lost"
    return setCondition inst conditionRedisReady .false "RedisDisconnected" msg

def probeRedisHealth (conn : ProxyConn) (inst : LiteLLMInstance) : InstanceCtl LiteLLMInstance :=
  if !inst.spec.redis.any (·.enabled) then
    pure (removeCondition { inst with status.redis := none } conditionRedisReady)
  else if !isRedisBackedCaching inst then
    pure (setCondition { inst with status.redis := some ⟨true⟩ } conditionRedisReady .true
      "RedisConfigured" ("Redis is configured; enable Redis response caching to surface " ++
        "runtime connectivity checks"))
  else do
    let ping ← health conn .cachePing
    reportRedis inst ping

/-- A failed probe takes the readiness back; the event only marks the change. -/
def probeFailed (reason what : String) (e : Error) :
    InstanceCtl LiteLLMInstance := do
  let msg := "LiteLLM " ++ what ++ " probe failed: " ++ e.error
  if isStatusConditionTrue inst.status.conditions conditionReady then
    emitEvent .warning eventReasonHealthDegraded msg
  return setCondition inst conditionReady .false reason msg

def probeInstanceHealth : InstanceCtl LiteLLMInstance := do
  match ← proxyConn inst with
  | none => return inst
  | some conn =>
    match ← health conn .checkLiveness with
    | .error e => probeFailed inst "LivenessProbeFailed" "liveness" e
    | .ok _ =>
      match ← health conn .readiness with
      | .error e => probeFailed inst "ReadinessProbeFailed" "readiness" e
      | .ok readiness =>
        let readiness : ReadinessResponse := readiness
        let previouslyHealthy := isStatusConditionTrue inst.status.conditions conditionReady
        let inst :=
          if !workloadManaged inst && readiness.litellmVersion ≠ ""
          then { inst with status.version := readiness.litellmVersion } else inst
        if !previouslyHealthy then
          emitEvent .normal eventReasonHealthRestored "LiteLLM instance is healthy again"
        probeRedisHealth conn inst

/-! ## Putting it together -/

/-- The replicas of the Deployment, if it can be read. -/
def withReplicas (dep : Except Error Deployment) : LiteLLMInstance :=
  match dep with
  | .error _ => inst
  | .ok dep =>
    { inst with
      status.replicas := dep.status.replicas
      status.readyReplicas := dep.status.readyReplicas
      status.ready := dep.status.readyReplicas > 0 }

/-- Readiness of a managed workload: that of its Deployment. -/
def managedReadiness : InstanceCtl LiteLLMInstance := do
  let dep ← getChild .deployment inst.metadata.key
  setPodsHealthyCondition (withReplicas inst dep)

/-- Readiness of a workload that something else manages: that the proxy answers. -/
def unmanagedReadiness (inst : LiteLLMInstance) :
    InstanceCtl LiteLLMInstance := do
  let ready ← proxyReachable r inst
  let inst := { inst with
    status.ready := ready
    status.replicas := 0
    status.readyReplicas := 0
    status.unhealthyPods := [] }
  return removeCondition inst conditionPodsHealthy

def workloadReadiness (inst : LiteLLMInstance) : InstanceCtl LiteLLMInstance :=
  if workloadManaged inst then managedReadiness inst else unmanagedReadiness r inst

/-- The version and the notice about ignored sections. -/
def describeWorkload : LiteLLMInstance :=
  if workloadManaged inst then
    removeCondition { inst with status.version := orDefault inst.spec.image.tag "latest" }
      conditionWorkloadUnmanaged
  else
    match ignoredConfigSections inst with
    | [] => removeCondition inst conditionWorkloadUnmanaged
    | ignored => setCondition inst conditionWorkloadUnmanaged .true "ConfigSettingsIgnored"
        ("Ignored while workload.managed is false; the proxy owns its own configuration: " ++
          ", ".intercalate ignored)

def describeSSO : LiteLLMInstance :=
  match inst.spec.sso with
  | none => inst
  | some sso =>
    if sso.enabled then { inst with status.sso := some ⟨true, sso.provider⟩ } else inst

def setReadyCondition (reconcileErr : Option Error) : InstanceCtl LiteLLMInstance :=
  match reconcileErr with
  | some e => do
    emitEvent .warning eventReasonReconcileFailed ("Reconcile failed: " ++ e.error)
    return setCondition inst conditionReady .false "ReconcileError" e.error
  | none =>
    if inst.status.ready then
      if workloadManaged inst then
        pure (setCondition inst conditionReady .true "AllResourcesReady"
          "All managed resources are ready")
      else
        pure (setCondition inst conditionReady .true "ProxyReachable"
          ("Attached to externally-managed proxy at " ++ inst.status.endpoint))
    else
      if workloadManaged inst then
        pure (setCondition inst conditionReady .false "DeploymentNotReady"
          "Waiting for deployment to become ready")
      else
        pure (setCondition inst conditionReady .false "ProxyNotReachable"
          ("Externally-managed proxy at " ++ inst.status.endpoint ++ " did not answer"))

/-- The copy whose status `updateInstanceStatus` writes. -/
def describeInstance (inst : LiteLLMInstance) (reconcileErr : Option Error) :
    InstanceCtl LiteLLMInstance := do
  let inst := { inst with status.endpoint := instanceEndpoint inst }
  let inst ← workloadReadiness r inst
  let inst ← checkEnterpriseFeaturesWarning (describeSSO (describeWorkload inst))
  let inst ← reconcileSecretManagerStatus inst
  validateTLSSecrets inst
  let inst ← setReadyCondition inst reconcileErr
  if inst.status.ready && r.clientFactory then probeInstanceHealth inst else return inst

def updateInstanceStatus (inst : LiteLLMInstance) (reconcileErr : Option Error) :
    InstanceCtl Unit := do
  let inst ← describeInstance r inst reconcileErr
  let _ ← statusUpdate inst
  return ()

end

/-! ## Reconciling an instance

`litellminstance_controller.go`: `Reconcile` with the license, the guardrails, the database
migration and the automatic rollback. The workload is only touched if the instance manages it.
-/

/-! ## License and guardrails -/

def licenseSecretNames (inst : LiteLLMInstance) : List String :=
  [inst.metadata.name ++ "-license", "litellm-license"]

/-- The first of the named Secrets that has a license key, empty if there is none. A failed read
counts as an absent Secret. -/
def findLicense (inst : LiteLLMInstance) : List String → InstanceCtl String
  | [] => pure ""
  | name :: names => do
    match ← getChild .secret ⟨inst.metadata.ns, name⟩ with
    | .error _ => findLicense inst names
    | .ok secret =>
      if (StrMap.get? (Secret.data secret) "license-key").isSome then return name
      else findLicense inst names

def reconcileLicense (inst : LiteLLMInstance) : InstanceCtl (LiteLLMInstance × String) := do
  let name ← findLicense inst (licenseSecretNames inst)
  return ({ inst with status.license := some ⟨name ≠ "", name⟩ }, name)

/-- The guardrails of the instance that are not being deleted. -/
def boundGuardrails (inst : LiteLLMInstance) (list : List LiteLLMGuardrail) :
    List LiteLLMGuardrail :=
  list.filter (fun g => !g.metadata.deleting && g.spec.instanceRef.name = inst.metadata.name)

def listGuardrailsForInstance (inst : LiteLLMInstance) :
    InstanceCtl (Except Error (List LiteLLMGuardrail)) := do
  match ← listGuardrails inst.metadata.ns with
  | .error e => return .error e
  | .ok list => return .ok (boundGuardrails inst list)

/-! ## Migration -/

def migrationEnabled (inst : LiteLLMInstance) : Bool := inst.spec.database.migration.any (·.enabled)

/-- The `DatabaseReady` condition for the outcome of the migration Job. -/
def migrationCondition (inst : LiteLLMInstance) (out : Except Error Bool) : LiteLLMInstance :=
  match out with
  | .error e => setCondition inst conditionDatabaseReady .false "MigrationFailed" e.error
  | .ok true => setCondition inst conditionDatabaseReady .true "MigrationComplete"
      "Database migration completed successfully"
  | .ok false => setCondition inst conditionDatabaseReady .false "MigrationRunning"
      "Database migration is in progress"

def reconcileMigrationStatus (lib : InstanceExt) (inst : LiteLLMInstance)
    (labels : StrMap String) : InstanceCtl LiteLLMInstance :=
  if !workloadManaged inst then
    pure (setCondition inst conditionDatabaseReady .true "WorkloadUnmanaged"
      (if migrationEnabled inst then
        "spec.database.migration is ignored while workload.managed is false; " ++
          "schema is owned by the externally-managed proxy"
      else "Schema is owned by the externally-managed proxy"))
  else if !migrationEnabled inst then
    pure (setCondition inst conditionDatabaseReady .true "MigrationSkipped"
      "Database migration not enabled; LiteLLM handles migrations on startup")
  else do
    let out ← reconcileMigrationJob lib inst labels
    return migrationCondition inst out

/-! ## Automatic rollback -/

variable (dep : Deployment)

/-- The Deployment reports that its rollout made no progress in time. -/
def progressDeadlineExceeded : Bool := dep.status.conditions.any (fun c =>
    c.type = "Progressing" && c.status = .false && c.reason = "ProgressDeadlineExceeded")

/-- The Deployment with the annotation that starts another rollout. -/
def annotateRollback (time : String) : Deployment :=
  let annotations := assign dep.spec.template.annotations autoRollbackPodTemplateAnnotation time
  { dep with spec.template.annotations := annotations }

def currentRevision : String :=
  lookup dep.metadata.annotations revisionAnnotation

/-- All replicas are available, and there is one. -/
def deploymentHealthy : Bool :=
  dep.status.availableReplicas = dep.status.replicas && dep.status.replicas > 0

/-- A rollback is due: there is a good revision, it is another one, and the rollout is stuck. -/
def rollbackDue (inst : LiteLLMInstance) (dep : Deployment) : Bool :=
  !deploymentHealthy dep && inst.status.lastSuccessfulRevision ≠ "" &&
    inst.status.lastSuccessfulRevision ≠ currentRevision dep && progressDeadlineExceeded dep

/-- What is done about a Deployment that was read. -/
def rollbackDeployment (inst : LiteLLMInstance) (dep : Deployment) :
    InstanceCtl LiteLLMInstance :=
  if deploymentHealthy dep then
    pure { inst with status.lastSuccessfulRevision := currentRevision dep }
  else if rollbackDue inst dep then do
    let time ← now
    match ← updateChild .deployment (annotateRollback dep time) with
    | .error _ => return inst
    | .ok _ =>
      return setCondition inst conditionReady .false "AutoRollback"
        ("Auto-rollback triggered from revision " ++ currentRevision dep ++
          " (last successful: " ++ inst.status.lastSuccessfulRevision ++ ")")
  else pure inst

def reconcileAutoRollback (inst : LiteLLMInstance) : InstanceCtl LiteLLMInstance :=
  if !inst.spec.upgrade.any (·.autoRollback) then pure inst
  else do
    match ← getChild .deployment inst.metadata.key with
    | .error _ => return inst
    | .ok dep => rollbackDeployment inst dep

/-! ## Reconcile -/

def handleInstanceDeletion (inst : LiteLLMInstance) : InstanceCtl (Result × Option Error) := do
  if containsFinalizer inst.metadata finalizerName then
    let out ← update { inst with metadata := removeFinalizer inst.metadata finalizerName }
    return ({}, errOf out)
  else return ({}, none)

/-- The objects of the workload, and the rollback. A workload that is not managed is left alone. -/
def reconcileWorkload (lib : InstanceExt) (inst : LiteLLMInstance) (labels : StrMap String)
    (licenseSecretName : String) (guardrails : List LiteLLMGuardrail) :
    InstanceCtl (LiteLLMInstance × Option Error) :=
  if !workloadManaged inst then pure (inst, none)
  else do
    let out ← reconcileResources lib inst labels licenseSecretName guardrails
    let inst ← reconcileAutoRollback out.1
    return (inst, out.2)

/-- `Reconcile` once the finalizer is in place. A guardrail list that cannot be read counts as
empty. -/
def reconcileInstance (r : LiteLLMInstanceReconciler) (inst : LiteLLMInstance) :
    InstanceCtl (Result × Option Error) := do
  let labels := labelsForInstance inst.metadata.name
  let license ← reconcileLicense inst
  let listed ← listGuardrailsForInstance license.1
  let guardrails := match listed with
    | .ok guardrails => guardrails
    | .error _ => []
  let inst ← reconcileMigrationStatus r.lib license.1 labels
  let out ← reconcileWorkload r.lib inst labels license.2 guardrails
  updateInstanceStatus r out.1 out.2
  return (after (if out.2.isSome then 30 else 60), none)

def LiteLLMInstanceReconciler.reconcile (r : LiteLLMInstanceReconciler) (req : NamespacedName) :
    InstanceCtl (Result × Option Error) := do
  match ← InstanceCtl.get req with
  | .error e => return ({}, if isNotFound e then none else some e)
  | .ok inst =>
    if inst.metadata.deleting then handleInstanceDeletion inst
    else if !containsFinalizer inst.metadata finalizerName then
      let out ← update { inst with metadata := addFinalizer inst.metadata finalizerName }
      return ({}, errOf out)
    else reconcileInstance r inst

end LitellmOperator
