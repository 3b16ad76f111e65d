import LitellmOperator.Resources.Objects
import LitellmOperator.Rollout.Digest

/-! # The calls of the instance controller

The instance controller reads and writes the LiteLLMInstance and the objects it keeps for it, its
children, lists guardrails and pods, and asks the proxy for its health. `ChildKind` lists the kinds
of children; the calls on them are the same for every kind. Events are calls too, since which ones
are emitted, and when, is part of what the controller does.
-/

set_option autoImplicit false

namespace LitellmOperator

open Effect Go Kube

/-- The kinds of objects the controller reads or writes for an instance. -/
inductive ChildKind where
  | secret
  | configMap
  | serviceAccount
  | deployment
  | service
  | ingress
  | route
  | httpRoute
  | hpa
  | pdb
  | networkPolicy
  | serviceMonitor
  | prometheusRule
  | scheduledBackup
  | job
  deriving DecidableEq

namespace ChildKind

def Obj : ChildKind → Type
  | secret => Secret
  | configMap => ConfigMap
  | serviceAccount => ServiceAccount
  | deployment => Deployment
  | service => Kube.Service
  | ingress => Ingress
  | route => Unstructured
  | httpRoute => HTTPRoute
  | hpa => HorizontalPodAutoscaler
  | pdb => PodDisruptionBudget
  | networkPolicy => NetworkPolicy
  | serviceMonitor => Unstructured
  | prometheusRule => Unstructured
  | scheduledBackup => Unstructured
  | job => Job

def metadata : (k : ChildKind) → k.Obj → ObjectMeta
  | secret, x => Secret.metadata x
  | configMap, x => ConfigMap.metadata x
  | serviceAccount, x => Resource.metadata x
  | deployment, x => Resource.metadata x
  | service, x => Resource.metadata x
  | ingress, x => Resource.metadata x
  | route, x => Resource.metadata x
  | httpRoute, x => Resource.metadata x
  | hpa, x => Resource.metadata x
  | pdb, x => Resource.metadata x
  | networkPolicy, x => Resource.metadata x
  | serviceMonitor, x => Resource.metadata x
  | prometheusRule, x => Resource.metadata x
  | scheduledBackup, x => Resource.metadata x
  | job, x => Resource.metadata x

/-- The object with other metadata. -/
def withMetadata : (k : ChildKind) → k.Obj → ObjectMeta → k.Obj
  | secret, x, m => { (x : Secret) with metadata := m }
  | configMap, x, m => { (x : ConfigMap) with metadata := m }
  | serviceAccount, x, m => { (x : ServiceAccount) with metadata := m }
  | deployment, x, m => { (x : Deployment) with metadata := m }
  | service, x, m => { (x : Kube.Service) with metadata := m }
  | ingress, x, m => { (x : Ingress) with metadata := m }
  | route, x, m => { (x : Unstructured) with metadata := m }
  | httpRoute, x, m => { (x : HTTPRoute) with metadata := m }
  | hpa, x, m => { (x : HorizontalPodAutoscaler) with metadata := m }
  | pdb, x, m => { (x : PodDisruptionBudget) with metadata := m }
  | networkPolicy, x, m => { (x : NetworkPolicy) with metadata := m }
  | serviceMonitor, x, m => { (x : Unstructured) with metadata := m }
  | prometheusRule, x, m => { (x : Unstructured) with metadata := m }
  | scheduledBackup, x, m => { (x : Unstructured) with metadata := m }
  | job, x, m => { (x : Job) with metadata := m }

variable (k : ChildKind)

@[simp] theorem metadata_withMetadata (x : k.Obj) (m : ObjectMeta) :
    k.metadata (k.withMetadata x m) = m := by
  cases k <;> rfl

def key (x : k.Obj) : NamespacedName := (k.metadata x).key

def rv (x : k.Obj) : Nat := (k.metadata x).resourceVersion

end ChildKind

/-- Where and how the proxy is called. -/
structure ProxyConn where
  endpoint : String
  masterKey : String
  caCert : String
  deriving DecidableEq

structure ReadinessResponse where
  litellmVersion : String := ""
  deriving DecidableEq

structure CachePingResponse where
  status : String := ""
  pingResponse : Bool := false
  deriving DecidableEq

/-- The health requests to a proxy. -/
inductive HealthApi where
  | checkLiveness
  | readiness
  | cachePing
  deriving DecidableEq

def HealthApi.Result : HealthApi → Type
  | checkLiveness => Unit
  | readiness => ReadinessResponse
  | cachePing => CachePingResponse

inductive EventType where
  | normal
  | warning
  deriving DecidableEq

inductive InstanceOp where
  | get (key : NamespacedName)
  | update (inst : LiteLLMInstance)
  | statusUpdate (inst : LiteLLMInstance)
  | getChild (k : ChildKind) (key : NamespacedName)
  | createChild (k : ChildKind) (x : k.Obj)
  | updateChild (k : ChildKind) (x : k.Obj)
  | listGuardrails (ns : String)
  | listPods (ns : String) (labels : StrMap String)
  /-- `rand.Read` into a buffer of `n` bytes; an error leaves it as it is. -/
  | random (n : Nat)
  /-- `time.Now().Format(time.RFC3339)`. -/
  | now
  | health (conn : ProxyConn) (req : HealthApi)
  | event (type : EventType) (reason message : String)

def InstanceOp.Resp : InstanceOp → Type
  | get _ => Except Error LiteLLMInstance
  | update _ => Except Error LiteLLMInstance
  | statusUpdate _ => Except Error LiteLLMInstance
  | getChild k _ => Except Error k.Obj
  | createChild _ _ => Except Error Unit
  | updateChild _ _ => Except Error Unit
  | listGuardrails _ => Except Error (List LiteLLMGuardrail)
  | listPods _ _ => Except Error (List Pod)
  | random _ => List UInt8
  | now => String
  | health _ req => Except Error req.Result
  | event _ _ _ => Unit

abbrev InstanceCtl (α : Type) : Type := Prog InstanceOp InstanceOp.Resp α

namespace InstanceCtl

def get (key : NamespacedName) : InstanceCtl (Except Error LiteLLMInstance) :=
  Prog.perform (InstanceOp.get key)

def update (inst : LiteLLMInstance) : InstanceCtl (Except Error LiteLLMInstance) :=
  Prog.perform (InstanceOp.update inst)

def statusUpdate (inst : LiteLLMInstance) : InstanceCtl (Except Error LiteLLMInstance) :=
  Prog.perform (InstanceOp.statusUpdate inst)

variable (k : ChildKind)

def getChild (key : NamespacedName) : InstanceCtl (Except Error k.Obj) :=
  Prog.perform (InstanceOp.getChild k key)

def createChild (x : k.Obj) : InstanceCtl (Except Error Unit) :=
  Prog.perform (InstanceOp.createChild k x)

def updateChild (x : k.Obj) : InstanceCtl (Except Error Unit) :=
  Prog.perform (InstanceOp.updateChild k x)

def listGuardrails (ns : String) : InstanceCtl (Except Error (List LiteLLMGuardrail)) :=
  Prog.perform (InstanceOp.listGuardrails ns)

def listPods (ns : String) (labels : StrMap String) : InstanceCtl (Except Error (List Pod)) :=
  Prog.perform (InstanceOp.listPods ns labels)

def random (n : Nat) : InstanceCtl (List UInt8) := Prog.perform (InstanceOp.random n)

def now : InstanceCtl String := Prog.perform InstanceOp.now

def health (conn : ProxyConn) (req : HealthApi) : InstanceCtl (Except Error req.Result) :=
  Prog.perform (InstanceOp.health conn req)

def emitEvent (type : EventType) (reason message : String) : InstanceCtl Unit :=
  Prog.perform (InstanceOp.event type reason message)

/-- The controller's client for the shared functions, which read Secrets only here. -/
def client : Reader InstanceCtl where
  getInstance key := get key
  getNamespace name := pure (.error (errorf ("namespace " ++ quote name ++ " is not read")))
  getSecret key := getChild .secret key

end InstanceCtl

/-! ## The children of an instance

`litellminstance_controller.go`, the functions that bring the objects of a managed instance to its
spec. Optional objects share `reconcileOptional`: they are created or replaced when their section
is switched on, and not looked at otherwise. An error of one object does not keep the others from
being reconciled; the last error is reported.
-/

open InstanceCtl

/-! ## Constants and small helpers -/

def kindInstance : String := "LiteLLMInstance"
def labelApp : String := "app.kubernetes.io/name"
def labelManagedBy : String := "app.kubernetes.io/managed-by"
def annotationSecretHash : String := "litellm.palena.ai/secret-hash"
def annotationConfigHash : String := "litellm.palena.ai/config-hash"
def autoRollbackPodTemplateAnnotation : String := "litellm.palena.ai/auto-rollback"
def revisionAnnotation : String := "deployment.kubernetes.io/revision"
def conditionDatabaseReady : String := "DatabaseReady"
def conditionRedisReady : String := "RedisReady"
def conditionPodsHealthy : String := "PodsHealthy"
def conditionWorkloadUnmanaged : String := "WorkloadUnmanaged"
def conditionEnterpriseFeatures : String := "EnterpriseFeaturesConfigured"
def eventReasonReconcileFailed : String := "ReconcileFailed"
def eventReasonSecretNotFound : String := "SecretNotFound"
def eventReasonSecretKeyMissing : String := "SecretKeyMissing"
def eventReasonValidationFailed : String := "ValidationFailed"
def eventReasonExtraSettingsIgnored : String := "ExtraSettingsIgnored"
def eventReasonEnterpriseRequired : String := "EnterpriseLicenseRequired"
def eventReasonHealthDegraded : String := "HealthDegraded"
def eventReasonHealthRestored : String := "HealthRestored"
def eventReasonRedisDisconnected : String := "RedisDisconnected"
def eventReasonRedisConnected : String := "RedisConnected"

def labelsForInstance (instanceName : String) : StrMap String :=
  [(labelApp, "litellm"), (labelManagedBy, "litellm-operator"), (labelInstanceName, instanceName)]

variable (inst : LiteLLMInstance)

def workloadManaged : Bool :=
  match inst.spec.workload with
  | none => true
  | some w => w.managed.getD true

/-- Sets a condition on the copy, with its generation. -/
def setCondition (type : String) (status : ConditionStatus) (reason message : String) :
    LiteLLMInstance :=
  let condition : Condition :=
    { type := type, status := status, reason := reason, message := message
      observedGeneration := inst.metadata.generation }
  { inst with status.conditions := setStatusCondition inst.status.conditions condition }

def removeCondition (type : String) : LiteLLMInstance :=
  { inst with status.conditions := removeStatusCondition inst.status.conditions type }

/-- An object that has just been built, with the instance as its controller. That cannot fail, since
nothing else controls it. -/
def owned (k : ChildKind) (x : k.Obj) : k.Obj :=
  k.withMetadata x ((setControllerReference kindInstance inst.metadata (k.metadata x)).getD
    (k.metadata x))

/-- The error of a call that returns nothing else. -/
def errOf {α : Type} (r : Except Error α) : Option Error :=
  match r with
  | .ok _ => none
  | .error e => some e

/-! ## Creating or replacing -/

def createOrUpdate (k : ChildKind) (desired : k.Obj) : InstanceCtl (Option Error) := do
  match ← getChild k (k.key desired) with
  | .error e =>
    if isNotFound e then return errOf (← createChild k desired) else return some e
  | .ok existing =>
    return errOf (← updateChild k (k.withMetadata desired
      { k.metadata desired with resourceVersion := k.rv existing }))

/-- An object that is only there if its section of the spec is switched on. -/
def reconcileOptional (k : ChildKind) (desired : Option k.Obj) : InstanceCtl (Option Error) :=
  match desired with
  | none => pure none
  | some desired => createOrUpdate k (owned inst k desired)

/-! ## Secrets -/

def generateRandomToken (length : Nat) : InstanceCtl String := do
  let b ← random length
  return String.ofList (b.flatMap (fun c => [hexDigit (c.toNat / 16), hexDigit c.toNat]))

def ensureGeneratedSecret (name key : String) :
    InstanceCtl (Option Error) := do
  match ← getChild .secret ⟨inst.metadata.ns, name⟩ with
  | .ok _ => return none
  | .error e =>
    if !isNotFound e then return some e
    else
      let token ← generateRandomToken 32
      let secret : Secret :=
        { metadata :=
            { name := name, ns := inst.metadata.ns
              labels := some (labelsForInstance inst.metadata.name) }
          data := []
          stringData := [(key, "sk-" ++ token)] }
      return errOf (← createChild .secret (owned inst .secret secret))

def reconcileSaltKey : InstanceCtl (Option Error) :=
  if inst.spec.saltKey.any (·.autoGenerate) then do
    let err ← ensureGeneratedSecret inst (inst.metadata.name ++ "-salt-key") "salt-key"
    return err.map (wrapf "auto-generate salt key: ")
  else pure none

def reconcileSecrets : InstanceCtl (Option Error) := do
  if inst.spec.masterKey.autoGenerate then
    match ← ensureGeneratedSecret inst (inst.metadata.name ++ "-master-key") "master-key" with
    | some e => return some (wrapf "auto-generate master key: " e)
    | none => reconcileSaltKey inst
  else reconcileSaltKey inst

/-! ## ConfigMap and ServiceAccount -/

variable (lib : InstanceExt)

def reconcileConfigMap (inst : LiteLLMInstance) (labels : StrMap String)
    (guardrails : List LiteLLMGuardrail) : InstanceCtl (Option Error) :=
  match buildConfigMap lib inst labels guardrails with
  | .error e => pure (some (errorf e))
  | .ok desired => do
    let ignored := extraSettingsConflicts lib.toExt inst guardrails
    if !ignored.isEmpty then
      emitEvent .warning eventReasonExtraSettingsIgnored ("Ignored " ++ toString ignored.length ++
          " extra setting(s) the operator derives from the spec: " ++ ", ".intercalate ignored)
    createOrUpdate .configMap (owned inst .configMap desired)

def reconcileServiceAccount (labels : StrMap String) :
    InstanceCtl (Option Error) := do
  let desired : ServiceAccount := owned inst .serviceAccount (buildServiceAccount inst labels)
  match ← getChild .serviceAccount desired.metadata.key with
  | .error e =>
    if isNotFound e then return errOf (← createChild .serviceAccount desired) else return some e
  | .ok existing =>
    let existing : ServiceAccount := existing
    let mergedLabels := mergeStringMaps existing.metadata.labels desired.metadata.labels
    let mergedAnnotations :=
      mergeStringMaps existing.metadata.annotations desired.metadata.annotations
    if StrMap.equal (existing.metadata.labels.getD []) (mergedLabels.getD []) &&
        StrMap.equal (existing.metadata.annotations.getD []) (mergedAnnotations.getD []) then
      return none
    else
      return errOf (← updateChild .serviceAccount
        { existing with
          metadata := { existing.metadata with
            labels := mergedLabels
            annotations := mergedAnnotations } })

/-! ## Migration Job -/

def reconcileMigrationJob (inst : LiteLLMInstance) (labels : StrMap String) :
    InstanceCtl (Except Error Bool) := do
  let desired : Job := owned inst .job (buildMigrationJob lib inst labels)
  match ← getChild .job desired.metadata.key with
  | .error e =>
    if isNotFound e then
      match ← createChild .job desired with
      | .error e => return .error e
      | .ok _ => return .ok false
    else return .error e
  | .ok existing =>
    let existing : Job := existing
    if existing.status.succeeded > 0 then return .ok true
    else if existing.status.failed > 0 &&
        existing.spec.backoffLimit.any (fun limit => existing.status.failed ≥ limit) then
      return .error (errorf ("migration job " ++ desired.metadata.name ++ " failed after " ++
        toString existing.status.failed ++ " attempts"))
    else return .ok false

/-! ## Deployment -/

def secretObjects : DataKind Secret where
  word := "Secret"
  refs := secretRefs
  wanted ref secret :=
    match (if ref.whole then none else ref.keys) with
    | some keys => keys.sortedKeys
    | none => secret.data.sortedKeys
  value secret k := (secret.data.get? k).map bytesOf

def configMapObjects : DataKind ConfigMap where
  word := "ConfigMap"
  refs := configMapRefs
  wanted ref cm :=
    if ref.whole then StrMap.sorted (cm.data.sortedKeys ++ cm.binaryData.sortedKeys)
    else (ref.keys.getD []).sortedKeys
  value cm k :=
    match cm.data.get? k with
    | some v => some (bytesOf v)
    | none => cm.binaryData.get? k

/-- The fields a digest is taken of, with the objects read one after the other. -/
def readHashFields {Obj : Type} (K : DataKind Obj)
    (read : NamespacedName → InstanceCtl (Except Error Obj)) (ns : String)
    (refs : StrMap DataRef) : List String → ExceptT Error InstanceCtl (List Bytes)
  | [] => pure []
  | name :: names => do
    let x ← ExceptT.lift (read ⟨ns, name⟩)
    let body ← match x with
      | .ok x => pure (bodyFields K ((refs.get? name).getD {}) (some x))
      | .error e =>
        if isNotFound e then pure (bodyFields K ((refs.get? name).getD {}) none)
        else throw (wrapf ("hashing " ++ K.word ++ " " ++ ns ++ "/" ++ name ++
          " for pod template: ") e)
    let rest ← readHashFields K read ns refs names
    return bytesOf name :: body ++ rest

/-- The digest of the objects of one kind that a pod consumes, empty if it consumes none. -/
def readTemplateHash {Obj : Type} (K : DataKind Obj) (sum : Bytes → String)
    (read : NamespacedName → InstanceCtl (Except Error Obj)) (ns : String) (spec : PodSpec) :
    ExceptT Error InstanceCtl String :=
  let refs := podSpecRefs K.refs spec
  if refs.isEmpty then pure ""
  else do
    let fs ← readHashFields K read ns refs refs.sortedKeys
    return sum (fields fs)

/-- The template with a digest in an annotation, unless there is nothing to digest. -/
def stampDigest (key hash : String) (t : PodTemplateSpec) : PodTemplateSpec :=
  if hash = "" then t else { t with annotations := assign t.annotations key hash }

def operatorManagedPodTemplateAnnotations : List String :=
  [ autoRollbackPodTemplateAnnotation, annotationSecretHash, annotationConfigHash]

def preserveExternalPodTemplateAnnotations (existing desired : Option (StrMap String)) :
    Option (StrMap String) :=
  (existing.getD []).foldl (fun desired e =>
    if operatorManagedPodTemplateAnnotations.contains e.1 then desired
    else if ((desired.getD []).get? e.1).isSome then desired
    else assign desired e.1 e.2) desired

/-- The Deployment the spec asks for, with the digests of what its pods consume. -/
def desiredDeployment (inst : LiteLLMInstance) (labels : StrMap String) (licenseSecretName : String)
    (guardrails : List LiteLLMGuardrail) :
    ExceptT Error InstanceCtl Deployment := do
  let desired : Deployment :=
    owned inst .deployment (buildDeployment inst labels licenseSecretName guardrails)
  let ns := desired.metadata.ns
  let spec := desired.spec.template.spec
  let secretHash ← readTemplateHash secretObjects lib.sha256Hex (getChild .secret) ns spec
  let configHash ← readTemplateHash configMapObjects lib.sha256Hex (getChild .configMap) ns spec
  return { desired with
    spec.template := stampDigest annotationConfigHash configHash
      (stampDigest annotationSecretHash secretHash desired.spec.template) }

/-- The existing Deployment with the fields the controller owns brought to those of the desired
one. -/
def updatedDeployment (existing desired : Deployment) : Deployment :=
  { existing with
    metadata := { existing.metadata with
      annotations := mergeStringMaps existing.metadata.annotations desired.metadata.annotations }
    spec := { existing.spec with
      replicas := desired.spec.replicas
      strategy := desired.spec.strategy
      template := { desired.spec.template with
        annotations := preserveExternalPodTemplateAnnotations
          existing.spec.template.annotations desired.spec.template.annotations } } }

/-- Creates the Deployment, or updates it unless it already is as desired. -/
def applyDeployment (desired : Deployment) : InstanceCtl (Option Error) := do
  match ← getChild .deployment desired.metadata.key with
  | .error e =>
    if isNotFound e then return errOf (← createChild .deployment desired) else return some e
  | .ok existing =>
    let existing : Deployment := existing
    let updated := updatedDeployment existing desired
    if DeploymentSpec.deepEqual existing.spec updated.spec &&
        mapsDeepEqual existing.metadata.annotations updated.metadata.annotations then
      return none
    else return errOf (← updateChild .deployment updated)

def reconcileDeployment (inst : LiteLLMInstance) (labels : StrMap String)
    (licenseSecretName : String) (guardrails : List LiteLLMGuardrail) :
    InstanceCtl (Option Error) := do
  match ← (desiredDeployment lib inst labels licenseSecretName guardrails).run with
  | .error e => return some e
  | .ok desired => applyDeployment desired

/-! ## Service -/

/-- A port of the desired Service with the node port that was allocated for it. -/
def keepNodePort (existing : List ServicePort) (p : ServicePort) : ServicePort :=
  match existing.find? (fun q => q.name = p.name && q.port = p.port && q.protocol = p.protocol) with
  | some q => { p with nodePort := q.nodePort }
  | none => p

def updatedService (existing desired : Kube.Service) : Kube.Service :=
  { existing with
    metadata := { existing.metadata with
      labels := some (copyInto (existing.metadata.labels.getD [])
        (desired.metadata.labels.getD [])) }
    spec := { existing.spec with
      type := desired.spec.type
      selector := desired.spec.selector
      ports := desired.spec.ports.map (keepNodePort existing.spec.ports) } }

def reconcileService (labels : StrMap String) :
    InstanceCtl (Option Error) := do
  let desired : Kube.Service := owned inst .service (buildService inst labels)
  match ← getChild .service desired.metadata.key with
  | .error e =>
    if isNotFound e then return errOf (← createChild .service desired) else return some e
  | .ok existing =>
    let existing : Kube.Service := existing
    let updated := updatedService existing desired
    if mapsDeepEqual existing.metadata.labels updated.metadata.labels &&
        ServiceSpec.deepEqual existing.spec updated.spec then return none
    else return errOf (← updateChild .service updated)

/-! ## Optional objects -/

section

variable (lib : InstanceExt) (inst : LiteLLMInstance) (labels : StrMap String)

def reconcileIngress : InstanceCtl (Option Error) :=
  reconcileOptional inst .ingress (buildIngress inst labels)

def reconcileRoute : InstanceCtl (Option Error) :=
  reconcileOptional inst .route (buildRoute inst labels)

def reconcileHTTPRoute : InstanceCtl (Option Error) :=
  reconcileOptional inst .httpRoute (buildHTTPRoute inst labels)

def reconcileHPA : InstanceCtl (Option Error) := reconcileOptional inst .hpa (buildHPA inst labels)

def reconcilePDB : InstanceCtl (Option Error) := reconcileOptional inst .pdb (buildPDB inst labels)

def reconcileNetworkPolicy : InstanceCtl (Option Error) :=
  reconcileOptional inst .networkPolicy (buildNetworkPolicy inst labels)

def reconcileServiceMonitor : InstanceCtl (Option Error) :=
  reconcileOptional inst .serviceMonitor (buildServiceMonitor inst labels)

def reconcilePrometheusRule : InstanceCtl (Option Error) :=
  reconcileOptional inst .prometheusRule (buildPrometheusRule inst labels)

def reconcileGrafanaDashboard : InstanceCtl (Option Error) :=
  reconcileOptional inst .configMap (buildGrafanaDashboardConfigMap lib inst labels)

def reconcileCNPGBackup : InstanceCtl (Option Error) :=
  reconcileOptional inst .scheduledBackup (buildCNPGScheduledBackup inst labels)

/-- Runs a step if a section of the spec is switched on. -/
def ifEnabled (enabled : Bool) (step : InstanceCtl (Option Error)) : InstanceCtl (Option Error) :=
  if enabled then step else pure none

/-- The last error of a sequence of steps that all run. -/
def lastError : List (InstanceCtl (Option Error)) → InstanceCtl (Option Error)
  | [] => pure none
  | step :: steps => do
    let err ← step
    let later ← lastError steps
    return later.or err

def reconcileNetworkingResources : InstanceCtl (Option Error) := lastError
    [ifEnabled (inst.spec.ingress.any (·.enabled)) (reconcileIngress inst labels),
      ifEnabled (inst.spec.route.any (·.enabled)) (reconcileRoute inst labels),
      ifEnabled (inst.spec.gatewayHTTPRoute.any (·.enabled)) (reconcileHTTPRoute inst labels)]

def reconcileScalingResources : InstanceCtl (Option Error) := lastError
    [ifEnabled (inst.spec.autoscaling.any (·.enabled)) (reconcileHPA inst labels),
      ifEnabled (inst.spec.podDisruptionBudget.any (·.enabled)) (reconcilePDB inst labels),
      ifEnabled ((inst.spec.security.bind (·.networkPolicy)).any (·.enabled))
        (reconcileNetworkPolicy inst labels)]

def reconcileSCIMToken (scim : SCIMSpec) : InstanceCtl (LiteLLMInstance × Option Error) :=
  match scim.tokenSecretRef with
  | some ref => pure ({ inst with status.scim := some ⟨true, ref.name⟩ }, none)
  | none => do
    let secretName := generatedSCIMTokenSecret scim
    match ← ensureGeneratedSecret inst secretName "token" with
    | some e => return (inst, some e)
    | none => return ({ inst with status.scim := some ⟨true, secretName⟩ }, none)

def reconcileSecurityResources : InstanceCtl (LiteLLMInstance × Option Error) :=
  match inst.spec.scim with
  | none => pure (inst, none)
  | some scim => if scim.enabled then reconcileSCIMToken inst scim else pure (inst, none)

/-- A failure of the optional monitoring and backup APIs is only logged. -/
def reconcileObservabilityResources : InstanceCtl (LiteLLMInstance × Option Error) := do
  let _ ← ifEnabled ((inst.spec.observability.bind (·.serviceMonitor)).any (·.enabled))
    (reconcileServiceMonitor inst labels)
  let _ ← ifEnabled ((inst.spec.observability.bind (·.prometheusRule)).any (·.enabled))
    (reconcilePrometheusRule inst labels)
  let err ← ifEnabled ((inst.spec.observability.bind (·.grafanaDashboard)).any (·.enabled))
    (reconcileGrafanaDashboard lib inst labels)
  if (inst.spec.database.cloudNativePG.bind (·.backup)).any (·.enabled) then
    match ← reconcileCNPGBackup inst labels with
    | some _ => return (inst, err)
    | none => return ({ inst with status.backup := some ⟨true⟩ }, err)
  else return (inst, err)

def reconcileOptionalResources : InstanceCtl (LiteLLMInstance × Option Error) := do
  let networking ← reconcileNetworkingResources inst labels
  let scaling ← reconcileScalingResources inst labels
  let security ← reconcileSecurityResources inst
  let observability ← reconcileObservabilityResources lib security.1 labels
  return (observability.1, ((observability.2.or security.2).or scaling).or networking)

/-- The objects every managed instance has. -/
def reconcileCoreResources (licenseSecretName : String) (guardrails : List LiteLLMGuardrail) :
    InstanceCtl (Option Error) :=
  lastError [reconcileSecrets inst, reconcileConfigMap lib inst labels guardrails,
      reconcileServiceAccount inst labels,
      reconcileDeployment lib inst labels licenseSecretName guardrails,
      reconcileService inst labels]

def reconcileResources (licenseSecretName : String) (guardrails : List LiteLLMGuardrail) :
    InstanceCtl (LiteLLMInstance × Option Error) := do
  let core ← reconcileCoreResources lib inst labels licenseSecretName guardrails
  let optional ← reconcileOptionalResources lib inst labels
  return (optional.1, optional.2.or core)

end

end LitellmOperator
