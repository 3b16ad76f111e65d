import LitellmOperator.Kube.Object

/-! # Pods and workloads

The pod template of a workload: containers with their environment, and volumes. Settings that are
only passed through, and that nothing here looks into, are kept as the text that describes them.
-/

set_option autoImplicit false

namespace Kube

/-- `SecretKeySelector` and `ConfigMapKeySelector`: one key of an object in the same namespace. -/
structure KeySelector where
  name : String
  key : String
  deriving DecidableEq, Repr

structure EnvVarSource where
  secretKeyRef : Option KeySelector := none
  configMapKeyRef : Option KeySelector := none
  /-- `fieldRef` or `resourceFieldRef`. -/
  fieldRef : String := ""
  deriving DecidableEq, Repr

structure EnvVar where
  name : String
  value : String := ""
  valueFrom : Option EnvVarSource := none
  deriving DecidableEq, Repr

/-- Every key of an object as an environment variable. -/
structure EnvFromSource where
  configMapRef : Option String := none
  secretRef : Option String := none
  deriving DecidableEq, Repr

structure KeyToPath where
  key : String
  path : String := ""
  deriving DecidableEq, Repr

/-- An object mounted as files: the listed keys, or all of them if none is listed. -/
structure DataSource where
  name : String
  items : List KeyToPath := []
  deriving DecidableEq, Repr

structure VolumeProjection where
  secret : Option DataSource := none
  configMap : Option DataSource := none
  deriving DecidableEq, Repr

structure Volume where
  name : String
  secret : Option DataSource := none
  configMap : Option DataSource := none
  projected : Option (List VolumeProjection) := none
  emptyDir : Bool := false
  deriving DecidableEq, Repr

structure VolumeMount where
  name : String
  mountPath : String
  subPath : String := ""
  readOnly : Bool := false
  deriving DecidableEq, Repr

structure ContainerPort where
  name : String
  containerPort : Nat
  protocol : String
  deriving DecidableEq, Repr

structure HTTPGetAction where
  path : String
  port : Nat
  scheme : String
  deriving DecidableEq, Repr

structure Probe where
  httpGet : HTTPGetAction
  initialDelaySeconds : Int := 0
  periodSeconds : Int := 0
  timeoutSeconds : Int := 0
  failureThreshold : Int := 0
  deriving DecidableEq, Repr

structure ResourceRequirements where
  requests : StrMap String := []
  limits : StrMap String := []
  deriving DecidableEq, Repr

structure Container where
  name : String
  image : String := ""
  imagePullPolicy : String := ""
  command : List String := []
  ports : List ContainerPort := []
  env : List EnvVar := []
  envFrom : List EnvFromSource := []
  volumeMounts : List VolumeMount := []
  livenessProbe : Option Probe := none
  readinessProbe : Option Probe := none
  startupProbe : Option Probe := none
  resources : ResourceRequirements := {}
  /-- `securityContext.allowPrivilegeEscalation`. -/
  allowPrivilegeEscalation : Option Bool := none
  deriving DecidableEq, Repr

structure PodSecurityContext where
  runAsNonRoot : Option Bool := none
  runAsUser : Option Int := none
  fsGroup : Option Int := none
  deriving DecidableEq, Repr

structure PodSpec where
  restartPolicy : String := ""
  serviceAccountName : String := ""
  imagePullSecrets : List String := []
  containers : List Container := []
  initContainers : List Container := []
  volumes : List Volume := []
  securityContext : Option PodSecurityContext := none
  topologySpreadConstraints : List String := []
  nodeSelector : StrMap String := []
  tolerations : List String := []
  affinity : Option String := none
  deriving DecidableEq, Repr

structure PodTemplateSpec where
  labels : StrMap String := []
  annotations : Option (StrMap String) := none
  spec : PodSpec := {}
  deriving DecidableEq, Repr

/-! ## Workloads and the objects around them

Deployments and Jobs with the status their controllers report, and the objects a workload is
reached, scaled and guarded by. Objects whose types the program does not import (those of optional
APIs) are trees of values.

`deepEqual` is `equality.Semantic.DeepEqual`: maps are compared by what they contain, and nil and
empty are the same.
-/

/-! ## Trees of values -/

/-- An `interface{}` built from maps, slices and basic values. -/
inductive Value where
  | null
  | bool (b : Bool)
  | int (n : Int)
  /-- A double, by its bits. -/
  | float (bits : UInt64)
  | str (s : String)
  | list (xs : List Value)
  | map (fields : List (String × Value))

namespace Value

def strs (xs : List String) : Value := .list (xs.map .str)

def strMap (m : StrMap String) : Value := .map (m.map (fun e => (e.1, .str e.2)))

end Value

/-! ## Deployments -/

structure RollingUpdateDeployment where
  maxUnavailable : Option Int := none
  maxSurge : Option Int := none
  deriving DecidableEq, Repr

structure DeploymentStrategy where
  type : String
  rollingUpdate : Option RollingUpdateDeployment := none
  deriving DecidableEq, Repr

structure DeploymentSpec where
  replicas : Option Int := none
  selector : StrMap String := []
  strategy : DeploymentStrategy := { type := "" }
  template : PodTemplateSpec := {}
  deriving DecidableEq, Repr

structure DeploymentCondition where
  type : String
  status : ConditionStatus
  reason : String
  deriving DecidableEq, Repr

structure DeploymentStatus where
  observedGeneration : Nat := 0
  replicas : Int := 0
  /-- The replicas of the newest template. -/
  updatedReplicas : Int := 0
  readyReplicas : Int := 0
  availableReplicas : Int := 0
  conditions : List DeploymentCondition := []
  deriving DecidableEq, Repr

abbrev Deployment : Type := Resource DeploymentSpec DeploymentStatus

/-- A map in the order of its keys. -/
def StrMap.canonical {V : Type} (m : StrMap V) : StrMap V := m.insertionSort (fun a b => a.1 ≤ b.1)

theorem StrMap.canonical_congr {V : Type} {m m' : StrMap V} (h : m.Distinct) (h' : m'.Distinct)
    (hget : ∀ k, m.get? k = m'.get? k) : m.canonical = m'.canonical := by
  have hmem : ∀ e, e ∈ m ↔ e ∈ m' := by
    intro e
    rw [← get?_eq_some h, ← get?_eq_some h', hget]
  have hperm := (List.perm_ext_iff_of_nodup (.of_map _ h) (.of_map _ h')).mpr hmem
  have hsort := List.perm_insertionSort (fun a b : String × V => a.1 ≤ b.1) m
  refine List.Perm.eq_of_pairwise (fun a b ha hb hab hba => ?_)
    (List.pairwise_insertionSort _ m) (List.pairwise_insertionSort _ m')
    (hsort.trans (hperm.trans (List.perm_insertionSort _ m').symm))
  -- two entries under one key are the same
  have ha' := get?_of_mem h (hsort.mem_iff.mp ha)
  have hb' := get?_of_mem h' ((List.perm_insertionSort _ m').mem_iff.mp hb)
  have hkey := le_antisymm hab hba
  rw [hkey, hget, hb'] at ha'
  exact Prod.ext hkey (Option.some.inj ha').symm

def ResourceRequirements.canonical (r : ResourceRequirements) : ResourceRequirements :=
  ⟨StrMap.canonical r.requests, StrMap.canonical r.limits⟩

def Container.canonical (c : Container) : Container := { c with resources := c.resources.canonical }

def PodSpec.canonical (s : PodSpec) : PodSpec :=
  { s with
    containers := s.containers.map Container.canonical
    initContainers := s.initContainers.map Container.canonical
    nodeSelector := StrMap.canonical s.nodeSelector }

/-- A map that may be nil, with nil and the empty map alike. -/
def canonicalMap (m : Option (StrMap String)) : Option (StrMap String) :=
  some (StrMap.canonical (m.getD []))

def PodTemplateSpec.canonical (t : PodTemplateSpec) : PodTemplateSpec where
  labels := StrMap.canonical t.labels
  annotations := canonicalMap t.annotations
  spec := t.spec.canonical

def DeploymentSpec.canonical (s : DeploymentSpec) : DeploymentSpec :=
  { s with selector := StrMap.canonical s.selector, template := s.template.canonical }

def DeploymentSpec.deepEqual (a b : DeploymentSpec) : Bool := a.canonical = b.canonical

/-- `equality.Semantic.DeepEqual` of two annotation or label maps. -/
def mapsDeepEqual (a b : Option (StrMap String)) : Bool := canonicalMap a = canonicalMap b

/-! ## Jobs -/

structure JobSpec where
  backoffLimit : Option Int := none
  ttlSecondsAfterFinished : Option Int := none
  template : PodTemplateSpec := {}
  deriving DecidableEq, Repr

structure JobStatus where
  succeeded : Int := 0
  failed : Int := 0
  deriving DecidableEq, Repr

abbrev Job : Type := Resource JobSpec JobStatus

/-! ## Configuration and accounts -/

structure ConfigMap where
  metadata : ObjectMeta
  data : StrMap String := []
  binaryData : StrMap (List UInt8) := []
  deriving DecidableEq, Repr

abbrev ServiceAccount : Type := Resource Unit Unit

/-! ## Network -/

structure ServicePort where
  name : String
  port : Int
  targetPort : Int
  protocol : String
  nodePort : Int := 0
  deriving DecidableEq, Repr

structure ServiceSpec where
  type : String
  selector : StrMap String := []
  ports : List ServicePort := []
  /-- Fields the cluster allocates. -/
  clusterIP : String := ""
  deriving DecidableEq, Repr

def ServiceSpec.deepEqual (a b : ServiceSpec) : Bool :=
  { a with selector := StrMap.canonical a.selector } =
    { b with selector := StrMap.canonical b.selector }

abbrev Service : Type := Resource ServiceSpec Unit

structure IngressTLS where
  hosts : List String
  secretName : String := ""
  deriving DecidableEq, Repr

/-- An Ingress with one host and one path, which goes to a port of a Service. -/
structure IngressSpec where
  ingressClassName : Option String := none
  host : String
  path : String
  pathType : String
  serviceName : String
  servicePort : Int
  tls : List IngressTLS := []
  deriving DecidableEq, Repr

abbrev Ingress : Type := Resource IngressSpec Unit

structure ParentReference where
  name : String
  ns : Option String := none
  sectionName : Option String := none
  deriving DecidableEq, Repr

/-- An HTTPRoute with one rule, which goes to a port of a Service. -/
structure HTTPRouteSpec where
  parentRefs : List ParentReference
  hostnames : List String := []
  pathType : String
  path : String
  serviceName : String
  servicePort : Int
  deriving DecidableEq, Repr

abbrev HTTPRoute : Type := Resource HTTPRouteSpec Unit

/-- A NetworkPolicy that admits ingress to one port, from the namespaces with one of the given
labels or from everywhere. -/
structure NetworkPolicySpec where
  podSelector : StrMap String
  policyTypes : List String
  port : Int
  fromNamespaces : List (StrMap String) := []
  deriving DecidableEq, Repr

abbrev NetworkPolicy : Type := Resource NetworkPolicySpec Unit

/-! ## Scale and disruption -/

structure ResourceMetric where
  name : String
  averageUtilization : Int
  deriving DecidableEq, Repr

structure HorizontalPodAutoscalerSpec where
  /-- The scaled Deployment. -/
  scaleTargetRef : String
  minReplicas : Option Int
  maxReplicas : Int
  metrics : List ResourceMetric := []
  deriving DecidableEq, Repr

abbrev HorizontalPodAutoscaler : Type := Resource HorizontalPodAutoscalerSpec Unit

structure PodDisruptionBudgetSpec where
  selector : StrMap String
  minAvailable : Option Int := none
  maxUnavailable : Option Int := none
  deriving DecidableEq, Repr

abbrev PodDisruptionBudget : Type := Resource PodDisruptionBudgetSpec Unit

/-- An object of an API whose types are not imported; `spec` is its tree. -/
abbrev Unstructured : Type := Resource Value Unit

/-! ## Pods -/

structure ContainerState where
  /-- Reason and message of a waiting container. -/
  waiting : Option (String × String) := none
  /-- Exit code, reason and message of a terminated container. -/
  terminated : Option (Int × String × String) := none
  deriving DecidableEq, Repr

structure ContainerStatus where
  restartCount : Int := 0
  state : ContainerState := {}
  lastTerminationState : ContainerState := {}
  deriving DecidableEq, Repr

structure PodCondition where
  type : String
  status : ConditionStatus
  reason : String := ""
  message : String := ""
  deriving DecidableEq, Repr

structure PodStatus where
  phase : String
  reason : String := ""
  message : String := ""
  conditions : List PodCondition := []
  containerStatuses : List ContainerStatus := []
  deriving DecidableEq, Repr

abbrev Pod : Type := Resource Unit PodStatus

end Kube
