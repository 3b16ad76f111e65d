import LitellmOperator.Resources.Config

/-! # The objects around the Deployment of an instance

The remaining builders of `internal/resources`: the Service and ServiceAccount every managed
instance has, and the objects it has only when a section of its spec asks for them. Each of the
latter is `none` when its section is missing or switched off.
-/

set_option autoImplicit false

namespace LitellmOperator

open Go Kube

section

variable (inst : LiteLLMInstance)

variable (labels : StrMap String)

/-- The metadata of an object named after the instance. -/
def objectMeta : ObjectMeta :=
  { name := inst.metadata.name, ns := inst.metadata.ns, labels := some labels }

def servicePort : Int := orDefaultInt inst.spec.service.port 4000

/-- `maps.Copy(base, more)`. -/
def copyInto (base more : StrMap String) : StrMap String :=
  more.foldl (fun m e => m.set e.1 e.2) base

/-! ## What every instance has -/

def buildService : Kube.Service where
  metadata := objectMeta inst labels
  spec :=
    { type := orDefault inst.spec.service.type "ClusterIP"
      selector := labels
      ports := [⟨"http", servicePort inst, 4000, "TCP", 0⟩] }
  status := ()

def buildServiceAccount : ServiceAccount where
  metadata :=
    { name := inst.metadata.name
      ns := inst.metadata.ns
      labels := some (copyInto labels ((inst.spec.serviceAccount.map (·.labels)).getD []))
      annotations := inst.spec.serviceAccount.bind (·.annotations) }
  spec := ()
  status := ()

/-! ## Network -/

def buildIngress : Option Ingress :=
  match inst.spec.ingress with
  | none => none
  | some ingress =>
    if !ingress.enabled then none
    else some
      { metadata := { objectMeta inst labels with annotations := ingress.annotations }
        spec :=
          { ingressClassName := ingress.ingressClassName
            host := ingress.host
            path := "/"
            pathType := "Prefix"
            serviceName := inst.metadata.name
            servicePort := servicePort inst
            tls := match ingress.tls with
              | none => []
              | some tls => if tls.enabled then [⟨[ingress.host], tls.secretName⟩] else [] }
        status := () }

def buildRoute : Option Unstructured :=
  match inst.spec.route with
  | none => none
  | some route =>
    if !route.enabled then none
    else some
      { metadata := objectMeta inst labels
        spec := .map ([("to", .map [("kind", .str "Service"), ("name", .str inst.metadata.name),
              ("weight", .int 100)]),
            ("port", .map [("targetPort", .int (servicePort inst))]),
            ("tls", .map [("termination", .str (orDefault route.tlsTermination "edge"))])] ++
          (if route.host = "" then [] else [("host", .str route.host)]))
        status := () }

/-- A text as a pointer, nil for the empty one. -/
def textPtr (s : String) : Option String := if s = "" then none else some s

def buildHTTPRoute : Option HTTPRoute :=
  match inst.spec.gatewayHTTPRoute with
  | none => none
  | some route =>
    if !route.enabled then none
    else some
      { metadata := { objectMeta inst labels with annotations := route.annotations }
        spec :=
          { parentRefs := route.parentRefs.map (fun ref =>
              ⟨ref.name, textPtr ref.ns, textPtr ref.sectionName⟩)
            hostnames := if route.host = "" then [] else [route.host]
            pathType := "PathPrefix"
            path := "/"
            serviceName := inst.metadata.name
            servicePort := servicePort inst }
        status := () }

def buildNetworkPolicy : Option NetworkPolicy :=
  match inst.spec.security.bind (·.networkPolicy) with
  | none => none
  | some policy =>
    if !policy.enabled then none
    else some
      { metadata := objectMeta inst labels
        spec :=
          { podSelector := labels
            policyTypes := ["Ingress"]
            port := 4000
            fromNamespaces := policy.allowedNamespaces.map (fun ns =>
              [("kubernetes.io/metadata.name", ns)]) }
        status := () }

/-! ## Scale and disruption -/

/-- `spec.autoscaling.minReplicas`, where zero stands for one. -/
def minReplicas (autoscaling : AutoscalingSpec) : Int := orDefaultInt autoscaling.minReplicas 1

def buildHPA : Option HorizontalPodAutoscaler :=
  match inst.spec.autoscaling with
  | none => none
  | some autoscaling =>
    if !autoscaling.enabled then none
    else some
      { metadata := objectMeta inst labels
        spec :=
          { scaleTargetRef := inst.metadata.name
            minReplicas := some (minReplicas autoscaling)
            maxReplicas := autoscaling.maxReplicas
            metrics := (autoscaling.targetCPUUtilization.map (ResourceMetric.mk "cpu")).toList ++
              (autoscaling.targetMemoryUtilization.map (ResourceMetric.mk "memory")).toList }
        status := () }

def buildPDB : Option PodDisruptionBudget :=
  match inst.spec.podDisruptionBudget with
  | none => none
  | some pdb =>
    if !pdb.enabled then none
    else some
      { metadata := objectMeta inst labels
        spec := match pdb.minAvailable, pdb.maxUnavailable with
          | some n, _ => { selector := labels, minAvailable := some n }
          | none, some n => { selector := labels, maxUnavailable := some n }
          | none, none => { selector := labels, minAvailable := some 1 }
        status := () }

/-! ## Monitoring -/

def resolveMasterKeyCredentials (override : Option SecretKeyRef) : SecretKeyRef :=
  let complete (ref : SecretKeyRef) : Bool := ref.name ≠ "" && ref.key ≠ ""
  match override.filter complete with
  | some ref => ref
  | none =>
    match inst.spec.masterKey.secretRef.filter complete with
    | some ref => ref
    | none => ⟨inst.metadata.name ++ "-master-key", "master-key"⟩

def buildServiceMonitorAuthorization (auth : Option ServiceMonitorAuthorization) : Option Value :=
  auth.map (fun auth =>
    let credentials := resolveMasterKeyCredentials inst auth.credentials
    .map [("type", .str (orDefault auth.type "Bearer")),
      ("credentials", .map [("name", .str credentials.name), ("key", .str credentials.key)])])

def buildServiceMonitor : Option Unstructured :=
  match inst.spec.observability.bind (·.serviceMonitor) with
  | none => none
  | some sm =>
    if !sm.enabled then none
    else
      let endpoint := putSettings
        [("port", .str "http"), ("interval", .str (orDefault sm.interval "30s")),
          ("path", .str (orDefault sm.path "/metrics"))]
        [("authorization", buildServiceMonitorAuthorization inst sm.authorization)]
      some
        { metadata := objectMeta inst (copyInto labels sm.labels)
          spec := .map [("selector", .map [("matchLabels", .strMap labels)]),
              ("namespaceSelector", .map [("matchNames", .list [.str inst.metadata.ns])]),
              ("endpoints", .list [.map endpoint])]
          status := () }

structure AlertDef where
  name : String
  expr : String
  forDuration : String
  severity : String
  summary : String
  description : String
  runbook : String

/-- A metric with its labels, as in a Prometheus query. -/
def selector (metric : String) (labels : List (String × String)) : String :=
  metric ++ "\x7b" ++ ",".intercalate (labels.map (fun l => l.1 ++ "=\"" ++ l.2 ++ "\"")) ++ "\x7d"

def runbookBase : String :=
  "https://github.com/PalenaAI/litellm-operator/blob/main/docs/RUNBOOKS.md"

def alerts (ns name : String) : List AlertDef :=
  let deployment := [("namespace", ns), ("deployment", name)]
  let container := [("namespace", ns), ("container", "litellm")]
  let proxy := [("namespace", ns), ("instance", name)]
  let title := "LiteLLM instance " ++ ns ++ "/" ++ name
  [ { name := "LiteLLMInstanceDown"
      expr := selector "kube_deployment_status_replicas_available" deployment ++ " == 0"
      forDuration := "5m"
      severity := "critical"
      summary := title ++ " has no available replicas"
      description := "All replicas are down. No requests can be served."
      runbook := runbookBase ++ "#litellminstancedown" },
    { name := "LiteLLMInstanceDegraded"
      expr := selector "kube_deployment_status_replicas_available" deployment ++ " < " ++
        selector "kube_deployment_spec_replicas" deployment
      forDuration := "10m"
      severity := "warning"
      summary := title ++ " has fewer replicas than desired"
      description := "Some replicas are not available. Capacity may be reduced."
      runbook := runbookBase ++ "#litellminstancedegraded" },
    { name := "LiteLLMPodRestarting"
      expr := "increase(" ++ selector "kube_pod_container_status_restarts_total" container ++
        "[1h]) > 3"
      forDuration := "15m"
      severity := "warning"
      summary := "LiteLLM pod in " ++ ns ++ " is restarting frequently"
      description := "A LiteLLM pod has restarted more than 3 times in the last hour."
      runbook := runbookBase ++ "#litellmpodrestarting" },
    { name := "LiteLLMPodNotReady"
      expr := selector "kube_pod_status_ready" [("namespace", ns), ("condition", "true")] ++
        " * on(pod) " ++ selector "kube_pod_labels" [("label_app_kubernetes_io_name", "litellm")] ++
        " == 0"
      forDuration := "10m"
      severity := "warning"
      summary := "LiteLLM pod in " ++ ns ++ " is not ready"
      description := "A LiteLLM pod has been not ready for more than 10 minutes."
      runbook := runbookBase ++ "#litellmpodnotready" },
    { name := "LiteLLMHighMemoryUsage"
      expr := selector "container_memory_working_set_bytes" container ++ " / " ++
        selector "container_spec_memory_limit_bytes" container ++ " > 0.9"
      forDuration := "15m"
      severity := "warning"
      summary := title ++ " is using over 90% of memory limit"
      description := "Memory usage is critically high. The pod may be OOM killed."
      runbook := runbookBase ++ "#litellmhighmemoryusage" },
    { name := "LiteLLMHighCPUUsage"
      expr := "rate(" ++ selector "container_cpu_usage_seconds_total" container ++ "[5m]) / " ++
        selector "container_spec_cpu_quota" container ++ " * 100000 > 0.9"
      forDuration := "15m"
      severity := "warning"
      summary := title ++ " is using over 90% of CPU limit"
      description := "CPU usage is critically high. Requests may be throttled."
      runbook := runbookBase ++ "#litellmhighcpuusage" },
    { name := "LiteLLMRedisDisconnected"
      expr := selector "litellm_redis_connection_status" proxy ++ " == 0"
      forDuration := "5m"
      severity := "warning"
      summary := title ++ " lost Redis connectivity"
      description := "Redis is configured for caching / rate limiting but the proxy reports " ++
        "it as disconnected."
      runbook := runbookBase ++ "#litellmredisdisconnected" },
    { name := "LiteLLMHighErrorRate"
      expr := "sum(rate(litellm_requests_total\x7bnamespace=\"" ++ ns ++ "\",instance=\"" ++ name ++
        "\",status=~\"5..\"\x7d[5m])) / sum(rate(" ++ selector "litellm_requests_total" proxy ++
        "[5m])) > 0.05"
      forDuration := "10m"
      severity := "critical"
      summary := title ++ " error rate exceeds 5%"
      description := "More than 5% of requests are returning 5xx errors over the last 5 minutes."
      runbook := runbookBase ++ "#litellmhigherrorrate" }]

def alertRule (ns name : String) (a : AlertDef) : Value := .map
    [("alert", .str a.name), ("expr", .str a.expr), ("for", .str a.forDuration),
      ("labels", .map [("severity", .str a.severity), ("namespace", .str ns),
        ("instance", .str name)]),
      ("annotations", .map [("summary", .str a.summary), ("description", .str a.description),
        ("runbook_url", .str a.runbook)])]

def buildPrometheusRule : Option Unstructured :=
  match inst.spec.observability.bind (·.prometheusRule) with
  | none => none
  | some pr =>
    if !pr.enabled then none
    else
      let ns := inst.metadata.ns
      let name := inst.metadata.name
      let rules := ((alerts ns name).filter (fun a => !pr.disabledAlerts.contains a.name)).map
        (alertRule ns name)
      some
        { metadata :=
            { objectMeta inst (copyInto labels pr.labels) with name := name ++ "-alerts" }
          spec := .map [("groups", .list [.map [("name", .str ("litellm-" ++ name ++ ".rules")),
              ("rules", .list rules)]])]
          status := () }

def buildGrafanaDashboardConfigMap (lib : InstanceExt) (inst : LiteLLMInstance)
    (labels : StrMap String) : Option ConfigMap :=
  match inst.spec.observability.bind (·.grafanaDashboard) with
  | none => none
  | some gd =>
    if !gd.enabled then none
    else some
      { metadata :=
          { name := inst.metadata.name ++ "-grafana-dashboard"
            ns := inst.metadata.ns
            labels := some ((copyInto labels gd.labels).set "grafana_dashboard" "1")
            annotations := some [("grafana_folder", orDefault gd.folder "LiteLLM")] }
        data := [("litellm-dashboard.json",
          lib.grafanaDashboardJSON inst.metadata.ns inst.metadata.name)] }

/-! ## Backups -/

def buildCNPGScheduledBackup : Option Unstructured :=
  match inst.spec.database.cloudNativePG with
  | none => none
  | some cnpg =>
    match cnpg.backup with
    | none => none
    | some backup =>
      if !backup.enabled then none
      else some
        { metadata := { objectMeta inst labels with name := inst.metadata.name ++ "-backup" }
          spec := .map [("schedule", .str (orDefault backup.schedule "0 0 * * *")),
              ("suspend", .bool backup.suspend), ("immediate", .bool true),
              ("method", .str (orDefault backup.method "snapshot")),
              ("cluster", .map [("name", .str cnpg.clusterName)]),
              ("backupOwnerReference", .str "self")]
          status := () }

end

/-! ## The migration Job of an instance

`internal/resources/migration_job.go`: a Job that brings the database to the schema of the image.
Its name contains a digest of the image, the command and the placement, so that another image runs
in another Job.
-/

def defaultDatabaseImageRepo : String := "ghcr.io/berriai/litellm-migrations"

def migrateDeployCommand : String :=
  "python3 -c \"import sys; from litellm_proxy_extras.utils import ProxyExtrasDBManager; " ++
  "sys.exit(0 if ProxyExtrasDBManager.setup_database(use_migrate=True, use_v2_resolver=True) " ++
  "else 1)\""

def migrationPodSecurityContext (useDBImage runAsNonRoot : Bool) : PodSecurityContext :=
  if useDBImage then
    { runAsNonRoot := some true, runAsUser := some 65532, fsGroup := some 65532 }
  else podSecurityContext runAsNonRoot

variable (lib : InstanceExt)

def podSchedulingSeed (scheduling : Option PodSchedulingSpec) : String :=
  match scheduling with
  | none => ""
  | some scheduling =>
    if scheduling.nodeSelector.isEmpty && scheduling.tolerations.isEmpty &&
        scheduling.affinity.isNone then ""
    else lib.marshalScheduling scheduling

variable (inst : LiteLLMInstance)

/-- Whether the Job runs the dedicated migrations image. -/
def usesDatabaseImage : Bool := inst.spec.database.migration.any (·.useDatabaseImage)

/-- The dedicated migrations image, by default of the proxy's tag. -/
def databaseImage : String :=
  let image := ((inst.spec.database.migration.bind (·.databaseImage)).getD {})
  orDefault image.repository defaultDatabaseImageRepo ++ ":" ++
    orDefault image.tag (orDefault inst.spec.image.tag "latest")

def migrationImage : String :=
  if usesDatabaseImage inst then databaseImage inst else gatewayImage inst

/-- The entry point of the migrations image does the work there. -/
def migrationCommand : List String :=
  if usesDatabaseImage inst then [] else ["sh", "-c", migrateDeployCommand]

def migrationPullPolicy : String :=
  if usesDatabaseImage inst then
    orDefault ((inst.spec.database.migration.bind (·.databaseImage)).getD {}).pullPolicy
      inst.spec.image.pullPolicy
  else inst.spec.image.pullPolicy

/-- What the digest in the Job's name is taken of. -/
def jobHashSeed (inst : LiteLLMInstance) : String :=
  let base :=
    if usesDatabaseImage inst then "db-image|" ++ databaseImage inst
    else "gateway|" ++ gatewayImage inst ++ "|" ++ migrateDeployCommand
  let seed := podSchedulingSeed lib inst.spec.podScheduling
  if seed = "" then base else base ++ "|scheduling=" ++ seed

def migrationJobName (inst : LiteLLMInstance) : String := inst.metadata.name ++ "-migrate-" ++
    String.ofList ((lib.sha256Hex (bytesOf (jobHashSeed lib inst))).toList.take 8)

def migrationContainer : Container where
  name := "migrate"
  image := migrationImage inst
  imagePullPolicy := migrationPullPolicy inst
  command := migrationCommand inst
  env := databaseEnvVars inst
  volumeMounts := dbTLSVolumeMounts inst
  allowPrivilegeEscalation := some false

def buildMigrationJob (inst : LiteLLMInstance) (labels : StrMap String) : Job where
  metadata := { name := migrationJobName lib inst, ns := inst.metadata.ns, labels := some labels }
  spec :=
    { backoffLimit := some 3
      ttlSecondsAfterFinished := some 600
      template :=
        { labels := labels
          spec :=
            { restartPolicy := "OnFailure"
              imagePullSecrets := inst.spec.image.pullSecrets.map (·.name)
              containers := [migrationContainer inst]
              volumes := dbTLSVolumes inst
              securityContext := some (migrationPodSecurityContext (usesDatabaseImage inst)
                (usesDatabaseImage inst || runsAsNonRoot inst))
              nodeSelector := (inst.spec.podScheduling.map (·.nodeSelector)).getD []
              tolerations := (inst.spec.podScheduling.map (·.tolerations)).getD []
              affinity := inst.spec.podScheduling.bind (·.affinity) } } }
  status := {}

end LitellmOperator
