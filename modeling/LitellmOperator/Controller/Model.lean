import LitellmOperator.Controller.Reconcile

/-! # The LiteLLMModel controller

`litellmmodel_controller.go`. Provider credentials are resolved and sent inline. When a model
switches between an inline key and a credential reference it is deleted and created again,
because an update cannot clear the fields the other mode left.
-/

set_option autoImplicit false

namespace LitellmOperator

open Effect Go Kube Ctl

/-- The model service, and the health check of the health service. -/
inductive ModelApi where
  | create (req : ModelCreateRequest)
  | update (req : ModelCreateRequest)
  | delete (modelID : String)
  | check
  deriving DecidableEq

instance : Service ModelApi where
  Result
    | .create _ => ModelCreateResponse
    | .check => HealthCheckResponse
    | _ => Unit

abbrev ModelCtl : Type → Type := Ctl LiteLLMModelSpec LiteLLMModelStatus ModelApi

abbrev ModelFailure : Type := Failure LiteLLMModelSpec LiteLLMModelStatus

namespace Model

def authModeInline : String := "inline"
def authModeCredential : String := "credential"
def healthStatusUnknown : String := "unknown"

/-! ## The request -/

structure ResolvedCredential where
  name : String
  apiBase : String
  apiVersion : String
  apiKey : String

variable (model : LiteLLMModel)

def resolveCredential (ref : CredentialRef) :
    ExceptT Error ModelCtl ResolvedCredential := do
  let cred ← orFail (read (.getCredential ⟨model.metadata.ns, ref.name⟩))
    (wrapf ("resolve credentialRef " ++ quote ref.name ++ ": "))
  failIf (cred.spec.credentialName = "")
    (errorf ("credential " ++ quote cred.metadata.name ++ " has empty credentialName"))
  let apiKey ← orFail (getSecretValue client cred.metadata.ns (some cred.spec.apiKeySecretRef)).run
    (wrapf ("resolve credential " ++ quote cred.metadata.name ++ " API key: "))
  pure ⟨cred.spec.credentialName, cred.spec.apiBase, cred.spec.apiVersion, apiKey⟩

/-- The parameters that do not depend on how the model authenticates. -/
def baseParams : ModelParams where
  model := model.spec.litellmParams.model
  rpm := model.spec.litellmParams.rpm
  tpm := model.spec.litellmParams.tpm
  timeout := model.spec.litellmParams.timeout
  streamTimeout := model.spec.litellmParams.streamTimeout
  maxRetries := model.spec.litellmParams.maxRetries
  tags := model.spec.tags
  weight := model.spec.litellmParams.weight
  order := model.spec.litellmParams.order
  maxInputTokens := model.spec.litellmParams.maxInputTokens
  temperature := model.spec.litellmParams.temperature
  topP := model.spec.litellmParams.topP
  maxTokens := model.spec.litellmParams.maxTokens
  seed := model.spec.litellmParams.seed
  organization := model.spec.litellmParams.organization
  awsRegionName := model.spec.litellmParams.awsRegionName
  extraHeaders := model.spec.litellmParams.extraHeaders
  dropParams := model.spec.litellmParams.dropParams
  vertexProject := model.spec.litellmParams.vertexProject
  vertexLocation := model.spec.litellmParams.vertexLocation

/-- The value of an optional Secret reference, empty without one. -/
def optionalSecretValue (ref : Option SecretKeyRef) (pre : String) :
    ExceptT ModelFailure ModelCtl String :=
  match ref with
  | none => pure ""
  | some ref => orFail (getSecretValue client model.metadata.ns (some ref)).run
      (fun e => ⟨model, {}, wrapf pre e⟩)

/-- The parameters with the provider's settings, and the auth mode. A credential reference takes
precedence over the inline settings. -/
def resolveParams : ExceptT ModelFailure ModelCtl (ModelParams × String) :=
  match model.spec.litellmParams.credentialRef with
  | some ref => do
    let cred ← orFail (resolveCredential model ref).run (fun e => ⟨model, after 30, e⟩)
    pure ({ baseParams model with
      litellmCredentialName := cred.name, apiBase := cred.apiBase
      apiVersion := cred.apiVersion, apiKey := cred.apiKey }, authModeCredential)
  | none => do
    let apiKey ← optionalSecretValue model model.spec.litellmParams.apiKeySecretRef
      "resolve API key: "
    let vertexCredentials ← optionalSecretValue model
      model.spec.litellmParams.vertexCredentialsSecretRef "resolve vertex credentials: "
    pure ({ baseParams model with
      apiBase := model.spec.litellmParams.apiBase
      apiVersion := model.spec.litellmParams.apiVersion
      apiKey := apiKey, vertexCredentials := vertexCredentials }, authModeInline)

def modelInfoReq (info : ModelInfo) : ModelInfoReq where
  maxTokens := info.maxTokens
  inputCostPerToken := info.inputCostPerToken
  outputCostPerToken := info.outputCostPerToken
  mode := info.mode
  baseModel := info.baseModel
  tier := info.tier
  regionName := info.regionName
  accessGroups := info.accessGroups
  supportedEnvironments := info.supportedEnvironments
  useInPassThrough := info.useInPassThrough
  inputCostPerPixel := info.inputCostPerPixel
  inputCostPerSecond := info.inputCostPerSecond
  cacheReadInputTokenCost := info.cacheReadInputTokenCost
  cacheCreationInputTokenCost := info.cacheCreationInputTokenCost
  disableBackgroundHealthCheck := info.healthCheck.bind (·.disableBackgroundHealthCheck)
  healthCheckTimeout := info.healthCheck.bind (·.timeoutSeconds)
  healthCheckMaxTokens := info.healthCheck.bind (·.maxTokens)
  healthCheckMaxTokensReasoning := info.healthCheck.bind (·.maxTokensReasoning)
  healthCheckMaxTokensNonReasoning := info.healthCheck.bind (·.maxTokensNonReasoning)
  healthCheckSupportsMaxTokens := info.healthCheck.bind (·.supportsMaxTokens)
  healthCheckReasoningEffort := (info.healthCheck.map (·.reasoningEffort)).getD ""
  healthCheckVoice := (info.healthCheck.map (·.voice)).getD ""
  healthCheckModel := (info.healthCheck.map (·.model)).getD ""

def createRequest (params : ModelParams) : ModelCreateRequest where
  modelName := model.spec.modelName
  litellmParams := params
  modelInfo := model.spec.modelInfo.map modelInfoReq

/-! ## Pushing -/

/-- Persists the model id, then the sync hash and the auth mode. -/
def recordSync (modelID hash authMode : String) :
    ExceptT ModelFailure ModelCtl LiteLLMModel := do
  let model := { model with status.litellmModelID := modelID, status.synced := true }
  let model ← orFail (statusUpdate model)
    (fun e => ⟨model, {}, wrapf "update status after sync: " e⟩)
  let model := annotate (annotate model annotationSyncHash hash) annotationAuthMode authMode
  orFail (update model) (fun e => ⟨model, {}, e⟩)

variable (conn : ResolvedInstance)

def createModel (model : LiteLLMModel) (req : ModelCreateRequest) (hash authMode : String) :
    ExceptT ModelFailure ModelCtl LiteLLMModel := do
  let resp ← orFail (api conn (ModelApi.create req))
    (fun e => ⟨model, after 30, wrapf "create model: " e⟩)
  recordSync model resp.modelID hash authMode

/-- Clears the id of a model that was deleted and could not be created again. -/
def clearModelID : ModelCtl LiteLLMModel := do
  let model := { model with status.litellmModelID := "" }
  match ← statusUpdate model with
  | .ok stored => pure stored
  | .error _ => pure model

/-- Deletes the model and creates it anew, after a flip of the auth mode. -/
def recreateModel (model : LiteLLMModel) (req : ModelCreateRequest) (hash authMode : String) :
    ExceptT ModelFailure ModelCtl LiteLLMModel := do
  let _ ← orFail (api conn (ModelApi.delete model.status.litellmModelID))
    (fun e => ⟨model, after 30, wrapf "delete model for auth-mode switch: " e⟩)
  match ← ExceptT.lift (api conn (ModelApi.create req)) with
  | .error e => do
    let model ← ExceptT.lift (clearModelID model)
    throw ⟨model, after 30, wrapf "recreate model for auth-mode switch: " e⟩
  | .ok resp => recordSync model resp.modelID hash authMode

def updateModel (model : LiteLLMModel) (req : ModelCreateRequest) (hash authMode : String) :
    ExceptT ModelFailure ModelCtl LiteLLMModel := do
  let req := { req with
    modelID := model.status.litellmModelID
    modelInfo := some { req.modelInfo.getD {} with id := model.status.litellmModelID } }
  let _ ← orFail (api conn (ModelApi.update req))
    (fun e => ⟨model, after 30, wrapf "update model: " e⟩)
  recordSync model model.status.litellmModelID hash authMode

def pushModel (model : LiteLLMModel) (req : ModelCreateRequest) (hash authMode : String) :
    ExceptT ModelFailure ModelCtl LiteLLMModel :=
  if model.status.litellmModelID = "" then createModel conn model req hash authMode
  else if annotationAt model annotationSyncHash = hash
      ∧ annotationAt model annotationAuthMode = authMode then pure model
  else if annotationAt model annotationAuthMode ≠ ""
      ∧ annotationAt model annotationAuthMode ≠ authMode then
    recreateModel conn model req hash authMode
  else updateModel conn model req hash authMode

/-! ## Health -/

/-- The health of a model according to a report: by id or by name, healthy first. -/
def healthOf (report : HealthCheckResponse) : String :=
  let isModel (ep : HealthEndpoint) : Bool :=
    ep.modelID = model.status.litellmModelID || ep.model = model.spec.modelName
  if report.healthyEndpoints.any isModel then "healthy"
  else if report.unhealthyEndpoints.any isModel then "unhealthy"
  else healthStatusUnknown

def updateModelHealth (model : LiteLLMModel) :
    ModelCtl LiteLLMModel := do
  match ← api conn ModelApi.check with
  | .error _ => pure { model with status.health := healthStatusUnknown }
  | .ok report => pure { model with status.health := healthOf model report }

/-- Its id is among the first endpoints, and not among the others. -/
def OnlyAmong (these others : List HealthEndpoint) : Prop :=
  (∃ ep ∈ these, ep.modelID = model.status.litellmModelID) ∧
    ∀ ep ∈ others, ep.modelID ≠ model.status.litellmModelID

/-- `updateModelHealth`, answered with the report, sets the health. -/
def SetsHealth (model : LiteLLMModel) (report : HealthCheckResponse) (health : String) : Prop :=
  ∃ m, Prog.Trace (updateModelHealth conn model) [⟨.api conn .check, .ok report⟩] m ∧
    m.status.health = health

theorem setsHealth_iff {conn : ResolvedInstance} {model : LiteLLMModel}
    {report : HealthCheckResponse} {health : String} :
    SetsHealth conn model report health ↔ healthOf model report = health := by
  constructor
  · rintro ⟨m, htrace, rfl⟩
    obtain ⟨r, t, heq, hret⟩ := Prog.trace_perform_bind_iff.mp htrace
    cases heq
    obtain ⟨-, rfl⟩ := Prog.trace_pure_iff.mp hret
    rfl
  · rintro rfl
    exact ⟨_, .call _ _ _ (.ret _), rfl⟩

/-- **When the model's own verdict wins.** A model that is reported as healthy under its id is
healthy. One that is reported as unhealthy is unhealthy exactly if no healthy endpoint has its
name. -/
theorem own_verdict_wins_iff (model : LiteLLMModel) (report : HealthCheckResponse) :
    ((OnlyAmong model report.unhealthyEndpoints report.healthyEndpoints →
        SetsHealth conn model report "unhealthy") ∧
      (OnlyAmong model report.healthyEndpoints report.unhealthyEndpoints →
        SetsHealth conn model report "healthy")) ↔
    (OnlyAmong model report.unhealthyEndpoints report.healthyEndpoints →
      ∀ ep ∈ report.healthyEndpoints, ep.model ≠ model.spec.modelName) := by
  simp only [setsHealth_iff, healthOf]
  constructor
  · rintro ⟨hbad, -⟩ honly ep hep hname
    have hhit : report.healthyEndpoints.any (fun ep => ep.modelID = model.status.litellmModelID ||
        ep.model = model.spec.modelName) = true :=
      List.any_eq_true.mpr ⟨ep, hep, by simp [hname]⟩
    have hbad' := hbad honly
    rw [if_pos hhit] at hbad'
    exact absurd hbad' (by decide)
  · intro hnames
    refine ⟨fun honly => ?_, fun honly => ?_⟩
    · have hmiss : ¬ report.healthyEndpoints.any (fun ep => ep.modelID = model.status.litellmModelID
          || ep.model = model.spec.modelName) = true := by
        intro hhit
        obtain ⟨ep, hep, heq⟩ := List.any_eq_true.mp hhit
        simp only [Bool.or_eq_true, decide_eq_true_eq] at heq
        exact heq.elim (honly.2 ep hep) (hnames honly ep hep)
      obtain ⟨ep, hep, hid⟩ := honly.1
      rw [if_neg hmiss, if_pos (List.any_eq_true.mpr ⟨ep, hep, by simp [hid]⟩)]
    · obtain ⟨ep, hep, hid⟩ := honly.1
      rw [if_pos (List.any_eq_true.mpr ⟨ep, hep, by simp [hid]⟩)]

/-- A model is reported as unhealthy, another one of the same name as healthy. -/
theorem namesake_hides_verdict :
    ¬ ∀ (conn : ResolvedInstance) (model : LiteLLMModel) (report : HealthCheckResponse),
      model.status.litellmModelID ≠ "" →
      OnlyAmong model report.unhealthyEndpoints report.healthyEndpoints →
      SetsHealth conn model report "unhealthy" := by
  intro hall
  have hset := hall ⟨"", "", "", ⟨{ name := "a", ns := "apps" }, {}, {}⟩⟩
    ⟨{ name := "m", ns := "apps" }, { instanceRef := { name := "a" }, modelName := "gpt"
                                      litellmParams := { model := "gpt" } },
      { litellmModelID := "1" }⟩
    { healthyEndpoints := [{ model := "gpt", modelID := "2" }]
      unhealthyEndpoints := [{ model := "gpt", modelID := "1" }] } (by decide)
    ⟨⟨_, List.mem_cons_self, rfl⟩, by decide⟩
  rw [setsHealth_iff] at hset
  exact absurd hset (by decide)

/-- The proxy is only asked when it serves cached results. -/
def reportHealth (model : LiteLLMModel) : ModelCtl LiteLLMModel :=
  if backgroundHealthChecksEnabled conn.inst then updateModelHealth conn model
  else pure { model with status.health := healthStatusUnknown }

/-! ## Reconcile -/

def reconcileModel (lib : Ext) (model : LiteLLMModel) (resolved : ResolvedInstance) :
    Body LiteLLMModelSpec LiteLLMModelStatus ModelApi := do
  let p ← resolveParams model
  let hash := lib.computeSpecHash (.model model.spec p.1)
  let model ← pushModel resolved model (createRequest model p.1) hash p.2
  let model ← ExceptT.lift (reportHealth resolved model)
  pure (model, after 300)

def target : Option String :=
  if model.status.litellmModelID ≠ "" then some model.status.litellmModelID else none

def controller (lib : Ext) : Controller LiteLLMModelSpec LiteLLMModelStatus ModelApi where
  kind := kindModel
  instanceRef := (·.instanceRef)
  conditions := (·.conditions)
  setConditions st cs := { st with conditions := cs }
  syncedMessage := "Model synced to LiteLLM"
  observes := false
  enterprise := true
  target := target
  delete := .delete
  body := reconcileModel lib

def reconcile (lib : Ext) (req : NamespacedName) : ModelCtl (Result × Option Error) :=
  (controller lib).reconcile lib req

end Model

end LitellmOperator
