import LitellmOperator.Go.Basic
import LitellmOperator.Kube.Object

/-! # The custom resources

The types of `api/v1alpha1` that the per-resource controllers read and write, with every field
those controllers use. Status fields that no controller reads or sets (latencies, resolved
teams) and all clock times of the status are left out.
-/

set_option autoImplicit false

namespace LitellmOperator

open Go Kube

/-! ## Shared types -/

/-- `apiextensionsv1.JSON`: the raw text of a value. -/
structure RawJSON where
  raw : String
  deriving DecidableEq

structure ObjectPermission where
  mcpServers : List String := []
  accessGroups : List String := []
  vectorStores : List String := []
  agents : List String := []
  deriving DecidableEq

structure SecretKeyRef where
  name : String
  key : String
  deriving DecidableEq

structure SecretRef where
  name : String
  deriving DecidableEq

structure InstanceRef where
  name : String
  ns : String := ""
  deriving DecidableEq

/-- The namespace the reference points at, by default the referencing resource's own. -/
def InstanceRef.namespaceOr (r : InstanceRef) (defaultNamespace : String) : String :=
  if r.ns ≠ "" then r.ns else defaultNamespace

structure TeamRef where
  name : String
  deriving DecidableEq

structure UserRef where
  name : String
  deriving DecidableEq

structure OrganizationRef where
  name : String
  deriving DecidableEq

structure CredentialRef where
  name : String
  deriving DecidableEq

/-! ## LiteLLMTeam -/

structure TeamCallback where
  name : String
  type : String := ""
  credentialsSecretRef : SecretRef
  config : StrMap String := []
  deriving DecidableEq

structure TeamLoggingSpec where
  disabled : Bool := false
  callbacks : List TeamCallback := []
  deriving DecidableEq

structure TeamMember where
  email : String
  role : String := ""
  deriving DecidableEq

structure LiteLLMTeamSpec where
  instanceRef : InstanceRef
  organizationRef : Option OrganizationRef := none
  teamID : String := ""
  teamAlias : String
  models : List String := []
  maxBudgetMonthly : Option Float64 := none
  budgetDuration : String := ""
  tpmLimit : Option Int := none
  rpmLimit : Option Int := none
  softBudget : Option Float64 := none
  modelRPMLimit : StrMap Int := []
  modelTPMLimit : StrMap Int := []
  teamMemberRPMLimit : Option Int := none
  teamMemberTPMLimit : Option Int := none
  teamMemberBudget : Option Float64 := none
  metadata : StrMap String := []
  blocked : Option Bool := none
  objectPermission : Option ObjectPermission := none
  tags : List String := []
  maxParallelRequests : Option Int := none
  memberManagement : String := ""
  members : List TeamMember := []
  guardrails : List String := []
  logging : Option TeamLoggingSpec := none
  deriving DecidableEq

structure TeamMemberStatus where
  email : String
  role : String
  source : String := ""
  synced : Bool := false
  deriving DecidableEq

structure LiteLLMTeamStatus where
  synced : Bool := false
  litellmTeamID : String := ""
  currentSpend : Option Float64 := none
  totalMemberCount : Int := 0
  crdMembers : List TeamMemberStatus := []
  ssoMembers : List TeamMemberStatus := []
  loggingSynced : Bool := false
  loggingDisabled : Bool := false
  conditions : List Condition := []
  deriving DecidableEq

abbrev LiteLLMTeam : Type := Resource LiteLLMTeamSpec LiteLLMTeamStatus

/-! ## LiteLLMUser -/

structure UserTeamMembership where
  teamRef : Option TeamRef := none
  teamID : String := ""
  role : String := ""
  maxBudgetInTeam : Option Float64 := none
  deriving DecidableEq

structure LiteLLMUserSpec where
  instanceRef : InstanceRef
  userID : String
  userEmail : String := ""
  userRole : String := ""
  maxBudget : Option Float64 := none
  budgetDuration : String := ""
  models : List String := []
  teams : List UserTeamMembership := []
  tpmLimit : Option Int := none
  rpmLimit : Option Int := none
  softBudget : Option Float64 := none
  modelRPMLimit : StrMap Int := []
  modelTPMLimit : StrMap Int := []
  metadata : StrMap String := []
  blocked : Option Bool := none
  objectPermission : Option ObjectPermission := none
  initialPasswordSecretRef : Option SecretKeyRef := none
  autoCreateKey : Option Bool := none
  deriving DecidableEq

structure LiteLLMUserStatus where
  synced : Bool := false
  litellmUserID : String := ""
  currentSpend : Option Float64 := none
  initialPasswordDigest : String := ""
  conditions : List Condition := []
  deriving DecidableEq

abbrev LiteLLMUser : Type := Resource LiteLLMUserSpec LiteLLMUserStatus

/-! ## LiteLLMVirtualKey -/

structure KeySecretTemplateSpec where
  annotations : StrMap String := []
  labels : StrMap String := []
  deriving DecidableEq

structure LiteLLMVirtualKeySpec where
  instanceRef : InstanceRef
  keyAlias : String
  teamRef : Option TeamRef := none
  userRef : Option UserRef := none
  models : List String := []
  maxBudget : Option String := none
  budgetDuration : String := ""
  expiresAt : Option Time := none
  tpmLimit : Option Int := none
  rpmLimit : Option Int := none
  softBudget : Option Float64 := none
  modelRPMLimit : StrMap Int := []
  modelTPMLimit : StrMap Int := []
  metadata : StrMap String := []
  blocked : Option Bool := none
  objectPermission : Option ObjectPermission := none
  modelMaxBudget : StrMap String := []
  maxParallelRequests : Option Int := none
  keySecretName : String := ""
  keySecretTemplate : Option KeySecretTemplateSpec := none
  guardrails : List String := []
  deriving DecidableEq

structure LiteLLMVirtualKeyStatus where
  synced : Bool := false
  keySecretRef : Option SecretKeyRef := none
  litellmKeyToken : String := ""
  currentSpend : Option String := none
  isActive : Bool := false
  conditions : List Condition := []
  deriving DecidableEq

abbrev LiteLLMVirtualKey : Type := Resource LiteLLMVirtualKeySpec LiteLLMVirtualKeyStatus

/-! ## LiteLLMOrganization -/

structure OrganizationMember where
  email : String
  role : String := ""
  deriving DecidableEq

structure LiteLLMOrganizationSpec where
  instanceRef : InstanceRef
  organizationAlias : String
  models : List String := []
  maxBudget : Option Float64 := none
  budgetDuration : String := ""
  tpmLimit : Option Int := none
  rpmLimit : Option Int := none
  softBudget : Option Float64 := none
  modelRPMLimit : StrMap Int := []
  modelTPMLimit : StrMap Int := []
  members : List OrganizationMember := []
  objectPermission : Option ObjectPermission := none
  metadata : StrMap String := []
  deriving DecidableEq

structure LiteLLMOrganizationStatus where
  synced : Bool := false
  litellmOrganizationID : String := ""
  currentSpend : Option Float64 := none
  memberCount : Int := 0
  conditions : List Condition := []
  deriving DecidableEq

abbrev LiteLLMOrganization : Type := Resource LiteLLMOrganizationSpec LiteLLMOrganizationStatus

/-! ## LiteLLMCustomer -/

structure LiteLLMCustomerSpec where
  instanceRef : InstanceRef
  customerID : String
  aliasName : String := ""
  maxBudget : Option Float64 := none
  budgetDuration : String := ""
  budgetID : String := ""
  tpmLimit : Option Int := none
  rpmLimit : Option Int := none
  allowedModelRegion : String := ""
  defaultModel : String := ""
  models : List String := []
  blocked : Option Bool := none
  objectPermission : Option ObjectPermission := none
  metadata : StrMap String := []
  deriving DecidableEq

structure LiteLLMCustomerStatus where
  synced : Bool := false
  currentSpend : Option Float64 := none
  blocked : Bool := false
  conditions : List Condition := []
  deriving DecidableEq

abbrev LiteLLMCustomer : Type := Resource LiteLLMCustomerSpec LiteLLMCustomerStatus

/-! ## LiteLLMCredential -/

structure LiteLLMCredentialSpec where
  instanceRef : InstanceRef
  credentialName : String
  apiKeySecretRef : SecretKeyRef
  apiBase : String := ""
  apiVersion : String := ""
  params : StrMap RawJSON := []
  deriving DecidableEq

structure LiteLLMCredentialStatus where
  configured : Bool := false
  referencedByModels : Int := 0
  conditions : List Condition := []
  deriving DecidableEq

abbrev LiteLLMCredential : Type := Resource LiteLLMCredentialSpec LiteLLMCredentialStatus

/-! ## LiteLLMBudget -/

structure LiteLLMBudgetSpec where
  instanceRef : InstanceRef
  budgetID : String := ""
  maxBudget : Option Float64 := none
  softBudget : Option Float64 := none
  budgetDuration : String := ""
  tpmLimit : Option Int := none
  rpmLimit : Option Int := none
  maxParallelRequests : Option Int := none
  modelMaxBudget : StrMap Float64 := []
  deriving DecidableEq

structure LiteLLMBudgetStatus where
  synced : Bool := false
  litellmBudgetID : String := ""
  currentSpend : Option Float64 := none
  conditions : List Condition := []
  deriving DecidableEq

abbrev LiteLLMBudget : Type := Resource LiteLLMBudgetSpec LiteLLMBudgetStatus

/-! ## LiteLLMModel -/

structure LiteLLMModelParams where
  model : String
  apiBase : String := ""
  apiVersion : String := ""
  apiKeySecretRef : Option SecretKeyRef := none
  credentialRef : Option CredentialRef := none
  rpm : Option Int := none
  tpm : Option Int := none
  timeout : Option Int := none
  streamTimeout : Option Int := none
  maxRetries : Option Int := none
  weight : Option Int := none
  order : Option Int := none
  maxInputTokens : Option Int := none
  temperature : Option Float64 := none
  topP : Option Float64 := none
  maxTokens : Option Int := none
  seed : Option Int := none
  organization : String := ""
  awsRegionName : String := ""
  extraHeaders : StrMap String := []
  dropParams : Option Bool := none
  vertexProject : String := ""
  vertexLocation : String := ""
  vertexCredentialsSecretRef : Option SecretKeyRef := none
  deriving DecidableEq

structure ModelHealthCheck where
  disableBackgroundHealthCheck : Option Bool := none
  timeoutSeconds : Option Int := none
  maxTokens : Option Int := none
  maxTokensReasoning : Option Int := none
  maxTokensNonReasoning : Option Int := none
  supportsMaxTokens : Option Bool := none
  reasoningEffort : String := ""
  voice : String := ""
  model : String := ""
  deriving DecidableEq

structure ModelInfo where
  maxTokens : Option Int := none
  inputCostPerToken : Option Float64 := none
  outputCostPerToken : Option Float64 := none
  mode : String := ""
  baseModel : String := ""
  tier : String := ""
  regionName : String := ""
  accessGroups : List String := []
  supportedEnvironments : List String := []
  useInPassThrough : Option Bool := none
  inputCostPerPixel : Option Float64 := none
  inputCostPerSecond : Option Float64 := none
  cacheReadInputTokenCost : Option Float64 := none
  cacheCreationInputTokenCost : Option Float64 := none
  healthCheck : Option ModelHealthCheck := none
  deriving DecidableEq

structure LiteLLMModelSpec where
  instanceRef : InstanceRef
  modelName : String
  litellmParams : LiteLLMModelParams
  modelInfo : Option ModelInfo := none
  tags : List String := []
  deriving DecidableEq

structure LiteLLMModelStatus where
  synced : Bool := false
  litellmModelID : String := ""
  health : String := ""
  conditions : List Condition := []
  deriving DecidableEq

abbrev LiteLLMModel : Type := Resource LiteLLMModelSpec LiteLLMModelStatus

/-! ## The LiteLLM admin API

Requests and responses of `internal/litellm`, and the errors its client returns. Each service
method is one HTTP call, so a method is a request with the type of its result.
-/

/-- A decoded JSON value (`interface{}` after `json.Unmarshal`). -/
inductive Json where
  | null
  | bool (b : Bool)
  | num (f : Float64)
  | str (s : String)
  | arr (xs : List Json)
  | obj (fields : List (String × Json))

/-- The API shape of an object permission. It has the fields of the custom resource's type under
other JSON names. -/
structure ApiObjectPermission where
  mcpServers : List String := []
  accessGroups : List String := []
  vectorStores : List String := []
  agents : List String := []
  deriving DecidableEq

/-! ## Teams -/

structure TeamCreateRequest where
  teamID : String := ""
  teamAlias : String
  organizationID : String := ""
  models : List String := []
  maxBudget : Option Float64 := none
  budgetDuration : String := ""
  tpmLimit : Option Int := none
  rpmLimit : Option Int := none
  teamMemberRPMLimit : Option Int := none
  teamMemberTPMLimit : Option Int := none
  teamMemberBudget : Option Float64 := none
  maxParallelRequests : Option Int := none
  softBudget : Option Float64 := none
  modelRPMLimit : StrMap Int := []
  modelTPMLimit : StrMap Int := []
  objectPermission : Option ApiObjectPermission := none
  metadata : StrMap String := []
  tags : List String := []
  guardrails : List String := []
  blocked : Option Bool := none
  deriving DecidableEq

structure TeamCreateResponse where
  teamID : String
  teamAlias : String
  deriving DecidableEq

structure TeamUpdateRequest where
  teamID : String
  teamAlias : String := ""
  organizationID : String := ""
  models : List String := []
  maxBudget : Option Float64 := none
  budgetDuration : String := ""
  tpmLimit : Option Int := none
  rpmLimit : Option Int := none
  teamMemberBudget : Option Float64 := none
  maxParallelRequests : Option Int := none
  softBudget : Option Float64 := none
  modelRPMLimit : StrMap Int := []
  modelTPMLimit : StrMap Int := []
  objectPermission : Option ApiObjectPermission := none
  metadata : StrMap String := []
  tags : List String := []
  guardrails : List String := []
  blocked : Option Bool := none
  deriving DecidableEq

structure TeamInfo where
  teamID : String
  teamAlias : String
  models : List String := []
  spend : Option Float64 := none
  deriving DecidableEq

structure TeamMemberInfo where
  email : String
  role : String
  deriving DecidableEq

structure TeamCallbackRequest where
  callbackName : String
  callbackType : String
  callbackVars : StrMap String := []
  deriving DecidableEq

/-! ## Users -/

structure UserTeam where
  teamID : String
  role : String := ""
  maxBudgetInTeam : Option Float64 := none
  deriving DecidableEq

structure UserCreateRequest where
  userID : String
  userEmail : String := ""
  userRole : String := ""
  maxBudget : Option Float64 := none
  budgetDuration : String := ""
  models : List String := []
  teams : List UserTeam := []
  tpmLimit : Option Int := none
  rpmLimit : Option Int := none
  softBudget : Option Float64 := none
  modelRPMLimit : StrMap Int := []
  modelTPMLimit : StrMap Int := []
  objectPermission : Option ApiObjectPermission := none
  metadata : StrMap String := []
  blocked : Option Bool := none
  autoCreateKey : Option Bool := none
  deriving DecidableEq

structure UserCreateResponse where
  userID : String
  deriving DecidableEq

structure UserInfo where
  userID : String
  userEmail : String
  userRole : String
  spend : Option Float64 := none
  teams : List String := []
  deriving DecidableEq

/-! ## Keys -/

structure KeyGenerateRequest where
  keyAlias : String := ""
  teamID : String := ""
  userID : String := ""
  models : List String := []
  maxBudget : Option String := none
  budgetDuration : String := ""
  expiresAt : Option Time := none
  tpmLimit : Option Int := none
  rpmLimit : Option Int := none
  metadata : StrMap String := []
  modelMaxBudget : StrMap Float64 := []
  maxParallelRequests : Option Int := none
  guardrails : List String := []
  blocked : Option Bool := none
  softBudget : Option Float64 := none
  modelRPMLimit : StrMap Int := []
  modelTPMLimit : StrMap Int := []
  objectPermission : Option ApiObjectPermission := none
  deriving DecidableEq

structure KeyGenerateResponse where
  key : String
  token : String
  deriving DecidableEq

structure KeyUpdateRequest where
  token : String
  models : List String := []
  maxBudget : Option String := none
  budgetDuration : String := ""
  tpmLimit : Option Int := none
  rpmLimit : Option Int := none
  metadata : StrMap String := []
  modelMaxBudget : StrMap Float64 := []
  maxParallelRequests : Option Int := none
  guardrails : List String := []
  blocked : Option Bool := none
  softBudget : Option Float64 := none
  modelRPMLimit : StrMap Int := []
  modelTPMLimit : StrMap Int := []
  objectPermission : Option ApiObjectPermission := none
  deriving DecidableEq

structure KeyInfo where
  token : String
  keyAlias : String
  spend : Option String := none
  isActive : Bool
  models : List String := []
  deriving DecidableEq

/-! ## Models -/

structure ModelParams where
  model : String
  litellmCredentialName : String := ""
  apiBase : String := ""
  apiKey : String := ""
  apiVersion : String := ""
  rpm : Option Int := none
  tpm : Option Int := none
  timeout : Option Int := none
  streamTimeout : Option Int := none
  maxRetries : Option Int := none
  tags : List String := []
  weight : Option Int := none
  order : Option Int := none
  maxInputTokens : Option Int := none
  temperature : Option Float64 := none
  topP : Option Float64 := none
  maxTokens : Option Int := none
  seed : Option Int := none
  organization : String := ""
  awsRegionName : String := ""
  extraHeaders : StrMap String := []
  dropParams : Option Bool := none
  vertexProject : String := ""
  vertexLocation : String := ""
  vertexCredentials : String := ""
  deriving DecidableEq

structure ModelInfoReq where
  id : String := ""
  maxTokens : Option Int := none
  inputCostPerToken : Option Float64 := none
  outputCostPerToken : Option Float64 := none
  mode : String := ""
  baseModel : String := ""
  tier : String := ""
  regionName : String := ""
  accessGroups : List String := []
  supportedEnvironments : List String := []
  useInPassThrough : Option Bool := none
  inputCostPerPixel : Option Float64 := none
  inputCostPerSecond : Option Float64 := none
  cacheReadInputTokenCost : Option Float64 := none
  cacheCreationInputTokenCost : Option Float64 := none
  disableBackgroundHealthCheck : Option Bool := none
  healthCheckTimeout : Option Int := none
  healthCheckMaxTokens : Option Int := none
  healthCheckMaxTokensReasoning : Option Int := none
  healthCheckMaxTokensNonReasoning : Option Int := none
  healthCheckSupportsMaxTokens : Option Bool := none
  healthCheckReasoningEffort : String := ""
  healthCheckVoice : String := ""
  healthCheckModel : String := ""
  deriving DecidableEq

structure ModelCreateRequest where
  modelName : String
  litellmParams : ModelParams
  modelInfo : Option ModelInfoReq := none
  modelID : String := ""
  deriving DecidableEq

structure ModelCreateResponse where
  modelID : String
  deriving DecidableEq

structure ModelInfoResponse where
  modelID : String
  modelName : String
  params : ModelParams
  deriving DecidableEq

/-! ## Organizations -/

structure OrganizationCreateRequest where
  organizationAlias : String
  models : List String := []
  maxBudget : Option Float64 := none
  budgetDuration : String := ""
  tpmLimit : Option Int := none
  rpmLimit : Option Int := none
  softBudget : Option Float64 := none
  modelRPMLimit : StrMap Int := []
  modelTPMLimit : StrMap Int := []
  objectPermission : Option ApiObjectPermission := none
  metadata : StrMap String := []
  deriving DecidableEq

structure OrganizationCreateResponse where
  organizationID : String
  organizationAlias : String
  deriving DecidableEq

structure OrganizationUpdateRequest where
  organizationID : String
  organizationAlias : String := ""
  models : List String := []
  maxBudget : Option Float64 := none
  budgetDuration : String := ""
  tpmLimit : Option Int := none
  rpmLimit : Option Int := none
  softBudget : Option Float64 := none
  modelRPMLimit : StrMap Int := []
  modelTPMLimit : StrMap Int := []
  objectPermission : Option ApiObjectPermission := none
  metadata : StrMap String := []
  deriving DecidableEq

structure OrgMemberInfo where
  userID : String
  email : String
  role : String
  deriving DecidableEq

structure OrganizationInfo where
  organizationID : String
  organizationAlias : String
  models : List String := []
  spend : Option Float64 := none
  members : List OrgMemberInfo := []
  deriving DecidableEq

structure OrgMemberRequest where
  userEmail : String
  role : String
  deriving DecidableEq

structure OrgMemberAddRequest where
  organizationID : String
  member : OrgMemberRequest
  deriving DecidableEq

/-! ## Customers -/

structure CustomerCreateRequest where
  userID : String
  aliasName : String := ""
  maxBudget : Option Float64 := none
  budgetDuration : String := ""
  budgetID : String := ""
  tpmLimit : Option Int := none
  rpmLimit : Option Int := none
  allowedModelRegion : String := ""
  defaultModel : String := ""
  models : List String := []
  blocked : Option Bool := none
  objectPermission : Option ApiObjectPermission := none
  metadata : StrMap String := []
  deriving DecidableEq

structure CustomerUpdateRequest where
  userID : String
  aliasName : String := ""
  maxBudget : Option Float64 := none
  budgetDuration : String := ""
  budgetID : String := ""
  tpmLimit : Option Int := none
  rpmLimit : Option Int := none
  allowedModelRegion : String := ""
  defaultModel : String := ""
  models : List String := []
  blocked : Option Bool := none
  objectPermission : Option ApiObjectPermission := none
  metadata : StrMap String := []
  deriving DecidableEq

structure CustomerInfo where
  userID : String
  aliasName : String
  spend : Option Float64 := none
  maxBudget : Option Float64 := none
  budgetDuration : String
  budgetID : String
  tpmLimit : Option Int := none
  rpmLimit : Option Int := none
  models : List String := []
  blocked : Bool
  deriving DecidableEq

/-! ## Credentials -/

structure CredentialPayload where
  credentialName : String
  credentialValues : StrMap Json := []
  credentialInfo : StrMap Json := []

/-! ## Budgets -/

structure BudgetRequest where
  budgetID : String := ""
  maxBudget : Option Float64 := none
  softBudget : Option Float64 := none
  budgetDuration : String := ""
  tpmLimit : Option Int := none
  rpmLimit : Option Int := none
  maxParallelRequests : Option Int := none
  modelMaxBudget : StrMap Float64 := []
  deriving DecidableEq

structure BudgetResponse where
  budgetID : String
  deriving DecidableEq

structure BudgetInfo where
  budgetID : String
  maxBudget : Option Float64 := none
  spend : Option Float64 := none
  deriving DecidableEq

/-! ## Health -/

structure HealthEndpoint where
  model : String := ""
  modelID : String := ""
  apiBase : String := ""
  error : String := ""
  response : String := ""
  deriving DecidableEq

structure HealthCheckResponse where
  healthyEndpoints : List HealthEndpoint := []
  unhealthyEndpoints : List HealthEndpoint := []
  healthyCount : Int := 0
  unhealthyCount : Int := 0
  deriving DecidableEq

/-! ## Errors -/

/-- `litellm.APIError`: the proxy answered with a status of 400 or above. -/
structure APIError where
  statusCode : Int
  message : String
  path : String
  deriving DecidableEq

def APIError.isNotFound (e : APIError) : Bool := e.statusCode = 404

def APIError.isTransient (e : APIError) : Bool := e.statusCode ≥ 500

/-- The leaves of the operator's errors. `text` stands for `errors.New`, for `fmt.Errorf` without
`%w`, and for errors of the HTTP transport. -/
inductive ErrorLeaf where
  | kube (e : StatusError)
  | api (e : APIError)
  | instanceRefNotPermitted
  | keySecretGone
  | secretKeyMissing
  | text (s : String)
  deriving DecidableEq

def ErrorLeaf.text? : ErrorLeaf → String
  | kube e => e.message
  | api e => "LiteLLM API error " ++ toString e.statusCode ++ " on " ++ e.path ++ ": " ++ e.message
  | instanceRefNotPermitted => "instance does not allow references from this namespace"
  | keySecretGone => "key secret no longer exists"
  | secretKeyMissing => "key not found in Secret"
  | text s => s

abbrev Error : Type := Go.Err ErrorLeaf

variable (e : Error)

/-- `err.Error()`. -/
def Error.error : String := e.message ErrorLeaf.text?

/-- `fmt.Errorf(pre + "%w", e)`. -/
def wrapf (pre : String) (e : Error) : Error := .wrap pre e ""

/-- `fmt.Errorf(s)`. -/
def errorf (s : String) : Error := .leaf (.text s)

/-- `litellm.IsAPIError`. -/
def isAPIError : Option APIError :=
  match e.root with
  | .api a => some a
  | _ => none

/-- Replaces a secret in an error message, raw or as JSON writes it. -/
def redact (s secret : String) : String :=
  if secret = "" then s
  else
    let s := replaceAll s secret "[REDACTED]"
    let inner := jsonContent secret
    if inner ≠ secret then replaceAll s inner "[REDACTED]" else s

/-- The error with its API message redacted, if it is an API error. -/
def redactError (secret : String) : Error → Error
  | .leaf (.api a) => .leaf (.api { a with message := redact a.message secret })
  | .leaf l => .leaf l
  | .wrap pre e post => .wrap pre (redactError secret e) post

/-- `apierrors.IsNotFound`. -/
def isNotFound : Bool :=
  match e.root with
  | .kube s => s.reason = .notFound
  | _ => false

/-- A 403 whose message mentions the enterprise license. -/
def isEnterpriseLicenseError : Bool :=
  match isAPIError e with
  | some a => a.statusCode = 403 && contains (toLower a.message) "enterprise"
  | none => false

/-! ## Writes that are made, refused or lost -/

theorem ok_of_map {ε α β : Type} {f : α → β} {x : Except ε α} {b : β} (h : x.map f = .ok b) :
    ∃ a, x = .ok a ∧ f a = b := by
  cases x with
  | error e => cases h
  | ok a => exact ⟨a, rfl, Except.ok.inj h⟩

section

variable {α σ W : Type} (put : σ → W) (w : W) (out : Except StatusError (α × σ))

/-- The answer to a write that the API server has made or refused, and the world after it: `put` of
what is stored, or the world `w` before. `lost` if the caller does not get the answer. -/
def committed (lost : Option Error) : Except Error α × W :=
  match out, lost with
  | .ok (a, s), none => (.ok a, put s)
  | .ok (_, s), some e => (.error e, put s)
  | .error e, none => (.error (.leaf (.kube e)), w)
  | .error _, some e => (.error e, w)

/-- The world after a write of someone else, if it goes through. -/
def carriedOut : Option W :=
  match out with
  | .ok (_, s) => some (put s)
  | .error _ => none

variable {put w out} {lost : Option Error} {r : Except Error α} {w' : W}

theorem carriedOut_some (h : carriedOut put out = some w') :
    ∃ a s, out = .ok (a, s) ∧ w' = put s := by
  unfold carriedOut at h
  split at h
  · cases h
    exact ⟨_, _, rfl, rfl⟩
  · cases h

/-- A write is made, and answered or not, or it changes nothing. -/
theorem committed_cases (h : committed put w out lost = (r, w')) :
    (∃ a s, out = .ok (a, s) ∧ w' = put s ∧
      (lost = none ∧ r = .ok a ∨ ∃ e, lost = some e ∧ r = .error e)) ∨
    (∃ e, r = .error e ∧ w' = w) := by
  unfold committed at h
  split at h
  · cases h
    exact .inl ⟨_, _, rfl, rfl, .inl ⟨rfl, rfl⟩⟩
  · cases h
    exact .inl ⟨_, _, rfl, rfl, .inr ⟨_, rfl, rfl⟩⟩
  · cases h
    exact .inr ⟨_, rfl, rfl⟩
  · cases h
    exact .inr ⟨_, rfl, rfl⟩

end

end LitellmOperator
