import LitellmOperator.Controller.Reconcile

/-! # The LiteLLMTeam controller

`litellmteam_controller.go`. A team with `spec.teamId` is looked up before it is created, and
adopted if it exists. Go iterates over a map in no particular order; here the emails of
`reconcileMembersMixed` come in the order of their last occurrence.
-/

set_option autoImplicit false

namespace LitellmOperator

open Effect Go Kube Ctl

inductive TeamApi where
  | create (req : TeamCreateRequest)
  | update (req : TeamUpdateRequest)
  | delete (teamID : String)
  | get (teamID : String)
  | addMember (teamID email role : String)
  | removeMember (teamID email : String)
  | listMembers (teamID : String)
  | setCallback (teamID : String) (req : TeamCallbackRequest)
  | disableLogging (teamID : String)
  deriving DecidableEq

instance : Service TeamApi where
  Result
    | .create _ => TeamCreateResponse
    | .get _ => TeamInfo
    | .listMembers _ => List TeamMemberInfo
    | _ => Unit

abbrev TeamCtl : Type → Type := Ctl LiteLLMTeamSpec LiteLLMTeamStatus TeamApi

abbrev TeamFailure : Type := Failure LiteLLMTeamSpec LiteLLMTeamStatus

namespace Team

/-! ## Requests -/

variable (team : LiteLLMTeam)

def createRequest (orgID : String) : TeamCreateRequest where
  teamID := team.spec.teamID
  teamAlias := team.spec.teamAlias
  organizationID := orgID
  models := team.spec.models
  maxBudget := team.spec.maxBudgetMonthly
  budgetDuration := team.spec.budgetDuration
  tpmLimit := team.spec.tpmLimit
  rpmLimit := team.spec.rpmLimit
  teamMemberRPMLimit := team.spec.teamMemberRPMLimit
  teamMemberTPMLimit := team.spec.teamMemberTPMLimit
  teamMemberBudget := team.spec.teamMemberBudget
  maxParallelRequests := team.spec.maxParallelRequests
  softBudget := team.spec.softBudget
  modelRPMLimit := team.spec.modelRPMLimit
  modelTPMLimit := team.spec.modelTPMLimit
  objectPermission := mapObjectPermission team.spec.objectPermission
  metadata := team.spec.metadata
  tags := team.spec.tags
  guardrails := team.spec.guardrails
  blocked := team.spec.blocked

def updateRequest (orgID : String) : TeamUpdateRequest where
  teamID := team.status.litellmTeamID
  teamAlias := team.spec.teamAlias
  organizationID := orgID
  models := team.spec.models
  maxBudget := team.spec.maxBudgetMonthly
  budgetDuration := team.spec.budgetDuration
  tpmLimit := team.spec.tpmLimit
  rpmLimit := team.spec.rpmLimit
  teamMemberBudget := team.spec.teamMemberBudget
  maxParallelRequests := team.spec.maxParallelRequests
  softBudget := team.spec.softBudget
  modelRPMLimit := team.spec.modelRPMLimit
  modelTPMLimit := team.spec.modelTPMLimit
  objectPermission := mapObjectPermission team.spec.objectPermission
  metadata := team.spec.metadata
  tags := team.spec.tags
  guardrails := team.spec.guardrails
  blocked := team.spec.blocked

/-! ## References and adoption -/

def resolveOrganizationRef : ExceptT Error TeamCtl String :=
  match team.spec.organizationRef with
  | none => pure ""
  | some ref => do
    let org ← orFail (read (.getOrganization ⟨team.metadata.ns, ref.name⟩))
      (wrapf ("resolve organization ref " ++ quote ref.name ++ ": "))
    failIf (org.status.litellmOrganizationID = "") (errorf ("organization " ++ quote ref.name ++
        " not yet synced (no litellmOrganizationId)"))
    pure org.status.litellmOrganizationID

variable (conn : ResolvedInstance)

/-- Binds the resource to the team named by `spec.teamId` if that team exists. The adopted mark
is persisted before the id. -/
def adoptExistingTeam (team : LiteLLMTeam) : ExceptT (LiteLLMTeam × Error) TeamCtl LiteLLMTeam := do
  match ← ExceptT.lift (api conn (TeamApi.get team.spec.teamID)) with
  | .error e =>
    if (isAPIError e).any APIError.isNotFound then pure team
    else throw (team, wrapf ("check for existing team " ++ quote team.spec.teamID ++ ": ") e)
  | .ok _ => do
    let team ← markAdopted team
    let team := { team with status.litellmTeamID := team.spec.teamID }
    orFail (statusUpdate team) (fun e => (team, wrapf "update status after adopt: " e))

/-- The adoption step of `reconcileTeam`. -/
def adoptUnbound (team : LiteLLMTeam) : ExceptT TeamFailure TeamCtl LiteLLMTeam :=
  if team.status.litellmTeamID = "" ∧ team.spec.teamID ≠ "" then
    orFail (adoptExistingTeam conn team).run (fun f => ⟨f.1, after 30, f.2⟩)
  else pure team

/-! ## Creating and updating -/

variable (lib : Ext)

def createTeam (conn : ResolvedInstance) (orgID : String) (team : LiteLLMTeam) :
    ExceptT TeamFailure TeamCtl LiteLLMTeam := do
  let resp ← orFail (api conn (TeamApi.create (createRequest team orgID)))
    (fun e => ⟨team, after 30, wrapf "create team: " e⟩)
  let team := { team with status.litellmTeamID := resp.teamID, status.synced := true }
  recordCreated "update status after create: " (fun s => lib.computeSpecHash (.team s)) team

def updateTeam (conn : ResolvedInstance) (orgID : String) (team : LiteLLMTeam) :
    ExceptT TeamFailure TeamCtl LiteLLMTeam :=
  let currentHash := lib.computeSpecHash (.team team.spec)
  if annotationAt team annotationSyncHash = currentHash then pure team
  else do
    let _ ← orFail (api conn (TeamApi.update (updateRequest team orgID)))
      (fun e => ⟨team, after 30, wrapf "update team: " e⟩)
    let team ← storeSyncHash team currentHash
    pure { team with status.synced := true }

def createOrUpdateTeam (conn : ResolvedInstance) (orgID : String) (team : LiteLLMTeam) :
    ExceptT TeamFailure TeamCtl LiteLLMTeam :=
  if team.status.litellmTeamID = "" then createTeam lib conn orgID team
  else updateTeam lib conn orgID team

/-! ## Members -/

def toMemberStatusList (members : List TeamMemberInfo) (source : String) :
    List TeamMemberStatus :=
  members.map (fun m => { email := m.email, role := m.role, source := source, synced := true })

def toMemberStatusListFromSpec (members : List TeamMember) (source : String) :
    List TeamMemberStatus :=
  members.map (fun m =>
    { email := m.email, role := if m.role = "" then "user" else m.role
      source := source, synced := true })

/-- Adds the members of the spec that are not in `actual`; a failed call is only logged. -/
def addMissingMembers (team : LiteLLMTeam) (actual : List String) : TeamCtl PUnit :=
  team.spec.members.forM (fun m =>
    if actual.contains m.email then pure ⟨⟩
    else do
      let _ ← api conn (TeamApi.addMember team.status.litellmTeamID m.email m.role)
      pure ⟨⟩)

/-- Removes those of `emails` that are not in `desired`; a failed call is only logged. -/
def removeMembers (team : LiteLLMTeam) (emails desired : List String) : TeamCtl PUnit :=
  emails.forM (fun email =>
    if desired.contains email then pure ⟨⟩
    else do
      let _ ← api conn (TeamApi.removeMember team.status.litellmTeamID email)
      pure ⟨⟩)

def listMembers (team : LiteLLMTeam) : ExceptT Error TeamCtl (List TeamMemberInfo) :=
  orFail (api conn (TeamApi.listMembers team.status.litellmTeamID)) (wrapf "list members: ")

def reconcileMembersSSO (team : LiteLLMTeam) :
    ExceptT Error TeamCtl LiteLLMTeam := do
  let apiMembers ← listMembers conn team
  pure { team with
    status.crdMembers := []
    status.ssoMembers := toMemberStatusList apiMembers "sso"
    status.totalMemberCount := apiMembers.length }

def reconcileMembersCRD (team : LiteLLMTeam) :
    ExceptT Error TeamCtl LiteLLMTeam := do
  let apiMembers ← listMembers conn team
  let desired := team.spec.members.map (·.email)
  let actual := apiMembers.map (·.email)
  let _ ← ExceptT.lift (addMissingMembers conn team actual)
  let _ ← ExceptT.lift (removeMembers conn team actual desired)
  pure { team with
    status.crdMembers := toMemberStatusListFromSpec team.spec.members "crd"
    status.ssoMembers := []
    status.totalMemberCount := team.spec.members.length }

def reconcileMembersMixed (team : LiteLLMTeam) :
    ExceptT Error TeamCtl LiteLLMTeam := do
  let apiMembers ← listMembers conn team
  let desired := team.spec.members.map (·.email)
  let actual := apiMembers.map (·.email)
  let previousCRD := (team.status.crdMembers.map (·.email)).dedup
  let _ ← ExceptT.lift (addMissingMembers conn team actual)
  let _ ← ExceptT.lift (removeMembers conn team previousCRD desired)
  let ssoMembers := toMemberStatusList (apiMembers.filter (!desired.contains ·.email)) "sso"
  pure { team with
    status.crdMembers := toMemberStatusListFromSpec team.spec.members "crd"
    status.ssoMembers := ssoMembers
    status.totalMemberCount := team.spec.members.length + ssoMembers.length }

def reconcileMembers (team : LiteLLMTeam) : ExceptT Error TeamCtl LiteLLMTeam :=
  let mgmt := if team.spec.memberManagement = "" then "mixed" else team.spec.memberManagement
  if mgmt = "sso" then reconcileMembersSSO conn team
  else if mgmt = "crd" then reconcileMembersCRD conn team
  else if mgmt = "mixed" then reconcileMembersMixed conn team
  else throw (errorf ("unknown memberManagement mode: " ++ quote mgmt))

/-! ## Logging -/

/-- The Secret's keys, overridden or supplemented by the callback's inline config. -/
def readCallbackCredentials (ns : String) (cb : TeamCallback) :
    ExceptT Error TeamCtl (StrMap String) := do
  let secret ← orFail (read (.getSecret ⟨ns, cb.credentialsSecretRef.name⟩))
    (wrapf ("fetch secret " ++ quote cb.credentialsSecretRef.name ++ ": "))
  pure (cb.config.foldl (fun vars e => vars.set e.1 e.2) secret.data)

def setCallback (team : LiteLLMTeam) (cb : TeamCallback) :
    ExceptT Error TeamCtl PUnit := do
  let vars ← orFail (readCallbackCredentials team.metadata.ns cb).run
    (wrapf ("read credentials for callback " ++ quote cb.name ++ ": "))
  let cbType := if cb.type = "" then "success_and_failure" else cb.type
  let _ ← orFail (api conn (TeamApi.setCallback team.status.litellmTeamID ⟨cb.name, cbType, vars⟩))
    (wrapf ("set callback " ++ quote cb.name ++ " for team " ++ team.status.litellmTeamID ++ ": "))
  pure ⟨⟩

def reconcileLogging (team : LiteLLMTeam) : ExceptT Error TeamCtl LiteLLMTeam :=
  match team.spec.logging with
  | none => pure { team with status.loggingSynced := false, status.loggingDisabled := false }
  | some logging =>
    if logging.disabled then do
      let _ ← orFail (api conn (TeamApi.disableLogging team.status.litellmTeamID))
        (wrapf ("disable logging for team " ++ team.status.litellmTeamID ++ ": "))
      pure { team with status.loggingDisabled := true, status.loggingSynced := true }
    else if logging.callbacks.isEmpty then do
      let _ ← orFail (api conn (TeamApi.disableLogging team.status.litellmTeamID))
        (wrapf ("disable logging (cleanup) for team " ++ team.status.litellmTeamID ++ ": "))
      pure { team with status.loggingDisabled := false, status.loggingSynced := true }
    else do
      let _ ← logging.callbacks.forM (setCallback conn team)
      pure { team with status.loggingDisabled := false, status.loggingSynced := true }

/-! ## Reconcile -/

def withInfo (info : Except Error TeamInfo) : LiteLLMTeam :=
  match info with
  | .ok info => { team with status.currentSpend := info.spend }
  | .error _ => team

def reconcileTeam (team : LiteLLMTeam) (resolved : ResolvedInstance) :
    Body LiteLLMTeamSpec LiteLLMTeamStatus TeamApi := do
  let orgID ← orFail (resolveOrganizationRef team).run
    (fun e => ⟨team, after 30, wrapf "resolve organization ref: " e⟩)
  let team ← adoptUnbound resolved team
  let team ← createOrUpdateTeam lib resolved orgID team
  let team ← orFail (reconcileMembers resolved team).run
    (fun e => ⟨team, after 30, wrapf "reconcile members: " e⟩)
  let team ← orFail (reconcileLogging resolved team).run
    (fun e => if isEnterpriseLicenseError e then ⟨team, {}, e⟩
      else ⟨team, after 30, wrapf "reconcile logging: " e⟩)
  let info ← ExceptT.lift (api resolved (TeamApi.get team.status.litellmTeamID))
  pure (withInfo team info, after 300)

/-- What `handleDeletion` deletes: the team of the status, unless it was adopted. -/
def target : Option String :=
  if isAdopted team.metadata then none
  else if team.status.litellmTeamID ≠ "" then some team.status.litellmTeamID
  else none

def controller : Controller LiteLLMTeamSpec LiteLLMTeamStatus TeamApi where
  kind := kindTeam
  instanceRef := (·.instanceRef)
  conditions := (·.conditions)
  setConditions st cs := { st with conditions := cs }
  syncedMessage := "Team synced to LiteLLM"
  observes := false
  enterprise := true
  target := target
  delete := .delete
  body := reconcileTeam lib

def reconcile (req : NamespacedName) : TeamCtl (Result × Option Error) :=
  (controller lib).reconcile lib req

end Team

end LitellmOperator
