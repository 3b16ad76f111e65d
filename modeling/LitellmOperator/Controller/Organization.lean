import LitellmOperator.Controller.Reconcile

/-! # The LiteLLMOrganization controller

`litellmorganization_controller.go`. LiteLLM assigns the organization's id; the members are
reconciled only when the spec lists some.
-/

set_option autoImplicit false

namespace LitellmOperator

open Effect Go Kube Ctl

inductive OrganizationApi where
  | create (req : OrganizationCreateRequest)
  | update (req : OrganizationUpdateRequest)
  | delete (organizationID : String)
  | get (organizationID : String)
  | addMember (req : OrgMemberAddRequest)
  | deleteMember (organizationID userID : String)
  deriving DecidableEq

instance : Service OrganizationApi where
  Result
    | .create _ => OrganizationCreateResponse
    | .get _ => OrganizationInfo
    | _ => Unit

abbrev OrganizationCtl : Type → Type :=
  Ctl LiteLLMOrganizationSpec LiteLLMOrganizationStatus OrganizationApi

abbrev OrganizationFailure : Type := Failure LiteLLMOrganizationSpec LiteLLMOrganizationStatus

namespace Organization

variable (org : LiteLLMOrganization)

def createRequest : OrganizationCreateRequest where
  organizationAlias := org.spec.organizationAlias
  models := org.spec.models
  maxBudget := org.spec.maxBudget
  budgetDuration := org.spec.budgetDuration
  tpmLimit := org.spec.tpmLimit
  rpmLimit := org.spec.rpmLimit
  softBudget := org.spec.softBudget
  modelRPMLimit := org.spec.modelRPMLimit
  modelTPMLimit := org.spec.modelTPMLimit
  objectPermission := mapObjectPermission org.spec.objectPermission
  metadata := org.spec.metadata

def updateRequest : OrganizationUpdateRequest where
  organizationID := org.status.litellmOrganizationID
  organizationAlias := org.spec.organizationAlias
  models := org.spec.models
  maxBudget := org.spec.maxBudget
  budgetDuration := org.spec.budgetDuration
  tpmLimit := org.spec.tpmLimit
  rpmLimit := org.spec.rpmLimit
  softBudget := org.spec.softBudget
  modelRPMLimit := org.spec.modelRPMLimit
  modelTPMLimit := org.spec.modelTPMLimit
  objectPermission := mapObjectPermission org.spec.objectPermission
  metadata := org.spec.metadata

variable (lib : Ext) (conn : ResolvedInstance)

def createOrganization (org : LiteLLMOrganization) :
    ExceptT OrganizationFailure OrganizationCtl LiteLLMOrganization := do
  let resp ← orFail (api conn (OrganizationApi.create (createRequest org)))
    (fun e => ⟨org, after 30, wrapf "create organization: " e⟩)
  let org := { org with
    status.litellmOrganizationID := resp.organizationID, status.synced := true }
  recordCreated "update status after create: " (fun s => lib.computeSpecHash (.organization s)) org

def updateOrganization (org : LiteLLMOrganization) :
    ExceptT OrganizationFailure OrganizationCtl LiteLLMOrganization :=
  let currentHash := lib.computeSpecHash (.organization org.spec)
  if annotationAt org annotationSyncHash = currentHash then pure org
  else do
    let _ ← orFail (api conn (OrganizationApi.update (updateRequest org)))
      (fun e => ⟨org, after 30, wrapf "update organization: " e⟩)
    let org ← storeSyncHash org currentHash
    pure { org with status.synced := true }

def createOrUpdateOrganization (org : LiteLLMOrganization) :
    ExceptT OrganizationFailure OrganizationCtl LiteLLMOrganization :=
  if org.status.litellmOrganizationID = "" then createOrganization lib conn org
  else updateOrganization lib conn org

/-! ## Members -/

variable (conn : ResolvedInstance)

def addMissingMembers (org : LiteLLMOrganization) (actual : List String) : OrganizationCtl PUnit :=
  org.spec.members.forM (fun m =>
    if actual.contains m.email then pure ⟨⟩
    else do
      let role := if m.role = "" then "internal_user" else m.role
      let _ ← api conn (OrganizationApi.addMember
        ⟨org.status.litellmOrganizationID, ⟨m.email, role⟩⟩)
      pure ⟨⟩)

def removeMembers (org : LiteLLMOrganization) (members : List OrgMemberInfo)
    (desired : List String) : OrganizationCtl PUnit :=
  members.forM (fun am =>
    if desired.contains am.email then pure ⟨⟩
    else do
      let _ ← api conn (OrganizationApi.deleteMember org.status.litellmOrganizationID am.userID)
      pure ⟨⟩)

def reconcileMembers (org : LiteLLMOrganization) :
    ExceptT Error OrganizationCtl LiteLLMOrganization := do
  let info ← orFail (api conn (OrganizationApi.get org.status.litellmOrganizationID))
    (wrapf "get organization info: ")
  let desired := org.spec.members.map (·.email)
  let _ ← ExceptT.lift (addMissingMembers conn org (info.members.map (·.email)))
  let _ ← ExceptT.lift (removeMembers conn org info.members desired)
  pure { org with status.memberCount := org.spec.members.length }

/-- The members step of `reconcileOrganization`. -/
def reconcileSpecMembers (org : LiteLLMOrganization) :
    ExceptT OrganizationFailure OrganizationCtl LiteLLMOrganization :=
  if org.spec.members.isEmpty then pure org
  else orFail (reconcileMembers conn org).run
    (fun e => ⟨org, after 30, wrapf "reconcile members: " e⟩)

/-! ## Reconcile -/

def withInfo (info : Except Error OrganizationInfo) : LiteLLMOrganization :=
  match info with
  | .ok info => { org with
      status.currentSpend := info.spend, status.memberCount := info.members.length }
  | .error _ => org

def reconcileOrganization (org : LiteLLMOrganization) (resolved : ResolvedInstance) :
    Body LiteLLMOrganizationSpec LiteLLMOrganizationStatus OrganizationApi := do
  let org ← createOrUpdateOrganization lib resolved org
  let org ← reconcileSpecMembers resolved org
  let info ← ExceptT.lift (api resolved (OrganizationApi.get org.status.litellmOrganizationID))
  pure (withInfo org info, after 300)

def target : Option String :=
  if org.status.litellmOrganizationID ≠ "" then some org.status.litellmOrganizationID else none

def controller : Controller LiteLLMOrganizationSpec LiteLLMOrganizationStatus OrganizationApi where
  kind := kindOrganization
  instanceRef := (·.instanceRef)
  conditions := (·.conditions)
  setConditions st cs := { st with conditions := cs }
  syncedMessage := "Organization synced to LiteLLM"
  observes := true
  enterprise := true
  target := target
  delete := .delete
  body := reconcileOrganization lib

def reconcile (req : NamespacedName) : OrganizationCtl (Result × Option Error) :=
  (controller lib).reconcile lib req

end Organization

end LitellmOperator
