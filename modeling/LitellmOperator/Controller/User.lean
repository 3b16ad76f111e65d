import LitellmOperator.Controller.Reconcile
import LitellmOperator.Controller.Password

/-! # The LiteLLMUser controller

`litellmuser_controller.go`. A user is created first; when LiteLLM answers with a conflict and
the user named by `spec.userId` exists, it is adopted. The initial password is applied on the
side and never fails the reconcile.
-/

set_option autoImplicit false

namespace LitellmOperator

open Effect Go Kube Ctl

inductive UserApi where
  | create (req : UserCreateRequest)
  | update (req : UserCreateRequest)
  | setPassword (userID password : String)
  | delete (userID : String)
  | get (userID : String)
  deriving DecidableEq

instance : Service UserApi where
  Result
    | .create _ => UserCreateResponse
    | .get _ => UserInfo
    | _ => Unit

abbrev UserCtl : Type → Type := Ctl LiteLLMUserSpec LiteLLMUserStatus UserApi

abbrev UserFailure : Type := Failure LiteLLMUserSpec LiteLLMUserStatus

/-- The status a merge patch computed from `base` to `modified` turns `stored` into. -/
def LiteLLMUserStatus.mergeFrom (base modified stored : LiteLLMUserStatus) : LiteLLMUserStatus where
  synced := if base.synced = modified.synced then stored.synced else modified.synced
  litellmUserID :=
    if base.litellmUserID = modified.litellmUserID then stored.litellmUserID
    else modified.litellmUserID
  currentSpend :=
    if base.currentSpend = modified.currentSpend then stored.currentSpend
    else modified.currentSpend
  initialPasswordDigest :=
    if base.initialPasswordDigest = modified.initialPasswordDigest
    then stored.initialPasswordDigest else modified.initialPasswordDigest
  conditions :=
    if base.conditions = modified.conditions then stored.conditions else modified.conditions

namespace User

/-! ## The service -/

variable (conn : ResolvedInstance)

/-- `Users().Update` never sends `auto_create_key`. -/
def updateCall (req : UserCreateRequest) : UserCtl (Except Error Unit) :=
  api conn (UserApi.update { req with autoCreateKey := none })

/-- `Users().SetPassword` keeps the password out of the error message. -/
def setPasswordCall (userID password : String) :
    UserCtl (Except Error Unit) := do
  let r ← api conn (UserApi.setPassword userID password)
  pure (r.mapError (redactError password))

/-! ## The request -/

def resolveTeamRef (ns : String) (t : UserTeamMembership) : ExceptT Error UserCtl String :=
  match t.teamRef with
  | none => pure t.teamID
  | some ref => do
    let team ← orFail (read (.getTeam ⟨ns, ref.name⟩))
      (wrapf ("resolve team ref " ++ quote ref.name ++ ": "))
    failIf (team.status.litellmTeamID = "")
      (errorf ("team " ++ quote ref.name ++ " not yet synced (no litellmTeamId)"))
    pure team.status.litellmTeamID

def resolveTeamRefs (ns : String) : List UserTeamMembership → ExceptT Error UserCtl (List UserTeam)
  | [] => pure []
  | t :: ts => do
    let teamID ← resolveTeamRef ns t
    let teams ← resolveTeamRefs ns ts
    pure (⟨teamID, t.role, t.maxBudgetInTeam⟩ :: teams)

variable (user : LiteLLMUser)

def createRequest (teams : List UserTeam) : UserCreateRequest where
  userID := user.spec.userID
  userEmail := user.spec.userEmail
  userRole := user.spec.userRole
  maxBudget := user.spec.maxBudget
  budgetDuration := user.spec.budgetDuration
  models := user.spec.models
  teams := teams
  tpmLimit := user.spec.tpmLimit
  rpmLimit := user.spec.rpmLimit
  softBudget := user.spec.softBudget
  modelRPMLimit := user.spec.modelRPMLimit
  modelTPMLimit := user.spec.modelTPMLimit
  objectPermission := mapObjectPermission user.spec.objectPermission
  metadata := user.spec.metadata
  blocked := user.spec.blocked
  autoCreateKey := some (user.spec.autoCreateKey = some true)

/-! ## Creating, adopting and updating -/

/-- After a failed create: goes through only if the failure is a conflict and the user of
`spec.userId` exists, which is then brought to the spec. -/
def adoptExistingUser (user : LiteLLMUser) (req : UserCreateRequest) (createErr : Error) :
    ExceptT Error UserCtl Unit := do
  failIf (!((isAPIError createErr).any (fun a => a.statusCode = 409) && user.spec.userID ≠ ""))
    (wrapf "create user: " createErr)
  match ← ExceptT.lift (api conn (UserApi.get user.spec.userID)) with
  | .error e =>
    if (isAPIError e).any APIError.isNotFound then
      throw (.wrap "create user: " createErr
        (" (no user with id " ++ quote user.spec.userID ++ ", so not adopting)"))
    else
      throw (.wrap "create user: " createErr
        (" (could not check for existing user " ++ quote user.spec.userID ++ ": "
          ++ e.error ++ ")"))
  | .ok _ => orFail (updateCall conn req) (wrapf "update adopted user: ")

/-- The copy, with the adopted mark persisted if it comes to that, and the id to bind it to. -/
def createOrAdopt (req : UserCreateRequest) (user : LiteLLMUser) :
    ExceptT UserFailure UserCtl (LiteLLMUser × String) := do
  match ← ExceptT.lift (api conn (UserApi.create req)) with
  | .ok resp => pure (user, resp.userID)
  | .error e => do
    let _ ← orFail (adoptExistingUser conn user req e).run (fun e => ⟨user, after 30, e⟩)
    let user ← orFail (markAdopted user).run (fun f => ⟨f.1, {}, f.2⟩)
    pure (user, user.spec.userID)

variable (lib : Ext)

def createUser (conn : ResolvedInstance) (req : UserCreateRequest) (user : LiteLLMUser) :
    ExceptT UserFailure UserCtl LiteLLMUser := do
  let bound ← createOrAdopt conn req user
  let user := { bound.1 with status.litellmUserID := bound.2, status.synced := true }
  recordCreated "update status after create: " (fun s => lib.computeSpecHash (.user s)) user

def updateUser (conn : ResolvedInstance) (req : UserCreateRequest) (user : LiteLLMUser) :
    ExceptT UserFailure UserCtl LiteLLMUser :=
  let currentHash := lib.computeSpecHash (.user user.spec)
  if annotationAt user annotationSyncHash = currentHash then pure user
  else do
    let _ ← orFail (updateCall conn req) (fun e => ⟨user, after 30, wrapf "update user: " e⟩)
    let user ← storeSyncHash user currentHash
    pure { user with status.synced := true }

def createOrUpdateUser (conn : ResolvedInstance) (req : UserCreateRequest) (user : LiteLLMUser) :
    ExceptT UserFailure UserCtl LiteLLMUser :=
  if user.status.litellmUserID = "" then createUser lib conn req user
  else updateUser lib conn req user

/-! ## The initial password -/

def setPasswordCondition (status : ConditionStatus) (reason message : String) : LiteLLMUser :=
  let condition : Condition :=
    { type := conditionInitialPasswordApplied, status := status, reason := reason
      message := message, observedGeneration := user.metadata.generation }
  { user with status.conditions := setStatusCondition user.status.conditions condition }

/-- Records that the password was applied: the digest goes out at once in a merge patch. -/
def recordDigest (digest : String) : UserCtl LiteLLMUser := do
  let applied := setPasswordCondition { user with status.initialPasswordDigest := digest }
    .true "Applied" "Initial password applied"
  match ← statusPatch user applied with
  | .error _ => pure applied
  | .ok stored => pure stored

/-- Sends the password and records its digest. -/
def applyPassword (conn : ResolvedInstance) (user : LiteLLMUser) (password : String) :
    UserCtl (LiteLLMUser × Nat) := do
  match ← setPasswordCall conn user.status.litellmUserID password with
  | .error e =>
    if (isAPIError e).any (fun a => !a.isTransient) then
      pure (setPasswordCondition user .false "PasswordRejected" e.error, 0)
    else
      pure (setPasswordCondition user .false "ApplyFailed" e.error, 30)
  | .ok _ => do
    match ← random 16 with
    | .error e =>
      let e := wrapf "generate password digest salt: " e
      pure (setPasswordCondition user .false "DigestFailed" e.error, 30)
    | .ok salt => do
      let user ← recordDigest user (lib.passwordDigest password salt)
      pure (user, 0)

/-- Applies `spec.initialPasswordSecretRef` if its value differs from the one last applied. The
number is a requeue delay for transient failures, or 0. -/
def reconcileInitialPassword (conn : ResolvedInstance) (user : LiteLLMUser) :
    UserCtl (LiteLLMUser × Nat) :=
  match user.spec.initialPasswordSecretRef with
  | none =>
    pure ({ user with
      status.initialPasswordDigest := ""
      status.conditions :=
        removeStatusCondition user.status.conditions conditionInitialPasswordApplied }, 0)
  | some ref => do
    match ← read (.getSecret ⟨user.metadata.ns, ref.name⟩) with
    | .error e =>
      if isNotFound e then
        pure (setPasswordCondition user .false "SecretNotFound"
          ("Secret " ++ quote ref.name ++ " not found"), 0)
      else
        pure (setPasswordCondition user .false "SecretFetchFailed"
          ("get Secret " ++ quote ref.name ++ ": " ++ e.error), 30)
    | .ok secret =>
      let password := (StrMap.get? secret.data ref.key).getD ""
      if password = "" then
        pure (setPasswordCondition user .false "SecretKeyMissing"
          ("Secret " ++ quote ref.name ++ " has no non-empty key " ++ quote ref.key), 0)
      else if lib.passwordMatchesDigest user.status.initialPasswordDigest password then
        pure (setPasswordCondition user .true "Applied" "Initial password applied", 0)
      else applyPassword lib conn user password

/-! ## Reconcile -/

def withInfo (info : Except Error UserInfo) : LiteLLMUser :=
  match info with
  | .ok info => { user with status.currentSpend := info.spend }
  | .error _ => user

def reconcileUser (user : LiteLLMUser) (resolved : ResolvedInstance) :
    Body LiteLLMUserSpec LiteLLMUserStatus UserApi := do
  let teamIDs ← orFail (resolveTeamRefs user.metadata.ns user.spec.teams).run
    (fun e => ⟨user, after 30, wrapf "resolve team refs: " e⟩)
  let user ← createOrUpdateUser lib resolved (createRequest user teamIDs) user
  let applied ← ExceptT.lift (reconcileInitialPassword lib resolved user)
  let user := applied.1
  let result := if applied.2 > 0 then after applied.2 else after 300
  let info ← ExceptT.lift (api resolved (UserApi.get user.status.litellmUserID))
  pure (withInfo user info, result)

/-- What `handleDeletion` deletes: the user of the status, unless it was adopted. -/
def target : Option String :=
  if isAdopted user.metadata then none
  else if user.status.litellmUserID ≠ "" then some user.status.litellmUserID
  else none

def controller : Controller LiteLLMUserSpec LiteLLMUserStatus UserApi where
  kind := kindUser
  instanceRef := (·.instanceRef)
  conditions := (·.conditions)
  setConditions st cs := { st with conditions := cs }
  syncedMessage := "User synced to LiteLLM"
  observes := false
  enterprise := true
  target := target
  delete := .delete
  body := reconcileUser lib

def reconcile (req : NamespacedName) : UserCtl (Result × Option Error) :=
  (controller lib).reconcile lib req

end User

end LitellmOperator
