import LitellmOperator.Controller.Common

/-! # The config sync

`configsync_syncer.go`: one cycle of the sync compares, kind by kind, the custom resources that
belong to an instance with what the instance's admin API lists. The six `sync…` functions of the
source are one text with different values; `SyncKind` collects the values and `syncKind` is the
text. What is shared between the kinds of a cycle, the cache of namespace checks and the result,
is passed along. Events and log lines are not modelled.

A successful write decodes the answer over the caller's copy, so the loops carry the copies. Go
leaves the order of a range over a map open; here the order is asked for (`SyncOp.order`).
-/

set_option autoImplicit false

namespace LitellmOperator

open Effect Go Kube

/-! ## Results -/

inductive SyncName where
  | models
  | teams
  | users
  | keys
  | organizations
  | customers
  deriving DecidableEq

structure SyncResult where
  syncedModels : Nat := 0
  syncedTeams : Nat := 0
  syncedUsers : Nat := 0
  syncedKeys : Nat := 0
  syncedOrganizations : Nat := 0
  syncedCustomers : Nat := 0
  unmanagedModels : Nat := 0
  unmanagedTeams : Nat := 0
  unmanagedUsers : Nat := 0
  unmanagedKeys : Nat := 0
  unmanagedOrganizations : Nat := 0
  unmanagedCustomers : Nat := 0
  driftDetected : Nat := 0
  prunedResources : Nat := 0
  errors : List String := []
  deriving DecidableEq

namespace SyncResult

variable (r : SyncResult)

def addError (msg : String) : SyncResult := { r with errors := r.errors ++ [msg] }

def synced : SyncName → Nat
  | .models => r.syncedModels
  | .teams => r.syncedTeams
  | .users => r.syncedUsers
  | .keys => r.syncedKeys
  | .organizations => r.syncedOrganizations
  | .customers => r.syncedCustomers

def unmanaged : SyncName → Nat
  | .models => r.unmanagedModels
  | .teams => r.unmanagedTeams
  | .users => r.unmanagedUsers
  | .keys => r.unmanagedKeys
  | .organizations => r.unmanagedOrganizations
  | .customers => r.unmanagedCustomers

def addSynced : SyncName → SyncResult
  | .models => { r with syncedModels := r.syncedModels + 1 }
  | .teams => { r with syncedTeams := r.syncedTeams + 1 }
  | .users => { r with syncedUsers := r.syncedUsers + 1 }
  | .keys => { r with syncedKeys := r.syncedKeys + 1 }
  | .organizations => { r with syncedOrganizations := r.syncedOrganizations + 1 }
  | .customers => { r with syncedCustomers := r.syncedCustomers + 1 }

def addUnmanaged : SyncName → SyncResult
  | .models => { r with unmanagedModels := r.unmanagedModels + 1 }
  | .teams => { r with unmanagedTeams := r.unmanagedTeams + 1 }
  | .users => { r with unmanagedUsers := r.unmanagedUsers + 1 }
  | .keys => { r with unmanagedKeys := r.unmanagedKeys + 1 }
  | .organizations => { r with unmanagedOrganizations := r.unmanagedOrganizations + 1 }
  | .customers => { r with unmanagedCustomers := r.unmanagedCustomers + 1 }

end SyncResult

/-! ## Kinds -/

/-- What differs between the kinds. -/
structure SyncKind where
  Spec : Type
  Status : Type
  /-- An entry of the admin API's list. -/
  Info : Type
  name : SyncName
  resourceType : String
  kind : String
  instanceRef : Spec → InstanceRef
  /-- The id under which a managed resource is compared, if it is. -/
  managedID : Resource Spec Status → Option String
  /-- The id a protected resource keeps from being pruned. -/
  protectedID : Resource Spec Status → Option String
  apiID : Info → String
  isDrifted : Resource Spec Status → Info → Bool
  displayName : Resource Spec Status → String
  apiName : Info → String
  clearStatus : Status → Status

namespace SyncKind

abbrev CR (K : SyncKind) : Type := Resource K.Spec K.Status

/-- A managed resource without an id is not compared. -/
def nonEmpty (id : String) : Option String := if id = "" then none else some id

def models : SyncKind where
  Spec := LiteLLMModelSpec
  Status := LiteLLMModelStatus
  Info := ModelInfoResponse
  name := .models
  resourceType := "model"
  kind := kindModel
  instanceRef := (·.instanceRef)
  managedID m := nonEmpty m.status.litellmModelID
  protectedID m := some m.status.litellmModelID
  apiID := (·.modelID)
  isDrifted crd api := crd.spec.modelName ≠ api.modelName ||
    crd.spec.litellmParams.model ≠ api.params.model
  displayName crd := crd.spec.modelName
  apiName := (·.modelName)
  clearStatus st := { st with litellmModelID := "", synced := false }

def teams : SyncKind where
  Spec := LiteLLMTeamSpec
  Status := LiteLLMTeamStatus
  Info := TeamInfo
  name := .teams
  resourceType := "team"
  kind := kindTeam
  instanceRef := (·.instanceRef)
  managedID t := nonEmpty t.status.litellmTeamID
  protectedID t := some t.status.litellmTeamID
  apiID := (·.teamID)
  isDrifted crd api := crd.spec.teamAlias ≠ api.teamAlias
  displayName crd := crd.spec.teamAlias
  apiName := (·.teamAlias)
  clearStatus st := { st with litellmTeamID := "", synced := false }

def users : SyncKind where
  Spec := LiteLLMUserSpec
  Status := LiteLLMUserStatus
  Info := UserInfo
  name := .users
  resourceType := "user"
  kind := kindUser
  instanceRef := (·.instanceRef)
  managedID u := nonEmpty u.status.litellmUserID
  protectedID u := some u.status.litellmUserID
  apiID := (·.userID)
  isDrifted crd api := crd.spec.userEmail ≠ api.userEmail || crd.spec.userRole ≠ api.userRole
  displayName crd := crd.spec.userID
  apiName := (·.userEmail)
  clearStatus st := { st with litellmUserID := "", synced := false }

def keys : SyncKind where
  Spec := LiteLLMVirtualKeySpec
  Status := LiteLLMVirtualKeyStatus
  Info := KeyInfo
  name := .keys
  resourceType := "key"
  kind := kindVirtualKey
  instanceRef := (·.instanceRef)
  managedID k := nonEmpty k.status.litellmKeyToken
  protectedID k := some k.status.litellmKeyToken
  apiID := (·.token)
  isDrifted crd api := crd.spec.keyAlias ≠ api.keyAlias
  displayName crd := crd.spec.keyAlias
  apiName := (·.keyAlias)
  clearStatus st := { st with litellmKeyToken := "", synced := false }

def organizations : SyncKind where
  Spec := LiteLLMOrganizationSpec
  Status := LiteLLMOrganizationStatus
  Info := OrganizationInfo
  name := .organizations
  resourceType := "organization"
  kind := kindOrganization
  instanceRef := (·.instanceRef)
  managedID o := nonEmpty o.status.litellmOrganizationID
  protectedID o := some o.status.litellmOrganizationID
  apiID := (·.organizationID)
  isDrifted crd api := crd.spec.organizationAlias ≠ api.organizationAlias
  displayName crd := crd.spec.organizationAlias
  apiName := (·.organizationAlias)
  clearStatus st := { st with litellmOrganizationID := "", synced := false }

/-- A customer goes by the id in its spec, which counts once the operator has synced it. -/
def customers : SyncKind where
  Spec := LiteLLMCustomerSpec
  Status := LiteLLMCustomerStatus
  Info := CustomerInfo
  name := .customers
  resourceType := "customer"
  kind := kindCustomer
  instanceRef := (·.instanceRef)
  managedID c := if c.status.synced then some c.spec.customerID else none
  protectedID c := if c.status.synced then some c.spec.customerID else none
  apiID := (·.userID)
  isDrifted crd api := crd.spec.aliasName ≠ api.aliasName ||
    crd.spec.blocked.any (fun blocked => blocked ≠ api.blocked)
  displayName crd := crd.spec.customerID
  apiName := (·.aliasName)
  clearStatus st := { st with synced := false }

end SyncKind

def SyncName.kind : SyncName → SyncKind
  | .models => .models
  | .teams => .teams
  | .users => .users
  | .keys => .keys
  | .organizations => .organizations
  | .customers => .customers

/-! ## Calls -/

/-- The calls a cycle makes for one kind. -/
inductive SyncOp (K : SyncKind) where
  | listCRs
  | read (r : Read)
  | update (obj : K.CR)
  | statusUpdate (obj : K.CR)
  | listAPI
  | deleteAPI (id : String)
  /-- The order in which a range over a map with these keys visits them. -/
  | order (ids : List String)

def SyncOp.Resp {K : SyncKind} : SyncOp K → Type
  | listCRs => Except Error (List K.CR)
  | read r => Except Error r.Obj
  | update _ => Except Error K.CR
  | statusUpdate _ => Except Error K.CR
  | listAPI => Except Error (List K.Info)
  | deleteAPI _ => Except Error Unit
  | order _ => List String

abbrev SyncCtl (K : SyncKind) (α : Type) : Type := Prog (SyncOp K) SyncOp.Resp α

def SyncOp.client {K : SyncKind} : Reader (SyncCtl K) where
  getInstance key := Prog.perform (SyncOp.read (.getInstance key))
  getNamespace name := Prog.perform (SyncOp.read (.getNamespace name))
  getSecret key := Prog.perform (SyncOp.read (.getSecret key))

/-! ## Scope -/

inductive SyncScope where
  | scopeOutside
  | scopeProtected
  | scopeManaged
  deriving DecidableEq

/-- `configSyncer` as it is during one cycle. -/
structure ConfigSyncer where
  inst : LiteLLMInstance
  config : ConfigSyncSpec

/-- The scope of a resource that refers to the instance, once it is known whether its namespace
is allowed. -/
def ConfigSyncer.scopeIf (s : ConfigSyncer) (allowed : Bool) (ns kind : String) : SyncScope :=
  if !allowed then .scopeOutside
  else if !instanceAllowsKind s.inst ns kind then .scopeProtected
  else .scopeManaged

/-- How the sync treats a resource, with the cache after the check. A lookup that fails counts as
allowed. -/
def ConfigSyncer.scope {m : Type → Type} [Monad m] (lib : Ext) (c : Reader m) (s : ConfigSyncer)
    (cache : StrMap Bool) (ns : String) (ref : InstanceRef) (kind : String) :
    m (SyncScope × StrMap Bool) :=
  if !referencesInstance ns ref s.inst then pure (.scopeOutside, cache)
  else
    match cache.get? ns with
    | some allowed => pure (s.scopeIf allowed ns kind, cache)
    | none => do
      let allowed := match ← instanceAllowsNamespace lib c s.inst ns with
        | .ok allowed => allowed
        | .error _ => true
      pure (s.scopeIf allowed ns kind, cache.set ns allowed)

section

variable {K : SyncKind} (lib : Ext) (s : ConfigSyncer)

/-! ## The resources of a kind -/

/-- The ids the custom resources claim. -/
structure CRIndex (K : SyncKind) where
  managedIDs : StrMap K.CR := []
  protectedIDs : List String := []

/-- What a resource of the given scope adds to the index. -/
def CRIndex.add (index : CRIndex K) (crd : K.CR) (scope : SyncScope) : CRIndex K :=
  if scope = .scopeOutside || crd.metadata.deleting then index
  else if scope = .scopeProtected then
    match K.protectedID crd with
    | none => index
    | some id => { index with protectedIDs := id :: index.protectedIDs }
  else
    match K.managedID crd with
    | none => index
    | some id => { index with managedIDs := index.managedIDs.set id crd }

def indexCRs (crds : List K.CR) (cache : StrMap Bool) (index : CRIndex K) :
    SyncCtl K (CRIndex K × StrMap Bool) :=
  match crds with
  | [] => pure (index, cache)
  | crd :: crds => do
    let (scope, cache) ← s.scope lib SyncOp.client cache crd.metadata.ns
      (K.instanceRef crd.spec) K.kind
    indexCRs crds cache (index.add crd scope)

/-! ## Handlers -/

/-- Takes the sync hash off a copy that has annotations. -/
def deleteSyncHash (crd : K.CR) (annotations : StrMap String) : K.CR :=
  { crd with metadata :=
    { crd.metadata with annotations := some (annotations.delete annotationSyncHash) } }

/-- A managed resource whose object in LiteLLM differs from its spec. -/
def handleDrift (crd : K.CR) (displayName : String) (result : SyncResult) :
    SyncCtl K (K.CR × SyncResult) :=
  let result := { result with driftDetected := result.driftDetected + 1 }
  match s.config.conflictResolution with
  | .crdWins | .unset =>
    match crd.metadata.annotations with
    | none => pure (crd, result)
    | some annotations => do
      let crd := deleteSyncHash crd annotations
      match ← Prog.perform (SyncOp.update crd) with
      | .error e => pure (crd, result.addError ("clear sync hash for " ++ K.resourceType ++
          " " ++ quote displayName ++ ": " ++ e.error))
      | .ok crd => pure (crd, result)
  | .apiWins | .manual => pure (crd, result)

/-- A managed resource whose object is missing from LiteLLM: its status and sync hash are cleared,
so that it is created again. -/
def handleDeletedFromAPI (crd : K.CR) (displayName : String) (result : SyncResult) :
    SyncCtl K SyncResult :=
  let result := { result with driftDetected := result.driftDetected + 1 }
  match s.config.conflictResolution with
  | .crdWins | .unset => do
    let crd : K.CR := { crd with status := K.clearStatus crd.status }
    match ← Prog.perform (SyncOp.statusUpdate crd) with
    | .error e => pure (result.addError ("clear status for " ++ K.resourceType ++ " " ++
        quote displayName ++ ": " ++ e.error))
    | .ok crd => do
      let crd := deleteSyncHash crd (crd.metadata.annotations.getD [])
      match ← Prog.perform (SyncOp.update crd) with
      | .error e => pure (result.addError ("clear hash for " ++ K.resourceType ++ " " ++
          quote displayName ++ ": " ++ e.error))
      | .ok _ => pure result
  | .apiWins | .manual => pure result

/-- An object in LiteLLM that no custom resource claims. -/
def handleUnmanaged (id displayName : String) (result : SyncResult) : SyncCtl K SyncResult :=
  match s.config.unmanagedResourcePolicy with
  | .prune => do
    match ← Prog.perform (SyncOp.deleteAPI id : SyncOp K) with
    | .error e => pure (result.addError ("prune " ++ K.resourceType ++ " " ++
        quote displayName ++ ": " ++ e.error))
    | .ok _ => pure { result with prunedResources := result.prunedResources + 1 }
  | .adopt | .preserve | .unset => pure result

/-! ## The cycle -/

/-- What the loop over the API list changes. -/
structure SyncProgress (K : SyncKind) where
  managedIDs : StrMap K.CR
  seenIDs : List String := []
  result : SyncResult

def syncEntry (protectedIDs : List String) (p : SyncProgress K) (info : K.Info) :
    SyncCtl K (SyncProgress K) :=
  match p.managedIDs.get? (K.apiID info) with
  | some crd => do
    let result := p.result.addSynced K.name
    let seenIDs := K.apiID info :: p.seenIDs
    if K.isDrifted crd info then do
      let (crd, result) ← handleDrift s crd (K.displayName crd) result
      pure ⟨p.managedIDs.set (K.apiID info) crd, seenIDs, result⟩
    else pure { p with seenIDs := seenIDs, result := result }
  | none =>
    if protectedIDs.contains (K.apiID info) then pure p
    else do
      let result ← handleUnmanaged (K := K) s (K.apiID info) (K.apiName info)
        (p.result.addUnmanaged K.name)
      pure { p with result := result }

/-- One managed id, after the loop over the API list. -/
def syncMissing (p : SyncProgress K) (result : SyncResult) (id : String) :
    SyncCtl K SyncResult :=
  if p.seenIDs.contains id then pure result
  else
    match p.managedIDs.get? id with
    | none => pure result
    | some crd => handleDeletedFromAPI s crd (K.displayName crd) result

/-- Both loops over what was listed. -/
def syncListed (index : CRIndex K) (infos : List K.Info) (result : SyncResult) :
    SyncCtl K SyncResult := do
  let p ← infos.foldlM (syncEntry s index.protectedIDs) ⟨index.managedIDs, [], result⟩
  let ids ← Prog.perform (SyncOp.order (p.managedIDs.map (·.1)) : SyncOp K)
  ids.foldlM (syncMissing s p) p.result

variable (K) in
/-- The common text of `syncModels`, `syncTeams`, `syncUsers`, `syncKeys`, `syncOrganizations` and
`syncCustomers`. -/
def syncKind (cache : StrMap Bool) (result : SyncResult) :
    SyncCtl K (SyncResult × StrMap Bool) := do
  match ← Prog.perform (SyncOp.listCRs : SyncOp K) with
  | .error e =>
    pure (result.addError ("list " ++ K.resourceType ++ " CRDs: " ++ e.error), cache)
  | .ok crds => do
    let (index, cache) ← indexCRs lib s crds cache {}
    match ← Prog.perform (SyncOp.listAPI : SyncOp K) with
    | .error e =>
      pure (result.addError ("list API " ++ K.resourceType ++ "s: " ++ e.error), cache)
    | .ok infos => do
      let result ← syncListed s index infos result
      pure (result, cache)

end

def syncModels := syncKind SyncKind.models
def syncTeams := syncKind SyncKind.teams
def syncUsers := syncKind SyncKind.users
def syncKeys := syncKind SyncKind.keys
def syncOrganizations := syncKind SyncKind.organizations
def syncCustomers := syncKind SyncKind.customers

/-! ## All kinds -/

/-- A call of a cycle, with the kind it is made for. -/
abbrev CycleOp : Type := (n : SyncName) × SyncOp n.kind

def CycleOp.Resp (op : CycleOp) : Type := op.2.Resp

/-- The part of a cycle that is about one kind. -/
def forKind (n : SyncName) {α : Type} : SyncCtl n.kind α → Prog CycleOp CycleOp.Resp α
  | .ret a => .ret a
  | .call op k => .call ⟨n, op⟩ (fun r => forKind n (k r))

def ConfigSyncer.sync (lib : Ext) (s : ConfigSyncer) : Prog CycleOp CycleOp.Resp SyncResult := do
  let (result, cache) ← forKind .models (syncModels lib s [] {})
  let (result, cache) ← forKind .teams (syncTeams lib s cache result)
  let (result, cache) ← forKind .users (syncUsers lib s cache result)
  let (result, cache) ← forKind .keys (syncKeys lib s cache result)
  let (result, cache) ← forKind .organizations (syncOrganizations lib s cache result)
  let (result, _) ← forKind .customers (syncCustomers lib s cache result)
  pure result

end LitellmOperator
