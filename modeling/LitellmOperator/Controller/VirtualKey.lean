import LitellmOperator.Controller.Reconcile

/-! # The LiteLLMVirtualKey controller

`litellmvirtualkey_controller.go`. A key is generated once; its material goes into a Secret and
its token into the status. LiteLLM keeps only a hash of the key, so when the Secret is gone the
key is rotated.
-/

set_option autoImplicit false

namespace LitellmOperator

open Effect Go Kube Ctl

inductive KeyApi where
  | generate (req : KeyGenerateRequest)
  | update (req : KeyUpdateRequest)
  | delete (token : String)
  | get (token : String)
  deriving DecidableEq

instance : Service KeyApi where
  Result
    | .generate _ => KeyGenerateResponse
    | .get _ => KeyInfo
    | _ => Unit

abbrev KeyCtl : Type → Type := Ctl LiteLLMVirtualKeySpec LiteLLMVirtualKeyStatus KeyApi

abbrev KeyFailure : Type := Failure LiteLLMVirtualKeySpec LiteLLMVirtualKeyStatus

namespace VirtualKey

/-! ## Requests -/

variable (lib : Ext)

/-- The budgets that parse as numbers. -/
def parseModelMaxBudget (budgets : StrMap String) : StrMap Float64 :=
  budgets.filterMap (fun e => (lib.parseFloat e.2).map (fun f => (e.1, f)))

def generateRequest (vk : LiteLLMVirtualKey) (teamID userID : String) : KeyGenerateRequest where
  keyAlias := vk.spec.keyAlias
  teamID := teamID
  userID := userID
  models := vk.spec.models
  maxBudget := vk.spec.maxBudget
  budgetDuration := vk.spec.budgetDuration
  expiresAt := vk.spec.expiresAt
  tpmLimit := vk.spec.tpmLimit
  rpmLimit := vk.spec.rpmLimit
  metadata := vk.spec.metadata
  modelMaxBudget := parseModelMaxBudget lib vk.spec.modelMaxBudget
  maxParallelRequests := vk.spec.maxParallelRequests
  guardrails := vk.spec.guardrails
  blocked := vk.spec.blocked
  softBudget := vk.spec.softBudget
  modelRPMLimit := vk.spec.modelRPMLimit
  modelTPMLimit := vk.spec.modelTPMLimit
  objectPermission := mapObjectPermission vk.spec.objectPermission

def updateRequest (vk : LiteLLMVirtualKey) : KeyUpdateRequest where
  token := vk.status.litellmKeyToken
  models := vk.spec.models
  maxBudget := vk.spec.maxBudget
  budgetDuration := vk.spec.budgetDuration
  tpmLimit := vk.spec.tpmLimit
  rpmLimit := vk.spec.rpmLimit
  metadata := vk.spec.metadata
  modelMaxBudget := parseModelMaxBudget lib vk.spec.modelMaxBudget
  maxParallelRequests := vk.spec.maxParallelRequests
  guardrails := vk.spec.guardrails
  blocked := vk.spec.blocked
  softBudget := vk.spec.softBudget
  modelRPMLimit := vk.spec.modelRPMLimit
  modelTPMLimit := vk.spec.modelTPMLimit
  objectPermission := mapObjectPermission vk.spec.objectPermission

/-- The hash of what is pushed to LiteLLM; the Secret plumbing is not. -/
def keySyncHash (spec : LiteLLMVirtualKeySpec) : String :=
  lib.computeSpecHash (.virtualKey { spec with keySecretName := "", keySecretTemplate := none })

/-! ## References -/

variable (vk : LiteLLMVirtualKey)

def resolveTeamRef : ExceptT Error KeyCtl String :=
  match vk.spec.teamRef with
  | none => pure ""
  | some ref => do
    let team ← orFail (read (.getTeam ⟨vk.metadata.ns, ref.name⟩))
      (wrapf ("resolve team ref " ++ quote ref.name ++ ": "))
    failIf (team.status.litellmTeamID = "")
      (errorf ("team " ++ quote ref.name ++ " not yet synced"))
    pure team.status.litellmTeamID

def resolveUserRef : ExceptT Error KeyCtl String :=
  match vk.spec.userRef with
  | none => pure ""
  | some ref => do
    let user ← orFail (read (.getUser ⟨vk.metadata.ns, ref.name⟩))
      (wrapf ("resolve user ref " ++ quote ref.name ++ ": "))
    failIf (user.status.litellmUserID = "")
      (errorf ("user " ++ quote ref.name ++ " not yet synced"))
    pure user.status.litellmUserID

/-! ## The key Secret -/

/-- The Secret of this key; once a key is minted the name is pinned by the status. -/
def keySecretName : String :=
  match vk.status.keySecretRef.filter (·.name ≠ "") with
  | some ref => ref.name
  | none => if vk.spec.keySecretName ≠ "" then vk.spec.keySecretName else vk.metadata.name ++ "-key"

def keySecretExists : KeyCtl (Except Error Bool) := do
  match ← read (.getSecretUncached ⟨vk.metadata.ns, keySecretName vk⟩) with
  | .ok _ => pure (.ok true)
  | .error e => if isNotFound e then pure (.ok false) else pure (.error e)

def desiredLabels : Option (StrMap String) :=
  let labels := some [(labelInstanceName, vk.spec.instanceRef.name),
    (labelResourceType, "virtual-key")]
  match vk.spec.keySecretTemplate with
  | none => labels
  | some tmpl => mergeStringMaps (some tmpl.labels) labels

def desiredAnnotations : Option (StrMap String) := vk.spec.keySecretTemplate.map (·.annotations)

/-- The Secret as it is created for a fresh key, owned by the resource. -/
def newKeySecret (apiKey : String) : Option Secret :=
  let metadata : ObjectMeta :=
    { name := keySecretName vk, ns := vk.metadata.ns
      labels := desiredLabels vk, annotations := desiredAnnotations vk }
  (setControllerReference kindVirtualKey vk.metadata metadata).map (fun metadata =>
    { metadata := metadata, data := [], stringData := [("api_key", apiKey)] })

def mapsEqual (a b : Option (StrMap String)) : Bool := StrMap.equal (a.getD []) (b.getD [])

/-- The existing Secret brought to what the resource wants, and whether that changed it; `none`
when another controller owns it. -/
def adjustKeySecret (existing : Secret) (apiKey : String) : Option (Secret × Bool) :=
  let owned := isControlledBy existing.metadata vk.metadata
  let metadata? := if owned then some existing.metadata
    else setControllerReference kindVirtualKey vk.metadata existing.metadata
  metadata?.map (fun metadata =>
    let labels := mergeStringMaps metadata.labels (desiredLabels vk)
    let annotations := mergeStringMaps metadata.annotations (desiredAnnotations vk)
    let sameLabels := mapsEqual metadata.labels labels
    let sameAnnotations := mapsEqual metadata.annotations annotations
    let metadata := { metadata with
      labels := if sameLabels then metadata.labels else labels
      annotations := if sameAnnotations then metadata.annotations else annotations }
    let secret := { existing with
      metadata := metadata
      stringData := if apiKey ≠ "" then [("api_key", apiKey)] else existing.stringData }
    (secret, !owned || !sameLabels || !sameAnnotations || apiKey ≠ ""))

def alreadyOwned : Error := errorf "Object is already owned by another controller"

/-- Ensures the key Secret exists with the declared labels and annotations. `apiKey` is the fresh
key material, or empty on a pass where no key was generated. -/
def reconcileKeySecret (apiKey : String) : ExceptT Error KeyCtl Unit := do
  match ← ExceptT.lift (read (.getSecret ⟨vk.metadata.ns, keySecretName vk⟩)) with
  | .error e =>
    if isNotFound e then
      if apiKey = "" then throw (.leaf .keySecretGone)
      else
        match newKeySecret vk apiKey with
        | none => throw (wrapf "set owner ref on key secret: " alreadyOwned)
        | some secret => do
          let _ ← orFail (createSecret secret) (wrapf "create key secret: ")
          pure ()
    else throw (wrapf "get key secret: " e)
  | .ok existing =>
    match adjustKeySecret vk existing apiKey with
    | none => throw (wrapf "set owner ref on key secret: " alreadyOwned)
    | some (secret, changed) =>
      if changed then do
        let _ ← orFail (updateSecret secret) id
        pure ()
      else pure ()

/-! ## Minting, rotating and updating -/

variable (conn : ResolvedInstance)

/-- Drops a key whose Secret is missing, so that a replacement is minted. Deleting the orphaned
key is best effort. -/
def dropOrphanedKey (vk : LiteLLMVirtualKey) : ExceptT KeyFailure KeyCtl LiteLLMVirtualKey :=
  if vk.status.litellmKeyToken = "" then pure vk
  else do
    let exist ← orFail (keySecretExists vk) (fun e => ⟨vk, after 30, wrapf "check key secret: " e⟩)
    if exist then pure vk
    else do
      let _ ← ExceptT.lift (api conn (KeyApi.delete vk.status.litellmKeyToken))
      pure { vk with
        status.litellmKeyToken := "", status.keySecretRef := none, status.synced := false }

def mintKey (teamID userID : String) (vk : LiteLLMVirtualKey) :
    ExceptT KeyFailure KeyCtl LiteLLMVirtualKey := do
  let resp ← orFail (api conn (KeyApi.generate (generateRequest lib vk teamID userID)))
    (fun e => ⟨vk, after 30, wrapf "generate key: " e⟩)
  let secretName := keySecretName vk
  let _ ← orFail (reconcileKeySecret vk resp.key).run (fun e => ⟨vk, {}, e⟩)
  let vk := { vk with
    status.litellmKeyToken := resp.token
    status.keySecretRef := some ⟨secretName, "api_key"⟩
    status.isActive := true
    status.synced := true }
  recordCreated "update status after generate: " (keySyncHash lib) vk

def pushKey (vk : LiteLLMVirtualKey) : ExceptT KeyFailure KeyCtl LiteLLMVirtualKey :=
  let currentHash := keySyncHash lib vk.spec
  if annotationAt vk annotationSyncHash = currentHash then pure vk
  else do
    let _ ← orFail (api conn (KeyApi.update (updateRequest lib vk)))
      (fun e => ⟨vk, after 30, wrapf "update key: " e⟩)
    storeSyncHash vk currentHash

def withInfo (info : Except Error KeyInfo) : LiteLLMVirtualKey :=
  match info with
  | .ok info => { vk with status.currentSpend := info.spend, status.isActive := info.isActive }
  | .error _ => vk

/-- The update path: push spec changes, keep the Secret's metadata in shape, refresh the spend. A
Secret deleted meanwhile asks for an immediate requeue. -/
def updateKey (vk : LiteLLMVirtualKey) :
    Body LiteLLMVirtualKeySpec LiteLLMVirtualKeyStatus KeyApi := do
  let vk ← pushKey lib conn vk
  match ← ExceptT.lift (reconcileKeySecret vk "").run with
  | .error e =>
    if e.root = .keySecretGone then pure (vk, { requeue := true })
    else throw ⟨vk, {}, e⟩
  | .ok _ => do
    let info ← ExceptT.lift (api conn (KeyApi.get vk.status.litellmKeyToken))
    pure (withInfo vk info, after 300)

def mintOrUpdateKey (teamID userID : String) (vk : LiteLLMVirtualKey) :
    Body LiteLLMVirtualKeySpec LiteLLMVirtualKeyStatus KeyApi :=
  if vk.status.litellmKeyToken = "" then do
    let vk ← mintKey lib conn teamID userID vk
    pure (vk, after 300)
  else updateKey lib conn vk

/-! ## Reconcile -/

def reconcileKey (vk : LiteLLMVirtualKey) (resolved : ResolvedInstance) :
    Body LiteLLMVirtualKeySpec LiteLLMVirtualKeyStatus KeyApi := do
  let teamID ← orFail (resolveTeamRef vk).run (fun e => ⟨vk, after 30, e⟩)
  let userID ← orFail (resolveUserRef vk).run (fun e => ⟨vk, after 30, e⟩)
  let vk ← dropOrphanedKey resolved vk
  mintOrUpdateKey lib resolved teamID userID vk

def target : Option String :=
  if vk.status.litellmKeyToken ≠ "" then some vk.status.litellmKeyToken else none

def controller : Controller LiteLLMVirtualKeySpec LiteLLMVirtualKeyStatus KeyApi where
  kind := kindVirtualKey
  instanceRef := (·.instanceRef)
  conditions := (·.conditions)
  setConditions st cs := { st with conditions := cs }
  syncedMessage := "Virtual key synced to LiteLLM"
  observes := false
  enterprise := true
  target := target
  delete := .delete
  body := reconcileKey lib

def reconcile (req : NamespacedName) : KeyCtl (Result × Option Error) :=
  (controller lib).reconcile lib req

end VirtualKey

end LitellmOperator
