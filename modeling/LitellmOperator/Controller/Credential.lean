import LitellmOperator.Controller.Reconcile

/-! # The LiteLLMCredential controller

`litellmcredential_controller.go`. A credential is known to LiteLLM by its name. Whether it has
been pushed is read off the sync hash annotation, and `status.configured` says whether the last
reconcile went through. A create that meets an existing credential becomes an update.
-/

set_option autoImplicit false

namespace LitellmOperator

open Effect Go Kube Ctl

inductive CredentialApi where
  | create (payload : CredentialPayload)
  | update (payload : CredentialPayload)
  | delete (credentialName : String)

instance : Service CredentialApi where
  Result _ := Unit

abbrev CredentialCtl : Type → Type :=
  Ctl LiteLLMCredentialSpec LiteLLMCredentialStatus CredentialApi

namespace Credential

/-! ## The payload -/

variable (cred : LiteLLMCredential)

def fetchAPIKey : ExceptT Error CredentialCtl String := do
  let ref := cred.spec.apiKeySecretRef
  let secret ← orFail (read (.getSecret ⟨cred.metadata.ns, ref.name⟩))
    (wrapf ("get Secret " ++ quote ref.name ++ ": "))
  match StrMap.get? secret.data ref.key with
  | none => throw (.wrap ("secret " ++ quote ref.name ++ ": ") (.leaf .secretKeyMissing)
      (": " ++ ref.key))
  | some val => pure val

variable (lib : Ext)

def credentialValues (cred : LiteLLMCredential) (apiKey : String) : StrMap Json :=
  let values : StrMap Json := [("api_key", .str apiKey)]
  let values := if cred.spec.apiBase ≠ "" then values.set "api_base" (.str cred.spec.apiBase)
    else values
  let values := if cred.spec.apiVersion ≠ ""
    then values.set "api_version" (.str cred.spec.apiVersion) else values
  (decodeJSONParams lib cred.spec.params).foldl
    (fun vs e => if (vs.get? e.1).isSome then vs else vs.set e.1 e.2) values

def buildCredentialPayload (cred : LiteLLMCredential) (apiKey : String) : CredentialPayload where
  credentialName := cred.spec.credentialName
  credentialValues := credentialValues lib cred apiKey
  credentialInfo := [("managed_by", .str "litellm-operator")]

/-! ## Status -/

def setStatus (configured : Bool) (reason message : String) :
    CredentialCtl Unit := do
  let condition : Condition :=
    { type := conditionReady, status := if configured then .true else .false, reason := reason
      message := message, observedGeneration := cred.metadata.generation }
  let cred := { cred with
    status.configured := configured
    status.conditions := setStatusCondition cred.status.conditions condition }
  let _ ← statusUpdate cred
  pure ()

def reportAPIError (op : String) (e : Error) :
    CredentialCtl Result := do
  setStatus cred false "APIError" (op ++ ": " ++ e.error)
  pure (if (isAPIError e).any (fun a => !a.isTransient) then after 300 else after 30)

/-! ## Pushing -/

inductive CredentialAction where
  | noop
  | create
  | update
  deriving DecidableEq

/-- What to push, decided by the sync hash annotation alone. -/
def planAction (currentHash : String) : CredentialAction :=
  if annotationAt cred annotationSyncHash = "" then .create
  else if annotationAt cred annotationSyncHash ≠ currentHash then .update
  else .noop

/-- Whether a create error means that the credential already exists. -/
def isCredentialConflict (e : Error) : Bool :=
  match isAPIError e with
  | none => false
  | some a =>
    a.statusCode = 400 || a.statusCode = 409 || contains (toLower a.message) "unique constraint" ||
      contains (toLower a.message) "already exists"

/-- Reports an API error and stops. -/
def failWith (op : String) (e : Error) :
    ExceptT Result CredentialCtl Unit := do
  let result ← ExceptT.lift (reportAPIError cred op e)
  throw result

variable (conn : ResolvedInstance)

/-- Creates the credential; one that already exists is updated. -/
def createCredential (cred : LiteLLMCredential) (payload : CredentialPayload) :
    ExceptT Result CredentialCtl Unit := do
  match ← ExceptT.lift (api conn (CredentialApi.create payload)) with
  | .ok _ => pure ()
  | .error e =>
    if isCredentialConflict e then do
      match ← ExceptT.lift (api conn (CredentialApi.update payload)) with
      | .ok _ => pure ()
      | .error ue => failWith cred "create credential (fallback to update)" ue
    else failWith cred "create credential" e

/-- Updates the credential; one deleted out of band is created again. -/
def updateCredential (cred : LiteLLMCredential) (payload : CredentialPayload) :
    ExceptT Result CredentialCtl Unit := do
  match ← ExceptT.lift (api conn (CredentialApi.update payload)) with
  | .ok _ => pure ()
  | .error e =>
    if (isAPIError e).any APIError.isNotFound then do
      match ← ExceptT.lift (api conn (CredentialApi.create payload)) with
      | .ok _ => pure ()
      | .error ce => failWith cred "recreate credential after 404" ce
    else failWith cred "update credential" e

def pushCredential (cred : LiteLLMCredential) (payload : CredentialPayload) (currentHash : String) :
    ExceptT Result CredentialCtl Unit :=
  match planAction cred currentHash with
  | .create => createCredential conn cred payload
  | .update => updateCredential conn cred payload
  | .noop => pure ()

/-! ## Reconcile -/

/-- How many models of the namespace refer to the credential; none if they cannot be listed. -/
def countReferencingModels : CredentialCtl Nat := do
  match ← read (.listModels cred.metadata.ns) with
  | .error _ => pure 0
  | .ok models => pure (models.countP (fun m =>
    m.spec.litellmParams.credentialRef = some ⟨cred.metadata.name⟩))

/-- Persists the sync hash if it changed. -/
def persistHash (currentHash : String) : CredentialCtl (Except Error LiteLLMCredential) :=
  if annotationAt cred annotationSyncHash = currentHash then pure (.ok cred)
  else update (annotate cred annotationSyncHash currentHash)

/-- `Reconcile` once the API key is known. -/
def syncCredential (resolved : ResolvedInstance) (cred : LiteLLMCredential) (apiKey : String) :
    CredentialCtl (Result × Option Error) := do
  let payload := buildCredentialPayload lib cred apiKey
  let currentHash := lib.computeSpecHash (.credential cred.spec apiKey payload)
  match ← (pushCredential resolved cred payload currentHash).run with
  | .error result => pure (result, none)
  | .ok _ => do
    match ← persistHash cred currentHash with
    | .error e => pure ({}, some e)
    | .ok cred => do
      let refCount ← countReferencingModels cred
      let cred := { cred with status.referencedByModels := refCount }
      setStatus cred true "Synced" "Credential registered with LiteLLM"
      pure (after 300, none)

/-- `Reconcile` once the finalizer is in place. -/
def reconcileLive (cred : LiteLLMCredential) : CredentialCtl (Result × Option Error) := do
  match ← (resolveInstance lib client cred.metadata.ns kindCredential
      cred.spec.instanceRef).run with
  | .error e => do
    let reason := if e.unwrap.any isNotFound then "InstanceNotFound"
      else instanceRefFailureReason e
    setStatus cred false reason e.error
    pure (after 30, none)
  | .ok resolved => do
    match ← (fetchAPIKey cred).run with
    | .error e => do
      let reason := if e.root = .secretKeyMissing then "SecretKeyMissing"
        else if e.unwrap.any isNotFound then "SecretNotFound" else "SecretFetchFailed"
      setStatus cred false reason e.error
      pure (after 30, none)
    | .ok apiKey => syncCredential lib resolved cred apiKey

def target : Option String :=
  if cred.status.configured then some cred.spec.credentialName else none

def reconcile (req : NamespacedName) : CredentialCtl (Result × Option Error) := do
  match ← Ctl.get req with
  | .error e => pure ({}, if isNotFound e then none else some e)
  | .ok cred =>
    if cred.metadata.deleting then
      handleDeletion lib (·.instanceRef) target .delete cred
    else
      match ← ensureFinalizer cred with
      | .error e => pure ({}, some e)
      | .ok cred => reconcileLive lib cred

end Credential

end LitellmOperator
