import LitellmOperator.Api.Instance
import LitellmOperator.Effect.Protocol

/-! # What the controllers share

`internal/controller/common.go`: finding the instance a resource refers to, checking that the
instance admits it, and reading its master key and CA. The functions take a `client.Reader`, so
they run in any monad that can read the three kinds of object; the per-resource controllers and
the config sync supply their own.

What the operator takes from libraries that are not part of it is a parameter, `Ext`.
-/

set_option autoImplicit false

namespace LitellmOperator

open Effect Go Kube

/-! ## Library functions -/

/-- A value passed to `computeSpecHash`. -/
inductive SpecValue where
  | team (spec : LiteLLMTeamSpec)
  | user (spec : LiteLLMUserSpec)
  | virtualKey (spec : LiteLLMVirtualKeySpec)
  | organization (spec : LiteLLMOrganizationSpec)
  | customer (spec : LiteLLMCustomerSpec)
  | budget (spec : LiteLLMBudgetSpec)
  | model (spec : LiteLLMModelSpec) (params : ModelParams)
  | credential (spec : LiteLLMCredentialSpec) (apiKey : String) (payload : CredentialPayload)

/-- The third-party functions the controllers call. Nothing is assumed of them but that a spec
hash, the hexadecimal form of eight bytes, has sixteen characters, and that Argon2id makes keys of
the length it is asked for. -/
structure Ext where
  /-- `json.Marshal`, SHA-256 and `hex.EncodeToString` of the first eight bytes. -/
  computeSpecHash : SpecValue → String
  computeSpecHash_length : ∀ v, (computeSpecHash v).length = 16
  /-- `metav1.LabelSelectorAsSelector`: the parsed selector, as a predicate on label sets. -/
  labelSelectorAsSelector : LabelSelector → Except String (StrMap String → Bool)
  /-- `json.Unmarshal` into an `interface{}`. -/
  unmarshal : RawJSON → Option Json
  /-- `strconv.ParseFloat(_, 64)`. -/
  parseFloat : String → Option Float64
  /-- `argon2.IDKey` of a password, a salt, time, memory, threads and the length of the key. -/
  argon2IDKey : List UInt8 → List UInt8 → Nat → Nat → Nat → Nat → List UInt8
  argon2IDKey_length : ∀ password salt time memory threads keyLen,
    (argon2IDKey password salt time memory threads keyLen).length = keyLen

theorem Ext.computeSpecHash_ne (lib : Ext) (v : SpecValue) : lib.computeSpecHash v ≠ "" := by
  intro h
  have hlen := lib.computeSpecHash_length v
  rw [h] at hlen
  exact absurd hlen (by decide)

/-- Libraries that answer the simplest thing. -/
def Sample.lib : Ext where
  computeSpecHash _ := "0123456789abcdef"
  computeSpecHash_length _ := by decide
  labelSelectorAsSelector _ := .ok (fun _ => true)
  unmarshal _ := none
  parseFloat _ := none
  argon2IDKey _ _ _ _ _ keyLen := List.replicate keyLen 0
  argon2IDKey_length _ _ _ _ _ _ := List.length_replicate

/-- The decoded free-form params; an entry that does not decode is skipped. -/
def decodeJSONParams (lib : Ext) (params : StrMap RawJSON) : StrMap Json :=
  params.filterMap (fun e =>
    if e.2.raw = "" then none else (lib.unmarshal e.2).map (fun v => (e.1, v)))

/-! ## Constants -/

def finalizerName : String := "litellm.palena.ai/finalizer"
def annotationSyncHash : String := "litellm.palena.ai/sync-hash"
def annotationAdopted : String := "litellm.palena.ai/adopted"
def annotationAdoptedValue : String := "true"
def annotationAuthMode : String := "litellm.palena.ai/auth-mode"
def labelInstanceName : String := "litellm.palena.ai/instance"
def labelResourceType : String := "litellm.palena.ai/resource-type"
def conditionSynced : String := "Synced"
def conditionReady : String := "Ready"
def conditionInitialPasswordApplied : String := "InitialPasswordApplied"
def caCrtKey : String := "ca.crt"
def reasonRefNotPermitted : String := "RefNotPermitted"

def kindVirtualKey : String := AllowedNamespaceKind.virtualKey.toString
def kindTeam : String := AllowedNamespaceKind.team.toString
def kindUser : String := AllowedNamespaceKind.user.toString
def kindOrganization : String := AllowedNamespaceKind.organization.toString
def kindBudget : String := AllowedNamespaceKind.budget.toString
def kindCustomer : String := AllowedNamespaceKind.customer.toString
def kindModel : String := "LiteLLMModel"
def kindCredential : String := "LiteLLMCredential"

/-- Seconds a resource that needs an enterprise license waits before it is tried again. -/
def enterpriseLicenseRetryInterval : Nat := 120

/-! ## Reading through a client -/

/-- `client.Reader`, for the kinds of object the functions below read. -/
structure Reader (m : Type → Type) where
  getInstance : NamespacedName → m (Except Error LiteLLMInstance)
  getNamespace : String → m (Except Error Kube.Namespace)
  getSecret : NamespacedName → m (Except Error Secret)

/-- What the controllers need to call the admin API of an instance. -/
structure ResolvedInstance where
  endpoint : String
  masterKey : String
  caCert : String
  inst : LiteLLMInstance

section

variable {m : Type → Type} [Monad m] (lib : Ext) (c : Reader m)

variable (ns : String)

def getSecretValue (ref : Option SecretKeyRef) : ExceptT Error m String :=
  match ref with
  | none => throw (errorf "secret ref is nil")
  | some ref => do
    let secret ← orFail (c.getSecret ⟨ns, ref.name⟩)
      (wrapf ("fetch secret " ++ quote ref.name ++ ": "))
    match secret.data.get? ref.key with
    | none => throw (errorf ("key " ++ quote ref.key ++ " not found in secret " ++ quote ref.name))
    | some val => pure val

/-- The value of a Secret key, empty if the Secret or the key is absent. -/
def readSecretKey (ns name key : String) : m String := do
  match ← c.getSecret ⟨ns, name⟩ with
  | .error _ => pure ""
  | .ok secret => pure ((secret.data.get? key).getD "")

variable (inst : LiteLLMInstance)

/-- The Secret holding the admin master key. -/
def masterKeyRef : Option SecretKeyRef :=
  match inst.spec.masterKey.secretRef with
  | some ref => some ref
  | none =>
    if inst.spec.masterKey.autoGenerate
    then some ⟨inst.metadata.name ++ "-master-key", "master-key"⟩
    else none

/-- The trusted-CA Secret's bundle, or nothing. -/
def trustedCACert (tls : TLSSpec) : m String :=
  match tls.trustedCASecretRef with
  | none => pure ""
  | some ref => readSecretKey c ns ref.name (if ref.key = "" then caCrtKey else ref.key)

/-- The CA bundle to trust when calling the proxy over HTTPS: the one in the server certificate's
Secret, else the dedicated one. -/
def operatorProxyCACert : m String :=
  match inst.spec.tls with
  | none => pure ""
  | some tls =>
    match tls.serverCertSecretRef with
    | none => pure ""
    | some ref => do
      let pem ← readSecretKey c inst.metadata.ns ref.name caCrtKey
      if pem ≠ "" then pure pem else trustedCACert c inst.metadata.ns tls

/-! ## Admission -/

/-- Whether resources in `ns` may reference the instance. Its own namespace always may. -/
def instanceAllowsNamespace (ns : String) : m (Except Error Bool) :=
  if ns = inst.metadata.ns then pure (.ok true)
  else
    match inst.spec.allowedNamespaces with
    | none => pure (.ok false)
    | some allowed =>
      match allowed.fromNamespaces with
      | .all => pure (.ok true)
      | .selector =>
        match allowed.selector with
        | none => pure (.ok false)
        | some selector =>
          match lib.labelSelectorAsSelector selector with
          | .error e => pure (.error (wrapf "parse selector: " (errorf e)))
          | .ok selector => do
            match ← c.getNamespace ns with
            | .error e => pure (.error (wrapf ("fetch namespace " ++ quote ns ++ ": ") e))
            | .ok n => pure (.ok (selector n.labels))
      | _ => pure (.ok false)

omit [Monad m] in
/-- The check is decided without a lookup, or by the labels of the namespace alone, whatever it
is read through. -/
theorem instanceAllowsNamespace_cases (ns : String) :
    (∃ r, ∀ (m : Type → Type) [Monad m] (c : Reader m),
      instanceAllowsNamespace lib c inst ns = pure r) ∨
    (∃ sel : StrMap String → Bool, ∀ (m : Type → Type) [Monad m] (c : Reader m),
      instanceAllowsNamespace lib c inst ns = c.getNamespace ns >>= fun r =>
        match r with
        | .error e => pure (.error (wrapf ("fetch namespace " ++ quote ns ++ ": ") e))
        | .ok n => pure (.ok (sel n.labels))) := by
  unfold instanceAllowsNamespace
  by_cases hns : ns = inst.metadata.ns
  · exact .inl ⟨_, fun m _ c => if_pos hns⟩
  · simp only [if_neg hns]
    rcases inst.spec.allowedNamespaces with _ | ⟨_ | _ | _ | _, _ | selector, kinds⟩
    all_goals try exact .inl ⟨_, fun m _ c => rfl⟩
    -- a selector decides; one that does not parse is an error already
    simp only
    cases lib.labelSelectorAsSelector selector with
    | error e => exact .inl ⟨_, fun m _ c => rfl⟩
    | ok sel => exact .inr ⟨sel, fun m _ c => rfl⟩

/-- Whether a resource of this kind in `ns`, a namespace that is allowed, may reference the
instance. Kinds only restrict other namespaces. -/
def instanceAllowsKind (ns kind : String) : Bool :=
  ns = inst.metadata.ns || AllowedNamespaces.allowsKind inst.spec.allowedNamespaces kind

/-- Whether a resource in `ns` with this reference points at the instance. -/
def referencesInstance (ref : InstanceRef) (inst : LiteLLMInstance) : Bool :=
  ref.name = inst.metadata.name && ref.namespaceOr ns = inst.metadata.ns

/-- The allowedNamespaces check of `resolveInstanceRef`. -/
def checkAllowed (ns kind : String) : ExceptT Error m Unit := do
  let name := inst.metadata.ns ++ "/" ++ inst.metadata.name
  let allowed ← orFail (instanceAllowsNamespace lib c inst ns)
    (wrapf ("check allowedNamespaces of instance " ++ name ++ ": "))
  failIf (!allowed)
    (.wrap ("instance " ++ name ++ ": ") (.leaf .instanceRefNotPermitted) (" " ++ quote ns))
  failIf (!instanceAllowsKind inst ns kind)
    (.wrap ("instance " ++ name ++ ": ") (.leaf .instanceRefNotPermitted)
      (" " ++ quote ns ++ ": kind " ++ kind ++ " is not admitted by spec.allowedNamespaces.kinds"))

def resolveInstanceRef (ns kind : String) (ref : InstanceRef) (check : Bool) :
    ExceptT Error m ResolvedInstance := do
  let inst ← orFail (c.getInstance ⟨ref.namespaceOr ns, ref.name⟩)
    (wrapf ("fetch instance " ++ quote ref.name ++ ": "))
  let _ ← (if check then checkAllowed lib c inst ns kind else pure () : ExceptT Error m Unit)
  failIf (!inst.status.ready) (errorf ("instance " ++ quote ref.name ++ " is not ready"))
  let masterKey ← orFail (getSecretValue c inst.metadata.ns (masterKeyRef inst)).run
    (wrapf "get master key: ")
  let caCert ← ExceptT.lift (operatorProxyCACert c inst)
  pure ⟨inst.status.endpoint, masterKey, caCert, inst⟩

/-- The instance a resource refers to, if the instance admits it. -/
def resolveInstance (ns kind : String) (ref : InstanceRef) : ExceptT Error m ResolvedInstance :=
  resolveInstanceRef lib c ns kind ref true

/-- The same without the allowedNamespaces check, for finalizers. -/
def resolveInstanceForCleanup (ref : InstanceRef) : ExceptT Error m ResolvedInstance :=
  resolveInstanceRef lib c ns "" ref false

end

/-- A reader that knows nothing but how one namespace lookup comes out. -/
def namespaceReader (n : Except Error Kube.Namespace) : Reader Id where
  getInstance _ := .error (errorf "no instance")
  getNamespace _ := n
  getSecret _ := .error (errorf "no secret")

/-- Whether the allowedNamespaces check passes when the lookup of the resource's namespace comes
out as `n`. -/
def admits (lib : Ext) (inst : LiteLLMInstance) (ns kind : String)
    (n : Except Error Kube.Namespace) : Bool :=
  match (checkAllowed lib (namespaceReader n) inst ns kind).run with
  | .ok _ => true
  | .error _ => false

/-- What the check decides, once it is known how the namespace lookup comes out. -/
theorem admits_eq (lib : Ext) (inst : LiteLLMInstance) (ns kind : String)
    (n : Except Error Kube.Namespace) :
    admits lib inst ns kind n =
      match instanceAllowsNamespace lib (namespaceReader n) inst ns with
      | .ok allowed => allowed && instanceAllowsKind inst ns kind
      | .error _ => false := by
  unfold admits checkAllowed
  rcases instanceAllowsNamespace lib (namespaceReader n) inst ns with e | allowed
  · rfl
  cases allowed with
  | false => rfl
  | true =>
    show (match (failIf (!instanceAllowsKind inst ns kind) _ : ExceptT Error Id Unit).run with
      | .ok _ => true
      | .error _ => false) = instanceAllowsKind inst ns kind
    cases instanceAllowsKind inst ns kind with
    | false | true => rfl

/-- The condition reason for an error of `resolveInstance`. -/
def instanceRefFailureReason (e : Error) : String :=
  match e.root with
  | .instanceRefNotPermitted => reasonRefNotPermitted
  | _ => "InstanceNotReady"

/-- Whether the instance serves background health checks. -/
def backgroundHealthChecksEnabled (inst : LiteLLMInstance) : Bool :=
  match inst.spec.generalSettings with
  | none => false
  | some s => s.backgroundHealthChecks = some true

/-- A custom resource's object permission in the API's shape. -/
def mapObjectPermission (p : Option ObjectPermission) : Option ApiObjectPermission :=
  p.map (fun p => ⟨p.mcpServers, p.accessGroups, p.vectorStores, p.agents⟩)

/-- The entries of `existing`, overridden or supplemented by those of `desired`. A nil map stays nil
when there is nothing to add. -/
def mergeStringMaps (existing desired : Option (StrMap String)) : Option (StrMap String) :=
  if existing = none ∧ (desired.getD []).isEmpty then none
  else some ((desired.getD []).foldl (fun m e => m.set e.1 e.2) (existing.getD []))

def isAdopted (m : ObjectMeta) : Bool :=
  lookup m.annotations annotationAdopted = annotationAdoptedValue

/-! ## The calls of a per-resource controller

A controller reads and writes its own custom resource, reads other objects, writes Secrets, and
calls the LiteLLM admin API. `Op` lists these calls for a controller of a kind with given spec,
status and API requests; `Ctl` is a computation that makes them. An `update` or status write that
succeeds returns the stored object, which the client decodes over the caller's copy.
-/

/-- The requests of one LiteLLM service, each with the type of its result. -/
class Service (Api : Type) where
  Result : Api → Type

/-- Objects other than the reconciled one that the controllers read. -/
inductive Read where
  | getInstance (key : NamespacedName)
  | getNamespace (name : String)
  | getSecret (key : NamespacedName)
  /-- Straight from the API server, not from the cache. -/
  | getSecretUncached (key : NamespacedName)
  | getOrganization (key : NamespacedName)
  | getTeam (key : NamespacedName)
  | getUser (key : NamespacedName)
  | getCredential (key : NamespacedName)
  | listModels (ns : String)
  deriving DecidableEq

def Read.Obj : Read → Type
  | getInstance _ => LiteLLMInstance
  | getNamespace _ => Kube.Namespace
  | getSecret _ => Secret
  | getSecretUncached _ => Secret
  | getOrganization _ => LiteLLMOrganization
  | getTeam _ => LiteLLMTeam
  | getUser _ => LiteLLMUser
  | getCredential _ => LiteLLMCredential
  | listModels _ => List LiteLLMModel

inductive Op (Spec Status Api : Type) where
  | get (key : NamespacedName)
  | update (obj : Resource Spec Status)
  | statusUpdate (obj : Resource Spec Status)
  /-- `Status().Patch(obj, client.MergeFrom(base))`. -/
  | statusPatch (base obj : Resource Spec Status)
  | read (r : Read)
  | createSecret (secret : Secret)
  | updateSecret (secret : Secret)
  /-- `rand.Read` into a buffer of `n` bytes. -/
  | random (n : Nat)
  /-- A request to the admin API of an instance. -/
  | api (conn : ResolvedInstance) (req : Api)

def Op.Resp {Spec Status Api : Type} [Service Api] : Op Spec Status Api → Type
  | get _ => Except Error (Resource Spec Status)
  | update _ => Except Error (Resource Spec Status)
  | statusUpdate _ => Except Error (Resource Spec Status)
  | statusPatch _ _ => Except Error (Resource Spec Status)
  | read r => Except Error r.Obj
  | createSecret _ => Except Error Secret
  | updateSecret _ => Except Error Secret
  | random _ => Except Error (List UInt8)
  | api _ req => Except Error (Service.Result req)

abbrev Ctl (Spec Status Api : Type) [Service Api] (α : Type) : Type :=
  Prog (Op Spec Status Api) Op.Resp α

namespace Ctl

variable {Spec Status Api : Type} [Service Api]

def get (key : NamespacedName) : Ctl Spec Status Api (Except Error (Resource Spec Status)) :=
  Prog.perform (Op.get key : Op Spec Status Api)

def update (obj : Resource Spec Status) :
    Ctl Spec Status Api (Except Error (Resource Spec Status)) :=
  Prog.perform (Op.update obj : Op Spec Status Api)

def statusUpdate (obj : Resource Spec Status) :
    Ctl Spec Status Api (Except Error (Resource Spec Status)) :=
  Prog.perform (Op.statusUpdate obj : Op Spec Status Api)

def statusPatch (base obj : Resource Spec Status) :
    Ctl Spec Status Api (Except Error (Resource Spec Status)) :=
  Prog.perform (Op.statusPatch base obj : Op Spec Status Api)

def read (r : Read) : Ctl Spec Status Api (Except Error r.Obj) :=
  Prog.perform (Op.read r : Op Spec Status Api)

def createSecret (secret : Secret) : Ctl Spec Status Api (Except Error Secret) :=
  Prog.perform (Op.createSecret secret : Op Spec Status Api)

def updateSecret (secret : Secret) : Ctl Spec Status Api (Except Error Secret) :=
  Prog.perform (Op.updateSecret secret : Op Spec Status Api)

def random (n : Nat) : Ctl Spec Status Api (Except Error (List UInt8)) :=
  Prog.perform (Op.random n : Op Spec Status Api)

def api (conn : ResolvedInstance) (req : Api) :
    Ctl Spec Status Api (Except Error (Service.Result req)) :=
  Prog.perform (Op.api conn req : Op Spec Status Api)

/-- The controller's client as a reader of instances, namespaces and Secrets. -/
def client : Reader (Ctl Spec Status Api) where
  getInstance key := read (.getInstance key)
  getNamespace name := read (.getNamespace name)
  getSecret key := read (.getSecret key)

end Ctl

/-- `ctrl.Result`, with the delay in seconds. -/
structure Result where
  requeue : Bool := false
  requeueAfter : Nat := 0
  deriving DecidableEq

def after (seconds : Nat) : Result := { requeueAfter := seconds }

/-- How the reconciliation of a resource stops early: the caller's copy of the resource as it is
then, and what is returned. -/
structure Failure (Spec Status : Type) where
  cr : Resource Spec Status
  result : Result
  err : Error

/-- The reconciliation of a resource: the caller's copy at the end, and the result. -/
abbrev Body (Spec Status Api : Type) [Service Api] : Type :=
  ExceptT (Failure Spec Status) (Ctl Spec Status Api) (Resource Spec Status × Result)

end LitellmOperator
