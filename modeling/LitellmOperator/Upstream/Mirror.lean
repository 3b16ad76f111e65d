import LitellmOperator.Record.Basic
import LitellmOperator.Sync.Rules

/-! # The fields of a body

What the create and update requests look like on the wire: which JSON fields the body has, and with
which value. Of the body of a model only the two fields are here that the config sync compares. A
field whose tag has `omitempty` is left out when it is zero, that is
an empty string, list or map, or a nil pointer.
-/

set_option autoImplicit false

namespace LitellmOperator

open Go Kube Effect Protocol Ctl Scene

/-- The JSON fields of these requests, one for each tag. -/
inductive Field where
  | teamID
  | teamAlias
  | organizationID
  | organizationAlias
  | models
  | maxBudget
  | budgetDuration
  | tpmLimit
  | rpmLimit
  | teamMemberRPMLimit
  | teamMemberTPMLimit
  | teamMemberBudget
  | maxParallelRequests
  | softBudget
  | modelRPMLimit
  | modelTPMLimit
  | objectPermission
  | metadata
  | tags
  | guardrails
  | blocked
  | userID
  | userEmail
  | userRole
  | teams
  | autoCreateKey
  | keyAlias
  | key
  | expires
  | modelMaxBudget
  | aliasName
  | budgetID
  | allowedModelRegion
  | defaultModel
  | modelName
  | model
  deriving DecidableEq

inductive FieldValue where
  | text (s : String)
  | texts (xs : List String)
  | number (x : Float64)
  | integer (n : Int)
  | flag (b : Bool)
  | time (t : Time)
  | textMap (m : StrMap String)
  | integerMap (m : StrMap Int)
  | numberMap (m : StrMap Float64)
  | permission (p : ApiObjectPermission)
  | memberships (ts : List UserTeam)
  deriving DecidableEq

/-- A body, or what LiteLLM stores of it. -/
abbrev Fields : Type := Field → Option FieldValue

namespace FieldValue

/-- A string with `omitempty`. -/
def ofText (s : String) : Option FieldValue := if s = "" then none else some (.text s)

/-- A list or map with `omitempty`. -/
def ofList {α : Type} (mk : List α → FieldValue) : List α → Option FieldValue
  | [] => none
  | x :: xs => some (mk (x :: xs))

end FieldValue

/-- The field has a value, and not the empty string. -/
def Given (v : Option FieldValue) : Prop := v ≠ none ∧ v ≠ some (.text "")

instance (v : Option FieldValue) : Decidable (Given v) := inferInstanceAs (Decidable (_ ∧ _))

theorem ofText_of_given {s : String} (h : Given (some (.text s))) :
    FieldValue.ofText s = some (.text s) := by
  refine if_neg (fun hs => h.2 ?_)
  rw [hs]

open FieldValue

/-! ## Teams -/

def TeamCreateRequest.fields (req : TeamCreateRequest) : Fields
  | .teamID => ofText req.teamID
  | .teamAlias => some (.text req.teamAlias)
  | .organizationID => ofText req.organizationID
  | .models => ofList .texts req.models
  | .maxBudget => req.maxBudget.map .number
  | .budgetDuration => ofText req.budgetDuration
  | .tpmLimit => req.tpmLimit.map .integer
  | .rpmLimit => req.rpmLimit.map .integer
  | .teamMemberRPMLimit => req.teamMemberRPMLimit.map .integer
  | .teamMemberTPMLimit => req.teamMemberTPMLimit.map .integer
  | .teamMemberBudget => req.teamMemberBudget.map .number
  | .maxParallelRequests => req.maxParallelRequests.map .integer
  | .softBudget => req.softBudget.map .number
  | .modelRPMLimit => ofList .integerMap req.modelRPMLimit
  | .modelTPMLimit => ofList .integerMap req.modelTPMLimit
  | .objectPermission => req.objectPermission.map .permission
  | .metadata => ofList .textMap req.metadata
  | .tags => ofList .texts req.tags
  | .guardrails => ofList .texts req.guardrails
  | .blocked => req.blocked.map .flag
  | _ => none

/-- An update has no limits for members. -/
def TeamUpdateRequest.fields (req : TeamUpdateRequest) : Fields
  | .teamID => some (.text req.teamID)
  | .teamAlias => ofText req.teamAlias
  | .organizationID => ofText req.organizationID
  | .models => ofList .texts req.models
  | .maxBudget => req.maxBudget.map .number
  | .budgetDuration => ofText req.budgetDuration
  | .tpmLimit => req.tpmLimit.map .integer
  | .rpmLimit => req.rpmLimit.map .integer
  | .teamMemberBudget => req.teamMemberBudget.map .number
  | .maxParallelRequests => req.maxParallelRequests.map .integer
  | .softBudget => req.softBudget.map .number
  | .modelRPMLimit => ofList .integerMap req.modelRPMLimit
  | .modelTPMLimit => ofList .integerMap req.modelTPMLimit
  | .objectPermission => req.objectPermission.map .permission
  | .metadata => ofList .textMap req.metadata
  | .tags => ofList .texts req.tags
  | .guardrails => ofList .texts req.guardrails
  | .blocked => req.blocked.map .flag
  | _ => none

/-! ## Users -/

/-- The body of a create and of an update. -/
def UserCreateRequest.fields (req : UserCreateRequest) : Fields
  | .userID => some (.text req.userID)
  | .userEmail => ofText req.userEmail
  | .userRole => ofText req.userRole
  | .maxBudget => req.maxBudget.map .number
  | .budgetDuration => ofText req.budgetDuration
  | .models => ofList .texts req.models
  | .teams => ofList .memberships req.teams
  | .tpmLimit => req.tpmLimit.map .integer
  | .rpmLimit => req.rpmLimit.map .integer
  | .softBudget => req.softBudget.map .number
  | .modelRPMLimit => ofList .integerMap req.modelRPMLimit
  | .modelTPMLimit => ofList .integerMap req.modelTPMLimit
  | .objectPermission => req.objectPermission.map .permission
  | .metadata => ofList .textMap req.metadata
  | .blocked => req.blocked.map .flag
  | .autoCreateKey => req.autoCreateKey.map .flag
  | _ => none

/-! ## Keys -/

def KeyGenerateRequest.fields (req : KeyGenerateRequest) : Fields
  | .keyAlias => ofText req.keyAlias
  | .teamID => ofText req.teamID
  | .userID => ofText req.userID
  | .models => ofList .texts req.models
  | .maxBudget => req.maxBudget.map .text
  | .budgetDuration => ofText req.budgetDuration
  | .expires => req.expiresAt.map .time
  | .tpmLimit => req.tpmLimit.map .integer
  | .rpmLimit => req.rpmLimit.map .integer
  | .metadata => ofList .textMap req.metadata
  | .modelMaxBudget => ofList .numberMap req.modelMaxBudget
  | .maxParallelRequests => req.maxParallelRequests.map .integer
  | .guardrails => ofList .texts req.guardrails
  | .blocked => req.blocked.map .flag
  | .softBudget => req.softBudget.map .number
  | .modelRPMLimit => ofList .integerMap req.modelRPMLimit
  | .modelTPMLimit => ofList .integerMap req.modelTPMLimit
  | .objectPermission => req.objectPermission.map .permission
  | _ => none

/-- An update has no alias, team, user or expiry. -/
def KeyUpdateRequest.fields (req : KeyUpdateRequest) : Fields
  | .key => some (.text req.token)
  | .models => ofList .texts req.models
  | .maxBudget => req.maxBudget.map .text
  | .budgetDuration => ofText req.budgetDuration
  | .tpmLimit => req.tpmLimit.map .integer
  | .rpmLimit => req.rpmLimit.map .integer
  | .metadata => ofList .textMap req.metadata
  | .modelMaxBudget => ofList .numberMap req.modelMaxBudget
  | .maxParallelRequests => req.maxParallelRequests.map .integer
  | .guardrails => ofList .texts req.guardrails
  | .blocked => req.blocked.map .flag
  | .softBudget => req.softBudget.map .number
  | .modelRPMLimit => ofList .integerMap req.modelRPMLimit
  | .modelTPMLimit => ofList .integerMap req.modelTPMLimit
  | .objectPermission => req.objectPermission.map .permission
  | _ => none

/-! ## Organizations -/

def OrganizationCreateRequest.fields (req : OrganizationCreateRequest) : Fields
  | .organizationAlias => some (.text req.organizationAlias)
  | .models => ofList .texts req.models
  | .maxBudget => req.maxBudget.map .number
  | .budgetDuration => ofText req.budgetDuration
  | .tpmLimit => req.tpmLimit.map .integer
  | .rpmLimit => req.rpmLimit.map .integer
  | .softBudget => req.softBudget.map .number
  | .modelRPMLimit => ofList .integerMap req.modelRPMLimit
  | .modelTPMLimit => ofList .integerMap req.modelTPMLimit
  | .objectPermission => req.objectPermission.map .permission
  | .metadata => ofList .textMap req.metadata
  | _ => none

def OrganizationUpdateRequest.fields (req : OrganizationUpdateRequest) : Fields
  | .organizationID => some (.text req.organizationID)
  | .organizationAlias => ofText req.organizationAlias
  | .models => ofList .texts req.models
  | .maxBudget => req.maxBudget.map .number
  | .budgetDuration => ofText req.budgetDuration
  | .tpmLimit => req.tpmLimit.map .integer
  | .rpmLimit => req.rpmLimit.map .integer
  | .softBudget => req.softBudget.map .number
  | .modelRPMLimit => ofList .integerMap req.modelRPMLimit
  | .modelTPMLimit => ofList .integerMap req.modelTPMLimit
  | .objectPermission => req.objectPermission.map .permission
  | .metadata => ofList .textMap req.metadata
  | _ => none

/-! ## Customers -/

def CustomerCreateRequest.fields (req : CustomerCreateRequest) : Fields
  | .userID => some (.text req.userID)
  | .aliasName => ofText req.aliasName
  | .maxBudget => req.maxBudget.map .number
  | .budgetDuration => ofText req.budgetDuration
  | .budgetID => ofText req.budgetID
  | .tpmLimit => req.tpmLimit.map .integer
  | .rpmLimit => req.rpmLimit.map .integer
  | .allowedModelRegion => ofText req.allowedModelRegion
  | .defaultModel => ofText req.defaultModel
  | .models => ofList .texts req.models
  | .blocked => req.blocked.map .flag
  | .objectPermission => req.objectPermission.map .permission
  | .metadata => ofList .textMap req.metadata
  | _ => none

def CustomerUpdateRequest.fields (req : CustomerUpdateRequest) : Fields
  | .userID => some (.text req.userID)
  | .aliasName => ofText req.aliasName
  | .maxBudget => req.maxBudget.map .number
  | .budgetDuration => ofText req.budgetDuration
  | .budgetID => ofText req.budgetID
  | .tpmLimit => req.tpmLimit.map .integer
  | .rpmLimit => req.rpmLimit.map .integer
  | .allowedModelRegion => ofText req.allowedModelRegion
  | .defaultModel => ofText req.defaultModel
  | .models => ofList .texts req.models
  | .blocked => req.blocked.map .flag
  | .objectPermission => req.objectPermission.map .permission
  | .metadata => ofList .textMap req.metadata
  | _ => none

/-! ## Models -/

/-- Neither the name of a model nor `litellm_params.model` has `omitempty`. -/
def ModelCreateRequest.fields (req : ModelCreateRequest) : Fields
  | .modelName => some (.text req.modelName)
  | .model => some (.text req.litellmParams.model)
  | _ => none

/-! ## What LiteLLM stores of a resource

A create stores the fields its body has, and an update overwrites the fields that its body has.
`Mirror` says for one kind which requests do so, and which bodies the controller sends for a spec.
Each kind proves that its reconcile pushes in one of four ways (`Pushes`): it creates the object,
updates it, leaves it because the sync hash is that of the spec, or creates another in its place.

An object that was created for one spec and updated for another has the fields of the first in
which an update does not send them. `Mirroring.fields_agree_iff` says when these are the fields
that creating the object for the second spec would have left.
-/

/-- What a request that was carried out did to an object. -/
inductive Change where
  | create (body : Fields)
  | update (body : Fields)
  | delete
  /-- It was looked up. -/
  | find

/-- The objects that LiteLLM has, with the fields it stores of each. -/
abbrev Objects : Type := Obj → Option Fields

/-- How a kind of resource is mirrored in LiteLLM. -/
structure Mirror where
  R : Reconciler
  Refs : Type
  refs : R.RPass → String → R.Spec → Option Refs
  object : R.Spec → R.Status → Option String
  /-- The id that a spec gives to its object; none if LiteLLM generates it. -/
  names : R.Spec → Option String
  /-- The id that an update of the object with this id is addressed to. -/
  address : R.Spec → String → String
  created : R.Spec → Refs → Fields
  /-- The body of an update of the object with this id. -/
  updated : R.Spec → Refs → String → Fields
  change : Served R.Api → Option (String × Change)
  honest : (req : R.Api) → Service.Result req → Prop
  /-- What the reconcile of a bound resource has to meet if it is to keep the object. -/
  ready : R.RPass → R.CR → Prop
  /-- The fields that a create sends and an update does not. -/
  createOnly : Field → Bool
  /-- The fields that LiteLLM generates. -/
  generated : Field → Bool

variable {key : NamespacedName}

namespace Mirror

variable (M : Mirror)

def serve (s : Objects) (r : Served M.R.Api) : Objects :=
  match M.change r with
  | some (x, .create body) => Function.update s (r.key, x) (some body)
  | some (x, .update body) =>
    Function.update s (r.key, x) ((s (r.key, x)).map (fun old => Record.overlay none old body))
  | some (x, .delete) => Function.update s (r.key, x) none
  | some (_, .find) => s
  | none => s

def objects (log : List (Served M.R.Api)) : Objects :=
  log.foldr (fun r s => M.serve s r) (fun _ => none)

theorem objects_cons (r : Served M.R.Api) (log : List (Served M.R.Api)) :
    M.objects (r :: log) = M.serve (M.objects log) r := rfl

/-- The kind sends this field. -/
def Sends (f : Field) : Prop := ∃ s refs, M.created s refs f ≠ none

/-- Every field that the kind sends has a value other than zero. -/
def Full (s : M.R.Spec) (refs : M.Refs) : Prop := ∀ f, M.Sends f → Given (M.created s refs f)

/-- The fields of the object of the resource as it is stored now. -/
def fields (σ : M.R.RScene) : Option Fields :=
  σ.world.store.current.bind (fun v => (M.object v.spec v.status).bind (fun y =>
    M.objects σ.log (M.R.kind.refKey v, y)))

/-- LiteLLM answers as assumed. -/
def Honest (E : M.R.RPass) : Prop := ∀ τ conn req a, E.serve τ conn req = .ok a → M.honest req a

/-- LiteLLM answers as assumed, and updates, deletes and finds only objects that it has. -/
structure Truthful (E : M.R.RPass) : Prop where
  honest : ∀ τ conn req a, E.serve τ conn req = .ok a → M.honest req a
  known : ∀ τ conn req a x ch, E.serve τ conn req = .ok a →
    M.change ⟨conn.inst.metadata.key, req, a⟩ = some (x, ch) → (∀ body, ch ≠ .create body) →
    (M.objects τ.log (conn.inst.metadata.key, x)).isSome = true

/-- The reconcile starts from `v`. If `v` has no object then there is none anywhere. -/
structure Sits (E : M.R.RPass) (τ : M.R.RScene) (v : M.R.CR) : Prop where
  now : τ.Now v
  live : v.metadata.deleting = false
  vacant : M.object v.spec v.status = none → M.Truthful E ∧ ∀ o, M.objects τ.log o = none

/-- What becomes of the objects when the spec of `v` is pushed; its object then has the id `y`. -/
inductive Pushes (E : M.R.RPass) (s : Objects) (v : M.R.CR) (key : NamespacedName)
    (refs : M.Refs) (hash y : String) : Objects → Prop where
  | created (h : M.object v.spec v.status = none) (hnamed : ∀ x, M.names v.spec = some x → y = x) :
      Pushes E s v key refs hash y (Function.update s (key, y) (some (M.created v.spec refs)))
  | updated (h : M.object v.spec v.status = some y) (hready : M.ready E v) :
      Pushes E s v key refs hash y (Function.update s (key, M.address v.spec y)
        ((s (key, M.address v.spec y)).map
          (fun old => Record.overlay none old (M.updated v.spec refs y))))
  | skipped (h : M.object v.spec v.status = some y) (hready : M.ready E v)
      (hhash : syncHash v = hash) :
      Pushes E s v key refs hash y s
  /-- The old object is deleted first, or an attempt is made at that. -/
  | replaced {x : String} {s' : Objects} (h : M.object v.spec v.status = some x)
      (hready : ¬ M.ready E v) (hdrop : s' = s ∨ s' = Function.update s (key, x) none) :
      Pushes E s v key refs hash y (Function.update s' (key, y) (some (M.created v.spec refs)))

/-- The copy `v` and the stored resource `c` have the object `y`, and `c` the hash; `s` are the
objects. -/
structure Recorded (cr : M.R.CR) (hash y : String) (s : Objects) (v c : M.R.CR)
    (τ : M.R.RScene) : Prop where
  now : τ.Now c
  rv : v.rv = c.rv
  live : c.metadata.deleting = false
  spec : c.spec = cr.spec
  ns : c.metadata.ns = cr.metadata.ns
  object : M.object cr.spec v.status = some y
  stored : M.object cr.spec c.status = some y
  hash : syncHash c = hash
  objects : M.objects τ.log = s

/-- The spec of `cr` was pushed and that is recorded. -/
def Pushed (E : M.R.RPass) (s : Objects) (cr : M.R.CR) (key : NamespacedName)
    (hash : M.Refs → String) (v c : M.R.CR) (τ : M.R.RScene) : Prop :=
  ∃ refs y s', M.refs E cr.metadata.ns cr.spec = some refs ∧
    M.Pushes E s cr key refs (hash refs) y s' ∧ M.Recorded cr (hash refs) y s' v c τ

variable {M} {lib : Ext} {home hash y : String} {hashOf : M.Refs → String}
variable {E : M.R.RPass} {τ τ' : M.R.RScene} {s : Objects} {cr v v' c : M.R.CR}

/-! ## Rules -/

/-- Requests that change no object. -/
def IsIdle (M : Mirror) (req : M.R.Api) : Prop :=
  ∀ key a, M.change ⟨key, req, a⟩ = none ∨ ∃ x, M.change ⟨key, req, a⟩ = some (x, .find)

variable {r : Served M.R.Api}

theorem serve_of_idle (h : M.IsIdle r.req) : M.serve s r = s := by
  unfold serve
  rcases h r.key r.result with hnone | ⟨x, hx⟩
  · rw [hnone]
  · rw [hx]

variable {N : M.R.Api → Prop}

theorem objects_of_beside (hN : ∀ req, N req → M.IsIdle req) (h : Beside N τ τ') :
    M.objects τ'.log = M.objects τ.log := by
  obtain ⟨l, hl, hidle⟩ := h.log
  rw [hl]
  clear hl
  induction l with
  | nil => rfl
  | cons r l ih =>
    rw [List.cons_append, objects_cons, serve_of_idle (hN _ (hidle r List.mem_cons_self))]
    exact ih (fun r hr => hidle r (List.mem_cons_of_mem _ hr))

theorem Recorded.beside (hN : ∀ req, N req → M.IsIdle req) (h : M.Recorded cr hash y s v c τ)
    (hb : Beside N τ τ') (hrv : v'.rv = v.rv)
    (hobj : M.object cr.spec v'.status = M.object cr.spec v.status) :
    M.Recorded cr hash y s v' c τ' :=
  { h with
    now := hb.now h.now
    rv := hrv.trans h.rv
    object := hobj.trans h.object
    objects := (objects_of_beside hN hb).trans h.objects }

theorem Pushed.beside (hN : ∀ req, N req → M.IsIdle req) (h : M.Pushed E s cr key hashOf v c τ)
    (hb : Beside N τ τ') (hrv : v'.rv = v.rv)
    (hobj : M.object cr.spec v'.status = M.object cr.spec v.status) :
    M.Pushed E s cr key hashOf v' c τ' := by
  obtain ⟨refs, y, s', hrefs, hpush, hrec⟩ := h
  exact ⟨refs, y, s', hrefs, hpush, hrec.beside hN hb hrv hobj⟩

theorem Sits.beside (hN : ∀ req, N req → M.IsIdle req) (h : M.Sits E τ v) (hb : Beside N τ τ') :
    M.Sits E τ' v :=
  { h with
    now := hb.now h.now
    vacant := by
      rw [objects_of_beside hN hb]
      exact h.vacant }

variable {refs : M.Refs} {τ'' : M.R.RScene}

theorem pushed_of_create (hashOf : M.Refs → String)
    (hrefs : M.refs E cr.metadata.ns cr.spec = some refs)
    (hunbound : M.object cr.spec cr.status = none) (hnamed : ∀ x, M.names cr.spec = some x → y = x)
    (hlog : τ'.log = r :: τ.log) (hchange : M.change r = some (y, .create (M.created cr.spec refs)))
    (hrec : M.Recorded cr (hashOf refs) y (M.objects τ'.log) v c τ'') :
    M.Pushed E (M.objects τ.log) cr r.key hashOf v c τ'' := by
  refine ⟨refs, y, _, hrefs, ?_, hrec⟩
  rw [hlog, objects_cons]
  unfold serve
  rw [hchange]
  exact .created hunbound hnamed

theorem pushed_of_update (hashOf : M.Refs → String)
    (hrefs : M.refs E cr.metadata.ns cr.spec = some refs)
    (hbound : M.object cr.spec cr.status = some y) (hready : M.ready E cr)
    (hlog : τ'.log = r :: τ.log)
    (hchange : M.change r = some (M.address cr.spec y, .update (M.updated cr.spec refs y)))
    (hrec : M.Recorded cr (hashOf refs) y (M.objects τ'.log) v c τ'') :
    M.Pushed E (M.objects τ.log) cr r.key hashOf v c τ'' := by
  refine ⟨refs, y, _, hrefs, ?_, hrec⟩
  rw [hlog, objects_cons]
  unfold serve
  rw [hchange]
  exact .updated hbound hready

theorem pushed_of_replace (hashOf : M.Refs → String) {x : String}
    (hrefs : M.refs E cr.metadata.ns cr.spec = some refs)
    (hbound : M.object cr.spec cr.status = some x) (hready : ¬ M.ready E cr)
    (hdrop : M.objects τ.log = s ∨ M.objects τ.log = Function.update s (r.key, x) none)
    (hlog : τ'.log = r :: τ.log) (hchange : M.change r = some (y, .create (M.created cr.spec refs)))
    (hrec : M.Recorded cr (hashOf refs) y (M.objects τ'.log) v c τ'') :
    M.Pushed E s cr r.key hashOf v c τ'' := by
  refine ⟨refs, y, _, hrefs, ?_, hrec⟩
  rw [hlog, objects_cons]
  unfold serve
  rw [hchange]
  exact .replaced hbound hready hdrop

theorem pushed_of_skip (hashOf : M.Refs → String) (h : M.Sits E τ v)
    (hrefs : M.refs E v.metadata.ns v.spec = some refs) (hbound : M.object v.spec v.status = some y)
    (hready : M.ready E v) (hhash : syncHash v = hashOf refs) :
    M.Pushed E (M.objects τ.log) v key hashOf v v τ :=
  ⟨refs, y, _, hrefs, .skipped hbound hready hhash,
    { now := h.now, rv := rfl, live := h.live, spec := rfl, ns := rfl, object := hbound
      stored := hbound, hash := hhash, objects := rfl }⟩

theorem now_of_carried {conn : ResolvedInstance} {req : M.R.Api} {a : Service.Result req}
    (h : τ.Now v) (hc : Pass.Carried M.R.kind lib home τ conn req a τ') : τ'.Now v := by
  unfold Scene.Now
  rw [hc.store]
  exact h

variable (cr) in
theorem wpE_storeSyncHash (hnow : τ.Now c) (hlive : c.metadata.deleting = false)
    (hspec : c.spec = cr.spec) (hns : c.metadata.ns = cr.metadata.ns) (hv : v.rv = c.rv)
    (hvs : v.spec = c.spec) (hobj : M.object cr.spec c.status = some y)
    (hs : M.objects τ.log = s) :
    (E.rules M.R.kind lib home).wpE (storeSyncHash v hash)
      (fun r τ' => M.Recorded cr hash y s r r τ') (fun _ _ => True) τ := by
  unfold storeSyncHash
  rw [wpE_orFail]
  refine Pass.wp_update hnow ?_ hlive (fun r τ' hst => ?_) (fun _ _ _ _ _ => trivial)
  · exact hv
  · obtain ⟨rv, gen, rfl⟩ := hst.stamped
    exact
      { now := hst.now, rv := rfl, live := hlive, spec := hvs.trans hspec, ns := hns
        object := hobj, stored := hobj, hash := lookup_assign_self _ _ _
        objects := by rw [hst.log]; exact hs }

variable (cr) in
theorem wpE_recordCreated {pre : String} {hashOf : M.R.Spec → String} (hnow : τ.Now c)
    (hlive : c.metadata.deleting = false) (hspec : c.spec = cr.spec)
    (hns : c.metadata.ns = cr.metadata.ns) (hv : v.rv = c.rv)
    (hobj : M.object cr.spec v.status = some y) (hs : M.objects τ.log = s) :
    (E.rules M.R.kind lib home).wpE (recordCreated pre hashOf v)
      (fun r τ' => M.Recorded cr (hashOf cr.spec) y s r r τ') (fun _ _ => True) τ := by
  unfold recordCreated
  rw [wpE_bind, wpE_orFail]
  refine Pass.wp_statusUpdate hnow hv hlive (fun r τ₁ hst _ _ => ?_) (fun _ _ _ _ _ => trivial)
  obtain ⟨rv, gen, rfl⟩ := hst.stamped
  have hs₁ : M.objects τ₁.log = s := by rw [hst.log]; exact hs
  show (E.rules M.R.kind lib home).wpE (storeSyncHash _ (hashOf c.spec)) _ _ _
  rw [hspec]
  exact wpE_storeSyncHash cr hst.now hlive hspec hns rfl rfl hobj hs₁

variable {α : Type} {conn : ResolvedInstance} {req : M.R.Api}
variable {f : Error → Failure M.R.Spec M.R.Status}

variable (M lib home E τ cr conn) in
/-- The program pushes the spec of `cr`, unless it fails. -/
abbrev Mirrors (hashOf : M.Refs → String) (copy : α → M.R.CR)
    (p : ExceptT (Failure M.R.Spec M.R.Status) (Ctl M.R.Spec M.R.Status M.R.Api) α) : Prop :=
  (E.rules M.R.kind lib home).wpE p (fun a τ' => ∃ c, M.Pushed E (M.objects τ.log) cr
    conn.inst.metadata.key hashOf (copy a) c τ') (fun _ _ => True) τ

theorem mirrors_create {pre : String} {hash : M.R.Spec → String}
    {copy : Service.Result req → M.R.CR} (h : M.Sits E τ cr)
    (hrefs : M.refs E cr.metadata.ns cr.spec = some refs)
    (hunbound : M.object cr.spec cr.status = none)
    (hcopy : ∀ a, E.serve τ conn req = .ok a → (copy a).rv = cr.rv ∧
      ∃ y, M.object cr.spec (copy a).status = some y ∧ (∀ x, M.names cr.spec = some x → y = x) ∧
        M.change ⟨conn.inst.metadata.key, req, a⟩ = some (y, .create (M.created cr.spec refs))) :
    M.Mirrors lib home E τ cr conn (fun _ => hash cr.spec) id (do
      let a ← orFail (api conn req) f
      recordCreated pre hash (copy a)) := by
  rw [Mirrors, wpE_bind, wpE_orFail]
  refine Pass.wp_api (fun a τ' ha hc => ?_) (fun _ _ _ _ => trivial)
  obtain ⟨hrv, y, hobj, hnamed, hchange⟩ := hcopy a ha
  refine wpE_mono (wpE_recordCreated cr (now_of_carried h.now hc) h.live rfl rfl hrv hobj rfl)
    (fun v τ'' hrec => ⟨v, ?_⟩) (fun _ _ _ => trivial)
  exact pushed_of_create (fun _ => hash cr.spec) hrefs hunbound hnamed hc.log hchange hrec

theorem mirrors_update (hashOf : M.Refs → String) (h : M.Sits E τ cr)
    (hrefs : M.refs E cr.metadata.ns cr.spec = some refs)
    (hbound : M.object cr.spec cr.status = some y) (hready : M.ready E cr)
    (hchange : ∀ a, M.change ⟨conn.inst.metadata.key, req, a⟩ =
      some (M.address cr.spec y, .update (M.updated cr.spec refs y))) :
    M.Mirrors lib home E τ cr conn hashOf id (do
      let _ ← orFail (api conn req) f
      storeSyncHash cr (hashOf refs)) := by
  rw [Mirrors, wpE_bind, wpE_orFail]
  refine Pass.wp_api (fun a τ' _ hc => ?_) (fun _ _ _ _ => trivial)
  refine wpE_mono (wpE_storeSyncHash cr (now_of_carried h.now hc) h.live rfl rfl rfl rfl hbound
    rfl) (fun v τ'' hrec => ⟨v, ?_⟩) (fun _ _ _ => trivial)
  exact pushed_of_update hashOf hrefs hbound hready hc.log (hchange a) hrec

end Mirror

/-- A kind whose reconcile pushes as its mirror says. -/
structure Mirrored (lib : Ext) extends Mirror where
  controller : Controller R.Spec R.Status R.Api
  reconcile : ∀ req, R.reconcile lib req = controller.reconcile lib req := by intros; rfl
  instanceRef : controller.instanceRef = R.kind.instanceRef := by rfl
  conditions : ∀ st cs, controller.conditions (controller.setConditions st cs) = cs := by intros; rfl
  object_setConditions : ∀ s st cs, object s (controller.setConditions st cs) = object s st := by
    intros; rfl
  ready_alike : ∀ E v v', Pass.Alike v v' → (ready E v ↔ ready E v') := by
    rintro _ _ _ ⟨_, _, _, rfl⟩; rfl
  hash : R.Spec → Refs → String
  pushed : ∀ (home : String) (E : R.RPass) (conn : ResolvedInstance) (v : R.CR) (τ : R.RScene),
    toMirror.Honest E → toMirror.Sits E τ v →
    (E.rules R.kind lib home).wpE (controller.body v conn)
      (fun out τ' => ∃ c, toMirror.Pushed E (toMirror.objects τ.log) v conn.inst.metadata.key
        (hash v.spec) out.1 c τ') (fun _ _ => True) τ

namespace Mirrored

variable {lib : Ext} {M : Mirrored lib} {req : NamespacedName} {E : M.R.RPass}
variable {σ σ' : M.R.RScene} {cr v r : M.R.CR}

/-! ## One reconcile -/

theorem sits_of_alike {τ : M.R.RScene} (h : M.Sits E σ cr) (hv : Pass.Alike cr v)
    (hnow : τ.Now v) (hlog : τ.log = σ.log) : M.Sits E τ v where
  now := hnow
  live := hv.deleting.trans h.live
  vacant := by
    rw [hv.spec, hv.status, hlog]
    exact h.vacant

theorem pushed_of_alike {τ : M.R.RScene} {s : Objects} {hash : M.Refs → String} {out c : M.R.CR}
    (hv : Pass.Alike cr v) (h : M.Pushed E s v key hash out c τ) :
    M.Pushed E s cr key hash out c τ := by
  have hready := M.ready_alike E cr v hv
  obtain ⟨_, _, _, rfl⟩ := hv
  obtain ⟨refs, y, s', hrefs, hpush, hrec⟩ := h
  refine ⟨refs, y, s', hrefs, ?_, { hrec with }⟩
  cases hpush with
  | created hobj hnamed => exact .created hobj hnamed
  | updated hobj hr => exact .updated hobj (hready.mpr hr)
  | skipped hobj hr hhash => exact .skipped hobj (hready.mpr hr) hhash
  | replaced hobj hr hdrop => exact .replaced hobj (fun h => hr (hready.mp h)) hdrop

theorem pushed_of_success (hE : M.Honest E) (h : M.Sits E σ cr)
    (hr : Pass.Success M.controller (Reconciler.done lib req σ E) r) :
    M.Pushed E (M.objects σ.log) cr (M.R.kind.refKey cr) (M.hash cr.spec)
      r r (Reconciler.done lib req σ E) := by
  unfold Reconciler.done at hr ⊢
  rw [M.reconcile] at hr ⊢
  obtain ⟨out, c, τ, hpushed, hst⟩ := Pass.of_success
    (P := fun out c τ => M.Pushed E (M.objects σ.log) cr (M.R.kind.refKey cr)
      (M.hash cr.spec) out c τ)
    h.now h.live M.conditions (fun conn v τ hres hv hnow hrest => by
      refine wpE_mono (M.pushed req.ns E conn v τ hE (sits_of_alike h hv hnow hrest.log))
        (fun out τ' hout => ?_) (fun _ _ _ => trivial)
      obtain ⟨c, hc⟩ := hout
      have hkey := Pass.key_of_readOff hres
      rw [M.instanceRef] at hkey
      rw [hrest.log, hv.spec, hkey] at hc
      have hc' := pushed_of_alike hv hc
      obtain ⟨refs, y, s', hrefs, hpush, hrec⟩ := hc'
      exact ⟨c, hrec.now, hrec.rv, hrec.live, refs, y, s', hrefs, hpush, hrec⟩) hr
  obtain ⟨refs, y, s', hrefs, hpush, hrec⟩ := hpushed
  refine ⟨refs, y, s', hrefs, hpush, ?_⟩
  obtain ⟨rv, gen, rfl⟩ := hst.stamped
  exact
    { now := hst.now, rv := rfl, live := hrec.live, spec := hrec.spec, ns := hrec.ns
      object := (M.object_setConditions _ _ _).trans hrec.object
      stored := (M.object_setConditions _ _ _).trans hrec.object
      hash := hrec.hash, objects := (congrArg M.objects hst.log).trans hrec.objects }

theorem fields_of_recorded {hash y : String} {s : Objects} (h : M.Recorded cr hash y s r r σ) :
    M.fields σ = s (M.R.kind.refKey cr, y) := by
  have hkey : M.R.kind.refKey r = M.R.kind.refKey cr := by
    unfold Kind.refKey
    rw [h.spec, h.ns]
  unfold Mirror.fields
  rw [show σ.world.store.current = some r from h.now, Option.bind_some, h.spec, h.object,
    Option.bind_some, h.objects, hkey]

end Mirrored

/-- A kind with one request for creating its objects and another for updating them. -/
structure Mirroring (lib : Ext) extends Mirrored lib where
  /-- What the sync hash is taken of. -/
  value : R.Spec → SpecValue
  hash_eq : ∀ s refs, hash s refs = lib.computeSpecHash (value s) := by intros; rfl
  /-- The id of the object is a matter of the status, and of the name in the spec. -/
  object_congr : ∀ s s' st, names s = names s' → object s st = object s' st := by intros; rfl
  /-- What is pushed, apart from what references resolve to, is hashed. -/
  value_congr : ∀ s s', value s = value s' →
    created s = created s' ∧ ∀ E ns, refs E ns s = refs E ns s' := by
    rintro _ _ ⟨⟩; exact ⟨rfl, fun _ _ => rfl⟩
  createOnly_shown : ∀ f, createOnly f = true → generated f = false
  /-- Updates reach the object that is named in the spec. -/
  address_eq : ∀ s refs id, toMirror.Full s refs → (∀ x, names s = some x → id = x) →
    address s id = id := by intros; rfl
  /-- An update has the fields of a create, except those that only a create has. -/
  updated_eq : ∀ s refs id f, toMirror.Full s refs → (∀ x, names s = some x → id = x) →
    generated f = false → updated s refs id f = if createOnly f then none else created s refs f

namespace Mirroring

variable {lib : Ext} (M : Mirroring lib)

/-- The fields without those that LiteLLM generates. -/
def shown (fs : Fields) : Fields := fun f => if M.generated f then none else fs f

variable {M} {req : NamespacedName} {E : M.R.RPass} {σ σ' : M.R.RScene} {cr v r : M.R.CR}

/-! ## Two reconciles -/

theorem sits_scene (hE : M.Truthful E) (hlive : cr.metadata.deleting = false) :
    M.Sits E (M.R.scene cr) cr where
  now := rfl
  live := hlive
  vacant _ := ⟨hE, fun _ => rfl⟩

/-- The first reconcile creates the object, under the id that the spec names. -/
theorem created_of_success (hE : M.Truthful E) (hlive : cr.metadata.deleting = false)
    (hunbound : M.object cr.spec cr.status = none)
    (hr : Pass.Success M.controller (Reconciler.done lib req (M.R.scene cr) E) r) :
    ∃ refs y s, M.refs E cr.metadata.ns cr.spec = some refs ∧
      (∀ x, M.names cr.spec = some x → y = x) ∧
      s (M.R.kind.refKey cr, y) = some (M.created cr.spec refs) ∧
      M.Recorded cr (lib.computeSpecHash (M.value cr.spec)) y s r r
        (Reconciler.done lib req (M.R.scene cr) E) := by
  obtain ⟨refs, y, s, hrefs, hpush, hrec⟩ :=
    Mirrored.pushed_of_success hE.honest (sits_scene hE hlive) hr
  rw [M.hash_eq] at hrec
  have hfree : ∀ x, M.object cr.spec cr.status ≠ some x := by
    intro x hx
    rw [hunbound] at hx
    cases hx
  cases hpush with
  | created _ hnamed => exact ⟨refs, y, _, hrefs, hnamed, Function.update_self _ _ _, hrec⟩
  | updated hobj _ | skipped hobj _ _ | replaced hobj _ _ => exact absurd hobj (hfree _)

theorem sits_of_edit {hash y : String} {s : Objects} {spec : M.R.Spec} {rv gen : Nat}
    {τ : M.R.RScene} (h : M.Recorded cr hash y s r r σ)
    (hnow : τ.Now (Resource.stamp { r with spec := spec } rv gen))
    (hnames : M.names spec = M.names cr.spec) :
    M.object spec r.status = some y ∧
      M.Sits E τ (Resource.stamp { r with spec := spec } rv gen) := by
  have hobj : M.object spec r.status = some y := (M.object_congr _ _ _ hnames).trans h.object
  refine ⟨hobj, hnow, h.live, fun hnone => ?_⟩
  have hnone' : M.object spec r.status = none := hnone
  rw [hobj] at hnone'
  cases hnone'

/-- Two bodies of a create agree in what an update leaves out. -/
def AgreeOn (M : Mirroring lib) (fs fs' : Fields) : Prop :=
  ∀ f, M.createOnly f = true → fs f = fs' f

/-- The fields of a create followed by an update are those of the create for the second spec if and
only if the two specs agree in what an update leaves out. -/
theorem shown_overlay_iff {s₁ s₂ : M.R.Spec} {refs₁ refs₂ : M.Refs} {y : String}
    (hfull : M.Full s₂ refs₂) (hnamed : ∀ x, M.names s₂ = some x → y = x) :
    M.shown (Record.overlay none (M.created s₁ refs₁) (M.updated s₂ refs₂ y)) =
      M.shown (M.created s₂ refs₂) ↔ M.AgreeOn (M.created s₁ refs₁) (M.created s₂ refs₂) := by
  -- field by field, apart from those that LiteLLM generates
  have hfield : ∀ f, M.generated f = false →
      (Record.overlay none (M.created s₁ refs₁) (M.updated s₂ refs₂ y) f = M.created s₂ refs₂ f ↔
        (M.createOnly f = true → M.created s₁ refs₁ f = M.created s₂ refs₂ f)) := by
    intro f hf
    refine Record.overlay_eq_iff (M.updated_eq s₂ refs₂ y f hfull hnamed hf) (fun hold => ?_)
    exact (hfull f ⟨s₁, refs₁, hold⟩).1
  constructor
  · intro heq f hf
    have hgen := M.createOnly_shown f hf
    have hat := congrFun heq f
    unfold shown at hat
    rw [hgen] at hat
    exact (hfield f hgen).mp hat hf
  · intro hagree
    funext f
    unfold shown
    cases hgen : M.generated f with
    | true => rfl
    | false => exact (hfield f hgen).mpr (hagree f)

/-- Two ways to the spec of `cr₂`. A resource is reconciled from scratch with the spec of `cr₁`,
edited, which leads to `σ`, and reconciled again; and `cr₂` is reconciled from scratch. Nothing
fails, references resolve alike, and every field that is sent is set. -/
structure TwoWays (M : Mirroring lib) (req : NamespacedName) (cr₁ cr₂ : M.R.CR)
    (E₁ E₂ E₃ : M.R.RPass) (σ : M.R.RScene) : Prop where
  truthful₁ : M.Truthful E₁
  truthful₂ : M.Truthful E₂
  truthful₃ : M.Truthful E₃
  live₁ : cr₁.metadata.deleting = false
  live₂ : cr₂.metadata.deleting = false
  unbound₁ : M.object cr₁.spec cr₁.status = none
  unbound₂ : M.object cr₂.spec cr₂.status = none
  ns : cr₁.metadata.ns = cr₂.metadata.ns
  /-- The specs have the same identifier, and refer to the same instance. -/
  names : M.names cr₂.spec = M.names cr₁.spec
  instanceRef : M.R.kind.instanceRef cr₂.spec = M.R.kind.instanceRef cr₁.spec
  refs₂ : ∀ ns s, M.refs E₁ ns s = M.refs E₂ ns s
  refs₃ : ∀ ns s, M.refs E₃ ns s = M.refs E₂ ns s
  full₁ : ∀ refs, M.refs E₂ cr₁.metadata.ns cr₁.spec = some refs → M.Full cr₁.spec refs
  full₂ : ∀ refs, M.refs E₂ cr₁.metadata.ns cr₂.spec = some refs → M.Full cr₂.spec refs
  /-- The hash tells the two specs apart. -/
  free : lib.computeSpecHash (M.value cr₁.spec) = lib.computeSpecHash (M.value cr₂.spec) →
    M.value cr₁.spec = M.value cr₂.spec
  success₁ : ∃ r, Pass.Success M.controller (Reconciler.done lib req (M.R.scene cr₁) E₁) r
  edit : Reconciler.take lib req (Reconciler.done lib req (M.R.scene cr₁) E₁)
    (.env (.edit cr₂.spec)) = some σ
  ready : ∀ v, σ.Now v → M.ready E₂ v
  success₂ : ∃ r, Pass.Success M.controller (Reconciler.done lib req σ E₂) r
  success₃ : ∃ r, Pass.Success M.controller (Reconciler.done lib req (M.R.scene cr₂) E₃) r

/-- **Create and update.** The objects end up with the same fields if and only if the specs agree
in the fields that an update leaves out. -/
theorem fields_agree_iff {cr₁ cr₂ : M.R.CR} {E₁ E₂ E₃ : M.R.RPass} {σ : M.R.RScene}
    (h : M.TwoWays req cr₁ cr₂ E₁ E₂ E₃ σ) :
    ∃ fs fs' refs₁ refs₂, M.fields (Reconciler.done lib req σ E₂) = some fs ∧
      M.fields (Reconciler.done lib req (M.R.scene cr₂) E₃) = some fs' ∧
      M.refs E₂ cr₁.metadata.ns cr₁.spec = some refs₁ ∧
      M.refs E₂ cr₁.metadata.ns cr₂.spec = some refs₂ ∧
      (M.shown fs = M.shown fs' ↔
        M.AgreeOn (M.created cr₁.spec refs₁) (M.created cr₂.spec refs₂)) := by
  obtain ⟨hE₁, hE₂, hE₃, hlive₁, hlive₂, hunbound₁, hunbound₂, hns, hnames, href, hrefs₂, hrefs₃,
    hfull₁, hfull₂, hfree, ⟨r₁, hr₁⟩, hedit, hready, ⟨r₂, hr₂⟩, ⟨r₃, hr₃⟩⟩ := h
  obtain ⟨refs₁, y, s₁, hr₁', hnamed₁, hs₁, hrec₁⟩ := created_of_success hE₁ hlive₁ hunbound₁ hr₁
  obtain ⟨refs₃, y₃, s₃, hr₃', -, hs₃, hrec₃⟩ := created_of_success hE₃ hlive₂ hunbound₂ hr₃
  obtain ⟨⟨rv, gen, hnow⟩, htrace⟩ := Reconciler.now_of_edit hrec₁.now hrec₁.live hedit
  have hlog : σ.log = (Reconciler.done lib req (M.R.scene cr₁) E₁).log := by
    unfold Scene.log
    rw [htrace]
  obtain ⟨hobj, hsits⟩ := sits_of_edit (E := E₂) hrec₁ hnow hnames
  obtain ⟨refs₂, y₂, s₂, hr₂', hpush, hrec₂⟩ := Mirrored.pushed_of_success hE₂.honest hsits hr₂
  have hrefs₂' : M.refs E₂ cr₁.metadata.ns cr₂.spec = some refs₂ := by
    rw [← hrec₁.ns]
    exact hr₂'
  obtain rfl : refs₂ = refs₃ := by
    rw [hrefs₃, ← hns, hrefs₂'] at hr₃'
    exact Option.some.inj hr₃'
  rw [hrefs₂] at hr₁'
  have hkey : M.R.kind.refKey (Resource.stamp { r₁ with spec := cr₂.spec } rv gen) =
      M.R.kind.refKey cr₁ := by
    show (⟨(M.R.kind.instanceRef cr₂.spec).namespaceOr r₁.metadata.ns,
      (M.R.kind.instanceRef cr₂.spec).name⟩ : NamespacedName) = _
    rw [href, hrec₁.ns]
    rfl
  have hbefore : M.objects σ.log (M.R.kind.refKey cr₁, y) =
      some (M.created cr₁.spec refs₁) := by
    rw [hlog, hrec₁.objects]
    exact hs₁
  have hfields := Mirrored.fields_of_recorded hrec₂
  have hfields₃ := Mirrored.fields_of_recorded hrec₃
  rw [hkey] at hfields hpush
  rw [hs₃] at hfields₃
  -- the object is still the one of the first reconcile
  have hsame : ∀ y', M.object cr₂.spec r₁.status = some y' → y' = y :=
    fun y' hy' => Option.some.inj (hy'.symm.trans hobj)
  have hnamed : ∀ x, M.names cr₂.spec = some x → y = x :=
    fun x hx => hnamed₁ x (hnames.symm.trans hx)
  cases hpush with
  | created hnone _ =>
    have hnone' : M.object cr₂.spec r₁.status = none := hnone
    rw [hobj] at hnone'
    cases hnone'
  | replaced _ hnot _ => exact absurd (hready _ hnow) hnot
  | updated hobj₂ _ =>
    obtain rfl := hsame y₂ hobj₂
    have haddress : M.address cr₂.spec y₂ = y₂ :=
      M.address_eq _ refs₂ y₂ (hfull₂ refs₂ hrefs₂') hnamed
    have hat : M.address (Resource.stamp { r₁ with spec := cr₂.spec } rv gen).spec y₂ = y₂ :=
      haddress
    rw [hat, Function.update_self, hbefore] at hfields
    exact ⟨_, _, refs₁, refs₂, hfields, hfields₃, hr₁', hrefs₂',
      shown_overlay_iff (hfull₂ refs₂ hrefs₂') hnamed⟩
  | skipped hobj₂ _ hhash =>
    obtain rfl := hsame y₂ hobj₂
    rw [hbefore] at hfields
    rw [M.hash_eq] at hhash
    have hvalue := hfree (hrec₁.hash.symm.trans hhash)
    obtain ⟨hcreated, hcongr⟩ := M.value_congr _ _ hvalue
    obtain rfl : refs₁ = refs₂ := by
      rw [hcongr, hrefs₂'] at hr₁'
      exact Option.some.inj hr₁'.symm
    refine ⟨_, _, refs₁, refs₁, hfields, hfields₃, hr₁', hrefs₂', ?_⟩
    rw [hcreated]
    exact ⟨fun _ _ _ => rfl, fun _ => rfl⟩

end Mirroring

end LitellmOperator
