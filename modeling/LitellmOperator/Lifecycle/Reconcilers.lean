import LitellmOperator.Controller.ConfigSync
import LitellmOperator.Lifecycle.World
import LitellmOperator.Session.Kinds
import LitellmOperator.Session.Credential
import LitellmOperator.Session.User
import LitellmOperator.Session.VirtualKey

/-! # The eight kinds with an object in LiteLLM

A `Reconciler` is a per-resource controller together with the proofs that it keeps to the session
protocol and that the config sync's writes read as the protocol expects. `ApiKind.reconciler`
lists the eight of them; a result about every `Reconciler` is a result about each.
-/

set_option autoImplicit false

namespace LitellmOperator

open Effect Go Kube

structure Reconciler where
  Spec : Type
  Status : Type
  Api : Type
  [service : Service Api]
  [decSpec : DecidableEq Spec]
  [decStatus : DecidableEq Status]
  kind : Kind Spec Status Api
  /-- What the config sync makes of a status whose object is missing, for the kinds it covers. -/
  cleared : Option (Status → Status)
  reconcile : Ext → NamespacedName → Ctl Spec Status Api (Result × Option Error)
  clears : Clears kind cleared
  follows : ∀ lib req, (kind.session lib).wp (reconcile lib req) (fun _ s => Kind.Final s) {}
  /-- What `handleDeletion` deletes, and how. -/
  target : Resource Spec Status → Option String
  delete : String → Api
  /-- The reconcile of a resource that is being deleted is its cleanup. -/
  finalizes : ∀ lib req, ∃ live : Resource Spec Status → Ctl Spec Status Api (Result × Option Error),
    reconcile lib req = (Ctl.get req >>= fun r => match r with
      | .error e => pure ({}, if isNotFound e then none else some e)
      | .ok cr =>
        if cr.metadata.deleting then handleDeletion lib kind.instanceRef target delete cr
        else live cr)

attribute [instance] Reconciler.service Reconciler.decSpec Reconciler.decStatus

namespace Reconciler

variable (R : Reconciler)

abbrev CR : Type := Resource R.Spec R.Status

abbrev RWorld : Type := World R.Spec R.Status

abbrev RConf : Type := Conf (Op R.Spec R.Status R.Api) Op.Resp R.RWorld

abbrev RAction : Type := Action (Reply R.Api) (Env R.Spec)

def machine (lib : Ext) (req : NamespacedName) :
    Machine (Op R.Spec R.Status R.Api) Op.Resp R.RWorld (Reply R.Api) (Env R.Spec) :=
  lifecycle R.kind lib R.cleared req.ns (R.reconcile lib req)

def cleanup (lib : Ext) (cr : R.CR) : Ctl R.Spec R.Status R.Api (Result × Option Error) :=
  handleDeletion lib R.kind.instanceRef R.target R.delete cr

def initial (cr : R.CR) : R.RConf := ⟨World.initial cr, none⟩

end Reconciler

/-! ## The sync hash and what a resource is bound to -/

theorem isAdopted_withoutSyncHash {Spec Status : Type} (v : Resource Spec Status) :
    isAdopted (withoutSyncHash v).metadata = isAdopted v.metadata := by
  have hne : annotationSyncHash ≠ annotationAdopted := by decide
  unfold isAdopted withoutSyncHash lookup
  simp only [Option.getD_some, StrMap.get?_delete_ne _ hne]

theorem clears_none {Spec Status Api : Type} [Service Api] (K : Kind Spec Status Api) :
    Clears K none where
  bound f hf := by cases hf
  drift h := by cases h

/-! ## The kinds -/

namespace Reconciler

@[reducible] def team : Reconciler where
  Spec := LiteLLMTeamSpec
  Status := LiteLLMTeamStatus
  Api := TeamApi
  kind := Team.kind
  cleared := some SyncKind.teams.clearStatus
  reconcile := Team.reconcile
  clears := ⟨fun f hf v => by cases hf; rfl, fun _ v => ⟨rfl, isAdopted_withoutSyncHash v⟩⟩
  follows := Team.follows
  target := Team.target
  delete := .delete
  finalizes _ _ := ⟨_, rfl⟩

@[reducible] def user : Reconciler where
  Spec := LiteLLMUserSpec
  Status := LiteLLMUserStatus
  Api := UserApi
  kind := User.kind
  cleared := some SyncKind.users.clearStatus
  reconcile := User.reconcile
  clears := ⟨fun f hf v => by cases hf; rfl, fun _ v => ⟨rfl, isAdopted_withoutSyncHash v⟩⟩
  follows := User.follows
  target := User.target
  delete := .delete
  finalizes _ _ := ⟨_, rfl⟩

@[reducible] def virtualKey : Reconciler where
  Spec := LiteLLMVirtualKeySpec
  Status := LiteLLMVirtualKeyStatus
  Api := KeyApi
  kind := VirtualKey.kind
  cleared := some SyncKind.keys.clearStatus
  reconcile := VirtualKey.reconcile
  clears := ⟨fun f hf v => by cases hf; rfl, fun _ v => ⟨rfl, rfl⟩⟩
  follows := VirtualKey.follows
  target := VirtualKey.target
  delete := .delete
  finalizes _ _ := ⟨_, rfl⟩

@[reducible] def organization : Reconciler where
  Spec := LiteLLMOrganizationSpec
  Status := LiteLLMOrganizationStatus
  Api := OrganizationApi
  kind := Organization.kind
  cleared := some SyncKind.organizations.clearStatus
  reconcile := Organization.reconcile
  clears := ⟨fun f hf v => by cases hf; rfl, fun _ v => ⟨rfl, rfl⟩⟩
  follows := Organization.follows
  target := Organization.target
  delete := .delete
  finalizes _ _ := ⟨_, rfl⟩

@[reducible] def customer : Reconciler where
  Spec := LiteLLMCustomerSpec
  Status := LiteLLMCustomerStatus
  Api := CustomerApi
  kind := Customer.kind
  cleared := some SyncKind.customers.clearStatus
  reconcile := Customer.reconcile
  clears := ⟨fun f hf v => by cases hf; rfl, fun _ v => ⟨rfl, rfl⟩⟩
  follows := Customer.follows
  target := Customer.target
  delete := .delete
  finalizes _ _ := ⟨_, rfl⟩

@[reducible] def model : Reconciler where
  Spec := LiteLLMModelSpec
  Status := LiteLLMModelStatus
  Api := ModelApi
  kind := Model.kind
  cleared := some SyncKind.models.clearStatus
  reconcile := Model.reconcile
  clears := ⟨fun f hf v => by cases hf; rfl, fun _ v => ⟨rfl, rfl⟩⟩
  follows := Model.follows
  target := Model.target
  delete := .delete
  finalizes _ _ := ⟨_, rfl⟩

/-- The config sync does not cover budgets. -/
@[reducible] def budget : Reconciler where
  Spec := LiteLLMBudgetSpec
  Status := LiteLLMBudgetStatus
  Api := BudgetApi
  kind := Budget.kind
  cleared := none
  reconcile := Budget.reconcile
  clears := clears_none _
  follows := Budget.follows
  target := Budget.target
  delete := .delete
  finalizes _ _ := ⟨_, rfl⟩

/-- Nor does it cover credentials. -/
@[reducible] def credential : Reconciler where
  Spec := LiteLLMCredentialSpec
  Status := LiteLLMCredentialStatus
  Api := CredentialApi
  kind := Credential.kind
  cleared := none
  reconcile := Credential.reconcile
  clears := clears_none _
  follows := Credential.follows
  target := Credential.target
  delete := .delete
  finalizes lib _ := ⟨fun cr => do
    match ← ensureFinalizer cr with
    | .error e => pure ({}, some e)
    | .ok cr => Credential.reconcileLive lib cr,
    congrArg (Ctl.get _ >>= ·) (funext (fun r => by
      cases r with
      | error e => rfl
      | ok cr => rfl))⟩

end Reconciler

inductive ApiKind where
  | team
  | user
  | virtualKey
  | organization
  | customer
  | budget
  | model
  | credential
  deriving DecidableEq

def ApiKind.reconciler : ApiKind → Reconciler
  | .team => .team
  | .user => .user
  | .virtualKey => .virtualKey
  | .organization => .organization
  | .customer => .customer
  | .budget => .budget
  | .model => .model
  | .credential => .credential

/-! ## A small setting

Two instances in one namespace, an organization and a team that refer to one of them, and a LiteLLM
that carries out everything: enough to execute runs in. -/

namespace Sample

def inst (name : String) : LiteLLMInstance where
  metadata := { name := name, ns := "apps" }
  spec := { masterKey := { autoGenerate := true } }
  status := { ready := true, endpoint := "http://litellm:4000" }

def found : (r : Read) → Option r.Obj
  | .getInstance key => some (inst key.name)
  | .getSecret key => some (show Secret from
      { metadata := { name := key.name, ns := key.ns }, data := [("master-key", "sk-master")] })
  | _ => none

def organization (ref : String) : LiteLLMOrganization where
  metadata := { name := "org", ns := "apps" }
  spec := { instanceRef := { name := ref }, organizationAlias := "org" }
  status := {}

/-- LiteLLM carries out the request; a new organization gets the given id. -/
def organizationServed (id : String) : (req : OrganizationApi) → Option (Service.Result req)
  | .create _ => some (show OrganizationCreateResponse from ⟨id, "org"⟩)
  | .get _ => some (show OrganizationInfo from { organizationID := id, organizationAlias := "org" })
  | .update _ => some ()
  | .delete _ => some ()
  | .addMember _ => some ()
  | .deleteMember _ _ => some ()

def organizationCreated : List Reconciler.organization.RAction :=
  [.start, .step (.cached 0), .step .done, .step (.found found), .step (.found found),
    .step (.served (organizationServed "org-1") none), .step .done, .step .done,
    .step (.served (organizationServed "org-1") none), .step .done]

/-- The organization is deleted; its reconcile goes on to where it calls LiteLLM. -/
def organizationRemoved : List Reconciler.organization.RAction :=
  [.env .remove, .start, .step (.cached 0), .step (.found found), .step (.found found)]

def team : LiteLLMTeam where
  metadata := { name := "team", ns := "apps" }
  spec := { instanceRef := { name := "a" }, teamID := "team-1", teamAlias := "team" }
  status := {}

def teamServed : (req : TeamApi) → Option (Service.Result req)
  | .create req => some (show TeamCreateResponse from ⟨req.teamID, req.teamAlias⟩)
  | .get teamID => some (show TeamInfo from { teamID := teamID, teamAlias := "team" })
  | .listMembers _ => some (show List TeamMemberInfo from [])
  | .update _ => some ()
  | .delete _ => some ()
  | .addMember _ _ _ => some ()
  | .removeMember _ _ => some ()
  | .setCallback _ _ => some ()
  | .disableLogging _ => some ()

/-- What LiteLLM answers about a team that does not exist. -/
def teamMissing : Error := .leaf (.api ⟨404, "team not found", "/team/info"⟩)

def teamToCreate : List Reconciler.team.RAction :=
  [.start, .step (.cached 0), .step .done, .step (.found found), .step (.found found),
    .step (.fail teamMissing), .step (.served teamServed none)]

def teamRecorded : List Reconciler.team.RAction :=
  [.step .done, .step .done, .step (.served teamServed none), .step (.served teamServed none),
    .step .done]

/-- The team is deleted; its reconcile goes on to where it calls LiteLLM. -/
def teamRemoved : List Reconciler.team.RAction :=
  [.env .remove, .start, .step (.cached 0), .step (.found found), .step (.found found)]

end Sample

end LitellmOperator
