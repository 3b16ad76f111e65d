import LitellmOperator.Pass.Kinds
import LitellmOperator.Sync.User
import LitellmOperator.Upstream.Mirror

/-! # What LiteLLM stores of each kind

A customer is known by the id in the spec; the status only says whether it was created.
-/

set_option autoImplicit false

namespace LitellmOperator

open Effect Protocol Go Kube Ctl Scene

namespace Customer

/-- What a request that was carried out did. -/
def change : Served CustomerApi → Option (String × Change)
  | ⟨_, .create body, _⟩ => some (body.userID, .create body.fields)
  | ⟨_, .update body, _⟩ => some (body.userID, .update body.fields)
  | ⟨_, .delete id, _⟩ => some (id, .delete)
  | ⟨_, .get id, _⟩ => some (id, .find)

@[reducible] def mirror : Mirror where
  R := .customer
  Refs := Unit
  refs _ _ _ := some ()
  object spec st := if (show LiteLLMCustomerStatus from st).synced then some spec.customerID else none
  names spec := some spec.customerID
  address _ id := id
  created spec _ := (createRequest (bare spec)).fields
  updated spec _ _ := (updateRequest (bare spec)).fields
  change := change
  honest _ _ := True
  ready _ _ := True
  createOnly _ := false
  generated _ := false

variable {lib : Ext} {home : String} {conn : ResolvedInstance} {customer : LiteLLMCustomer}
variable {E : CustomerPass}
variable {τ : CustomerScene}

theorem wpE_createMirrored (h : mirror.Sits E τ customer)
    (hunbound : mirror.object customer.spec customer.status = none) :
    mirror.Mirrors lib home E τ customer conn
      (fun _ => lib.computeSpecHash (.customer customer.spec)) id
      (createCustomer lib conn customer) := by
  unfold createCustomer
  exact Mirror.mirrors_create (M := mirror) h rfl hunbound
    (fun _ _ => ⟨rfl, _, rfl, fun _ hx => Option.some.inj hx, rfl⟩)

theorem wpE_updateMirrored (h : mirror.Sits E τ customer)
    (hbound : mirror.object customer.spec customer.status = some customer.spec.customerID) :
    mirror.Mirrors lib home E τ customer conn
      (fun _ => lib.computeSpecHash (.customer customer.spec)) id
      (updateCustomer lib conn customer) := by
  unfold updateCustomer
  dsimp only
  split
  · rename_i hskip
    exact ⟨customer, Mirror.pushed_of_skip _ h rfl hbound trivial hskip⟩
  · exact Mirror.mirrors_update (M := mirror) (fun _ => _) h rfl hbound trivial (fun _ => rfl)

theorem wpE_reconcileCustomer_mirrored (h : mirror.Sits E τ customer) :
    mirror.Mirrors lib home E τ customer conn
      (fun _ => lib.computeSpecHash (.customer customer.spec)) Prod.fst
      (reconcileCustomer lib customer conn) := by
  have hpush : mirror.Mirrors lib home E τ customer conn
      (fun _ => lib.computeSpecHash (.customer customer.spec)) id
      (createOrUpdateCustomer lib conn customer) := by
    unfold createOrUpdateCustomer
    split
    · rename_i hsynced
      exact wpE_updateMirrored h (if_pos hsynced)
    · rename_i hsynced
      exact wpE_createMirrored h (if_neg hsynced)
  unfold reconcileCustomer
  simp only [wpE_bind, wpE_lift, wpE_pure]
  refine wpE_mono hpush (fun v τ₁ h₁ => ?_) (fun _ _ _ => trivial)
  obtain ⟨c, h₁⟩ := h₁
  -- the lookup changes nothing
  have hidle : ∀ req, (∃ id, req = CustomerApi.get id) → mirror.IsIdle req := by
    rintro _ ⟨id, rfl⟩ key a
    exact .inr ⟨id, rfl⟩
  refine Pass.wp_besideApi (N := fun req => ∃ id, req = CustomerApi.get id) ⟨_, rfl⟩
    (fun info τ₂ hb => ⟨c, h₁.beside hidle hb ?_ ?_⟩)
  · cases info with
    | error e | ok info => rfl
  · cases info with
    | error e | ok info => rfl

def mirroring (lib : Ext) : Mirroring lib where
  toMirror := mirror
  controller := controller lib
  hash spec _ := lib.computeSpecHash (.customer spec)
  pushed _ _ _ _ _ _ h := wpE_reconcileCustomer_mirrored h
  value spec := .customer spec
  object_congr s s' st h := by
    show (if st.synced then some s.customerID else none) = if st.synced then some s'.customerID else _
    rw [Option.some.inj h]
  createOnly_shown _ h := by cases h
  updated_eq _ _ _ f _ _ _ := by cases f <;> rfl

end Customer

/-! ## Organizations -/

variable {key : NamespacedName}

namespace Organization

def change : Served OrganizationApi → Option (String × Change)
  | ⟨_, .create body, resp⟩ =>
    some ((show OrganizationCreateResponse from resp).organizationID, .create body.fields)
  | ⟨_, .update body, _⟩ => some (body.organizationID, .update body.fields)
  | ⟨_, .delete id, _⟩ => some (id, .delete)
  | ⟨_, .get id, _⟩ => some (id, .find)
  | _ => none

/-- LiteLLM generates the id of an organization. -/
def honest : (req : OrganizationApi) → Service.Result req → Prop
  | .create _, resp => (show OrganizationCreateResponse from resp).organizationID ≠ ""
  | _, _ => True

@[reducible] def mirror : Mirror where
  R := .organization
  Refs := Unit
  refs _ _ _ := some ()
  object _ st := idOf (show LiteLLMOrganizationStatus from st).litellmOrganizationID
  names _ := none
  address _ id := id
  created spec _ := (createRequest (bare spec {})).fields
  updated spec _ id := (updateRequest (bare spec { litellmOrganizationID := id })).fields
  change := change
  honest := honest
  ready _ _ := True
  createOnly _ := false
  generated f := f = .organizationID

variable {lib : Ext} {home : String} {conn : ResolvedInstance} {org : LiteLLMOrganization}
variable {E : OrganizationPass}
variable {τ : OrganizationScene}

theorem wpE_createMirrored (hE : mirror.Honest E) (h : mirror.Sits E τ org)
    (hid : org.status.litellmOrganizationID = "") :
    mirror.Mirrors lib home E τ org conn (fun _ => lib.computeSpecHash (.organization org.spec)) id
      (createOrganization lib conn org) := by
  unfold createOrganization
  refine Mirror.mirrors_create (M := mirror) h rfl (idOf_eq_none.mpr hid) (fun resp hresp => ?_)
  have hne : (show OrganizationCreateResponse from resp).organizationID ≠ "" :=
    hE τ conn _ resp hresp
  exact ⟨rfl, _, idOf_of_ne hne, (fun x hx => by cases hx), rfl⟩

theorem idle_of_minor (req : OrganizationApi) (h : minor req) : mirror.IsIdle req := by
  intro key a
  cases req <;> first | exact .inl rfl | exact .inr ⟨_, rfl⟩ | exact h.elim

theorem wpE_updateMirrored (h : mirror.Sits E τ org) (hid : org.status.litellmOrganizationID ≠ "") :
    mirror.Mirrors lib home E τ org conn (fun _ => lib.computeSpecHash (.organization org.spec)) id
      (updateOrganization lib conn org) := by
  unfold updateOrganization
  dsimp only
  split
  · rename_i hskip
    exact ⟨org, Mirror.pushed_of_skip _ h rfl (idOf_of_ne hid) trivial hskip⟩
  · rw [← bind_assoc, Mirror.Mirrors, wpE_bind]
    refine wpE_mono (Mirror.mirrors_update (M := mirror) (fun _ => _) h rfl (idOf_of_ne hid) trivial
      (fun _ => rfl)) (fun v τ' hv => ?_) (fun _ _ _ => trivial)
    obtain ⟨c, hv⟩ := hv
    exact ⟨c, hv.beside idle_of_minor (Beside.refl τ') rfl rfl⟩

theorem pushed_of_sameID {s : Objects} {hash : Unit → String} {org' v c : LiteLLMOrganization}
    {τ' : OrganizationScene} (h : mirror.Pushed E s org key hash v c τ) (hsame : SameID v org')
    (hb : Beside minor τ τ') : mirror.Pushed E s org key hash org' c τ' := by
  obtain ⟨st, rfl, hst⟩ := hsame
  refine h.beside idle_of_minor hb rfl ?_
  show idOf st.litellmOrganizationID = idOf v.status.litellmOrganizationID
  rw [hst]

theorem wpE_reconcileOrganization_mirrored (hE : mirror.Honest E) (h : mirror.Sits E τ org) :
    mirror.Mirrors lib home E τ org conn (fun _ => lib.computeSpecHash (.organization org.spec))
      Prod.fst (reconcileOrganization lib org conn) := by
  unfold reconcileOrganization
  simp only [wpE_bind, wpE_lift, wpE_pure]
  have hpush : mirror.Mirrors lib home E τ org conn
      (fun _ => lib.computeSpecHash (.organization org.spec)) id
      (createOrUpdateOrganization lib conn org) := by
    unfold createOrUpdateOrganization
    split
    · rename_i hid
      exact wpE_createMirrored hE h hid
    · rename_i hid
      exact wpE_updateMirrored h hid
  refine wpE_mono hpush (fun org₁ τ₁ h₁ => ?_) (fun _ _ _ => trivial)
  obtain ⟨c, h₁⟩ := h₁
  refine wpE_mono wpE_reconcileSpecMembers_beside (fun org₂ τ₂ hb₂ => ?_) (fun _ _ _ => trivial)
  have h₂ := pushed_of_sameID h₁ hb₂.1 hb₂.2
  refine Pass.wp_besideApi (N := minor) (by trivial) (fun info τ₃ hb₃ => ⟨c, ?_⟩)
  refine pushed_of_sameID h₂ ?_ hb₃
  cases info with
  | error e | ok info => exact ⟨_, rfl, rfl⟩

theorem updated_eq (s : LiteLLMOrganizationSpec) (id : String) (f : Field)
    (hfull : mirror.Full s ()) (hf : f ≠ .organizationID) :
    mirror.updated s () id f = mirror.created s () f := by
  have halias : FieldValue.ofText s.organizationAlias = some (.text s.organizationAlias) :=
    ofText_of_given (hfull .organizationAlias ⟨s, (), by intro h; cases h⟩)
  cases f with
  | organizationAlias => exact halias
  | organizationID => exact absurd rfl hf
  | _ => rfl

def mirroring (lib : Ext) : Mirroring lib where
  toMirror := mirror
  controller := controller lib
  hash spec _ := lib.computeSpecHash (.organization spec)
  pushed _ _ _ _ _ hE h := wpE_reconcileOrganization_mirrored hE h
  value spec := .organization spec
  createOnly_shown _ h := by cases h
  updated_eq s _ id f hfull _ hf := updated_eq s id f hfull (of_decide_eq_false hf)

end Organization

/-! ## Teams

An update has no limits for members, so these keep the values the team was created with.
-/

namespace Team

def change : Served TeamApi → Option (String × Change)
  | ⟨_, .create body, resp⟩ =>
    some ((show TeamCreateResponse from resp).teamID, .create body.fields)
  | ⟨_, .update body, _⟩ => some (body.teamID, .update body.fields)
  | ⟨_, .delete id, _⟩ => some (id, .delete)
  | ⟨_, .get id, _⟩ => some (id, .find)
  | _ => none

/-- A new team has the id asked for, or a generated one. -/
def honest : (req : TeamApi) → Service.Result req → Prop
  | .create body, resp => (show TeamCreateResponse from resp).teamID ≠ "" ∧
      (body.teamID ≠ "" → (show TeamCreateResponse from resp).teamID = body.teamID)
  | _, _ => True

@[reducible] def mirror : Mirror where
  R := .team
  Refs := String
  refs := organizationOf
  object _ st := idOf (show LiteLLMTeamStatus from st).litellmTeamID
  names spec := idOf spec.teamID
  address _ id := id
  created spec orgID := (createRequest (bare "" spec {}) orgID).fields
  updated spec orgID id := (updateRequest (bare "" spec { litellmTeamID := id }) orgID).fields
  change := change
  honest := honest
  ready _ _ := True
  createOnly f := f = .teamMemberRPMLimit || f = .teamMemberTPMLimit
  generated _ := false

variable {lib : Ext} {home orgID : String} {conn : ResolvedInstance} {team : LiteLLMTeam}
variable {E : TeamPass}
variable {τ : TeamScene}

theorem idle_of_minor (req : TeamApi) (h : minor req) : mirror.IsIdle req := by
  intro key a
  cases req <;> first | exact .inl rfl | exact .inr ⟨_, rfl⟩ | exact h.elim

theorem wpE_adoptUnbound_mirrored (h : mirror.Sits E τ team) :
    (E.rules kind lib home).wpE (adoptUnbound conn team)
      (fun v τ' => v = team ∧ Beside minor τ τ') (fun _ _ => True) τ := by
  unfold adoptUnbound
  split
  · rename_i hcond
    rw [wpE_orFail]
    unfold adoptExistingTeam
    show (E.rules kind lib home).wpE _ _ _ _
    rw [wpE_bind, wpE_lift]
    refine Pass.wp_api (fun info τ' hinfo hc => ?_) (fun e τ' _ hq => ?_)
    · -- the lookup has found a team where there is none
      obtain ⟨hE, hvacant⟩ := h.vacant (idOf_eq_none.mpr hcond.1)
      have hknown := hE.known τ conn _ info team.spec.teamID .find hinfo rfl (fun _ hb => by cases hb)
      rw [hvacant] at hknown
      cases hknown
    · dsimp only
      split
      · exact ⟨rfl, .of_quiet hq⟩
      · trivial
  · exact ⟨rfl, Beside.refl τ⟩

theorem wpE_createMirrored (hE : mirror.Honest E) (h : mirror.Sits E τ team)
    (horg : organizationOf E team.metadata.ns team.spec = some orgID)
    (hid : team.status.litellmTeamID = "") :
    mirror.Mirrors lib home E τ team conn (fun _ => lib.computeSpecHash (.team team.spec)) id
      (createTeam lib conn orgID team) := by
  unfold createTeam
  refine Mirror.mirrors_create (M := mirror) h horg (idOf_eq_none.mpr hid) (fun resp hresp => ?_)
  obtain ⟨hne, hsame⟩ : (show TeamCreateResponse from resp).teamID ≠ "" ∧
      (team.spec.teamID ≠ "" → (show TeamCreateResponse from resp).teamID = team.spec.teamID) :=
    hE τ conn _ resp hresp
  refine ⟨rfl, _, idOf_of_ne hne, fun x hx => ?_, rfl⟩
  obtain ⟨hx', hxne⟩ : team.spec.teamID = x ∧ x ≠ "" := idOf_eq_some.mp hx
  rw [← hx'] at hxne ⊢
  exact hsame hxne

theorem wpE_updateMirrored (h : mirror.Sits E τ team)
    (horg : organizationOf E team.metadata.ns team.spec = some orgID)
    (hid : team.status.litellmTeamID ≠ "") :
    mirror.Mirrors lib home E τ team conn (fun _ => lib.computeSpecHash (.team team.spec)) id
      (updateTeam lib conn orgID team) := by
  unfold updateTeam
  dsimp only
  split
  · rename_i hskip
    exact ⟨team, Mirror.pushed_of_skip _ h horg (idOf_of_ne hid) trivial hskip⟩
  · rw [← bind_assoc, Mirror.Mirrors, wpE_bind]
    refine wpE_mono (Mirror.mirrors_update (M := mirror) (fun _ => _) h horg (idOf_of_ne hid)
      trivial (fun _ => rfl)) (fun v τ' hv => ?_) (fun _ _ _ => trivial)
    obtain ⟨c, hv⟩ := hv
    exact ⟨c, hv.beside idle_of_minor (Beside.refl τ') rfl rfl⟩

theorem wpE_pushMirrored (hE : mirror.Honest E) (h : mirror.Sits E τ team)
    (horg : organizationOf E team.metadata.ns team.spec = some orgID) :
    mirror.Mirrors lib home E τ team conn (fun _ => lib.computeSpecHash (.team team.spec)) id
      (createOrUpdateTeam lib conn orgID team) := by
  unfold createOrUpdateTeam
  split
  · rename_i hid
    exact wpE_createMirrored hE h horg hid
  · rename_i hid
    exact wpE_updateMirrored h horg hid

theorem pushed_of_sameID {s : Objects} {hash : String → String} {team' v c : LiteLLMTeam}
    {τ' : TeamScene} (h : mirror.Pushed E s team key hash v c τ) (hsame : SameID v team')
    (hb : Beside minor τ τ') : mirror.Pushed E s team key hash team' c τ' := by
  obtain ⟨st, rfl, hst⟩ := hsame
  refine h.beside idle_of_minor hb rfl ?_
  show idOf st.litellmTeamID = idOf v.status.litellmTeamID
  rw [hst]

theorem wpE_reconcileTeam_mirrored (hE : mirror.Honest E) (h : mirror.Sits E τ team) :
    mirror.Mirrors lib home E τ team conn (fun _ => lib.computeSpecHash (.team team.spec)) Prod.fst
      (reconcileTeam lib team conn) := by
  unfold reconcileTeam
  rw [Mirror.Mirrors, wpE_bind, wpE_orFail]
  refine Pass.wp_reads (isRead_resolveOrganizationRef team) (fun r τ₁ hr hq => ?_)
  rcases r with e | orgID
  · trivial
  have horg : organizationOf E team.metadata.ns team.spec = some orgID := by
    show (readOff E.cluster (resolveOrganizationRef team).run).bind Except.toOption = _
    rw [hr]
    rfl
  have h₁ : mirror.Sits E τ₁ team := h.beside idle_of_minor (.of_quiet hq)
  simp only [wpE_bind, wpE_orFail, wpE_lift, wpE_pure]
  refine wpE_mono (wpE_adoptUnbound_mirrored h₁) (fun v τ₂ h₂ => ?_) (fun _ _ _ => trivial)
  obtain ⟨rfl, hb₂⟩ := h₂
  refine wpE_mono (wpE_pushMirrored hE (h₁.beside idle_of_minor hb₂) horg)
    (fun v₃ τ₃ h₃ => ?_) (fun _ _ _ => trivial)
  obtain ⟨c, h₃⟩ := h₃
  rw [Mirror.objects_of_beside idle_of_minor hb₂, hq.log] at h₃
  refine wp_mono wpE_reconcileMembers_beside (fun r τ₄ hb₄ => ?_)
  rcases r with e | v₄
  · trivial
  have h₄ := pushed_of_sameID h₃ hb₄.1 (hb₄.2.mono minor_of_members)
  refine wp_mono (wpE_reconcileLogging_beside (N := minor) (fun _ _ => trivial)
    (fun _ => trivial)) (fun r τ₅ hb₅ => ?_)
  rcases r with e | v₅
  · exact trivial
  have h₅ := pushed_of_sameID h₄ hb₅.1.sameID hb₅.2
  refine Pass.wp_besideApi (N := minor) (by trivial) (fun info τ₆ hb₆ => ⟨c, ?_⟩)
  refine pushed_of_sameID h₅ ?_ hb₆
  cases info with
  | error e | ok info => exact ⟨_, rfl, rfl⟩

theorem updated_eq (s : LiteLLMTeamSpec) (orgID id : String) (f : Field)
    (hfull : mirror.Full s orgID) (hnamed : ∀ x, mirror.names s = some x → id = x) :
    mirror.updated s orgID id f = if mirror.createOnly f then none else mirror.created s orgID f := by
  have halias : FieldValue.ofText s.teamAlias = some (.text s.teamAlias) :=
    ofText_of_given (hfull .teamAlias ⟨s, orgID, by intro h; cases h⟩)
  have hid : some (FieldValue.text id) = FieldValue.ofText s.teamID := by
    have hgiven : FieldValue.ofText s.teamID ≠ none :=
      (hfull .teamID ⟨{ s with teamID := "t" }, orgID, by intro h; cases h⟩).1
    have hne : s.teamID ≠ "" := fun h => hgiven (if_pos h)
    rw [hnamed s.teamID (idOf_of_ne hne)]
    exact (if_neg hne).symm
  cases f with
  | teamAlias => exact halias
  | teamID => exact hid
  | _ => rfl

def mirroring (lib : Ext) : Mirroring lib where
  toMirror := mirror
  controller := controller lib
  hash spec _ := lib.computeSpecHash (.team spec)
  pushed _ _ _ _ _ hE h := wpE_reconcileTeam_mirrored hE h
  value spec := .team spec
  createOnly_shown _ _ := rfl
  updated_eq s refs id f hfull hnamed _ := updated_eq s refs id f hfull hnamed

end Team

/-! ## Users

An update never sends `auto_create_key`. It is addressed by the id in the spec, also if the user
was created under another one. The initial password is not a field of these bodies.
-/

namespace User

def change : Served UserApi → Option (String × Change)
  | ⟨_, .create body, resp⟩ =>
    some ((show UserCreateResponse from resp).userID, .create body.fields)
  | ⟨_, .update body, _⟩ => some (body.userID, .update body.fields)
  | ⟨_, .delete id, _⟩ => some (id, .delete)
  | ⟨_, .get id, _⟩ => some (id, .find)
  | _ => none

def honest : (req : UserApi) → Service.Result req → Prop
  | .create body, resp => (show UserCreateResponse from resp).userID ≠ "" ∧
      (body.userID ≠ "" → (show UserCreateResponse from resp).userID = body.userID)
  | _, _ => True

@[reducible] def mirror : Mirror where
  R := .user
  Refs := List UserTeam
  refs := teamsOf
  object _ st := idOf (show LiteLLMUserStatus from st).litellmUserID
  names spec := idOf spec.userID
  address spec _ := spec.userID
  created spec teams := (createRequest (bare spec) teams).fields
  updated spec teams _ := { createRequest (bare spec) teams with autoCreateKey := none }.fields
  change := change
  honest := honest
  ready _ _ := True
  createOnly f := f = .autoCreateKey
  generated _ := false

variable {lib : Ext} {home : String} {conn : ResolvedInstance} {user : LiteLLMUser}
variable {teams : List UserTeam}
variable {E : UserPass}
variable {τ : UserScene}

theorem idle_of_minor (req : UserApi) (h : minor req) : mirror.IsIdle req := by
  intro key a
  cases req <;> first | exact .inl rfl | exact .inr ⟨_, rfl⟩ | exact h.elim

/-- A user that does not exist is not adopted: it is created, or the reconcile fails. -/
theorem wpE_createOrAdopt_mirrored (hE : mirror.Honest E) (h : mirror.Sits E τ user)
    (hid : user.status.litellmUserID = "") {req : UserCreateRequest} :
    (E.rules kind lib home).wpE (createOrAdopt conn req user)
      (fun out τ' => ∃ resp, out = (user, (show UserCreateResponse from resp).userID) ∧
        honest (.create req) resp ∧ τ'.Now user ∧
        τ'.log = ⟨conn.inst.metadata.key, .create req, resp⟩ :: τ.log) (fun _ _ => True) τ := by
  unfold createOrAdopt
  rw [wpE_bind, wpE_lift]
  refine Pass.wp_api (fun resp τ' hresp hc => ?_) (fun e τ' _ hq => ?_)
  · exact ⟨resp, rfl, hE τ conn _ resp hresp,
      Mirror.now_of_carried (M := mirror) h.now hc, hc.log⟩
  · -- the adoption looks the user up first, and finds none
    obtain ⟨hE', hvacant⟩ := h.vacant (idOf_eq_none.mpr hid)
    rw [← hq.log] at hvacant
    dsimp only
    rw [wpE_bind, wpE_orFail]
    have hadopt : (E.rules kind lib home).wpE (adoptExistingUser conn user req e)
        (fun _ _ => False) (fun _ _ => True) τ' := by
      unfold adoptExistingUser
      rw [wpE_bind]
      refine wpE_failIf (fun _ => trivial) (fun _ => ?_)
      rw [wpE_bind, wpE_lift]
      refine Pass.wp_api (fun info τ'' hinfo _ => ?_) (fun e' τ'' _ _ => ?_)
      · have hknown := hE'.known τ' conn _ info user.spec.userID .find hinfo rfl
          (fun _ hb => by cases hb)
        rw [hvacant] at hknown
        cases hknown
      · dsimp only
        split <;> trivial
    refine wp_mono hadopt (fun r τ'' hr => ?_)
    cases r with
    | ok _ => exact hr.elim
    | error e => trivial

theorem wpE_createMirrored (hE : mirror.Honest E) (h : mirror.Sits E τ user)
    (hteams : teamsOf E user.metadata.ns user.spec = some teams)
    (hid : user.status.litellmUserID = "") :
    mirror.Mirrors lib home E τ user conn (fun _ => lib.computeSpecHash (.user user.spec)) id
      (createUser lib conn (createRequest user teams) user) := by
  unfold createUser
  rw [Mirror.Mirrors, wpE_bind]
  refine wpE_mono (wpE_createOrAdopt_mirrored hE h hid) (fun out τ' hout => ?_)
    (fun _ _ _ => trivial)
  obtain ⟨resp, rfl, ⟨hne, hsame⟩, hnow, hlog⟩ := hout
  refine wpE_mono (Mirror.wpE_recordCreated (M := mirror) user hnow h.live rfl rfl rfl
    (idOf_of_ne hne) rfl) (fun v τ'' hrec => ⟨v, ?_⟩) (fun _ _ _ => trivial)
  refine Mirror.pushed_of_create (M := mirror) (fun _ => lib.computeSpecHash (.user user.spec))
    hteams (idOf_eq_none.mpr hid) (fun x hx => ?_) hlog rfl hrec
  obtain ⟨hx', hxne⟩ : user.spec.userID = x ∧ x ≠ "" := idOf_eq_some.mp hx
  rw [← hx'] at hxne ⊢
  exact hsame hxne

theorem wpE_updateMirrored (h : mirror.Sits E τ user)
    (hteams : teamsOf E user.metadata.ns user.spec = some teams)
    (hid : user.status.litellmUserID ≠ "") :
    mirror.Mirrors lib home E τ user conn (fun _ => lib.computeSpecHash (.user user.spec)) id
      (updateUser lib conn (createRequest user teams) user) := by
  unfold updateUser updateCall
  dsimp only
  split
  · rename_i hskip
    exact ⟨user, Mirror.pushed_of_skip _ h hteams (idOf_of_ne hid) trivial hskip⟩
  · rw [← bind_assoc, Mirror.Mirrors, wpE_bind]
    refine wpE_mono (Mirror.mirrors_update (M := mirror) (fun _ => _) h hteams (idOf_of_ne hid)
      trivial (fun _ => rfl)) (fun v τ' hv => ?_) (fun _ _ _ => trivial)
    obtain ⟨c, hv⟩ := hv
    exact ⟨c, hv.beside idle_of_minor (Beside.refl τ') rfl rfl⟩

/-! ## The initial password -/

theorem kept_pushed {s : Objects} {hash : List UserTeam → String} :
    KeptByPassword lib home E conn (fun v τ => ∃ c, mirror.Pushed E s user key hash v c τ) where
  quiet := by
    rintro v st τ τ' ⟨c, h⟩ hq hst
    refine ⟨c, h.beside idle_of_minor (.of_quiet hq) rfl ?_⟩
    show idOf st.litellmUserID = idOf v.status.litellmUserID
    rw [hst]
  call := by
    rintro v τ password ⟨c, h⟩
    exact Pass.wp_besideApi (N := minor) (by trivial)
      (fun _ τ' hb => ⟨c, h.beside idle_of_minor hb rfl rfl⟩)
  digest := by
    rintro v τ digest ⟨c, refs, y, s', hrefs, hpush, hrec⟩
    unfold recordDigest
    rw [wp_bind]
    refine Pass.wp_statusPatch hrec.now hrec.live (fun r τ' hst => ?_) (fun e τ' _ hq => ?_)
    · -- the patch does not mention the id
      obtain ⟨rv, gen, rfl⟩ := hst.stamped
      have hid : (if v.status.litellmUserID = v.status.litellmUserID
          then c.status.litellmUserID else v.status.litellmUserID) = c.status.litellmUserID :=
        if_pos rfl
      have hobj : mirror.object user.spec (LiteLLMUserStatus.mergeFrom v.status
          (setPasswordCondition { v with status.initialPasswordDigest := digest } .true "Applied"
            "Initial password applied").status c.status) = some y :=
        (congrArg idOf hid).trans hrec.stored
      exact ⟨_, refs, y, s', hrefs, hpush,
        { now := hst.now, rv := rfl, live := hrec.live, spec := hrec.spec, ns := hrec.ns
          object := hobj, stored := hobj, hash := hrec.hash
          objects := (congrArg mirror.objects hst.log).trans hrec.objects }⟩
    · exact ⟨c, refs, y, s', hrefs, hpush, hrec.beside idle_of_minor (.of_quiet hq) rfl rfl⟩

/-! ## The controller -/

theorem wpE_reconcileUser_mirrored (hE : mirror.Honest E) (h : mirror.Sits E τ user) :
    mirror.Mirrors lib home E τ user conn (fun _ => lib.computeSpecHash (.user user.spec)) Prod.fst
      (reconcileUser lib user conn) := by
  unfold reconcileUser
  rw [Mirror.Mirrors, wpE_bind, wpE_orFail]
  refine Pass.wp_reads (isRead_of_plain (uses_resolveTeamRefs _ _)) (fun r τ₁ hr hq => ?_)
  rcases r with e | teams
  · trivial
  have hteams : teamsOf E user.metadata.ns user.spec = some teams := by
    unfold teamsOf
    rw [hr]
    rfl
  have h₁ : mirror.Sits E τ₁ user := h.beside idle_of_minor (.of_quiet hq)
  have hpush : mirror.Mirrors lib home E τ₁ user conn
      (fun _ => lib.computeSpecHash (.user user.spec)) id
      (createOrUpdateUser lib conn (createRequest user teams) user) := by
    unfold createOrUpdateUser
    split
    · rename_i hid
      exact wpE_createMirrored hE h₁ hteams hid
    · rename_i hid
      exact wpE_updateMirrored h₁ hteams hid
  rw [Mirror.Mirrors, hq.log] at hpush
  simp only [wpE_bind, wpE_lift, wpE_pure]
  refine wpE_mono hpush (fun v₂ τ₂ h₂ => ?_) (fun _ _ _ => trivial)
  refine wp_mono (wp_reconcileInitialPassword_keeps kept_pushed h₂) (fun applied τ₃ h₃ => ?_)
  obtain ⟨c, h₃⟩ := h₃
  refine Pass.wp_besideApi (N := minor) (by trivial) (fun info τ₄ hb₄ => ⟨c, ?_⟩)
  cases info with
  | error e | ok info => exact h₃.beside idle_of_minor hb₄ rfl rfl

theorem userID_ne {spec : LiteLLMUserSpec} (hfull : mirror.Full spec teams) : spec.userID ≠ "" := by
  have hgiven := hfull .userID ⟨spec, teams, by intro h; cases h⟩
  intro hid
  refine hgiven.2 ?_
  show some (FieldValue.text spec.userID) = _
  rw [hid]

theorem updated_eq (s : LiteLLMUserSpec) (teams : List UserTeam) (id : String) (f : Field) :
    mirror.updated s teams id f = if mirror.createOnly f then none else mirror.created s teams f := by
  cases f <;> rfl

def mirroring (lib : Ext) : Mirroring lib where
  toMirror := mirror
  controller := controller lib
  hash spec _ := lib.computeSpecHash (.user spec)
  pushed _ _ _ _ _ hE h := wpE_reconcileUser_mirrored hE h
  value spec := .user spec
  createOnly_shown _ _ := rfl
  address_eq s teams _ hfull hnamed := (hnamed s.userID (idOf_of_ne (userID_ne hfull))).symm
  updated_eq s refs id f _ _ _ := updated_eq s refs id f

end User

/-! ## Models

A create and an update have the same body, apart from the id that an update is addressed to. A
model whose auth mode has changed since it was pushed is deleted, and created anew under another
id.
-/

namespace Model

def change : Served ModelApi → Option (String × Change)
  | ⟨_, .create body, resp⟩ =>
    some ((show ModelCreateResponse from resp).modelID, .create body.fields)
  | ⟨_, .update body, _⟩ => some (body.modelID, .update body.fields)
  | ⟨_, .delete id, _⟩ => some (id, .delete)
  | ⟨_, .check, _⟩ => none

def honest : (req : ModelApi) → Service.Result req → Prop
  | .create _, resp => (show ModelCreateResponse from resp).modelID ≠ ""
  | _, _ => True

/-- The auth mode under which the model was pushed, if one is recorded, is that of its spec. -/
def sameMode (model : LiteLLMModel) : Prop := annotationAt model annotationAuthMode = "" ∨
    annotationAt model annotationAuthMode = modeOf model.spec

def pushedHash (lib : Ext) (spec : LiteLLMModelSpec) (params : ModelParams) : String :=
  lib.computeSpecHash (.model spec params)

@[reducible] def mirror : Mirror where
  R := .model
  Refs := ModelParams
  refs := paramsOf
  object _ st := idOf (show LiteLLMModelStatus from st).litellmModelID
  names _ := none
  address _ id := id
  created spec params := (createRequest (bare "" spec) params).fields
  updated spec params id := (addressed (createRequest (bare "" spec) params) id).fields
  change := change
  honest := honest
  ready _ v := sameMode v
  createOnly _ := false
  generated _ := false

variable {lib : Ext} {home x hash mode : String} {conn : ResolvedInstance}
variable {params : ModelParams} {model v : LiteLLMModel} {E : ModelPass} {τ τ' : ModelScene}

theorem Noted.mirrored (h : Noted model x hash mode τ v τ') (hx : x ≠ "") :
    mirror.Recorded model hash x (mirror.objects τ.log) v v τ' where
  now := h.now
  rv := rfl
  live := h.live
  spec := h.spec
  ns := h.ns
  object := (congrArg idOf h.id).trans (idOf_of_ne hx)
  stored := (congrArg idOf h.id).trans (idOf_of_ne hx)
  hash := h.hash
  objects := by rw [h.log]

theorem Took.mirrored (hE : mirror.Honest E) (h : mirror.Sits E τ model)
    (hparams : paramsOf E model.metadata.ns model.spec = some params)
    (htook : Took lib home E conn model (createRequest model params)
      (pushedHash lib model.spec params) (modeOf model.spec) τ v τ') :
    mirror.Pushed E (mirror.objects τ.log) model conn.inst.metadata.key
      (pushedHash lib model.spec) v v τ' := by
  cases htook with
  | created hid hresp hc hn =>
    exact Mirror.pushed_of_create (M := mirror) (pushedHash lib model.spec) hparams
      (idOf_eq_none.mpr hid) (fun x hx => by cases hx) hc.log rfl
      (hn.mirrored (hE τ conn _ _ hresp))
  | @recreated _ _ τ₁ _ _ _ hid hflip _ hc hresp hc₁ hn =>
    -- the old model is gone before the new one is there
    have hdrop : mirror.objects τ₁.log = Function.update (mirror.objects τ.log)
        (conn.inst.metadata.key, model.status.litellmModelID) none := by
      rw [hc.log]
      rfl
    have hmode : ¬ sameMode model := fun hsame => hsame.elim hflip.1 hflip.2
    exact Mirror.pushed_of_replace (M := mirror) (pushedHash lib model.spec) hparams
      (idOf_of_ne hid) hmode (.inr hdrop) hc₁.log rfl (hn.mirrored (hE τ₁ conn _ _ hresp))
  | updated hid hkeep _ hc hn =>
    exact Mirror.pushed_of_update (M := mirror) (pushedHash lib model.spec) hparams (idOf_of_ne hid)
      hkeep hc.log rfl (hn.mirrored hid)
  | skipped hid hhash hmode =>
    exact Mirror.pushed_of_skip (M := mirror) (pushedHash lib model.spec) h hparams (idOf_of_ne hid)
      (.inr hmode) hhash

theorem Checked.beside {v' : LiteLLMModel} (h : Checked v τ v' τ') :
    Beside (fun req => req = ModelApi.check) τ τ' := by
  refine ⟨h.store, ?_⟩
  rcases h.log with hlog | ⟨key, a, hlog⟩
  · exact ⟨[], hlog, by simp⟩
  · exact ⟨[⟨key, .check, a⟩], hlog, by simp⟩

theorem wpE_reconcileModel_mirrored (hE : mirror.Honest E) (h : mirror.Sits E τ model) :
    mirror.Mirrors lib home E τ model conn (pushedHash lib model.spec) Prod.fst
      (reconcileModel lib model conn) := by
  have hidle : ∀ req, req = ModelApi.check → mirror.IsIdle req := by
    rintro _ rfl
    exact fun _ _ => .inl rfl
  refine wpE_mono (wpE_reconcileModel_took h.now h.live) (fun out τ' hout => ?_)
    (fun _ _ _ => trivial)
  obtain ⟨params, τ₁, v, τ₂, hparams, hq, htook, hcheck⟩ := hout
  have h₁ : mirror.Sits E τ₁ model := h.beside hidle (.of_quiet hq)
  obtain ⟨health, hv⟩ := hcheck.copy
  refine ⟨v, ?_⟩
  rw [← hq.log]
  refine (htook.mirrored hE h₁ hparams).beside hidle hcheck.beside ?_ ?_
  · rw [hv]
    rfl
  · rw [hv]

def mirrored (lib : Ext) : Mirrored lib where
  toMirror := mirror
  controller := controller lib
  hash := pushedHash lib
  pushed _ _ _ _ _ hE h := wpE_reconcileModel_mirrored hE h

end Model

end LitellmOperator
