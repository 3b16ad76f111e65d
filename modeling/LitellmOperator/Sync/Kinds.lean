import LitellmOperator.Sync.Rules

/-! # The sync hash of customers, organizations and teams

A customer's object is the one the spec names, once the status says that it is synced.
-/

set_option autoImplicit false

namespace LitellmOperator

open Effect Protocol Go Kube Ctl Scene

abbrev CustomerScene : Type := Scene LiteLLMCustomerSpec LiteLLMCustomerStatus CustomerApi

abbrev CustomerPass : Type := Pass LiteLLMCustomerSpec LiteLLMCustomerStatus CustomerApi

namespace Customer

def bare (spec : LiteLLMCustomerSpec) : LiteLLMCustomer := ⟨{ name := "", ns := "" }, spec, {}⟩

def pushed : Served CustomerApi → Option String
  | ⟨_, .create req, _⟩ => some req.userID
  | ⟨_, .update req, _⟩ => some req.userID
  | _ => none

def carries (req : CustomerApi) (spec : LiteLLMCustomerSpec) : Prop :=
  match req with
  | .create body => body = createRequest (bare spec)
  | .update body => body = updateRequest (bare spec)
  | _ => False

@[reducible] def pushing : Pushing where
  R := .customer
  Tag := Bool
  tag st := (show LiteLLMCustomerStatus from st).synced
  Refs := Unit
  refs _ _ _ := some ()
  value spec _ := .customer spec
  object spec synced := if synced then some (show LiteLLMCustomerSpec from spec).customerID else none
  adopts := false
  pushed := pushed
  carries req spec _ _ := carries req spec
  synced st := isStatusConditionTrue (show LiteLLMCustomerStatus from st).conditions conditionSynced
  sane _ _ _ := True

theorem shaped (lib : Ext) : pushing.Shaped lib (controller lib) := {}

variable {lib : Ext} {home : String}
variable {E : CustomerPass}
variable {σ τ : CustomerScene}
variable {cr customer : LiteLLMCustomer} {conn : ResolvedInstance}

theorem carries_create (customer : LiteLLMCustomer) :
    carries (.create (createRequest customer)) customer.spec := rfl

theorem carries_update (customer : LiteLLMCustomer) :
    carries (.update (updateRequest customer)) customer.spec := rfl

theorem wpE_createPushed (h : pushing.Ready σ cr conn τ customer) (hguard : pushing.Guarded E) :
    pushing.Finishes lib E σ cr home id (createCustomer lib conn customer) τ := by
  unfold Pushing.Finishes createCustomer
  rw [wpE_bind, wpE_orFail]
  refine Pushing.wp_push h (fun _ τ' _ hripe => ?_) (fun e τ' _ h' => h'.partly)
  have hcarries := carries_create customer
  have hobj : some customer.spec.customerID = some cr.spec.customerID := by rw [h.spec]
  rw [h.spec] at hcarries
  exact Pushing.wpE_recordCreated (hripe _ rfl) hguard (rfl : _ = some ()) rfl rfl hobj.symm
    hcarries

theorem wpE_updatePushed (h : pushing.Ready σ cr conn τ customer)
    (hguard : pushing.Guarded E) (hsynced : customer.status.synced = true) :
    pushing.Finishes lib E σ cr home id (updateCustomer lib conn customer) τ := by
  unfold Pushing.Finishes updateCustomer
  dsimp only
  split
  · rename_i hskip
    rw [h.spec] at hskip
    exact h.done_of_skip (rfl : _ = some ()) hskip (if_pos hsynced)
  · rw [wpE_bind, wpE_orFail]
    refine Pushing.wp_push h (fun _ τ' _ hripe => ?_) (fun e τ' _ h' => h'.partly)
    have hcarries := carries_update customer
    have hobj : (if customer.status.synced then some cr.spec.customerID else none) =
        some customer.spec.customerID := by rw [if_pos hsynced, h.spec]
    rw [h.spec] at hcarries
    refine Pushing.wpE_recordHash (hripe _ rfl) hguard (rfl : _ = some ()) ?_ rfl rfl hobj hcarries
    rw [h.spec]

theorem wpE_reconcileCustomer_done (h : pushing.Ready σ cr conn τ customer)
    (hguard : pushing.Guarded E) :
    (E.rules kind lib home).wpE (reconcileCustomer lib customer conn)
      (fun out τ' => pushing.Done lib E σ cr τ' out.1)
      (fun f τ' => pushing.Partly lib E σ cr τ' f.cr) τ := by
  have hpush : pushing.Finishes lib E σ cr home id
      (createOrUpdateCustomer lib conn customer) τ := by
    unfold Pushing.Finishes createOrUpdateCustomer
    split
    · rename_i hsynced
      exact wpE_updatePushed h hguard hsynced
    · exact wpE_createPushed h hguard
  unfold reconcileCustomer
  simp only [wpE_bind, wpE_lift, wpE_pure]
  refine wpE_post hpush (fun customer₁ τ₁ h₁ => ?_)
  refine Pushing.wp_aside (S := pushing) (fun _ _ => rfl) (fun info τ₂ h₂ => ?_)
  cases info with
  | error e | ok info => exact h₁.aside h₂ rfl rfl

def hashSync (lib : Ext) : HashSync lib where
  toPushing := pushing
  spec_of_value _ _ _ _ h := SpecValue.customer.inj h
  object_isSome _ s' t _ h := by
    cases t with
    | true => exact ⟨(show LiteLLMCustomerSpec from s').customerID, rfl⟩
    | false => cases h
  ends _ _ _ _ hnow hlive _ _ hguard :=
    (shaped lib).ends hnow hlive (fun _ _ _ h _ => wpE_reconcileCustomer_done h hguard)

end Customer

/-! ## Organizations -/

abbrev OrganizationScene : Type :=
  Scene LiteLLMOrganizationSpec LiteLLMOrganizationStatus OrganizationApi

abbrev OrganizationPass : Type :=
  Pass LiteLLMOrganizationSpec LiteLLMOrganizationStatus OrganizationApi

namespace Organization

def bare (spec : LiteLLMOrganizationSpec) (status : LiteLLMOrganizationStatus) :
    LiteLLMOrganization := ⟨{ name := "", ns := "" }, spec, status⟩

def pushed : Served OrganizationApi → Option String
  | ⟨_, .create _, resp⟩ => idOf (show OrganizationCreateResponse from resp).organizationID
  | ⟨_, .update req, _⟩ => idOf req.organizationID
  | _ => none

def carries (req : OrganizationApi) (spec : LiteLLMOrganizationSpec) (id : String) : Prop :=
  match req with
  | .create body => body = createRequest (bare spec {})
  | .update body => body = updateRequest (bare spec { litellmOrganizationID := id })
  | _ => False

@[reducible] def pushing : Pushing where
  R := .organization
  Tag := String
  tag st := (show LiteLLMOrganizationStatus from st).litellmOrganizationID
  Refs := Unit
  refs _ _ _ := some ()
  value spec _ := .organization spec
  object _ id := idOf id
  adopts := false
  pushed := pushed
  carries req spec id _ := carries req spec id
  synced st :=
    isStatusConditionTrue (show LiteLLMOrganizationStatus from st).conditions conditionSynced
  sane _ E _ := ∀ τ conn body resp, E.serve τ conn (.create body) = .ok resp →
    (show OrganizationCreateResponse from resp).organizationID ≠ ""

theorem shaped (lib : Ext) : pushing.Shaped lib (controller lib) := {}

variable {lib : Ext} {home : String}
variable {E : OrganizationPass}
variable {σ τ : OrganizationScene}
variable {cr org : LiteLLMOrganization} {conn : ResolvedInstance}

theorem carries_create (org : LiteLLMOrganization) (id : String) :
    carries (.create (createRequest org)) org.spec id := rfl

theorem carries_update (org : LiteLLMOrganization) :
    carries (.update (updateRequest org)) org.spec org.status.litellmOrganizationID := rfl

theorem wpE_createPushed (h : pushing.Ready σ cr conn τ org)
    (hguard : pushing.Guarded E) (hsane : pushing.sane lib E cr) :
    pushing.Finishes lib E σ cr home id (createOrganization lib conn org) τ := by
  unfold Pushing.Finishes createOrganization
  rw [wpE_bind, wpE_orFail]
  refine Pushing.wp_push h (fun resp τ' hresp hripe => ?_) (fun e τ' _ h' => h'.partly)
  have hid := idOf_of_ne (hsane τ conn _ resp hresp)
  have hcarries := carries_create org (show OrganizationCreateResponse from resp).organizationID
  rw [h.spec] at hcarries
  exact Pushing.wpE_recordCreated (hripe _ hid) hguard rfl rfl rfl hid hcarries

theorem wpE_updatePushed (h : pushing.Ready σ cr conn τ org) (hguard : pushing.Guarded E)
    (hid : org.status.litellmOrganizationID ≠ "") :
    pushing.Finishes lib E σ cr home id (updateOrganization lib conn org) τ := by
  unfold Pushing.Finishes updateOrganization
  dsimp only
  split
  · rename_i hskip
    rw [h.spec] at hskip
    exact h.done_of_skip (rfl : _ = some ()) hskip (idOf_of_ne hid)
  · rw [wpE_bind, wpE_orFail]
    refine Pushing.wp_push h (fun _ τ' _ hripe => ?_) (fun e τ' _ h' => h'.partly)
    have hcarries := carries_update org
    rw [h.spec] at hcarries
    rw [wpE_bind]
    refine wpE_post (Pushing.wpE_recordHash (hripe _ (idOf_of_ne hid)) hguard
      (rfl : _ = some ()) ?_ rfl rfl (idOf_of_ne hid) hcarries) (fun org' τ'' hdone => ?_)
    · rw [h.spec]
    · exact hdone.aside (Pushing.Aside.refl _) rfl rfl

theorem wpE_pushed (h : pushing.Ready σ cr conn τ org)
    (hguard : pushing.Guarded E) (hsane : pushing.sane lib E cr) :
    pushing.Finishes lib E σ cr home id (createOrUpdateOrganization lib conn org) τ := by
  unfold Pushing.Finishes createOrUpdateOrganization
  split
  · exact wpE_createPushed h hguard hsane
  · rename_i hid
    exact wpE_updatePushed h hguard hid

/-! ## Members -/

/-- The requests about members, and lookups. -/
def minor : OrganizationApi → Prop
  | .create _ => False
  | .update _ => False
  | .delete _ => False
  | _ => True

theorem pushed_of_minor (req : OrganizationApi) (h : minor req) (key : NamespacedName)
    (a : Service.Result req) : pushed ⟨key, req, a⟩ = none := by
  cases req <;> first | rfl | exact h.elim

/-- The copy has changed in its status only, and there not in the id. -/
def SameID (org org' : LiteLLMOrganization) : Prop :=
  ∃ st, org' = org.withStatus st ∧ st.litellmOrganizationID = org.status.litellmOrganizationID

theorem beside_addMissingMembers (actual : List String) :
    (addMissingMembers conn org actual).Uses (Op.IsBeside minor) := by
  refine Prog.uses_forM (fun m _ => ?_)
  dsimp only
  split
  · exact .pure
  · exact .bind (.perform trivial) (fun _ => .pure)

theorem beside_removeMembers (members : List OrgMemberInfo) (desired : List String) :
    (removeMembers conn org members desired).Uses (Op.IsBeside minor) := by
  refine Prog.uses_forM (fun m _ => ?_)
  split
  · exact .pure
  · exact .bind (.perform trivial) (fun _ => .pure)

theorem wpE_reconcileMembers_beside : (E.rules kind lib home).wpE (reconcileMembers conn org)
      (fun org' τ' => SameID org org' ∧ Beside minor τ τ') (fun _ τ' => Beside minor τ τ') τ := by
  unfold reconcileMembers
  simp only [wpE_bind, wpE_orFail, wpE_lift, wpE_pure]
  refine Pass.wp_besideApi (N := minor) (by trivial) (fun r τ₁ h₁ => ?_)
  cases r with
  | error e => exact h₁
  | ok info =>
    refine Pass.wp_beside (beside_addMissingMembers _) (fun _ τ₂ h₂ => ?_)
    refine Pass.wp_beside (beside_removeMembers _ _) (fun _ τ₃ h₃ => ?_)
    exact ⟨⟨_, rfl, rfl⟩, (h₁.trans h₂).trans h₃⟩

theorem wpE_reconcileSpecMembers_beside :
    (E.rules kind lib home).wpE (reconcileSpecMembers conn org)
      (fun org' τ' => SameID org org' ∧ Beside minor τ τ')
      (fun f τ' => f.cr = org ∧ Beside minor τ τ') τ := by
  unfold reconcileSpecMembers
  split
  · exact ⟨⟨_, rfl, rfl⟩, Beside.refl τ⟩
  · rw [wpE_orFail]
    refine wp_mono wpE_reconcileMembers_beside (fun r τ' h' => ?_)
    cases r with
    | ok org' => exact h'
    | error e => exact ⟨rfl, h'⟩

theorem done_of_beside {org' : LiteLLMOrganization} {τ' : OrganizationScene}
    (h : pushing.Done lib E σ cr τ org) (hsame : SameID org org') (hb : Beside minor τ τ') :
    pushing.Done lib E σ cr τ' org' := by
  obtain ⟨st, rfl, hst⟩ := hsame
  exact h.aside (Pushing.aside_of_beside pushed_of_minor hb) rfl hst

/-! ## The controller -/

theorem wpE_reconcileOrganization_done (h : pushing.Ready σ cr conn τ org)
    (hguard : pushing.Guarded E) (hsane : pushing.sane lib E cr) :
    pushing.Finishes lib E σ cr home (·.1) (reconcileOrganization lib org conn) τ := by
  unfold Pushing.Finishes reconcileOrganization
  simp only [wpE_bind, wpE_lift, wpE_pure]
  refine wpE_post (wpE_pushed h hguard hsane) (fun org₁ τ₁ h₁ => ?_)
  refine wpE_mono wpE_reconcileSpecMembers_beside (fun org₂ τ₂ hb₂ => ?_) (fun f τ₂ hb₂ => ?_)
  swap
  · obtain ⟨hf, hb⟩ := hb₂
    rw [hf]
    exact (done_of_beside h₁ ⟨_, rfl, rfl⟩ hb).partly
  have h₂ := done_of_beside h₁ hb₂.1 hb₂.2
  refine Pushing.wp_aside (S := pushing) (fun _ _ => rfl) (fun info τ₃ h₃ => ?_)
  cases info with
  | error e | ok info => exact h₂.aside h₃ rfl rfl

def hashSync (lib : Ext) : HashSync lib where
  toPushing := pushing
  spec_of_value _ _ _ _ h := SpecValue.organization.inj h
  object_isSome _ _ _ x h := ⟨x, h⟩
  ends _ _ _ _ hnow hlive _ hsane hguard := (shaped lib).ends hnow hlive
      (fun _ _ _ h _ => wpE_reconcileOrganization_done h hguard hsane)

end Organization

/-! ## Teams

The body of a team also carries the id of the organization it refers to, which the hash does not
cover.
-/

abbrev TeamScene : Type := Scene LiteLLMTeamSpec LiteLLMTeamStatus TeamApi

abbrev TeamPass : Type := Pass LiteLLMTeamSpec LiteLLMTeamStatus TeamApi

namespace Team

/-- A resource that says nothing but its namespace, its spec and its status. -/
def bare (ns : String) (spec : LiteLLMTeamSpec) (status : LiteLLMTeamStatus) : LiteLLMTeam :=
  ⟨{ name := "", ns := ns }, spec, status⟩

def pushed : Served TeamApi → Option String
  | ⟨_, .create _, resp⟩ => idOf (show TeamCreateResponse from resp).teamID
  | ⟨_, .update req, _⟩ => idOf req.teamID
  | _ => none

/-- The request has the body its type has for this spec and organization. -/
def carries (req : TeamApi) (spec : LiteLLMTeamSpec) (id orgID : String) : Prop :=
  match req with
  | .create body => body = createRequest (bare "" spec {}) orgID
  | .update body => body = updateRequest (bare "" spec { litellmTeamID := id }) orgID
  | _ => False

/-- The id of the organization a team refers to, empty if it refers to none. -/
def organizationOf (E : TeamPass) (ns : String) (spec : LiteLLMTeamSpec) : Option String :=
  (readOff E.cluster (resolveOrganizationRef (bare ns spec {})).run).bind Except.toOption

@[reducible] def pushing : Pushing where
  R := .team
  Tag := String
  tag st := (show LiteLLMTeamStatus from st).litellmTeamID
  Refs := String
  refs := organizationOf
  value spec _ := .team spec
  object _ id := idOf id
  adopts := true
  pushed := pushed
  carries := carries
  synced st := isStatusConditionTrue (show LiteLLMTeamStatus from st).conditions conditionSynced
  sane _ E _ := ∀ τ conn body resp, E.serve τ conn (.create body) = .ok resp →
    (show TeamCreateResponse from resp).teamID ≠ ""

theorem shaped (lib : Ext) : pushing.Shaped lib (controller lib) := {}

variable {lib : Ext} {home : String} {orgID : String}
variable {E : TeamPass}
variable {σ τ : TeamScene}
variable {cr team : LiteLLMTeam} {conn : ResolvedInstance}

theorem carries_create (team : LiteLLMTeam) (id orgID : String) :
    carries (.create (createRequest team orgID)) team.spec id orgID := rfl

theorem carries_update (team : LiteLLMTeam) (orgID : String) :
    carries (.update (updateRequest team orgID)) team.spec team.status.litellmTeamID orgID := rfl

/-! ## Adopting -/

theorem wpE_adoptExisting_ready (h : pushing.Ready σ cr conn τ team) (hblank : syncHash team = "") :
    (E.rules kind lib home).wpE (adoptExistingTeam conn team)
      (fun team' τ' => pushing.Ready σ cr conn τ' team')
      (fun f τ' => pushing.Partly lib E σ cr τ' f.1) τ := by
  unfold adoptExistingTeam
  rw [wpE_bind, wpE_lift]
  refine Pushing.wp_aside (S := pushing) (fun _ _ => rfl) (fun r τ₁ h₁ => ?_)
  cases r with
  | error e =>
    dsimp only
    split
    · exact h.aside h₁
    · exact (h.aside h₁).partly
  | ok info =>
    have hready := h.aside h₁
    simp only [wpE_bind]
    refine Pushing.wpE_markAdopted hready.toAt (fun team₂ τ₂ hat hhash hst hrest => ?_)
      (fun f τ₂ hrv _ hq => ?_)
    · rw [wpE_orFail]
      refine Pushing.wp_storeStatus hat ?_ (fun team₃ τ₃ hat₃ hhash₃ _ hrest₃ _ => ?_)
        (fun e τ₃ _ hq => ?_)
      · rfl
      · refine ⟨hat₃, ?_, .inr (hhash₃.trans (hhash.trans hblank)), hready.key⟩
        rw [hrest₃.log, hrest.log]
        exact hready.log
      · exact ⟨team₂, hat.aside (Pushing.aside_of_quiet hq), rfl, .inl (hhash.trans hblank)⟩
    · exact ⟨team, hready.toAt.aside (Pushing.aside_of_quiet hq), hrv, .inl hblank⟩

theorem wpE_adoptUnbound_ready (h : pushing.Ready σ cr conn τ team)
    (hunbound : ∀ s, pushing.object s (pushing.tag cr.status) = none → syncHash cr = "") :
    (E.rules kind lib home).wpE (adoptUnbound conn team)
      (fun team' τ' => pushing.Ready σ cr conn τ' team')
      (fun f τ' => pushing.Partly lib E σ cr τ' f.cr) τ := by
  unfold adoptUnbound
  split
  · rename_i hnew
    have hblank : syncHash team = "" :=
      h.blank (s := cr.spec) hunbound (idOf_eq_none.mpr hnew.1)
    rw [wpE_orFail]
    refine wp_mono (wpE_adoptExisting_ready h hblank) (fun r τ' h' => ?_)
    cases r with
    | ok team' | error f => exact h'
  · exact h

/-! ## Pushing -/

section

variable (h : pushing.Ready σ cr conn τ team) (hguard : pushing.Guarded E)
variable (horg : organizationOf E cr.metadata.ns cr.spec = some orgID)

include h hguard horg

theorem wpE_createPushed (hsane : pushing.sane lib E cr) :
    pushing.Finishes lib E σ cr home id (createTeam lib conn orgID team) τ := by
  unfold Pushing.Finishes createTeam
  rw [wpE_bind, wpE_orFail]
  refine Pushing.wp_push h (fun resp τ' hresp hripe => ?_) (fun e τ' _ h' => h'.partly)
  have hid := idOf_of_ne (hsane τ conn _ resp hresp)
  have hcarries := carries_create team (show TeamCreateResponse from resp).teamID orgID
  rw [h.spec] at hcarries
  exact Pushing.wpE_recordCreated (hripe _ hid) hguard horg rfl rfl hid hcarries

theorem wpE_updatePushed (hid : team.status.litellmTeamID ≠ "") :
    pushing.Finishes lib E σ cr home id (updateTeam lib conn orgID team) τ := by
  unfold Pushing.Finishes updateTeam
  dsimp only
  split
  · rename_i hskip
    rw [h.spec] at hskip
    exact h.done_of_skip horg hskip (idOf_of_ne hid)
  · rw [wpE_bind, wpE_orFail]
    refine Pushing.wp_push h (fun _ τ' _ hripe => ?_) (fun e τ' _ h' => h'.partly)
    have hcarries := carries_update team orgID
    rw [h.spec] at hcarries
    rw [wpE_bind]
    refine wpE_post (Pushing.wpE_recordHash (hripe _ (idOf_of_ne hid)) hguard horg ?_ rfl
      rfl (idOf_of_ne hid) hcarries) (fun team' τ'' hdone => ?_)
    · rw [h.spec]
    · exact hdone.aside (Pushing.Aside.refl _) rfl rfl

theorem wpE_pushed (hsane : pushing.sane lib E cr) :
    pushing.Finishes lib E σ cr home id (createOrUpdateTeam lib conn orgID team) τ := by
  unfold Pushing.Finishes createOrUpdateTeam
  split
  · exact wpE_createPushed h hguard horg hsane
  · rename_i hid
    exact wpE_updatePushed h hguard horg hid

end

/-! ## Members -/

/-- The requests about members and logging, and lookups. -/
def minor : TeamApi → Prop
  | .create _ => False
  | .update _ => False
  | .delete _ => False
  | _ => True

theorem pushed_of_minor (req : TeamApi) (h : minor req) (key : NamespacedName)
    (a : Service.Result req) : pushed ⟨key, req, a⟩ = none := by
  cases req <;> first | rfl | exact h.elim

/-- The requests about members. -/
def ofMembers : TeamApi → Prop
  | .listMembers _ => True
  | .addMember _ _ _ => True
  | .removeMember _ _ => True
  | _ => False

theorem minor_of_members (req : TeamApi) (h : ofMembers req) : minor req := by
  cases req <;> trivial

def SameID (team team' : LiteLLMTeam) : Prop :=
  ∃ st, team' = team.withStatus st ∧ st.litellmTeamID = team.status.litellmTeamID

theorem SameID.refl (team : LiteLLMTeam) : SameID team team := ⟨team.status, rfl, rfl⟩

theorem beside_addMissingMembers (actual : List String) :
    (addMissingMembers conn team actual).Uses (Op.IsBeside ofMembers) := by
  refine Prog.uses_forM (fun m _ => ?_)
  split
  · exact .pure
  · exact .bind (.perform trivial) (fun _ => .pure)

theorem beside_removeMembers (emails desired : List String) :
    (removeMembers conn team emails desired).Uses (Op.IsBeside ofMembers) := by
  refine Prog.uses_forM (fun m _ => ?_)
  split
  · exact .pure
  · exact .bind (.perform trivial) (fun _ => .pure)

theorem wp_syncMembers_beside (actual emails desired : List String) {st : LiteLLMTeamStatus}
    (hst : st.litellmTeamID = team.status.litellmTeamID) (h : Beside ofMembers σ τ) :
    (E.rules kind lib home).wp (addMissingMembers conn team actual)
      (fun _ τ' => (E.rules kind lib home).wp (removeMembers conn team emails desired)
        (fun _ τ'' => SameID team (team.withStatus st) ∧ Beside ofMembers σ τ'') τ') τ := by
  refine Pass.wp_beside (beside_addMissingMembers _) (fun _ τ₁ h₁ => ?_)
  refine Pass.wp_beside (beside_removeMembers _ _) (fun _ τ₂ h₂ => ?_)
  exact ⟨⟨st, rfl, hst⟩, (h.trans h₁).trans h₂⟩

theorem wpE_listMembers_beside {Q : List TeamMemberInfo → TeamScene → Prop}
    (hQ : ∀ ms τ', Beside ofMembers τ τ' → Q ms τ') :
    (E.rules kind lib home).wpE (listMembers conn team) Q (fun _ τ' => Beside ofMembers τ τ') τ :=
      by
  unfold listMembers
  rw [wpE_orFail]
  refine Pass.wp_besideApi (N := ofMembers) (by trivial) (fun r τ₁ h₁ => ?_)
  cases r with
  | error e => exact h₁
  | ok ms => exact hQ ms τ₁ h₁

theorem wpE_reconcileMembers_beside : (E.rules kind lib home).wpE (reconcileMembers conn team)
      (fun team' τ' => SameID team team' ∧ Beside ofMembers τ τ')
      (fun _ τ' => Beside ofMembers τ τ') τ := by
  unfold reconcileMembers
  generalize (if team.spec.memberManagement = "" then "mixed" else team.spec.memberManagement)
    = mgmt
  dsimp only
  split
  · unfold reconcileMembersSSO
    rw [wpE_bind]
    exact wpE_listMembers_beside (fun ms τ' h' => ⟨⟨_, rfl, rfl⟩, h'⟩)
  · split
    · unfold reconcileMembersCRD
      rw [wpE_bind]
      refine wpE_listMembers_beside (fun ms τ' h' => ?_)
      simp only [wpE_bind, wpE_lift]
      exact wp_syncMembers_beside _ _ _ rfl h'
    · split
      · unfold reconcileMembersMixed
        rw [wpE_bind]
        refine wpE_listMembers_beside (fun ms τ' h' => ?_)
        simp only [wpE_bind, wpE_lift]
        exact wp_syncMembers_beside _ _ _ rfl h'
      · exact Beside.refl τ

/-! ## Logging -/

section

variable {N : TeamApi → Prop} (hset : ∀ id req, N (.setCallback id req))
variable (hdisable : ∀ id, N (.disableLogging id))

include hset in
theorem beside_setCallback (cb : TeamCallback) :
    (setCallback conn team cb).run.Uses (Op.IsBeside N) := by
  have hread : (readCallbackCredentials team.metadata.ns cb).run.Uses (Op.IsBeside N) :=
    uses_run_bind (uses_orFail (.perform trivial)) (fun _ => .pure)
  refine uses_run_bind (uses_orFail hread) (fun vars => ?_)
  exact uses_run_bind (uses_orFail (.perform (hset _ _))) (fun _ => .pure)

include hset in
theorem wpE_setCallback_beside (cb : TeamCallback) (h : Beside N σ τ) :
    (E.rules kind lib home).wpE (setCallback conn team cb) (fun _ τ' => Beside N σ τ')
      (fun _ τ' => Beside N σ τ') τ := by
  refine Pass.wp_beside (beside_setCallback hset cb) (fun r τ' h' => ?_)
  cases r with
  | ok _ | error e => exact h.trans h'

/-- The copy has changed in what it says about logging. -/
def SameButLogging (team team' : LiteLLMTeam) : Prop := ∃ synced disabled, team' =
    { team with status.loggingSynced := synced, status.loggingDisabled := disabled }

theorem SameButLogging.sameID {team' : LiteLLMTeam} (h : SameButLogging team team') :
    SameID team team' := by
  obtain ⟨synced, disabled, rfl⟩ := h
  exact ⟨_, rfl, rfl⟩

include hdisable in
theorem wpE_disableLogging_beside (pre : String) (disabled : Bool) : (E.rules kind lib home).wpE (do
        let _ ← orFail (api conn (TeamApi.disableLogging team.status.litellmTeamID)) (wrapf pre)
        pure { team with status.loggingDisabled := disabled, status.loggingSynced := true })
      (fun team' τ' => SameButLogging team team' ∧ Beside N τ τ') (fun _ τ' => Beside N τ τ')
      τ := by
  simp only [wpE_bind, wpE_orFail]
  refine Pass.wp_besideApi (hdisable _) (fun r τ' h' => ?_)
  cases r with
  | error e => exact h'
  | ok _ => exact ⟨⟨_, _, rfl⟩, h'⟩

include hset hdisable in
theorem wpE_reconcileLogging_beside : (E.rules kind lib home).wpE (reconcileLogging conn team)
      (fun team' τ' => SameButLogging team team' ∧ Beside N τ τ') (fun _ τ' => Beside N τ τ')
      τ := by
  unfold reconcileLogging
  split
  · exact ⟨⟨_, _, rfl⟩, Beside.refl τ⟩
  · split
    · exact wpE_disableLogging_beside hdisable _ _
    · split
      · exact wpE_disableLogging_beside hdisable _ _
      · rw [wpE_bind]
        refine wpE_post (wpE_forM
          (fun cb _ τ' h' => wpE_setCallback_beside hset cb h') (Beside.refl τ))
          (fun _ τ' h' => ⟨⟨_, _, rfl⟩, h'⟩)

end

theorem done_of_beside {team' : LiteLLMTeam} {τ' : TeamScene} (h : pushing.Done lib E σ cr τ team)
    (hsame : SameID team team') (hb : Beside minor τ τ') : pushing.Done lib E σ cr τ' team' := by
  obtain ⟨st, rfl, hst⟩ := hsame
  exact h.aside (Pushing.aside_of_beside pushed_of_minor hb) rfl hst

/-! ## The controller -/

theorem isRead_resolveOrganizationRef (team : LiteLLMTeam) :
    (resolveOrganizationRef team).run.Uses Op.IsRead :=
  isRead_of_plain (uses_resolveOrganizationRef team)

theorem wpE_reconcileTeam_done (h : pushing.Ready σ cr conn τ team)
    (hunbound : ∀ s, pushing.object s (pushing.tag cr.status) = none → syncHash cr = "")
    (hguard : pushing.Guarded E) (hsane : pushing.sane lib E cr) :
    pushing.Finishes lib E σ cr home (·.1) (reconcileTeam lib team conn) τ := by
  unfold Pushing.Finishes reconcileTeam
  rw [wpE_bind, wpE_orFail]
  refine Pass.wp_reads (isRead_resolveOrganizationRef team) (fun r τ₁ hr hq => ?_)
  have h₁ := h.quiet hq
  rcases r with e | orgID
  · exact h₁.partly
  have horg : organizationOf E cr.metadata.ns cr.spec = some orgID := by
    rw [← h.ns, ← h.spec]
    show (readOff E.cluster (resolveOrganizationRef team).run).bind Except.toOption = _
    rw [hr]
    rfl
  simp only [wpE_bind, wpE_orFail, wpE_lift, wpE_pure]
  refine wpE_post (wpE_adoptUnbound_ready h₁ hunbound) (fun team₂ τ₂ h₂ => ?_)
  refine wpE_post (wpE_pushed h₂ hguard horg hsane) (fun team₃ τ₃ h₃ => ?_)
  refine wp_mono wpE_reconcileMembers_beside (fun r τ₄ hb₄ => ?_)
  rcases r with e | team₄
  · exact (done_of_beside h₃ (SameID.refl _) (hb₄.mono minor_of_members)).partly
  have h₄ := done_of_beside h₃ hb₄.1 (hb₄.2.mono minor_of_members)
  refine wp_mono (wpE_reconcileLogging_beside (N := minor) (fun _ _ => trivial)
    (fun _ => trivial)) (fun r τ₅ hb₅ => ?_)
  cases r with
  | error e =>
    have h₅ := done_of_beside h₄ (SameID.refl _) hb₅
    dsimp only
    split <;> exact h₅.partly
  | ok team₅ =>
    have h₅ := done_of_beside h₄ hb₅.1.sameID hb₅.2
    refine Pushing.wp_aside (S := pushing) (fun _ _ => rfl) (fun info τ₆ h₆ => ?_)
    cases info with
    | error e | ok info => exact h₅.aside h₆ rfl rfl

def hashSync (lib : Ext) : HashSync lib where
  toPushing := pushing
  spec_of_value _ _ _ _ h := SpecValue.team.inj h
  object_isSome _ _ _ x h := ⟨x, h⟩
  ends _ _ _ _ hnow hlive hunbound hsane hguard := (shaped lib).ends hnow hlive
      (fun _ _ _ h _ => wpE_reconcileTeam_done h (hunbound rfl) hguard hsane)

end Team

end LitellmOperator
