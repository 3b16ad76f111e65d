import LitellmOperator.Controller.Budget
import LitellmOperator.Controller.Customer
import LitellmOperator.Controller.Model
import LitellmOperator.Controller.Organization
import LitellmOperator.Controller.Team
import LitellmOperator.Session.Reconcile

/-! # The controllers of a kind keep to the session protocol -/

set_option autoImplicit false

namespace LitellmOperator

open Effect Protocol Go Kube Ctl Kind

namespace Budget

/-- A budget is bound by the id in its status. LiteLLM may leave the id out of its answer, which
then is the one asked for. -/
def kind : Kind LiteLLMBudgetSpec LiteLLMBudgetStatus BudgetApi where
  kind := kindBudget
  instanceRef := (·.instanceRef)
  bound v := idOf v.status.litellmBudgetID
  adopted _ := false
  byName := false
  replaces := false
  creates
    | .create _ => true
    | _ => false
  names
    | .create req => some req.budgetID
    | .get budgetID => some budgetID
    | _ => none
  takes
    | .create req, r => idOf (if (show BudgetResponse from r).budgetID = "" then req.budgetID
        else (show BudgetResponse from r).budgetID)
    | _, _ => none
  deletes
    | .delete budgetID => some budgetID
    | _ => none
  finds _ := none
  hinders _ := failedWrite
  merge _ modified _ := modified
  bound_congr := by
    intro v v' _ hst _
    rw [hst]
  takes_deletes req _ _ h := by
    cases req with
    | delete _ => cases h
    | _ => rfl

theorem annotates_syncHash : kind.Annotates annotationSyncHash := ⟨fun _ _ => rfl, fun _ _ => rfl⟩

theorem fits (lib : Ext) : (controller lib).Fits kind where
  cleans := ⟨rfl, fun _ _ h => ⟨h, rfl⟩, fun _ => rfl, fun _ => rfl, fun _ _ => rfl⟩

variable {lib : Ext} {conn : ResolvedInstance} {budget : LiteLLMBudget}
variable {s : Session LiteLLMBudgetSpec LiteLLMBudgetStatus}

theorem wpE_createOrUpdateBudget (h : Live kind lib conn budget s) :
    (kind.session lib).wpE (createOrUpdateBudget lib conn budget)
      (Live kind lib conn) (Stops kind) s := by
  unfold createOrUpdateBudget
  split
  · rename_i hid
    unfold createBudget
    simp only [wpE_bind, wpE_orFail]
    refine wp_createUnbound rfl h (idOf_eq_none.mpr hid) (fun resp s' hw => ?_)
      (fun e s' h' => h'.reportable)
    exact wpE_recordCreated annotates_syncHash (hw _ rfl) (fun _ _ h' _ _ => h')
  · unfold updateBudget
    dsimp only
    split
    · exact h
    · simp only [wpE_bind, wpE_orFail]
      refine wp_apiOr ⟨rfl, rfl, fun _ => rfl⟩ h (fun _ s' h' => ?_) (fun _ _ hf => hf)
      exact wpE_storeSyncHash annotates_syncHash h' (fun _ _ h'' _ _ => h''.withStatus rfl)

theorem wpE_reconcileBudget (h : Live kind lib conn budget s) :
    (kind.session lib).wpE (reconcileBudget lib budget conn)
      (fun r s' => Reportable kind r.1 s') (Stops kind) s := by
  unfold reconcileBudget
  simp only [wpE_bind, wpE_lift, wpE_pure]
  refine wpE_post (wpE_createOrUpdateBudget h) (fun budget₁ s₁ h₁ => ?_)
  refine wp_api ⟨rfl, rfl, fun _ => rfl⟩ h₁ (fun info s₂ h₂ => ?_)
  rcases info with e | _ | info
  · exact h₂.reportable
  · exact h₂.reportable
  · exact (h₂.withStatus rfl).reportable

/-- **The budget controller keeps to the session protocol.** -/
theorem follows (lib : Ext) (req : NamespacedName) :
    (kind.session lib).wp (reconcile lib req) (fun _ s => Final s) {} :=
  (controller lib).follows (fits lib) (fun _ _ _ h => wpE_reconcileBudget h) req

end Budget

/-! ## Customers -/

namespace Customer

/-- A customer is bound when it is synced, to the id in its spec. -/
def kind : Kind LiteLLMCustomerSpec LiteLLMCustomerStatus CustomerApi where
  kind := kindCustomer
  instanceRef := (·.instanceRef)
  bound := target
  adopted _ := false
  byName := false
  replaces := false
  creates
    | .create _ => true
    | _ => false
  names
    | .create req => some req.userID
    | .get customerID => some customerID
    | _ => none
  takes
    | .create req, _ => some req.userID
    | _, _ => none
  deletes
    | .delete customerID => some customerID
    | _ => none
  finds _ := none
  hinders _ := failedWrite
  merge _ modified _ := modified
  bound_congr := by
    intro v v' hspec hst _
    unfold target
    rw [hspec, hst]
  takes_deletes req _ _ h := by
    cases req with
    | delete _ => cases h
    | _ => rfl

theorem annotates_syncHash : kind.Annotates annotationSyncHash := ⟨fun _ _ => rfl, fun _ _ => rfl⟩

theorem fits (lib : Ext) : (controller lib).Fits kind where
  cleans := ⟨rfl, fun _ _ h => ⟨h, rfl⟩, fun _ => rfl, fun _ => rfl, fun _ _ => rfl⟩

variable {lib : Ext} {conn : ResolvedInstance} {customer : LiteLLMCustomer}
variable {s : Session LiteLLMCustomerSpec LiteLLMCustomerStatus}

theorem wpE_createOrUpdateCustomer (h : Live kind lib conn customer s) :
    (kind.session lib).wpE (createOrUpdateCustomer lib conn customer)
      (Live kind lib conn) (Stops kind) s := by
  unfold createOrUpdateCustomer
  cases hsync : customer.status.synced with
  | true =>
    rw [if_pos rfl]
    unfold updateCustomer
    dsimp only
    split
    · exact h
    · simp only [wpE_bind, wpE_orFail]
      refine wp_apiOr ⟨rfl, rfl, fun _ => rfl⟩ h (fun _ s' h' => ?_) (fun _ _ hf => hf)
      exact wpE_storeSyncHash annotates_syncHash h' (fun _ _ h'' _ _ => h'')
  | false =>
    have hn : kind.bound customer = none := by
      show target customer = none
      unfold target
      rw [hsync]
      rfl
    rw [if_neg Bool.false_ne_true]
    unfold createCustomer
    simp only [wpE_bind, wpE_orFail]
    refine wp_createUnbound rfl h hn (fun _ s' hw => ?_) (fun e s' h' => h'.reportable)
    exact wpE_recordCreated annotates_syncHash (hw _ rfl) (fun _ _ h' _ _ => h')

theorem wpE_reconcileCustomer (h : Live kind lib conn customer s) :
    (kind.session lib).wpE (reconcileCustomer lib customer conn)
      (fun r s' => Reportable kind r.1 s') (Stops kind) s := by
  unfold reconcileCustomer
  simp only [wpE_bind, wpE_lift, wpE_pure]
  refine wpE_post (wpE_createOrUpdateCustomer h) (fun customer₁ s₁ h₁ => ?_)
  exact wp_apiOr ⟨rfl, rfl, fun _ => rfl⟩ h₁
    (fun _ _ h₂ => (h₂.withStatus rfl).reportable) (fun _ _ hf => hf)

/-- **The customer controller keeps to the session protocol.** -/
theorem follows (lib : Ext) (req : NamespacedName) :
    (kind.session lib).wp (reconcile lib req) (fun _ s => Final s) {} :=
  (controller lib).follows (fits lib) (fun _ _ _ h => wpE_reconcileCustomer h) req

end Customer

/-! ## Organizations -/

namespace Organization

def kind : Kind LiteLLMOrganizationSpec LiteLLMOrganizationStatus OrganizationApi where
  kind := kindOrganization
  instanceRef := (·.instanceRef)
  bound v := idOf v.status.litellmOrganizationID
  adopted _ := false
  byName := false
  replaces := false
  creates
    | .create _ => true
    | _ => false
  names
    | .get organizationID => some organizationID
    | _ => none
  takes
    | .create _, r => idOf (show OrganizationCreateResponse from r).organizationID
    | _, _ => none
  deletes
    | .delete organizationID => some organizationID
    | _ => none
  finds _ := none
  hinders _ := failedWrite
  merge _ modified _ := modified
  bound_congr := by
    intro v v' _ hst _
    rw [hst]
  takes_deletes req _ _ h := by
    cases req with
    | delete _ => cases h
    | _ => rfl

theorem annotates_syncHash : kind.Annotates annotationSyncHash := ⟨fun _ _ => rfl, fun _ _ => rfl⟩

theorem fits (lib : Ext) : (controller lib).Fits kind where
  cleans := ⟨rfl, fun _ _ h => ⟨h, rfl⟩, fun _ => rfl, fun _ => rfl, fun _ _ => rfl⟩

variable {lib : Ext} {conn : ResolvedInstance} {org : LiteLLMOrganization}
variable {s : Session LiteLLMOrganizationSpec LiteLLMOrganizationStatus}

theorem wpE_createOrUpdateOrganization (h : Live kind lib conn org s) :
    (kind.session lib).wpE (createOrUpdateOrganization lib conn org)
      (Live kind lib conn) (Stops kind) s := by
  unfold createOrUpdateOrganization
  split
  · rename_i hid
    unfold createOrganization
    simp only [wpE_bind, wpE_orFail]
    refine wp_createUnbound rfl h (idOf_eq_none.mpr hid) (fun resp s' hw => ?_)
      (fun e s' h' => h'.reportable)
    exact wpE_recordCreated annotates_syncHash (hw _ rfl) (fun _ _ h' _ _ => h')
  · unfold updateOrganization
    dsimp only
    split
    · exact h
    · simp only [wpE_bind, wpE_orFail]
      refine wp_apiOr ⟨rfl, rfl, fun _ => rfl⟩ h (fun _ s' h' => ?_) (fun _ _ hf => hf)
      exact wpE_storeSyncHash annotates_syncHash h' (fun _ _ h'' _ _ => h''.withStatus rfl)

theorem wp_addMissingMembers (actual : List String) (h : Live kind lib conn org s) :
    (kind.session lib).wp (addMissingMembers conn org actual)
      (fun _ s' => Live kind lib conn org s') s :=
  wp_forApi (fun _ => ⟨rfl, rfl, fun _ => rfl⟩) h

theorem wp_removeMembers (members : List OrgMemberInfo) (desired : List String)
    (h : Live kind lib conn org s) :
    (kind.session lib).wp (removeMembers conn org members desired)
      (fun _ s' => Live kind lib conn org s') s :=
  wp_forApi (fun _ => ⟨rfl, rfl, fun _ => rfl⟩) h

theorem wpE_reconcileSpecMembers (h : Live kind lib conn org s) :
    (kind.session lib).wpE (reconcileSpecMembers conn org) (Live kind lib conn) (Stops kind) s := by
  unfold reconcileSpecMembers
  split
  · exact h
  · rw [wpE_orFail]
    refine wp_mono (?_ : (kind.session lib).wpE (reconcileMembers conn org)
      (Live kind lib conn) (fun _ s' => Reportable kind org s') s)
      (fun r s' h' => ?_)
    · unfold reconcileMembers
      simp only [wpE_bind, wpE_orFail, wpE_lift, wpE_pure]
      refine wp_api ⟨rfl, rfl, fun _ => rfl⟩ h (fun r s₁ h₁ => ?_)
      cases r with
      | error e => exact h₁.reportable
      | ok info =>
        refine wp_mono (wp_addMissingMembers _ h₁) (fun _ s₂ h₂ => ?_)
        exact wp_mono (wp_removeMembers _ _ h₂) (fun _ s₃ h₃ => h₃.withStatus rfl)
    · cases r with
      | ok org' | error e => exact h'

theorem wpE_reconcileOrganization (h : Live kind lib conn org s) :
    (kind.session lib).wpE (reconcileOrganization lib org conn)
      (fun r s' => Reportable kind r.1 s') (Stops kind) s := by
  unfold reconcileOrganization
  simp only [wpE_bind, wpE_lift, wpE_pure]
  refine wpE_post (wpE_createOrUpdateOrganization h) (fun org₁ s₁ h₁ => ?_)
  refine wpE_post (wpE_reconcileSpecMembers h₁) (fun org₂ s₂ h₂ => ?_)
  exact wp_apiOr ⟨rfl, rfl, fun _ => rfl⟩ h₂
    (fun _ _ h₃ => (h₃.withStatus rfl).reportable) (fun _ _ hf => hf)

/-- **The organization controller keeps to the session protocol.** -/
theorem follows (lib : Ext) (req : NamespacedName) :
    (kind.session lib).wp (reconcile lib req) (fun _ s => Final s) {} :=
  (controller lib).follows (fits lib) (fun _ _ _ h => wpE_reconcileOrganization h) req

end Organization

/-! ## Models -/

namespace Model

def kind : Kind LiteLLMModelSpec LiteLLMModelStatus ModelApi where
  kind := kindModel
  instanceRef := (·.instanceRef)
  bound v := idOf v.status.litellmModelID
  adopted _ := false
  byName := false
  replaces := true
  creates
    | .create _ => true
    | _ => false
  names _ := none
  takes
    | .create _, r => idOf (show ModelCreateResponse from r).modelID
    | _, _ => none
  deletes
    | .delete modelID => some modelID
    | _ => none
  finds _ := none
  hinders _ := failedWrite
  merge _ modified _ := modified
  bound_congr := by
    intro v v' _ hst _
    rw [hst]
  takes_deletes req _ _ h := by
    cases req with
    | delete _ => cases h
    | _ => rfl

theorem fits (lib : Ext) : (controller lib).Fits kind where
  cleans := ⟨rfl, fun _ _ h => ⟨h, rfl⟩, fun _ => rfl, fun _ => rfl, fun _ _ => rfl⟩

variable {lib : Ext} {conn : ResolvedInstance} {model : LiteLLMModel}
variable {s : Session LiteLLMModelSpec LiteLLMModelStatus}

/-! ## Provider settings -/

theorem uses_resolveCredential (model : LiteLLMModel) (ref : CredentialRef) :
    (resolveCredential model ref).run.Uses Op.PlainRead := by
  unfold resolveCredential
  refine uses_run_bind (uses_orFail (uses_read trivial)) (fun cred => ?_)
  refine uses_run_bind (uses_failIf _ _) (fun _ => ?_)
  exact uses_run_bind (uses_orFail (uses_getSecretValue _ _)) (fun _ => .pure)

theorem wpE_optionalSecretValue {ref : Option SecretKeyRef} {pre : String}
    (h : Live kind lib conn model s)
    {Q : String → Session LiteLLMModelSpec LiteLLMModelStatus → Prop}
    (hQ : ∀ a s', Live kind lib conn model s' → Q a s') :
    (kind.session lib).wpE (optionalSecretValue model ref pre) Q (Stops kind) s := by
  rcases ref with _ | ref
  · exact hQ "" s h
  show (kind.session lib).wpE (orFail _ _) Q (Stops kind) s
  rw [wpE_orFail]
  refine wp_plain (uses_getSecretValue _ _) (fun r s' hs' => ?_)
  cases r with
  | error e => exact (h.same hs').reportable
  | ok val => exact hQ val s' (h.same hs')

theorem wpE_resolveParams (h : Live kind lib conn model s) :
    (kind.session lib).wpE (resolveParams model) (fun _ s' => Live kind lib conn model s')
      (Stops kind) s := by
  unfold resolveParams
  split
  · rw [wpE_bind, wpE_orFail]
    refine wp_plain (uses_resolveCredential _ _) (fun r s' hs' => ?_)
    cases r with
    | error e => exact (h.same hs').reportable
    | ok cred => exact h.same hs'
  · simp only [wpE_bind]
    refine wpE_optionalSecretValue h (fun _ s₁ h₁ => ?_)
    exact wpE_optionalSecretValue h₁ (fun _ s₂ h₂ => h₂)

/-! ## Pushing -/

theorem wpE_recordSync {modelID hash authMode : String}
    (h : Writable kind lib conn { model with
      status.litellmModelID := modelID, status.synced := true } s) :
    (kind.session lib).wpE (recordSync model modelID hash authMode)
      (Live kind lib conn) (Stops kind) s := by
  unfold recordSync
  simp only [wpE_bind, wpE_orFail]
  refine wp_record h (fun model' s₁ h₁ _ _ => ?_) (fun e s₁ h₁ => h₁)
  exact wp_updateMeta (annotate (annotate model' annotationSyncHash hash)
    annotationAuthMode authMode) h₁ rfl rfl rfl (fun c _ => ⟨rfl, rfl⟩) (fun _ _ h₂ _ _ => h₂)
    (fun _ _ h₂ => h₂)

variable {req : ModelCreateRequest} {hash authMode : String}

theorem wpE_createModel (h : Live kind lib conn model s) (hid : model.status.litellmModelID = "") :
    (kind.session lib).wpE (createModel conn model req hash authMode)
      (Live kind lib conn) (Stops kind) s := by
  unfold createModel
  simp only [wpE_bind, wpE_orFail]
  exact wp_createUnbound rfl h (idOf_eq_none.mpr hid) (fun resp s' hw => wpE_recordSync (hw _ rfl))
    (fun e s' h' => h'.reportable)

theorem wpE_clearModelID {e : Error} (h : Vacant kind lib conn model s) : (kind.session lib).wpE (do
        let model ← ExceptT.lift (clearModelID model)
        throw (⟨model, after 30, wrapf "recreate model for auth-mode switch: " e⟩ : ModelFailure))
      (Live kind lib conn) (Stops kind) s := by
  unfold clearModelID
  simp only [wpE_bind, wpE_lift, wp_bind]
  exact wp_record (h.writable rfl) (fun _ _ h' _ _ => h'.reportable) (fun _ _ h' => h')

theorem wpE_recreateModel (h : Live kind lib conn model s)
    (hid : model.status.litellmModelID ≠ "") :
    (kind.session lib).wpE (recreateModel conn model req hash authMode)
      (Live kind lib conn) (Stops kind) s := by
  unfold recreateModel
  simp only [wpE_bind, wpE_orFail]
  refine wp_deleteBound rfl rfl rfl (fun _ => rfl) h (idOf_of_ne hid) rfl (fun r s₁ h₁ hv => ?_)
  cases r with
  | error e => exact h₁.reportable
  | ok _ =>
    simp only [wpE_lift]
    refine wp_createVacant rfl hv (fun resp s₂ hw => wpE_recordSync (hw _ rfl)) (fun e s₂ h₂ => ?_)
    exact wpE_clearModelID h₂

theorem wpE_updateModel (h : Live kind lib conn model s) :
    (kind.session lib).wpE (updateModel conn model req hash authMode)
      (Live kind lib conn) (Stops kind) s := by
  unfold updateModel
  simp only [wpE_bind, wpE_orFail]
  exact wp_apiOr ⟨rfl, rfl, fun _ => rfl⟩ h
    (fun _ _ h' => wpE_recordSync (Live.writable (h'.withStatus rfl))) (fun _ _ hf => hf)

theorem wpE_pushModel (h : Live kind lib conn model s) :
    (kind.session lib).wpE (pushModel conn model req hash authMode)
      (Live kind lib conn) (Stops kind) s := by
  unfold pushModel
  split
  · rename_i hid
    exact wpE_createModel h hid
  · rename_i hid
    split
    · exact h
    · split
      · exact wpE_recreateModel h hid
      · exact wpE_updateModel h

/-! ## The controller -/

theorem wp_reportHealth (h : Live kind lib conn model s) :
    (kind.session lib).wp (reportHealth conn model) (Live kind lib conn) s := by
  unfold reportHealth
  split
  · unfold updateModelHealth
    rw [wp_bind]
    refine wp_api ⟨rfl, rfl, fun _ => rfl⟩ h (fun r s' h' => ?_)
    cases r with
    | error e | ok report => exact h'.withStatus rfl
  · exact h.withStatus rfl

theorem wpE_reconcileModel (h : Live kind lib conn model s) :
    (kind.session lib).wpE (reconcileModel lib model conn)
      (fun r s' => Reportable kind r.1 s') (Stops kind) s := by
  unfold reconcileModel
  simp only [wpE_bind, wpE_lift, wpE_pure]
  refine wpE_post (wpE_resolveParams h) (fun p s₁ h₁ => ?_)
  refine wpE_post (wpE_pushModel h₁) (fun model₂ s₂ h₂ => ?_)
  exact wp_mono (wp_reportHealth h₂) (fun _ _ h₃ => h₃.reportable)

/-- **The model controller keeps to the session protocol.** -/
theorem follows (lib : Ext) (req : NamespacedName) :
    (kind.session lib).wp (reconcile lib req) (fun _ s => Final s) {} :=
  (controller lib).follows (fits lib) (fun _ _ _ h => wpE_reconcileModel h) req

end Model

/-! ## Teams -/

namespace Team

def kind : Kind LiteLLMTeamSpec LiteLLMTeamStatus TeamApi where
  kind := kindTeam
  instanceRef := (·.instanceRef)
  bound v := idOf v.status.litellmTeamID
  adopted v := isAdopted v.metadata
  byName := false
  replaces := false
  creates
    | .create _ => true
    | _ => false
  names
    | .create req => idOf req.teamID
    | .get teamID => some teamID
    | _ => none
  takes
    | .create _, r => idOf (show TeamCreateResponse from r).teamID
    | _, _ => none
  deletes
    | .delete teamID => some teamID
    | _ => none
  finds
    | .get teamID => some teamID
    | _ => none
  hinders _ := failedWrite
  merge _ modified _ := modified
  bound_congr := by
    intro v v' _ hst _
    rw [hst]
  adopted_congr := by
    intro v v' hann
    unfold isAdopted
    rw [hann]
  takes_deletes req _ _ h := by
    cases req with
    | delete _ => cases h
    | _ => rfl

theorem annotates_syncHash : kind.Annotates annotationSyncHash where
  bound _ _ := rfl
  adopted v val := isAdopted_annotate_ne v val (by decide)

theorem fits (lib : Ext) : (controller lib).Fits kind where
  cleans :=
    { instanceRef := rfl
      target := by
        intro team x h
        exact bound_of_target h
      deletes := fun _ => rfl
      creates := fun _ => rfl
      takes := fun _ _ => rfl }

variable {lib : Ext} {conn : ResolvedInstance} {team : LiteLLMTeam}
variable {s : Session LiteLLMTeamSpec LiteLLMTeamStatus}

/-! ## The steps of the body -/

theorem uses_resolveOrganizationRef (team : LiteLLMTeam) :
    (resolveOrganizationRef team).run.Uses Op.PlainRead := by
  unfold resolveOrganizationRef
  split
  · exact .pure
  · refine uses_run_bind (uses_orFail (uses_read trivial)) (fun org => ?_)
    exact uses_run_bind (uses_failIf _ _) (fun _ => .pure)

theorem wpE_adoptExistingTeam (h : Live kind lib conn team s)
    (hid : team.status.litellmTeamID = "") (hspec : team.spec.teamID ≠ "") :
    (kind.session lib).wpE (adoptExistingTeam conn team)
      (Live kind lib conn) (fun f s' => Reportable kind f.1 s') s := by
  unfold adoptExistingTeam
  simp only [wpE_bind, wpE_lift]
  refine wp_find ⟨rfl, rfl, fun _ => rfl⟩ rfl h (fun _ s' h' hx => ?_) (fun e s' h' => ?_)
  · simp only [wpE_bind, wpE_orFail]
    refine wpE_markAdopted (fun _ _ => rfl) isAdopted_annotate_self h' (idOf_eq_none.mpr hid) hx
      (fun team' s'' h'' hn ha hx' heq => ?_) (fun f s'' h'' => h'')
    -- the id of the team found is assigned to the marked copy
    have hb : kind.bound { team' with status.litellmTeamID := team'.spec.teamID }
        = some team.spec.teamID := by
      rw [← heq]
      rw [← heq] at hspec
      exact idOf_of_ne hspec
    exact wp_record (h''.adopts hn ha hx' hb) (fun _ _ h₃ _ _ => h₃) (fun _ _ h₃ => h₃)
  · simp only
    split
    · exact h'
    · exact h'.reportable

theorem wpE_adoptUnbound (h : Live kind lib conn team s) :
    (kind.session lib).wpE (adoptUnbound conn team) (Live kind lib conn) (Stops kind) s := by
  unfold adoptUnbound
  split
  · rename_i hid
    rw [wpE_orFail]
    refine wp_mono (wpE_adoptExistingTeam h hid.1 hid.2) (fun r s' hr => ?_)
    cases r with
    | ok team' | error f => exact hr
  · exact h

variable {orgID : String}

theorem wpE_createTeam (h : Live kind lib conn team s) (hid : team.status.litellmTeamID = "") :
    (kind.session lib).wpE (createTeam lib conn orgID team)
      (Live kind lib conn) (Stops kind) s := by
  unfold createTeam
  simp only [wpE_bind, wpE_orFail]
  refine wp_createUnbound rfl h (idOf_eq_none.mpr hid) (fun resp s' hw => ?_)
    (fun e s' h' => h'.reportable)
  exact wpE_recordCreated annotates_syncHash (hw _ rfl) (fun _ _ h' _ _ => h')

theorem wpE_updateTeam (h : Live kind lib conn team s) :
    (kind.session lib).wpE (updateTeam lib conn orgID team)
      (Live kind lib conn) (Stops kind) s := by
  unfold updateTeam
  simp only
  split
  · exact h
  · simp only [wpE_bind, wpE_orFail]
    refine wp_apiOr ⟨rfl, rfl, fun _ => rfl⟩ h (fun _ s' h' => ?_) (fun _ _ hf => hf)
    exact wpE_storeSyncHash annotates_syncHash h' (fun _ _ h'' _ _ => h''.withStatus rfl)

theorem wpE_createOrUpdateTeam (h : Live kind lib conn team s) :
    (kind.session lib).wpE (createOrUpdateTeam lib conn orgID team)
      (Live kind lib conn) (Stops kind) s := by
  unfold createOrUpdateTeam
  split
  · rename_i hid
    exact wpE_createTeam h hid
  · exact wpE_updateTeam h

/-! ## Members and logging -/

theorem wp_addMissingMembers (actual : List String) (h : Live kind lib conn team s) :
    (kind.session lib).wp (addMissingMembers conn team actual)
      (fun _ s' => Live kind lib conn team s') s :=
  wp_forApi (fun _ => ⟨rfl, rfl, fun _ => rfl⟩) h

theorem wp_removeMembers (emails desired : List String) (h : Live kind lib conn team s) :
    (kind.session lib).wp (removeMembers conn team emails desired)
      (fun _ s' => Live kind lib conn team s') s :=
  wp_forApi (fun _ => ⟨rfl, rfl, fun _ => rfl⟩) h

theorem wpE_listMembers (h : Live kind lib conn team s)
    {Q : List TeamMemberInfo → Session LiteLLMTeamSpec LiteLLMTeamStatus → Prop}
    (hQ : ∀ ms s', Live kind lib conn team s' → Q ms s') :
    (kind.session lib).wpE (listMembers conn team) Q (fun _ s' => Reportable kind team s') s := by
  unfold listMembers
  rw [wpE_orFail]
  exact wp_apiOr ⟨rfl, rfl, fun _ => rfl⟩ h (fun ms s' h' => hQ ms s' h') (fun _ _ hf => hf)

theorem wp_syncMembers (actual emails desired : List String) {st : LiteLLMTeamStatus}
    (hst : st.litellmTeamID = team.status.litellmTeamID) (h : Live kind lib conn team s) :
    (kind.session lib).wp (addMissingMembers conn team actual)
      (fun _ s' => (kind.session lib).wp (removeMembers conn team emails desired)
        (fun _ s'' => Live kind lib conn (team.withStatus st) s'') s') s := by
  refine wp_mono (wp_addMissingMembers _ h) (fun _ s₁ h₁ => ?_)
  exact wp_mono (wp_removeMembers _ _ h₁) (fun _ s₂ h₂ => h₂.withStatus (congrArg idOf hst))

theorem wpE_reconcileMembers (h : Live kind lib conn team s) :
    (kind.session lib).wpE (reconcileMembers conn team)
      (Live kind lib conn) (fun _ s' => Reportable kind team s') s := by
  unfold reconcileMembers
  generalize (if team.spec.memberManagement = "" then "mixed" else team.spec.memberManagement)
    = mgmt
  dsimp only
  split
  · unfold reconcileMembersSSO
    rw [wpE_bind]
    exact wpE_listMembers h (fun ms s' h' => h'.withStatus rfl)
  · split
    · unfold reconcileMembersCRD
      rw [wpE_bind]
      refine wpE_listMembers h (fun ms s' h' => ?_)
      simp only [wpE_bind, wpE_lift]
      exact wp_syncMembers _ _ _ rfl h'
    · split
      · unfold reconcileMembersMixed
        rw [wpE_bind]
        refine wpE_listMembers h (fun ms s' h' => ?_)
        simp only [wpE_bind, wpE_lift]
        exact wp_syncMembers _ _ _ rfl h'
      · exact h.reportable

theorem uses_readCallbackCredentials (ns : String) (cb : TeamCallback) :
    (readCallbackCredentials ns cb).run.Uses Op.PlainRead :=
  uses_run_bind (uses_orFail (uses_read trivial)) (fun _ => .pure)

theorem wpE_setCallback (cb : TeamCallback) (h : Live kind lib conn team s) :
    (kind.session lib).wpE (setCallback conn team cb) (fun _ s' => Live kind lib conn team s')
      (fun _ s' => Reportable kind team s') s := by
  unfold setCallback
  simp only [wpE_bind, wpE_orFail]
  refine wp_plain (uses_readCallbackCredentials _ _) (fun r s₁ hs₁ => ?_)
  have h₁ := h.same hs₁
  rcases r with e | vars
  · exact h₁.reportable
  exact wp_apiOr ⟨rfl, rfl, fun _ => rfl⟩ h₁ (fun _ _ h₂ => h₂) (fun _ _ hf => hf)

theorem wpE_disableLogging (pre : String) {st : LiteLLMTeamStatus} (h : Live kind lib conn team s)
    (hst : st.litellmTeamID = team.status.litellmTeamID) :
    (kind.session lib).wpE (do
        let _ ← orFail (api conn (TeamApi.disableLogging team.status.litellmTeamID)) (wrapf pre)
        pure (team.withStatus st))
      (Live kind lib conn) (fun _ s' => Reportable kind team s') s := by
  simp only [wpE_bind, wpE_orFail]
  exact wp_apiOr ⟨rfl, rfl, fun _ => rfl⟩ h
    (fun _ _ h' => h'.withStatus (congrArg idOf hst)) (fun _ _ hf => hf)

theorem wpE_reconcileLogging (h : Live kind lib conn team s) :
    (kind.session lib).wpE (reconcileLogging conn team)
      (Live kind lib conn) (fun _ s' => Reportable kind team s') s := by
  unfold reconcileLogging
  split
  · exact h.withStatus rfl
  · split
    · exact wpE_disableLogging _ h rfl
    · split
      · exact wpE_disableLogging _ h rfl
      · rename_i logging _ _ _
        rw [wpE_bind]
        refine wpE_post (wpE_forM (fun cb _ s' h' => wpE_setCallback cb h') h)
          (fun _ s' h' => h'.withStatus rfl)

/-! ## The controller -/

theorem wpE_reconcileTeam (h : Live kind lib conn team s) :
    (kind.session lib).wpE (reconcileTeam lib team conn) (fun r s' => Reportable kind r.1 s')
      (Stops kind) s := by
  unfold reconcileTeam
  simp only [wpE_bind, wpE_orFail, wpE_lift, wpE_pure]
  refine wp_plain (uses_resolveOrganizationRef _) (fun r s₁ hs₁ => ?_)
  have h₁ := h.same hs₁
  rcases r with e | orgID
  · exact h₁.reportable
  refine wpE_post (wpE_adoptUnbound h₁) (fun team₂ s₂ h₂ => ?_)
  refine wpE_post (wpE_createOrUpdateTeam h₂) (fun team₃ s₃ h₃ => ?_)
  refine wp_mono (wpE_reconcileMembers h₃) (fun r s₄ h₄ => ?_)
  rcases r with e | team₄
  · exact h₄
  refine wp_mono (wpE_reconcileLogging h₄) (fun r s₅ h₅ => ?_)
  cases r with
  | error e =>
    simp only
    split <;> exact h₅
  | ok team₅ =>
    exact wp_apiOr ⟨rfl, rfl, fun _ => rfl⟩ h₅
      (fun _ _ h₆ => (h₆.withStatus rfl).reportable) (fun _ _ hf => hf)

/-- **The team controller keeps to the session protocol.** -/
theorem follows (lib : Ext) (req : NamespacedName) :
    (kind.session lib).wp (reconcile lib req) (fun _ s => Final s) {} :=
  (controller lib).follows (fits lib) (fun _ _ _ h => wpE_reconcileTeam h) req

end Team

end LitellmOperator
