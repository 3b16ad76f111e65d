import LitellmOperator.Sync.Rules

/-! # The sync hash of models

The hash covers the resolved provider settings, so a changed Secret or credential is pushed too.
A model whose auth mode flips is deleted and created again; when that fails half-way its id is
cleared, which makes the hash that is still stored meaningless.
-/

set_option autoImplicit false

namespace LitellmOperator

open Effect Protocol Go Kube Ctl Scene

abbrev ModelScene : Type := Scene LiteLLMModelSpec LiteLLMModelStatus ModelApi

abbrev ModelPass : Type := Pass LiteLLMModelSpec LiteLLMModelStatus ModelApi

namespace Model

def bare (ns : String) (spec : LiteLLMModelSpec) : LiteLLMModel := ⟨{ name := "", ns := ns }, spec, {}⟩

def pushed : Served ModelApi → Option String
  | ⟨_, .create _, resp⟩ => idOf (show ModelCreateResponse from resp).modelID
  | ⟨_, .update req, _⟩ => idOf req.modelID
  | _ => none

/-- The body of an update: that of a create, addressed to a model. -/
def addressed (req : ModelCreateRequest) (id : String) : ModelCreateRequest :=
  { req with modelID := id, modelInfo := some { req.modelInfo.getD {} with id := id } }

def carries (req : ModelApi) (spec : LiteLLMModelSpec) (id : String) (params : ModelParams) :
    Prop :=
  match req with
  | .create body => body = createRequest (bare "" spec) params
  | .update body => body = addressed (createRequest (bare "" spec) params) id
  | _ => False

/-- The parameters of a model with the provider's settings, if they resolve. -/
def paramsOf (E : ModelPass) (ns : String) (spec : LiteLLMModelSpec) : Option ModelParams :=
  ((readOff E.cluster (resolveParams (bare ns spec)).run).bind Except.toOption).map (·.1)

/-- How a spec authenticates. -/
def modeOf (spec : LiteLLMModelSpec) : String :=
  if spec.litellmParams.credentialRef.isSome then authModeCredential else authModeInline

@[reducible] def pushing : Pushing where
  R := .model
  Tag := String
  tag st := (show LiteLLMModelStatus from st).litellmModelID
  Refs := ModelParams
  refs := paramsOf
  value spec params := .model spec params
  object _ id := idOf id
  adopts := false
  pushed := pushed
  carries := carries
  synced st := isStatusConditionTrue (show LiteLLMModelStatus from st).conditions conditionSynced
  sane _ E _ := ∀ τ conn body resp, E.serve τ conn (.create body) = .ok resp →
    (show ModelCreateResponse from resp).modelID ≠ ""

theorem shaped (lib : Ext) : pushing.Shaped lib (controller lib) := {}

variable {lib : Ext} {home : String} {params : ModelParams} {mode : String}
variable {E : ModelPass}
variable {σ τ : ModelScene}
variable {cr model : LiteLLMModel} {conn : ResolvedInstance}

theorem carries_create (model : LiteLLMModel) (id : String) (params : ModelParams) :
    carries (.create (createRequest model params)) model.spec id params := rfl

theorem carries_update (model : LiteLLMModel) (id : String) (params : ModelParams) :
    carries (.update (addressed (createRequest model params) id)) model.spec id params := rfl

/-! ## The provider's settings -/

theorem isRead_optionalSecretValue (model : LiteLLMModel) (ref : Option SecretKeyRef)
    (pre : String) : (optionalSecretValue model ref pre).run.Uses Op.IsRead := by
  cases ref with
  | none => exact .pure
  | some ref => exact uses_orFail (isRead_of_plain (uses_getSecretValue _ _))

theorem isRead_resolveParams (model : LiteLLMModel) : (resolveParams model).run.Uses Op.IsRead := by
  unfold resolveParams
  split
  · exact uses_run_bind (uses_orFail (isRead_of_plain (uses_resolveCredential _ _)))
      (fun _ => .pure)
  · refine uses_run_bind (isRead_optionalSecretValue _ _ _) (fun _ => ?_)
    exact uses_run_bind (isRead_optionalSecretValue _ _ _) (fun _ => .pure)

section

variable {cluster : (r : Read) → Except Error r.Obj} {model' : LiteLLMModel}

theorem readOff_optionalSecretValue {ref : Option SecretKeyRef} {pre val : String}
    (hns : model'.metadata.ns = model.metadata.ns)
    (h : readOff cluster (optionalSecretValue model ref pre).run = some (.ok val)) :
    readOff cluster (optionalSecretValue model' ref pre).run = some (.ok val) := by
  cases ref with
  | none => exact h
  | some ref =>
    refine readOff_orFail_ok.mpr ?_
    rw [hns]
    exact readOff_orFail_ok.mp h

variable {p : ModelParams × String}

theorem readOff_resolveParams (hns : model'.metadata.ns = model.metadata.ns)
    (hspec : model'.spec = model.spec)
    (h : readOff cluster (resolveParams model).run = some (.ok p)) :
    readOff cluster (resolveParams model').run = some (.ok p) := by
  have hbase : baseParams model' = baseParams model := by
    unfold baseParams
    rw [hspec]
  unfold resolveParams at h ⊢
  rw [hspec, hbase]
  split at h
  · obtain ⟨cred, hcred, hp⟩ := readOff_run_bind_ok.mp h
    refine readOff_run_bind_ok.mpr ⟨cred, readOff_orFail_ok.mpr ?_, hp⟩
    have hcred' := readOff_orFail_ok.mp hcred
    unfold resolveCredential at hcred' ⊢
    rw [hns]
    exact hcred'
  · obtain ⟨key, hkey, hp⟩ := readOff_run_bind_ok.mp h
    obtain ⟨creds, hcreds, hp⟩ := readOff_run_bind_ok.mp hp
    refine readOff_run_bind_ok.mpr ⟨key, readOff_optionalSecretValue hns hkey, ?_⟩
    exact readOff_run_bind_ok.mpr ⟨creds, readOff_optionalSecretValue hns hcreds, hp⟩

theorem paramsOf_of_resolveParams
    (hr : readOff E.cluster (resolveParams model).run = some (.ok p)) :
    paramsOf E model.metadata.ns model.spec = some p.1 := by
  have hbare : readOff E.cluster (resolveParams (bare model.metadata.ns model.spec)).run =
      some (.ok p) := by
    refine readOff_resolveParams ?_ ?_ hr
    · rfl
    · rfl
  unfold paramsOf
  rw [hbare]
  rfl

theorem failure_of_resolveParams {f : ModelFailure}
    (h : readOff cluster (resolveParams model).run = some (.error f)) : f.cr = model := by
  have hsecret : ∀ {ref pre}, readOff cluster (optionalSecretValue model ref pre).run =
      some (.error f) → f.cr = model := by
    intro ref pre hs
    cases ref with
    | none => cases hs
    | some ref =>
      obtain ⟨e, rfl⟩ := readOff_orFail_error hs
      rfl
  unfold resolveParams at h
  split at h
  · rcases readOff_run_bind_error h with h | ⟨cred, h⟩
    · obtain ⟨e, rfl⟩ := readOff_orFail_error h
      rfl
    · cases h
  · rcases readOff_run_bind_error h with h | ⟨key, h⟩
    · exact hsecret h
    · rcases readOff_run_bind_error h with h | ⟨creds, h⟩
      · exact hsecret h
      · cases h

theorem mode_of_resolveParams (h : readOff cluster (resolveParams model).run = some (.ok p)) :
    p.2 = modeOf model.spec := by
  unfold resolveParams at h
  unfold modeOf
  split at h
  · rename_i ref href
    obtain ⟨cred, -, hp⟩ := readOff_run_bind_ok.mp h
    cases hp
    rw [href]
    rfl
  · rename_i href
    obtain ⟨_, -, hp⟩ := readOff_run_bind_ok.mp h
    obtain ⟨_, -, hp⟩ := readOff_run_bind_ok.mp hp
    cases hp
    rw [href]
    rfl

end

/-! ## Pushing -/

theorem syncHash_annotated (model : LiteLLMModel) (hash mode : String) :
    syncHash (annotate (annotate model annotationSyncHash hash) annotationAuthMode mode) =
      hash := by
  show lookup (assign (assign model.metadata.annotations annotationSyncHash hash)
    annotationAuthMode mode) annotationSyncHash = hash
  rw [lookup_assign_ne _ _ (by decide), lookup_assign_self]

theorem wpE_clearModelID_partly {e : Error} (h : pushing.Ready σ cr conn τ model) :
    (E.rules kind lib home).wpE (do
        let model ← ExceptT.lift (clearModelID model)
        throw (⟨model, after 30, wrapf "recreate model for auth-mode switch: " e⟩ : ModelFailure))
      (fun model' τ' => pushing.Done lib E σ cr τ' model')
      (fun (f : ModelFailure) τ' => pushing.Partly lib E σ cr τ' f.cr) τ := by
  unfold clearModelID
  simp only [wpE_bind, wpE_lift, wp_bind]
  refine Pushing.wp_storeStatus h.toAt ?_ (fun r τ₁ hat hr hst hrest hp => ?_)
    (fun e τ₁ he hq => ?_)
  · rfl
  · have hnone : ∀ s, pushing.object s (pushing.tag r.status) = none := by
      intro s
      rw [hst]
      rfl
    exact ⟨r, hat, rfl, .inr (.inl ⟨rfl, hnone, .inl (.inr ⟨rfl, hnone⟩)⟩)⟩
  · have h' := h.quiet hq
    refine ⟨model, h'.toAt, rfl, ?_⟩
    rcases h'.same with ⟨hhash, htag⟩ | hblank
    · exact .inr (.inl ⟨rfl, fun _ => rfl, .inr (.inl ⟨h'.log, hhash, htag⟩)⟩)
    · exact .inl hblank

section

variable {hash : String} (hguard : pushing.Guarded E)
variable (hparams : paramsOf E cr.metadata.ns cr.spec = some params)
variable (hhash : hash = lib.computeSpecHash (.model cr.spec params))

include hguard hparams hhash

theorem wpE_recordSync_done {x : String} {req : ModelApi}
    (h : pushing.Ripe σ cr x req τ model) (hx : x ≠ "")
    (hcarries : carries req cr.spec x params) :
    pushing.Finishes lib E σ cr home id (recordSync model x hash mode) τ := by
  unfold Pushing.Finishes recordSync
  simp only [wpE_bind, wpE_orFail]
  refine Pushing.wp_storeStatus h.toAt ?_ (fun r τ₁ hat hr hst hrest hp => ?_)
    (fun e τ₁ he hq => ?_)
  · rfl
  · have hripe : pushing.Ripe σ cr x req τ₁ r :=
      ⟨hat, by rw [hrest.log]; exact h.log, by rw [hp, hr]; exact h.pending⟩
    have htag : r.status.litellmModelID = x := by rw [hst]
    refine Pass.wp_update hat.now ?_ hat.live (fun r' τ₂ hst' => ?_) (fun e τ₂ he hq _ => ?_)
    · rfl
    · obtain ⟨rv, gen, rfl⟩ := hst'.stamped
      refine ⟨_, ⟨hst'.now, hat.live, hat.spec, hat.ns⟩, rfl, rfl, params, hparams, .inr ?_⟩
      refine hripe.recorded hst'.rest ?_ ?_ ?_
      · exact (syncHash_annotated r hash mode).trans hhash
      · show idOf r.status.litellmModelID = some x
        rw [htag]
        exact idOf_of_ne hx
      · show carries req cr.spec r.status.litellmModelID params
        rw [htag]
        exact hcarries
    · exact ⟨r, hat.aside (Pushing.aside_of_quiet hq), rfl, .inl (hripe.blank_of_fault hguard he)⟩
  · exact ⟨model, h.toAt.aside (Pushing.aside_of_quiet hq), rfl, .inl (h.blank_of_fault hguard he)⟩

theorem wpE_createPushed (h : pushing.Ready σ cr conn τ model) (hsane : pushing.sane lib E cr) :
    pushing.Finishes lib E σ cr home id
      (createModel conn model (createRequest model params) hash mode) τ := by
  unfold Pushing.Finishes createModel
  rw [wpE_bind, wpE_orFail]
  refine Pushing.wp_push h (fun resp τ' hresp hripe => ?_) (fun e τ' _ h' => h'.partly)
  have hid := hsane τ conn _ resp hresp
  have hcarries := carries_create model (show ModelCreateResponse from resp).modelID params
  rw [h.spec] at hcarries
  exact wpE_recordSync_done hguard hparams hhash (hripe _ (idOf_of_ne hid)) hid hcarries

theorem wpE_recreatePushed (h : pushing.Ready σ cr conn τ model) (hsane : pushing.sane lib E cr) :
    pushing.Finishes lib E σ cr home id
      (recreateModel conn model (createRequest model params) hash mode) τ := by
  unfold Pushing.Finishes recreateModel
  simp only [wpE_bind, wpE_orFail]
  refine Pushing.wp_aside (S := pushing) (fun _ _ => rfl) (fun r τ₁ h₁ => ?_)
  have hready := h.aside h₁
  rcases r with e | _
  · exact hready.partly
  simp only [wpE_lift]
  refine Pushing.wp_push hready (fun resp τ₂ hresp hripe => ?_) (fun e τ₂ _ h₂ => ?_)
  · have hid := hsane τ₁ conn _ resp hresp
    have hcarries := carries_create model (show ModelCreateResponse from resp).modelID params
    rw [h.spec] at hcarries
    exact wpE_recordSync_done hguard hparams hhash (hripe _ (idOf_of_ne hid)) hid hcarries
  · exact wpE_clearModelID_partly h₂

theorem wpE_updatePushed (h : pushing.Ready σ cr conn τ model)
    (hid : model.status.litellmModelID ≠ "") :
    pushing.Finishes lib E σ cr home id
      (updateModel conn model (createRequest model params) hash mode) τ := by
  unfold Pushing.Finishes updateModel
  simp only [wpE_bind, wpE_orFail]
  refine Pushing.wp_push h (fun _ τ' _ hripe => ?_) (fun e τ' _ h' => h'.partly)
  have hcarries := carries_update model model.status.litellmModelID params
  rw [h.spec] at hcarries
  exact wpE_recordSync_done hguard hparams hhash (hripe _ (idOf_of_ne hid)) hid hcarries

theorem wpE_pushed (h : pushing.Ready σ cr conn τ model) (hsane : pushing.sane lib E cr) :
    pushing.Finishes lib E σ cr home id
      (pushModel conn model (createRequest model params) hash mode) τ := by
  unfold Pushing.Finishes pushModel
  split
  · exact wpE_createPushed hguard hparams hhash h hsane
  · rename_i hid
    split
    · rename_i hskip
      exact h.done_of_skip hparams (hskip.1.trans hhash) (idOf_of_ne hid)
    · split
      · exact wpE_recreatePushed hguard hparams hhash h hsane
      · exact wpE_updatePushed hguard hparams hhash h hid

end

/-! ## The controller -/

theorem wp_reportHealth_done (h : pushing.Done lib E σ cr τ model) :
    (E.rules kind lib home).wp (reportHealth conn model)
      (fun model' τ' => pushing.Done lib E σ cr τ' model') τ := by
  unfold reportHealth
  split
  · unfold updateModelHealth
    rw [wp_bind]
    refine Pushing.wp_aside (S := pushing) (fun _ _ => rfl) (fun r τ' h' => ?_)
    cases r with
    | error e | ok report => exact h.aside h' rfl rfl
  · exact h.aside (Pushing.Aside.refl _) rfl rfl

theorem wpE_reconcileModel_done (h : pushing.Ready σ cr conn τ model)
    (hguard : pushing.Guarded E) (hsane : pushing.sane lib E cr) :
    pushing.Finishes lib E σ cr home (·.1) (reconcileModel lib model conn) τ := by
  unfold Pushing.Finishes reconcileModel
  simp only [wpE_bind, wpE_lift, wpE_pure]
  refine Pass.wp_reads (isRead_resolveParams model) (fun r τ₁ hr hq => ?_)
  have h₁ := h.quiet hq
  cases r with
  | error f =>
    show pushing.Partly lib E σ cr τ₁ f.cr
    rw [failure_of_resolveParams hr]
    exact h₁.partly
  | ok p =>
    have hparams := paramsOf_of_resolveParams hr
    rw [h.ns, h.spec] at hparams
    refine wpE_post (wpE_pushed hguard hparams (by rw [h.spec]) h₁ hsane) (fun model₂ τ₂ h₂ => ?_)
    exact wp_mono (wp_reportHealth_done h₂) (fun _ _ h₃ => h₃)

def hashSync (lib : Ext) : HashSync lib where
  toPushing := pushing
  spec_of_value _ _ _ _ h := (SpecValue.model.inj h).1
  object_isSome _ _ _ x h := ⟨x, h⟩
  ends _ _ _ _ hnow hlive _ hsane hguard := (shaped lib).ends hnow hlive
      (fun _ _ _ h _ => wpE_reconcileModel_done h hguard hsane)

end Model

end LitellmOperator
