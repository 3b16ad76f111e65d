import LitellmOperator.Sync.Rules

/-! # The sync hash of users

The body of a user also carries the ids of the teams it refers to, which the hash does not cover.
An update is addressed by `spec.userId`, whatever id the status has.
-/

set_option autoImplicit false

namespace LitellmOperator

open Effect Protocol Go Kube Ctl Scene

abbrev UserScene : Type := Scene LiteLLMUserSpec LiteLLMUserStatus UserApi

abbrev UserPass : Type := Pass LiteLLMUserSpec LiteLLMUserStatus UserApi

namespace User

def bare (spec : LiteLLMUserSpec) : LiteLLMUser := ⟨{ name := "", ns := "" }, spec, {}⟩

def pushed : Served UserApi → Option String
  | ⟨_, .create _, resp⟩ => idOf (show UserCreateResponse from resp).userID
  | ⟨_, .update req, _⟩ => idOf req.userID
  | _ => none

def carries (req : UserApi) (spec : LiteLLMUserSpec) (teams : List UserTeam) : Prop :=
  match req with
  | .create body => body = createRequest (bare spec) teams
  | .update body => body = { createRequest (bare spec) teams with autoCreateKey := none }
  | _ => False

/-- The teams a user refers to, with their ids. -/
def teamsOf (E : UserPass) (ns : String) (spec : LiteLLMUserSpec) : Option (List UserTeam) :=
  (readOff E.cluster (resolveTeamRefs ns spec.teams).run).bind Except.toOption

/-- A change of the spec reaches the user only if `spec.userId` is its id. -/
def Addressed (lib : Ext) (cr : LiteLLMUser) : Prop :=
  cr.status.litellmUserID = "" ∨ cr.status.litellmUserID = cr.spec.userID ∨
    syncHash cr = lib.computeSpecHash (.user cr.spec)

@[reducible] def pushing : Pushing where
  R := .user
  Tag := String
  tag st := (show LiteLLMUserStatus from st).litellmUserID
  Refs := List UserTeam
  refs := teamsOf
  value spec _ := .user spec
  object _ id := idOf id
  adopts := true
  pushed := pushed
  carries req spec _ teams := carries req spec teams
  synced st := isStatusConditionTrue (show LiteLLMUserStatus from st).conditions conditionSynced
  sane lib E cr := (∀ τ conn body resp, E.serve τ conn (.create body) = .ok resp →
    (show UserCreateResponse from resp).userID ≠ "") ∧ Addressed lib cr

theorem shaped (lib : Ext) : pushing.Shaped lib (controller lib) := {}

variable {lib : Ext} {home : String} {teams : List UserTeam}
variable {E : UserPass}
variable {σ τ : UserScene}
variable {cr user : LiteLLMUser} {conn : ResolvedInstance}

theorem carries_create (user : LiteLLMUser) (teams : List UserTeam) :
    carries (.create (createRequest user teams)) user.spec teams := rfl

theorem carries_update (user : LiteLLMUser) (teams : List UserTeam) :
    carries (.update { createRequest user teams with autoCreateKey := none }) user.spec teams := rfl

/-! ## Creating and adopting -/

/-- The body was pushed to the user `id`, which is to be recorded. -/
def Bound (teams : List UserTeam) (σ : UserScene) (cr : LiteLLMUser) (τ : UserScene)
    (out : LiteLLMUser × String) : Prop :=
  out.2 ≠ "" ∧ ∃ req, pushing.Ripe σ cr out.2 req τ out.1 ∧ carries req cr.spec teams

theorem wpE_adoptExisting_ripe {e : Error} (h : pushing.Ready σ cr conn τ user) :
    (E.rules kind lib home).wpE (adoptExistingUser conn user (createRequest user teams) e)
      (fun _ τ' => Bound teams σ cr τ' (user, user.spec.userID))
      (fun _ τ' => pushing.Ready σ cr conn τ' user) τ := by
  unfold adoptExistingUser
  rw [wpE_bind]
  refine wpE_failIf (fun _ => h) (fun hcond => ?_)
  have hid : user.spec.userID ≠ "" := by simp at hcond; exact hcond.2
  rw [wpE_bind, wpE_lift]
  refine Pushing.wp_aside (S := pushing) (fun _ _ => rfl) (fun r τ₁ h₁ => ?_)
  have hready := h.aside h₁
  cases r with
  | error e' =>
    dsimp only
    split <;> exact hready
  | ok info =>
    unfold updateCall
    rw [wpE_orFail]
    refine Pushing.wp_push hready (fun _ τ₂ _ hripe => ?_) (fun e' τ₂ _ h₂ => h₂)
    have hcarries := carries_update user teams
    rw [h.spec] at hcarries
    exact ⟨hid, _, hripe _ (idOf_of_ne hid), hcarries⟩

theorem wpE_createOrAdopt_ripe (h : pushing.Ready σ cr conn τ user)
    (hsane : pushing.sane lib E cr) (hblank : syncHash user = "") :
    (E.rules kind lib home).wpE (createOrAdopt conn (createRequest user teams) user)
      (fun out τ' => Bound teams σ cr τ' out)
      (fun f τ' => pushing.Partly lib E σ cr τ' f.cr) τ := by
  unfold createOrAdopt
  rw [wpE_bind, wpE_lift]
  refine Pushing.wp_push h (fun resp τ₁ hresp hripe => ?_) (fun e τ₁ _ h₁ => ?_)
  · have hid := hsane.1 τ conn _ resp hresp
    have hcarries := carries_create user teams
    rw [h.spec] at hcarries
    exact ⟨hid, _, hripe _ (idOf_of_ne hid), hcarries⟩
  · simp only [wpE_bind, wpE_orFail, wpE_pure]
    refine wp_mono (wpE_adoptExisting_ripe h₁) (fun r τ₂ h₂ => ?_)
    rcases r with e' | _
    · exact h₂.partly
    obtain ⟨hid, req, hripe, hcarries⟩ := h₂
    refine Pushing.wpE_markAdopted hripe.toAt (fun user₃ τ₃ hat hhash _ hrest => ?_)
      (fun f τ₃ hrv _ hq => ?_)
    · have hspec : user₃.spec = user.spec := hat.spec.trans h.spec.symm
      refine ⟨by rw [hspec]; exact hid, req, ⟨hat, ?_, .inr (hhash.trans hblank)⟩, hcarries⟩
      rw [hrest.log, hspec]
      exact hripe.log
    · exact ⟨user, hripe.toAt.aside (Pushing.aside_of_quiet hq), hrv, .inl hblank⟩

theorem wpE_createPushed (h : pushing.Ready σ cr conn τ user)
    (hguard : pushing.Guarded E) (hsane : pushing.sane lib E cr)
    (hteams : teamsOf E cr.metadata.ns cr.spec = some teams) (hblank : syncHash user = "") :
    pushing.Finishes lib E σ cr home id
      (createUser lib conn (createRequest user teams) user) τ := by
  unfold Pushing.Finishes createUser
  rw [wpE_bind]
  refine wpE_post (wpE_createOrAdopt_ripe h hsane hblank) (fun out τ₁ h₁ => ?_)
  obtain ⟨hid, req, hripe, hcarries⟩ := h₁
  exact Pushing.wpE_recordCreated hripe hguard hteams rfl rfl (idOf_of_ne hid) hcarries

theorem wpE_updatePushed (h : pushing.Ready σ cr conn τ user)
    (hsame : pushing.Untouched σ cr τ user)
    (hguard : pushing.Guarded E) (hsane : pushing.sane lib E cr)
    (hteams : teamsOf E cr.metadata.ns cr.spec = some teams)
    (hid : user.status.litellmUserID ≠ "") :
    pushing.Finishes lib E σ cr home id
      (updateUser lib conn (createRequest user teams) user) τ := by
  unfold Pushing.Finishes updateUser
  dsimp only
  split
  · rename_i hskip
    rw [h.spec] at hskip
    exact h.done_of_skip hteams hskip (idOf_of_ne hid)
  · rename_i hpush
    -- a push is due, so the id of the status is the one the update is addressed to
    have htag : user.status.litellmUserID = cr.status.litellmUserID := hsame.tag
    have haddr : user.status.litellmUserID = user.spec.userID := by
      rcases hsane.2 with hnone | haddr | hskip
      · exact absurd (htag.trans hnone) hid
      · rw [htag, haddr, h.spec]
      · exact absurd ((hsame.hash.trans hskip).trans (by rw [h.spec])) hpush
    unfold updateCall
    rw [wpE_bind, wpE_orFail]
    refine Pushing.wp_push h (fun _ τ' _ hripe => ?_) (fun e τ' _ h' => h'.partly)
    have hcarries := carries_update user teams
    have hne : user.spec.userID ≠ "" := by rw [← haddr]; exact hid
    have hripe' := hripe _ (idOf_of_ne hne)
    have hobj : idOf user.status.litellmUserID = some user.spec.userID := by
      rw [← haddr]
      exact idOf_of_ne hid
    rw [h.spec] at hcarries
    rw [wpE_bind]
    refine wpE_post (Pushing.wpE_recordHash hripe' hguard hteams ?_ rfl rfl hobj hcarries)
      (fun user' τ'' hdone => ?_)
    · rw [h.spec]
    · exact hdone.aside (Pushing.Aside.refl _) rfl rfl

/-! ## The initial password -/

theorem wp_recordDigest_done {digest : String} (h : pushing.Done lib E σ cr τ user) :
    (E.rules kind lib home).wp (recordDigest user digest)
      (fun user' τ' => pushing.Done lib E σ cr τ' user') τ := by
  unfold recordDigest
  rw [wp_bind]
  obtain ⟨c, hat, hrv, htag, refs, hrefs, hcases⟩ := id h
  refine Pass.wp_statusPatch hat.now hat.live (fun r τ' hst => ?_) (fun e τ' _ hq => ?_)
  · have hre : Pushing.Restated (S := pushing) τ τ' c r := by
      obtain ⟨rv, gen, rfl⟩ := hst.stamped
      -- the patch does not mention the id
      refine ⟨hst.log, rfl, ?_⟩
      show (if user.status.litellmUserID = user.status.litellmUserID
        then c.status.litellmUserID else user.status.litellmUserID) = c.status.litellmUserID
      rw [if_pos rfl]
    have hat' : pushing.At cr τ' r := by
      obtain ⟨rv, gen, rfl⟩ := hst.stamped
      exact ⟨hst.now, hat.live, hat.spec, hat.ns⟩
    refine ⟨r, hat', rfl, rfl, refs, hrefs, ?_⟩
    rcases hcases with hsame | hrec
    · exact .inl (hsame.restated hre)
    · exact .inr (hrec.restated hre)
  · exact h.aside (Pushing.aside_of_quiet hq) rfl rfl

/-- The requests about the password, and lookups. -/
def minor : UserApi → Prop
  | .create _ => False
  | .update _ => False
  | .delete _ => False
  | _ => True

section

variable (lib home E conn)
variable (I : LiteLLMUser → UserScene → Prop)

/-- What the password step keeps: what holds whatever else is written to the copy's status, beside
the id, and what its two calls keep. -/
structure KeptByPassword : Prop where
  quiet : ∀ {v st τ τ'}, I v τ → Quiet τ τ' →
    st.litellmUserID = v.status.litellmUserID → I (v.withStatus st) τ'
  call : ∀ {v τ} password, I v τ →
    (E.rules kind lib home).wp (api conn (UserApi.setPassword v.status.litellmUserID password))
      (fun _ τ' => I v τ') τ
  digest : ∀ {v τ} digest, I v τ → (E.rules kind lib home).wp (recordDigest v digest) I τ

variable {lib home E conn I}

theorem wp_applyPassword_keeps {password : String} (hI : KeptByPassword lib home E conn I)
    (h : I user τ) :
    (E.rules kind lib home).wp (applyPassword lib conn user password)
      (fun out τ' => I out.1 τ') τ := by
  unfold applyPassword setPasswordCall
  simp only [wp_bind, wp_pure]
  refine wp_mono (hI.call password h) (fun r τ₁ h₁ => ?_)
  cases r with
  | error e =>
    simp only [Except.mapError]
    split <;> exact hI.quiet h₁ (Quiet.refl τ₁) rfl
  | ok _ =>
    simp only [Except.mapError, wp_bind]
    refine Pass.wp_random (fun r τ₂ hq => ?_)
    cases r with
    | error e => exact hI.quiet h₁ hq rfl
    | ok salt =>
      rw [wp_bind]
      have h₂ : I user τ₂ := hI.quiet h₁ hq (rfl : user.status.litellmUserID = _)
      exact wp_mono (hI.digest _ h₂) (fun _ _ h₃ => h₃)

theorem wp_reconcileInitialPassword_keeps (hI : KeptByPassword lib home E conn I) (h : I user τ) :
    (E.rules kind lib home).wp (reconcileInitialPassword lib conn user)
      (fun out τ' => I out.1 τ') τ := by
  unfold reconcileInitialPassword
  split
  · exact hI.quiet h (Quiet.refl τ) rfl
  · rw [wp_bind]
    refine Pass.wp_read (fun τ₁ hq => ?_)
    split
    · split <;> exact hI.quiet h hq rfl
    · dsimp only
      split
      · exact hI.quiet h hq rfl
      · split
        · exact hI.quiet h hq rfl
        · exact wp_applyPassword_keeps hI (hI.quiet h hq (rfl : user.status.litellmUserID = _))

end

theorem kept_done : KeptByPassword lib home E conn (fun v τ => pushing.Done lib E σ cr τ v) where
  quiet h hq hst := h.aside (Pushing.aside_of_quiet hq) rfl hst
  call _ h := Pushing.wp_aside (S := pushing) (fun _ _ => rfl) (fun _ _ ha => h.aside ha rfl rfl)
  digest _ h := wp_recordDigest_done h

/-! ## The controller -/

theorem wpE_reconcileUser_done (h : pushing.Ready σ cr conn τ user)
    (hsame : pushing.Untouched σ cr τ user)
    (hunbound : ∀ s, pushing.object s (pushing.tag cr.status) = none → syncHash cr = "")
    (hguard : pushing.Guarded E) (hsane : pushing.sane lib E cr) :
    pushing.Finishes lib E σ cr home (·.1) (reconcileUser lib user conn) τ := by
  unfold Pushing.Finishes reconcileUser
  rw [wpE_bind, wpE_orFail]
  refine Pass.wp_reads (isRead_of_plain (uses_resolveTeamRefs _ _)) (fun r τ₁ hr hq => ?_)
  have h₁ := h.quiet hq
  rcases r with e | teams
  · exact h₁.partly
  have hteams : teamsOf E cr.metadata.ns cr.spec = some teams := by
    rw [← h.ns, ← h.spec]
    unfold teamsOf
    rw [hr]
    rfl
  have hpush : pushing.Finishes lib E σ cr home id
      (createOrUpdateUser lib conn (createRequest user teams) user) τ₁ := by
    unfold Pushing.Finishes createOrUpdateUser
    split
    · rename_i hid
      have hblank : syncHash user = "" := h.blank (s := cr.spec) hunbound (idOf_eq_none.mpr hid)
      exact wpE_createPushed h₁ hguard hsane hteams hblank
    · rename_i hid
      exact wpE_updatePushed h₁ (hsame.aside (Pushing.aside_of_quiet hq)) hguard hsane hteams hid
  simp only [wpE_bind, wpE_lift, wpE_pure]
  refine wpE_post hpush (fun user₂ τ₂ h₂ => ?_)
  refine wp_mono (wp_reconcileInitialPassword_keeps kept_done h₂) (fun applied τ₃ h₃ => ?_)
  refine Pushing.wp_aside (S := pushing) (fun _ _ => rfl) (fun info τ₄ h₄ => ?_)
  cases info with
  | error e | ok info => exact h₃.aside h₄ rfl rfl

def hashSync (lib : Ext) : HashSync lib where
  toPushing := pushing
  spec_of_value _ _ _ _ h := SpecValue.user.inj h
  object_isSome _ _ _ x h := ⟨x, h⟩
  ends _ _ _ _ hnow hlive hunbound hsane hguard := (shaped lib).ends hnow hlive
      (fun _ _ _ h hsame => wpE_reconcileUser_done h hsame (hunbound rfl) hguard hsane)

end User

end LitellmOperator
