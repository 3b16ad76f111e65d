import LitellmOperator.Sync.Kinds
import LitellmOperator.Sync.Model

/-! # Teams up to their members, and models

The first half of `reconcileTeam` binds the resource to a team in LiteLLM and brings the settings of
that team to the spec. It leaves the lists of members in the status alone, and the id of a team that
is bound already. The second half, `finishTeam`, is about members and logging.
-/

set_option autoImplicit false

namespace LitellmOperator

open Effect Protocol Go Kube Ctl Scene

namespace Team

/-- What `reconcileTeam` does once the team is bound and its settings are those of the spec. -/
def finishTeam (resolved : ResolvedInstance) (team : LiteLLMTeam) :
    Body LiteLLMTeamSpec LiteLLMTeamStatus TeamApi := do
  let team ← orFail (reconcileMembers resolved team).run
    (fun e => ⟨team, after 30, wrapf "reconcile members: " e⟩)
  let team ← orFail (reconcileLogging resolved team).run
    (fun e => if isEnterpriseLicenseError e then ⟨team, {}, e⟩
      else ⟨team, after 30, wrapf "reconcile logging: " e⟩)
  let info ← ExceptT.lift (api resolved (TeamApi.get team.status.litellmTeamID))
  pure (withInfo team info, after 300)

theorem reconcileTeam_eq (lib : Ext) (team : LiteLLMTeam) (resolved : ResolvedInstance) :
    reconcileTeam lib team resolved = (do
      let orgID ← orFail (resolveOrganizationRef team).run
        (fun e => ⟨team, after 30, wrapf "resolve organization ref: " e⟩)
      let team ← adoptUnbound resolved team
      let team ← createOrUpdateTeam lib resolved orgID team
      finishTeam resolved team) := rfl

/-- The requests of the first half. -/
def Settling : TeamApi → Prop
  | .create _ => True
  | .update _ => True
  | .get _ => True
  | _ => False

/-- What the first half leaves alone: the members that are listed, and the id of a bound team. -/
def settledPart (bound : Bool) (st : LiteLLMTeamStatus) : List TeamMemberStatus × String :=
  (st.crdMembers, if bound then st.litellmTeamID else "")

abbrev Settled (cr : LiteLLMTeam) : TeamScene → TeamScene → LiteLLMTeam → Prop :=
  Since (settledPart (decide (cr.status.litellmTeamID ≠ ""))) Settling cr

variable {lib : Ext} {home orgID : String} {conn : ResolvedInstance} {cr team : LiteLLMTeam}
variable {E : TeamPass}
variable {σ τ : TeamScene}

theorem Settled.crdMembers (h : Settled cr σ τ team) :
    team.status.crdMembers = cr.status.crdMembers := congrArg Prod.fst h.copy.part

theorem Settled.id (h : Settled cr σ τ team) (hbound : cr.status.litellmTeamID ≠ "") :
    team.status.litellmTeamID = cr.status.litellmTeamID := by
  have hid := congrArg Prod.snd h.copy.part
  simpa [settledPart, hbound] using hid

theorem Settled.unbound (h : Settled cr σ τ team) (hid : team.status.litellmTeamID = "") :
    cr.status.litellmTeamID = "" := by
  by_contra hbound
  exact hbound ((h.id hbound).symm.trans hid)

theorem Settled.bind (h : Settled cr σ τ team) (hunbound : cr.status.litellmTeamID = "")
    {st : LiteLLMTeamStatus} (hst : st.crdMembers = team.status.crdMembers) :
    Settled cr σ τ (team.withStatus st) := by
  refine Since.withStatus h ?_
  unfold settledPart
  simp [hunbound, hst]

theorem Settled.change (h : Settled cr σ τ team) {st : LiteLLMTeamStatus}
    (hst : st.crdMembers = team.status.crdMembers)
    (hid : st.litellmTeamID = team.status.litellmTeamID) : Settled cr σ τ (team.withStatus st) := by
  refine Since.withStatus h ?_
  unfold settledPart
  rw [hst, hid]

/-- What is stored has the id of the copy. -/
def Agreed (τ : TeamScene) (team : LiteLLMTeam) : Prop :=
  ∃ c, τ.Now c ∧ c.status.litellmTeamID = team.status.litellmTeamID

theorem wpE_adoptExisting_settled (h : Settled cr σ τ team) (hagreed : Agreed τ team)
    (hunbound : cr.status.litellmTeamID = "") :
    (E.rules kind lib home).wpE (adoptExistingTeam conn team)
      (fun v τ' => Settled cr σ τ' v ∧ Agreed τ' v) (fun f τ' => Settled cr σ τ' f.1) τ := by
  unfold adoptExistingTeam
  rw [wpE_bind, wpE_lift]
  refine Pass.wp_besideApi (N := Settling) (by trivial) (fun r τ₁ hb => ?_)
  have h₁ : Settled cr σ τ₁ team := h.beside hb
  cases r with
  | error e =>
    dsimp only
    split
    · obtain ⟨c, hnow, hid⟩ := hagreed
      exact ⟨h₁, c, hb.now hnow, hid⟩
    · exact h₁
  | ok info =>
    simp only [wpE_bind]
    refine wpE_post h₁.wpE_markAdopted (fun team₂ τ₂ h₂ => ?_)
    rw [wpE_orFail]
    have hbind := Settled.bind h₂ hunbound
      (show ({ team₂.status with litellmTeamID := team₂.spec.teamID } :
        LiteLLMTeamStatus).crdMembers = _ from rfl)
    exact hbind.wp_statusUpdate (fun r _ h₃ hnow _ => ⟨h₃, r, hnow, rfl⟩) (fun _ _ h₃ => h₃)

theorem wpE_adoptUnbound_settled (h : Settled cr σ τ team) (hagreed : Agreed τ team) :
    (E.rules kind lib home).wpE (adoptUnbound conn team)
      (fun v τ' => Settled cr σ τ' v ∧ Agreed τ' v) (fun f τ' => Settled cr σ τ' f.cr) τ := by
  unfold adoptUnbound
  split
  · rename_i hnew
    rw [wpE_orFail]
    refine wp_mono (wpE_adoptExisting_settled h hagreed (h.unbound hnew.1)) (fun r τ' h' => ?_)
    cases r with
    | ok v | error f => exact h'
  · exact ⟨h, hagreed⟩

/-- A new team has an id. -/
def Assigns (E : TeamPass) : Prop := ∀ τ conn body resp, E.serve τ conn (.create body) = .ok resp →
    (show TeamCreateResponse from resp).teamID ≠ ""

theorem wpE_createOrUpdate_settled (h : Settled cr σ τ team) (hagreed : Agreed τ team) :
    (E.rules kind lib home).wpE (createOrUpdateTeam lib conn orgID team)
      (fun v τ' => Settled cr σ τ' v ∧ (Assigns E → v.status.litellmTeamID ≠ ""))
      (fun f τ' => Settled cr σ τ' f.cr) τ := by
  unfold createOrUpdateTeam
  split
  · rename_i hid
    unfold createTeam
    rw [wpE_bind, wpE_orFail]
    refine Pass.wp_api (fun resp τ₁ hresp hc => ?_) (fun e τ₁ _ hq => h.quiet hq)
    have h₁ : Settled cr σ τ₁ team := h.beside ⟨hc.store, [_], hc.log, fun s hs => by
      rw [List.mem_singleton.mp hs]
      trivial⟩
    have hbind := Settled.bind h₁ (h.unbound hid) (show ({ team.status with
        litellmTeamID := (show TeamCreateResponse from resp).teamID, synced := true } :
      LiteLLMTeamStatus).crdMembers = _ from rfl)
    refine wpE_post hbind.wpE_recordCreated (fun v τ₂ h₂ => ⟨h₂.1, fun hE => ?_⟩)
    rw [h₂.2]
    exact hE τ conn _ resp hresp
  · rename_i hid
    unfold updateTeam
    dsimp only
    split
    · exact ⟨h, fun _ => hid⟩
    · simp only [wpE_bind, wpE_orFail]
      refine Pass.wp_besideApi (N := Settling) (by trivial) (fun r τ₁ hb => ?_)
      have h₁ : Settled cr σ τ₁ team := h.beside hb
      rcases r with e | _
      · exact h₁
      refine wpE_post h₁.wpE_storeSyncHash (fun v τ₂ h₂ => ?_)
      obtain ⟨c, hnow, hc⟩ := hagreed
      refine ⟨Settled.change h₂.1 rfl rfl, fun _ => ?_⟩
      show v.status.litellmTeamID ≠ ""
      rw [h₂.2 c (hb.now hnow), hc]
      exact hid

variable {Q : LiteLLMTeam × Result → TeamScene → Prop} {F : TeamFailure → TeamScene → Prop}

/-- **Up to its members a team stays as it was.** What remains to be shown of a reconcile is its
second half; if it stops before, the members and the id of a bound team are as they were. -/
theorem wpE_reconcileTeam_settled (h : Settled cr σ τ team) (hagreed : Agreed τ team)
    (hfail : ∀ f τ', Settled cr σ τ' f.cr → F f τ')
    (hfinish : ∀ v τ', Settled cr σ τ' v → (Assigns E → v.status.litellmTeamID ≠ "") →
      (E.rules kind lib home).wpE (finishTeam conn v) Q F τ') :
    (E.rules kind lib home).wpE (reconcileTeam lib team conn) Q F τ := by
  rw [reconcileTeam_eq, wpE_bind, wpE_orFail]
  refine Pass.wp_reads (isRead_resolveOrganizationRef team) (fun r τ₁ _ hq => ?_)
  have hagreed₁ : Agreed τ₁ team := by
    obtain ⟨c, hnow, hc⟩ := hagreed
    exact ⟨c, hq.now hnow, hc⟩
  rcases r with e | orgID
  · exact hfail _ τ₁ (h.quiet hq)
  dsimp only
  rw [wpE_bind]
  refine wpE_mono (wpE_adoptUnbound_settled (h.quiet hq) hagreed₁) (fun team₂ τ₂ h₂ => ?_) hfail
  rw [wpE_bind]
  exact wpE_mono (wpE_createOrUpdate_settled h₂.1 h₂.2)
    (fun v τ₃ h₃ => hfinish v τ₃ h₃.1 h₃.2) hfail

theorem wpE_reconcileTeam_now (hnow : τ.Now team) (hlive : team.metadata.deleting = false)
    (hfail : ∀ f τ', Settled team τ τ' f.cr → F f τ')
    (hfinish : ∀ v τ', Settled team τ τ' v → (Assigns E → v.status.litellmTeamID ≠ "") →
      (E.rules kind lib home).wpE (finishTeam conn v) Q F τ') :
    (E.rules kind lib home).wpE (reconcileTeam lib team conn) Q F τ :=
  wpE_reconcileTeam_settled
    (.decoded hnow ⟨hlive, rfl, rfl, rfl⟩ ⟨[], rfl, fun _ hs => absurd hs List.not_mem_nil⟩)
    ⟨team, hnow, rfl⟩ hfail hfinish

end Team

/-! ## A pass of a model

What a reconcile of a model does in a pass, request by request: which of the four ways the body was
pushed (`Took`), or what has kept it from that (`Hindered`). What LiteLLM stores afterwards and
whether the model recovers is read off these.
-/

namespace Model

variable {lib : Ext} {home hash mode id : String} {conn : ResolvedInstance}
variable {E : ModelPass}
variable {τ : ModelScene}
variable {model v : LiteLLMModel} {body : ModelCreateRequest}

/-- The id was stored, then the hash and the auth mode. -/
structure Noted (model : LiteLLMModel) (id hash mode : String) (τ : ModelScene) (v : LiteLLMModel)
    (τ' : ModelScene) : Prop extends Rest τ τ' where
  now : τ'.Now v
  live : v.metadata.deleting = false
  spec : v.spec = model.spec
  ns : v.metadata.ns = model.metadata.ns
  id : v.status.litellmModelID = id
  hash : syncHash v = hash
  mode : annotationAt v annotationAuthMode = mode

/-- How the body was pushed from `model`; `v` is the copy afterwards. -/
inductive Took (lib : Ext) (home : String) (E : ModelPass) (conn : ResolvedInstance)
    (model : LiteLLMModel) (body : ModelCreateRequest) (hash mode : String) (τ : ModelScene) :
    LiteLLMModel → ModelScene → Prop where
  | created {resp : ModelCreateResponse} {τ₁ τ₂ v} (hid : model.status.litellmModelID = "")
      (hresp : E.serve τ conn (.create body) = .ok resp)
      (hc : Pass.Carried kind lib home τ conn (.create body) resp τ₁)
      (hn : Noted model resp.modelID hash mode τ₁ v τ₂) :
      Took lib home E conn model body hash mode τ v τ₂
  | recreated {a} {resp : ModelCreateResponse} {τ₁ τ₂ τ₃ v} (hid : model.status.litellmModelID ≠ "")
      (hflip : annotationAt model annotationAuthMode ≠ "" ∧
        annotationAt model annotationAuthMode ≠ mode)
      (ha : E.serve τ conn (.delete model.status.litellmModelID) = .ok a)
      (hc : Pass.Carried kind lib home τ conn (.delete model.status.litellmModelID) a τ₁)
      (hresp : E.serve τ₁ conn (.create body) = .ok resp)
      (hc₁ : Pass.Carried kind lib home τ₁ conn (.create body) resp τ₂)
      (hn : Noted model resp.modelID hash mode τ₂ v τ₃) :
      Took lib home E conn model body hash mode τ v τ₃
  | updated {a τ₁ τ₂ v} (hid : model.status.litellmModelID ≠ "")
      (hkeep : annotationAt model annotationAuthMode = "" ∨
        annotationAt model annotationAuthMode = mode)
      (ha : E.serve τ conn (.update (addressed body model.status.litellmModelID)) = .ok a)
      (hc : Pass.Carried kind lib home τ conn
        (.update (addressed body model.status.litellmModelID)) a τ₁)
      (hn : Noted model model.status.litellmModelID hash mode τ₁ v τ₂) :
      Took lib home E conn model body hash mode τ v τ₂
  | skipped (hid : model.status.litellmModelID ≠ "") (hhash : syncHash model = hash)
      (hmode : annotationAt model annotationAuthMode = mode) :
      Took lib home E conn model body hash mode τ model τ

/-- What has kept the body from being pushed. -/
inductive Hindered (E : ModelPass) (conn : ResolvedInstance) (model : LiteLLMModel)
    (body : ModelCreateRequest) (τ : ModelScene) : Prop where
  | fault {τ' e} (h : E.fault τ' = some e)
  | create {τ' e} (h : E.serve τ' conn (.create body) = .error e)
  | delete {e} (hid : model.status.litellmModelID ≠ "")
      (h : E.serve τ conn (.delete model.status.litellmModelID) = .error e)
  | update {e} (hid : model.status.litellmModelID ≠ "")
      (h : E.serve τ conn (.update (addressed body model.status.litellmModelID)) = .error e)

theorem now_of_store {τ' : ModelScene} (hnow : τ.Now model)
    (hstore : τ'.world.store = τ.world.store) : τ'.Now model := by
  unfold Scene.Now
  rw [hstore]
  exact hnow

theorem wpE_recordSync_noted {Q : LiteLLMModel → _ → Prop} {F : Prop} (hnow : τ.Now model)
    (hlive : model.metadata.deleting = false) (hfault : ∀ τ' e, E.fault τ' = some e → F)
    (hQ : ∀ v τ', Noted model id hash mode τ v τ' → Q v τ') :
    (E.rules kind lib home).wpE (recordSync model id hash mode) Q (fun _ _ => F) τ := by
  unfold recordSync
  simp only [wpE_bind, wpE_orFail]
  refine Pass.wp_statusUpdate hnow ?_ hlive (fun r τ₁ hst _ _ => ?_) (fun _ _ he _ _ => hfault _ _ he)
  · rfl
  · obtain ⟨rv, gen, rfl⟩ := hst.stamped
    refine Pass.wp_update hst.now ?_ hlive (fun r τ₂ hst' => hQ _ _ ?_)
      (fun _ _ he _ _ => hfault _ _ he)
    · rfl
    · obtain ⟨rv', gen', rfl⟩ := hst'.stamped
      exact ⟨hst.rest.trans hst'.rest, hst'.now, hlive, rfl, rfl, rfl, syncHash_annotated _ hash mode,
        lookup_assign_self _ _ _⟩

/-- **Pushing**, in all four ways. -/
theorem wpE_pushModel_took (hnow : τ.Now model) (hlive : model.metadata.deleting = false) :
    (E.rules kind lib home).wpE (pushModel conn model body hash mode)
      (Took lib home E conn model body hash mode τ)
      (fun _ _ => Hindered E conn model body τ) τ := by
  have hfault : ∀ τ' e, E.fault τ' = some e → Hindered E conn model body τ := fun _ _ => .fault
  unfold pushModel
  split
  · rename_i hid
    unfold createModel
    rw [wpE_bind, wpE_orFail]
    refine Pass.wp_api (fun resp τ₁ hresp hc => ?_) (fun _ _ he _ => .create he)
    exact wpE_recordSync_noted (now_of_store hnow hc.store) hlive hfault
      (fun _ _ hn => .created hid hresp hc hn)
  · rename_i hid
    split
    · rename_i hskip
      exact .skipped hid hskip.1 hskip.2
    · split
      · rename_i hflip
        unfold recreateModel
        simp only [wpE_bind, wpE_orFail]
        refine Pass.wp_api (fun a τ₁ ha hc => ?_) (fun _ _ he _ => .delete hid he)
        simp only [wpE_lift]
        refine Pass.wp_api (fun resp τ₂ hresp hc₁ => ?_) (fun _ _ he _ => ?_)
        · have hnow₂ := now_of_store (now_of_store hnow hc.store) hc₁.store
          exact wpE_recordSync_noted hnow₂ hlive hfault
            (fun _ _ hn => .recreated hid hflip ha hc hresp hc₁ hn)
        · simp only [wpE_bind, wpE_lift]
          exact wp_mono (Pass.wp_true _) (fun _ _ _ => .create he)
      · rename_i hflip
        have hkeep : annotationAt model annotationAuthMode = "" ∨
            annotationAt model annotationAuthMode = mode := by
          by_cases hnone : annotationAt model annotationAuthMode = ""
          · exact .inl hnone
          · exact .inr (by_contra (fun hne => hflip ⟨hnone, hne⟩))
        unfold updateModel
        simp only [wpE_bind, wpE_orFail]
        refine Pass.wp_api (fun a τ₁ ha hc => ?_) (fun _ _ he _ => .update hid he)
        exact wpE_recordSync_noted (now_of_store hnow hc.store) hlive hfault
          (fun _ _ hn => .updated hid hkeep ha hc hn)

/-- The health was asked for, or not, and put into the copy. -/
structure Checked (v : LiteLLMModel) (τ : ModelScene) (v' : LiteLLMModel) (τ' : ModelScene) :
    Prop where
  copy : ∃ health, v' = { v with status.health := health }
  store : τ'.world.store = τ.world.store
  objects : τ'.world.objects = τ.world.objects
  log : τ'.log = τ.log ∨ ∃ key a, τ'.log = ⟨key, .check, a⟩ :: τ.log

theorem wp_reportHealth_checked :
    (E.rules kind lib home).wp (reportHealth conn v) (Checked v τ) τ := by
  unfold reportHealth
  split
  · unfold updateModelHealth
    rw [wp_bind]
    exact Pass.wp_api (fun a τ' _ hc => ⟨⟨_, rfl⟩, hc.store, hc.objects, .inr ⟨_, a, hc.log⟩⟩)
      (fun e τ' _ hq => ⟨⟨_, rfl⟩, hq.store, hq.objects, .inl hq.log⟩)
  · exact ⟨⟨_, rfl⟩, rfl, rfl, .inl rfl⟩

/-- **A reconcile of a model**, once the instance is resolved. -/
theorem wpE_reconcileModel_took (hnow : τ.Now model) (hlive : model.metadata.deleting = false) :
    (E.rules kind lib home).wpE (reconcileModel lib model conn)
      (fun out τ' => ∃ params τ₁ v τ₂, paramsOf E model.metadata.ns model.spec = some params ∧
        Quiet τ τ₁ ∧ Took lib home E conn model (createRequest model params)
          (lib.computeSpecHash (.model model.spec params)) (modeOf model.spec) τ₁ v τ₂ ∧
        Checked v τ₂ out.1 τ')
      (fun _ _ => (∃ f, readOff E.cluster (resolveParams model).run = some (.error f)) ∨
        ∃ body τ₁, Quiet τ τ₁ ∧ Hindered E conn model body τ₁) τ := by
  unfold reconcileModel
  simp only [wpE_bind, wpE_lift, wpE_pure]
  refine Pass.wp_reads (isRead_resolveParams model) (fun r τ₁ hr hq => ?_)
  rcases r with f | p
  · exact .inl ⟨f, hr⟩
  refine wpE_mono (wpE_pushModel_took (hq.now hnow) hlive) (fun v τ₂ h₂ => ?_)
    (fun _ _ h => .inr ⟨_, τ₁, hq, h⟩)
  rw [mode_of_resolveParams hr] at h₂
  exact wp_mono wp_reportHealth_checked (fun _ _ h₃ =>
    ⟨p.1, τ₁, v, τ₂, paramsOf_of_resolveParams hr, hq, h₂, h₃⟩)

end Model

end LitellmOperator
