import LitellmOperator.Upstream.Kinds

/-! # What LiteLLM stores of a virtual key

An update has neither the alias of the key nor its team, user and expiry, so these keep the values
the key was generated with. As long as the Secret of the key is there, the key is not generated
again; a key whose Secret is missing is deleted, if that works, and replaced.
-/

set_option autoImplicit false

namespace LitellmOperator

open Effect Protocol Go Kube Ctl Scene

namespace VirtualKey

/-- A resource that says nothing but its namespace, its spec and its status. -/
def bare (ns : String) (spec : LiteLLMVirtualKeySpec) (status : LiteLLMVirtualKeyStatus) :
    LiteLLMVirtualKey := ⟨{ name := "", ns := ns }, spec, status⟩

/-- The ids of the team and the user a key refers to, empty where it refers to none. -/
def ownersOf (E : Pass LiteLLMVirtualKeySpec LiteLLMVirtualKeyStatus KeyApi) (ns : String)
    (spec : LiteLLMVirtualKeySpec) : Option (String × String) := do
  let teamID ← (readOff E.cluster (resolveTeamRef (bare ns spec {})).run).bind Except.toOption
  let userID ← (readOff E.cluster (resolveUserRef (bare ns spec {})).run).bind Except.toOption
  pure (teamID, userID)

def change : Served KeyApi → Option (String × Change)
  | ⟨_, .generate body, resp⟩ =>
    some ((show KeyGenerateResponse from resp).token, .create body.fields)
  | ⟨_, .update body, _⟩ => some (body.token, .update body.fields)
  | ⟨_, .delete token, _⟩ => some (token, .delete)
  | ⟨_, .get token, _⟩ => some (token, .find)

/-- LiteLLM generates the token of a key. -/
def honest : (req : KeyApi) → Service.Result req → Prop
  | .generate _, resp => (show KeyGenerateResponse from resp).token ≠ ""
  | _, _ => True

/-- The spec without the Secret's plumbing, which is not pushed. -/
def pushedPart (spec : LiteLLMVirtualKeySpec) : LiteLLMVirtualKeySpec :=
  { spec with keySecretName := "", keySecretTemplate := none }

@[reducible] def mirror (lib : Ext) : Mirror where
  R := .virtualKey
  Refs := String × String
  refs := ownersOf
  object _ st := idOf (show LiteLLMVirtualKeyStatus from st).litellmKeyToken
  names _ := none
  address _ token := token
  created spec owners := (generateRequest lib (bare "" spec {}) owners.1 owners.2).fields
  updated spec _ token := (updateRequest lib (bare "" spec { litellmKeyToken := token })).fields
  change := change
  honest := honest
  ready E v := v.status.litellmKeyToken ≠ "" →
    ∃ secret, E.cluster (.getSecretUncached ⟨v.metadata.ns, keySecretName v⟩) = .ok secret
  createOnly f := f = .keyAlias || f = .teamID || f = .userID || f = .expires
  generated f := f = .key

variable {lib : Ext} {home : String} {conn : ResolvedInstance} {vk : LiteLLMVirtualKey}
variable {teamID userID : String}
variable {E : Pass LiteLLMVirtualKeySpec LiteLLMVirtualKeyStatus KeyApi}
variable {τ : Scene LiteLLMVirtualKeySpec LiteLLMVirtualKeyStatus KeyApi}

/-- Lookups of keys. -/
def minor : KeyApi → Prop
  | .get _ => True
  | _ => False

theorem idle_of_minor (req : KeyApi) (h : minor req) : (mirror lib).IsIdle req := by
  intro key a
  cases req <;> first | exact .inr ⟨_, rfl⟩ | exact h.elim

/-! ## The Secret -/

theorem beside_reconcileKeySecret (apiKey : String) :
    (reconcileKeySecret vk apiKey).run.Uses (Op.IsBeside minor) :=
  uses_reconcileKeySecret (fun _ => trivial) (fun _ => trivial) (fun _ => trivial) apiKey

/-- The key was dropped: of the resource only the status of the copy differs. -/
def IsDropped (lib : Ext) (E : Pass LiteLLMVirtualKeySpec LiteLLMVirtualKeyStatus KeyApi)
    (conn : ResolvedInstance) (vk v : LiteLLMVirtualKey)
    (τ τ' : Scene LiteLLMVirtualKeySpec LiteLLMVirtualKeyStatus KeyApi) : Prop :=
  ¬ (mirror lib).ready E vk ∧ vk.status.litellmKeyToken ≠ "" ∧
    (∃ st, v = { vk with status := st } ∧ st.litellmKeyToken = "") ∧ τ'.Now vk ∧
    ((mirror lib).objects τ'.log = (mirror lib).objects τ.log ∨
      (mirror lib).objects τ'.log = Function.update ((mirror lib).objects τ.log)
        (conn.inst.metadata.key, vk.status.litellmKeyToken) none)

theorem wpE_dropOrphanedKey_mirrored (h : (mirror lib).Sits E τ vk) :
    (E.rules kind lib home).wpE (dropOrphanedKey conn vk)
      (fun v τ' => (v = vk ∧ (mirror lib).ready E vk ∧ Beside minor τ τ') ∨
        IsDropped lib E conn vk v τ τ') (fun _ _ => True) τ := by
  unfold dropOrphanedKey
  split
  · rename_i htoken
    exact .inl ⟨rfl, fun hne => absurd htoken hne, Beside.refl τ⟩
  · rename_i htoken
    rw [wpE_bind, wpE_orFail]
    refine Pass.wp_reads (isRead_of_plain (uses_keySecretExists vk)) (fun r τ₁ hr hq => ?_)
    unfold keySecretExists at hr
    rw [readOff_bind] at hr
    change (some (E.cluster (.getSecretUncached ⟨vk.metadata.ns, keySecretName vk⟩))).bind _ = _
      at hr
    cases hsecret : E.cluster (.getSecretUncached ⟨vk.metadata.ns, keySecretName vk⟩) with
    | ok secret =>
      rw [hsecret] at hr
      cases hr
      exact .inl ⟨rfl, fun _ => ⟨secret, hsecret⟩, .of_quiet hq⟩
    | error e =>
      rw [hsecret] at hr
      change readOff E.cluster (if isNotFound e then pure (Except.ok false)
        else pure (Except.error e)) = _
        at hr
      by_cases hmissing : isNotFound e = true
      · -- the Secret is gone
        obtain rfl : Except.ok false = r := by
          rw [if_pos hmissing] at hr
          exact Option.some.inj hr
        have hnot : ¬ (mirror lib).ready E vk := by
          intro hready
          obtain ⟨secret, hok⟩ := hready htoken
          rw [hsecret] at hok
          cases hok
        show (E.rules kind lib home).wpE (do
          let _ ← ExceptT.lift (api conn (KeyApi.delete vk.status.litellmKeyToken))
          pure _) _ _ _
        rw [wpE_bind, wpE_lift]
        refine Pass.wp_api (fun a τ₂ _ hc => .inr ?_) (fun e' τ₂ _ hq' => .inr ?_)
        · refine ⟨hnot, htoken, ⟨_, rfl, rfl⟩, ?_, .inr ?_⟩
          · exact Mirror.now_of_carried (M := mirror lib) (hq.now h.now) hc
          · rw [hc.log, hq.log]
            rfl
        · refine ⟨hnot, htoken, ⟨_, rfl, rfl⟩, hq'.now (hq.now h.now), .inl ?_⟩
          rw [hq'.log, hq.log]
      · rw [if_neg hmissing] at hr
        cases hr
        trivial

/-! ## Generating and updating -/

theorem wpE_mintKey_mirrored (hE : (mirror lib).Honest E) (hnow : τ.Now vk)
    (hlive : vk.metadata.deleting = false) (st : LiteLLMVirtualKeyStatus) :
    (E.rules kind lib home).wpE (mintKey lib conn teamID userID { vk with status := st })
      (fun v τ' => ∃ resp, ∃ τ₁ : Reconciler.virtualKey.RScene, τ₁.log = ⟨conn.inst.metadata.key,
          .generate (generateRequest lib (bare "" vk.spec {}) teamID userID), resp⟩ :: τ.log ∧
        (mirror lib).Recorded vk (keySyncHash lib vk.spec)
          (show KeyGenerateResponse from resp).token ((mirror lib).objects τ₁.log) v v τ')
      (fun _ _ => True) τ := by
  unfold mintKey
  simp only [wpE_bind, wpE_orFail]
  refine Pass.wp_api (fun resp τ₁ hresp hc => ?_) (fun _ _ _ _ => trivial)
  have hne : (show KeyGenerateResponse from resp).token ≠ "" := hE τ conn _ resp hresp
  have hnow₁ : τ₁.Now vk := Mirror.now_of_carried (M := mirror lib) hnow hc
  refine Pass.wp_beside (beside_reconcileKeySecret _) (fun r τ₂ hb => ?_)
  cases r with
  | error e => trivial
  | ok _ =>
    exact wpE_mono (Mirror.wpE_recordCreated (M := mirror lib) vk (hb.now hnow₁) hlive
      rfl rfl rfl (idOf_of_ne hne) (Mirror.objects_of_beside idle_of_minor hb))
      (fun v τ'' hrec => ⟨resp, τ₁, hc.log, hrec⟩) (fun _ _ _ => trivial)

theorem wpE_pushKey_mirrored (h : (mirror lib).Sits E τ vk)
    (howners : ownersOf E vk.metadata.ns vk.spec = some (teamID, userID))
    (hready : (mirror lib).ready E vk) (hid : vk.status.litellmKeyToken ≠ "") :
    (mirror lib).Mirrors lib home E τ vk conn (fun _ => keySyncHash lib vk.spec) id
      (pushKey lib conn vk) := by
  unfold pushKey
  dsimp only
  split
  · rename_i hskip
    exact ⟨vk, Mirror.pushed_of_skip _ h howners (idOf_of_ne hid) hready hskip⟩
  · exact Mirror.mirrors_update (M := mirror lib) (fun _ => _) h howners (idOf_of_ne hid) hready
      (fun _ => rfl)

theorem wpE_updateKey_mirrored (h : (mirror lib).Sits E τ vk)
    (howners : ownersOf E vk.metadata.ns vk.spec = some (teamID, userID))
    (hready : (mirror lib).ready E vk) (hid : vk.status.litellmKeyToken ≠ "") :
    (mirror lib).Mirrors lib home E τ vk conn (fun _ => keySyncHash lib vk.spec) Prod.fst
      (updateKey lib conn vk) := by
  unfold updateKey
  rw [Mirror.Mirrors, wpE_bind]
  refine wpE_mono (wpE_pushKey_mirrored h howners hready hid) (fun v τ₁ h₁ => ?_)
    (fun _ _ _ => trivial)
  obtain ⟨c, h₁⟩ := h₁
  rw [wpE_bind, wpE_lift]
  refine Pass.wp_beside (beside_reconcileKeySecret _) (fun r τ₂ hb₂ => ?_)
  have h₂ := h₁.beside idle_of_minor hb₂ rfl rfl
  cases r with
  | error e =>
    dsimp only
    split
    · exact ⟨c, h₂⟩
    · trivial
  | ok _ =>
    simp only [wpE_bind, wpE_lift, wpE_pure]
    refine Pass.wp_besideApi (N := minor) (by trivial) (fun info τ₃ hb₃ => ⟨c, ?_⟩)
    cases info with
    | error e | ok info => exact h₂.beside idle_of_minor hb₃ rfl rfl

/-! ## The controller -/

theorem wpE_reconcileKey_mirrored (hE : (mirror lib).Honest E) (h : (mirror lib).Sits E τ vk) :
    (mirror lib).Mirrors lib home E τ vk conn (fun _ => keySyncHash lib vk.spec) Prod.fst
      (reconcileKey lib vk conn) := by
  unfold reconcileKey
  simp only [wpE_bind, wpE_orFail]
  refine Pass.wp_reads (isRead_of_plain (uses_resolveTeamRef vk)) (fun r τ₁ hr hq₁ => ?_)
  cases r with
  | error e => trivial
  | ok teamID =>
  refine Pass.wp_reads (isRead_of_plain (uses_resolveUserRef vk)) (fun r τ₂ hr' hq₂ => ?_)
  cases r with
  | error e => trivial
  | ok userID =>
  have howners : ownersOf E vk.metadata.ns vk.spec = some (teamID, userID) := by
    show (Option.bind ((readOff E.cluster (resolveTeamRef vk).run).bind Except.toOption) fun t =>
      ((readOff E.cluster (resolveUserRef vk).run).bind Except.toOption).bind fun u =>
        some (t, u)) = _
    rw [hr, hr']
    rfl
  have hq := hq₁.trans hq₂
  have h₂ : (mirror lib).Sits E τ₂ vk := h.beside idle_of_minor (.of_quiet hq)
  refine wpE_mono (wpE_dropOrphanedKey_mirrored h₂) (fun v τ₃ h₃ => ?_) (fun _ _ _ => trivial)
  rcases h₃ with ⟨rfl, hready, hb₃⟩ | ⟨hnot, htoken, ⟨st, rfl, hst⟩, hnow₃, hdrop⟩
  · have hsits : (mirror lib).Sits E τ₃ v := h₂.beside idle_of_minor hb₃
    have hsame : (mirror lib).objects τ.log = (mirror lib).objects τ₃.log := by
      have hb : Beside minor τ τ₃ := (Beside.of_quiet hq).trans hb₃
      exact (Mirror.objects_of_beside idle_of_minor hb).symm
    rw [hsame]
    unfold mintOrUpdateKey
    split
    · rename_i hid
      rw [wpE_bind]
      refine wpE_mono (wpE_mintKey_mirrored hE hsits.now hsits.live v.status)
        (fun v' τ' hv => ⟨v', ?_⟩) (fun _ _ _ => trivial)
      obtain ⟨resp, τ₁, hlog, hrec⟩ := hv
      exact Mirror.pushed_of_create (M := mirror lib) (fun _ => keySyncHash lib v.spec)
        howners (idOf_eq_none.mpr hid) (fun x hx => by cases hx) hlog rfl hrec
    · rename_i hid
      exact wpE_updateKey_mirrored hsits howners hready hid
  · unfold mintOrUpdateKey
    rw [if_pos hst, wpE_bind]
    refine wpE_mono (wpE_mintKey_mirrored hE hnow₃ h.live st)
      (fun v' τ' hv => ⟨v', ?_⟩) (fun _ _ _ => trivial)
    obtain ⟨resp, τ₁, hlog, hrec⟩ := hv
    rw [hq.log] at hdrop
    exact Mirror.pushed_of_replace (M := mirror lib) (fun _ => keySyncHash lib vk.spec)
      howners (idOf_of_ne htoken) hnot hdrop hlog rfl hrec

theorem updated_eq (s : LiteLLMVirtualKeySpec) (owners : String × String) (token : String)
    (f : Field) (hf : f ≠ .key) : (mirror lib).updated s owners token f =
      if (mirror lib).createOnly f then none else (mirror lib).created s owners f := by
  cases f with
  | key => exact absurd rfl hf
  | _ => rfl

def mirroring (lib : Ext) : Mirroring lib where
  toMirror := mirror lib
  controller := controller lib
  hash spec _ := keySyncHash lib spec
  pushed _ _ _ _ _ hE h := wpE_reconcileKey_mirrored hE h
  value spec := .virtualKey (pushedPart spec)
  value_congr s s' h := by
    have hpart : pushedPart s = pushedPart s' := SpecValue.virtualKey.inj h
    have hcreated : ∀ s, (mirror lib).created s = (mirror lib).created (pushedPart s) :=
      fun _ => rfl
    have hrefs : ∀ E ns s, ownersOf E ns s = ownersOf E ns (pushedPart s) := fun _ _ _ => rfl
    refine ⟨?_, fun E ns => ?_⟩
    · rw [hcreated s, hpart, ← hcreated s']
    · show ownersOf E ns s = ownersOf E ns s'
      rw [hrefs E ns s, hpart, ← hrefs E ns s']
  createOnly_shown f h := by cases f <;> first | rfl | cases h
  updated_eq s refs id f _ _ hf := updated_eq s refs id f (of_decide_eq_false hf)

end VirtualKey

/-! ## Create and update push the same spec

For the five kinds with two request builders. An update of an organization or a customer has all
the fields of a create. That of a team lacks the limits for members, that of a key its alias, team,
user and expiry, and that of a user `auto_create_key`: an edit of one of these is reported as
synced and never reaches LiteLLM (`create_update_disparity`).
-/

inductive MirroredKind where
  | team
  | virtualKey
  | user
  | organization
  | customer
  deriving DecidableEq

def MirroredKind.mirroring (lib : Ext) : MirroredKind → Mirroring lib
  | .team => Team.mirroring lib
  | .virtualKey => VirtualKey.mirroring lib
  | .user => User.mirroring lib
  | .organization => Organization.mirroring lib
  | .customer => Customer.mirroring lib

/-- **Create and update push the same spec, up to what an update leaves out.** The object of a
resource that was edited has the fields it would have if it had been created for the second spec,
if and only if the specs agree in the fields that an update of the kind does not send. -/
theorem create_update_parity_iff (k : MirroredKind) {lib : Ext} {req : NamespacedName}
    {cr₁ cr₂ : (k.mirroring lib).R.CR} {E₁ E₂ E₃ : (k.mirroring lib).R.RPass}
    {σ : (k.mirroring lib).R.RScene}
    (h : (k.mirroring lib).TwoWays req cr₁ cr₂ E₁ E₂ E₃ σ) :
    ∃ fs fs' refs₁ refs₂, (k.mirroring lib).fields (Reconciler.done lib req σ E₂) = some fs ∧
      (k.mirroring lib).fields (Reconciler.done lib req ((k.mirroring lib).R.scene cr₂) E₃) =
        some fs' ∧
      (k.mirroring lib).refs E₂ cr₁.metadata.ns cr₁.spec = some refs₁ ∧
      (k.mirroring lib).refs E₂ cr₁.metadata.ns cr₂.spec = some refs₂ ∧
      ((k.mirroring lib).shown fs = (k.mirroring lib).shown fs' ↔
        (k.mirroring lib).AgreeOn ((k.mirroring lib).created cr₁.spec refs₁)
          ((k.mirroring lib).created cr₂.spec refs₂)) :=
  Mirroring.fields_agree_iff h

/-! ## Two specs of a team -/

namespace Sample

variable (teamAlias : String)

/-- A team with all fields set. -/
def fullTeamSpec (memberRPMLimit : Int) : LiteLLMTeamSpec where
  instanceRef := { name := "a" }
  organizationRef := some ⟨"org"⟩
  teamID := "team-1"
  teamAlias := teamAlias
  models := ["gpt"]
  maxBudgetMonthly := some ⟨100⟩
  budgetDuration := "30d"
  tpmLimit := some 1000
  rpmLimit := some 10
  softBudget := some ⟨50⟩
  modelRPMLimit := [("gpt", 10)]
  modelTPMLimit := [("gpt", 1000)]
  teamMemberRPMLimit := some memberRPMLimit
  teamMemberTPMLimit := some 100
  teamMemberBudget := some ⟨10⟩
  metadata := [("owner", "apps")]
  blocked := some false
  objectPermission := some { agents := ["agent"] }
  tags := ["apps"]
  maxParallelRequests := some 5
  guardrails := ["pii"]

def fullTeam (memberRPMLimit : Int) : LiteLLMTeam :=
  ⟨{ name := "team", ns := "apps" }, fullTeamSpec teamAlias memberRPMLimit, {}⟩

/-- A hash that tells one of these specs from the others. -/
def hashingTeam : Ext :=
  { lib with
    computeSpecHash := fun v => match v with
      | .team spec => if spec.teamAlias = "team" ∧ spec.teamMemberRPMLimit = some 1
          then "0123456789abcdef" else "fedcba9876543210"
      | _ => "0123456789abcdef"
    computeSpecHash_length := fun v => by
      cases v with
      | team spec =>
        show (if spec.teamAlias = "team" ∧ spec.teamMemberRPMLimit = some 1
          then _ else _ : String).length = 16
        split <;> decide
      | _ => exact (by decide : "0123456789abcdef".length = 16) }

/-- There is an organization too. -/
def teamCluster : (r : Read) → Except Error r.Obj
  | .getOrganization key => .ok (show LiteLLMOrganization from
      { organization "a" with
        metadata := { name := key.name, ns := key.ns }
        status := { litellmOrganizationID := "org-1" } })
  | r => cluster r

theorem fits_teamCluster : ∀ r o, teamCluster r = .ok o → r.fits o = true := by
  intro r o h
  cases r with
  | getOrganization key => rfl
  | _ => exact fits_cluster _ o h

variable (σ : Reconciler.team.RScene)

/-- The team exists. -/
def hasTeam (conn : ResolvedInstance) (id : String) : Bool :=
  (Team.mirror.objects σ.log (conn.inst.metadata.key, id)).isSome

/-- LiteLLM creates teams under a given id, and updates, deletes and finds those that it has. -/
def fullTeamServed (conn : ResolvedInstance) : (req : TeamApi) → Except Error (Service.Result req)
  | .create body =>
    if body.teamID ≠ "" then .ok (show TeamCreateResponse from ⟨body.teamID, body.teamAlias⟩)
    else .error (errorf "no id")
  | .get id =>
    if hasTeam σ conn id then .ok (show TeamInfo from { teamID := id, teamAlias := "team" })
    else .error teamMissing
  | .update body => if hasTeam σ conn body.teamID then .ok () else .error teamMissing
  | .delete id => if hasTeam σ conn id then .ok () else .error teamMissing
  | .listMembers _ => .ok (show List TeamMemberInfo from [])
  | .addMember _ _ _ => .ok ()
  | .removeMember _ _ => .ok ()
  | .setCallback _ _ => .ok ()
  | .disableLogging _ => .ok ()

def fullTeamPass : Reconciler.team.RPass where
  cluster := teamCluster
  fits := fits_teamCluster
  fault _ := none
  serve := fullTeamServed
  random _ := .ok []

theorem ok_of_ite {α : Type} {c : Bool} {x a : α} {e : Error}
    (h : (if c then .ok x else .error e : Except Error α) = .ok a) : c = true := by
  cases c with
  | true => rfl
  | false => cases h

theorem truthful_fullTeamPass : Team.mirror.Truthful fullTeamPass where
  honest := by
    intro τ conn req a h
    cases req with
    | create body =>
      by_cases hid : body.teamID ≠ ""
      · rw [show fullTeamPass.serve τ conn (.create body) = .ok _ from if_pos hid] at h
        cases h
        exact ⟨hid, fun _ => rfl⟩
      · rw [show fullTeamPass.serve τ conn (.create body) = .error _ from if_neg hid] at h
        cases h
    | _ => trivial
  known := by
    intro τ conn req a x ch h hch hne
    cases req with
    | create body =>
      cases hch
      exact absurd rfl (hne _)
    | get id | update body | delete id => cases hch; exact ok_of_ite h
    | _ => cases hch

def teamFields : List Field :=
  [.teamID, .teamAlias, .organizationID, .models, .maxBudget, .budgetDuration, .tpmLimit,
   .rpmLimit, .teamMemberRPMLimit, .teamMemberTPMLimit, .teamMemberBudget, .maxParallelRequests,
   .softBudget, .modelRPMLimit, .modelTPMLimit, .objectPermission, .metadata, .tags, .guardrails,
   .blocked]

theorem mem_teamFields {f : Field} (h : Team.mirror.Sends f) : f ∈ teamFields := by
  obtain ⟨s, refs, h⟩ := h
  cases f with
  | _ => first | exact absurd rfl h | decide

theorem full_fullTeam {teamAlias : String} {limit : Int} {refs : String}
    (h : ∀ f ∈ teamFields, Given (Team.mirror.created (fullTeamSpec teamAlias limit) "org-1" f))
    (hrefs : Team.mirror.refs fullTeamPass "apps" (fullTeamSpec teamAlias limit) = some refs) :
    Team.mirror.Full (fullTeamSpec teamAlias limit) refs := by
  cases hrefs
  exact fun f hf => h f (mem_teamFields hf)

/-- The reconcile reported that the team is synced. -/
def synced : Bool :=
  σ.reported.any (fun r => isStatusConditionTrue r.status.conditions conditionSynced)

theorem success_of_synced {σ : Reconciler.team.RScene} (h : synced σ = true) :
    ∃ r, Pass.Success (Team.mirroring hashingTeam).controller σ r := by
  obtain ⟨r, hr, hsynced⟩ := (Option.any_eq_true _ _).mp h
  exact ⟨r, hr, hsynced⟩

def teamScene : Reconciler.team.RScene :=
  Reconciler.done hashingTeam ⟨"apps", "team"⟩ (Reconciler.team.scene (fullTeam "team" 1))
    fullTeamPass

/-- The team is reconciled, edited and reconciled; and the edited one is reconciled from scratch.
The data of the runs is evaluated. -/
theorem twoWays_fullTeam (limit : Int)
    (hfull : ∀ f ∈ teamFields, Given (Team.mirror.created (fullTeamSpec teamAlias limit) "org-1" f))
    (hfree : hashingTeam.computeSpecHash (.team (fullTeamSpec "team" 1)) ≠
      hashingTeam.computeSpecHash (.team (fullTeamSpec teamAlias limit)))
    (hruns : ((synced (Reconciler.done hashingTeam ⟨"apps", "team"⟩
        (Reconciler.team.scene (fullTeam teamAlias limit)) fullTeamPass) && synced teamScene) &&
      (Reconciler.take hashingTeam ⟨"apps", "team"⟩ teamScene
        (.env (.edit (fullTeamSpec teamAlias limit)))).any (fun σ =>
          synced (Reconciler.done hashingTeam ⟨"apps", "team"⟩ σ fullTeamPass))) = true) :
    ∃ σ, (Team.mirroring hashingTeam).TwoWays ⟨"apps", "team"⟩ (fullTeam "team" 1)
      (fullTeam teamAlias limit) fullTeamPass fullTeamPass fullTeamPass σ := by
  obtain ⟨hnew, hedit⟩ := Bool.and_eq_true_iff.mp hruns
  obtain ⟨hnew₂, hnew₁⟩ := Bool.and_eq_true_iff.mp hnew
  obtain ⟨σ, hσ, hsynced⟩ := (Option.any_eq_true _ _).mp hedit
  exact ⟨σ,
    { truthful₁ := truthful_fullTeamPass
      truthful₂ := truthful_fullTeamPass
      truthful₃ := truthful_fullTeamPass
      live₁ := rfl
      live₂ := rfl
      unbound₁ := rfl
      unbound₂ := rfl
      ns := rfl
      names := rfl
      instanceRef := rfl
      refs₂ := fun _ _ => rfl
      refs₃ := fun _ _ => rfl
      full₁ := fun refs hrefs => full_fullTeam (by decide) hrefs
      full₂ := fun refs hrefs => full_fullTeam hfull hrefs
      free := fun h => absurd h hfree
      success₁ := success_of_synced hnew₁
      edit := hσ
      ready := fun _ _ => trivial
      success₂ := success_of_synced hsynced
      success₃ := success_of_synced hnew₂ }⟩

end Sample

theorem create_update_parity_renamed :
    ∃ σ, (Team.mirroring Sample.hashingTeam).TwoWays ⟨"apps", "team"⟩ (Sample.fullTeam "team" 1)
        (Sample.fullTeam "renamed" 1) Sample.fullTeamPass Sample.fullTeamPass
        Sample.fullTeamPass σ ∧
      ∃ fs fs', (Team.mirroring Sample.hashingTeam).fields
          (Reconciler.done Sample.hashingTeam ⟨"apps", "team"⟩ σ Sample.fullTeamPass) = some fs ∧
        (Team.mirroring Sample.hashingTeam).fields
          (Reconciler.done Sample.hashingTeam ⟨"apps", "team"⟩
            (Reconciler.team.scene (Sample.fullTeam "renamed" 1)) Sample.fullTeamPass) =
          some fs' ∧
        (Team.mirroring Sample.hashingTeam).shown fs =
          (Team.mirroring Sample.hashingTeam).shown fs' := by
  obtain ⟨σ, h⟩ := Sample.twoWays_fullTeam "renamed" 1 (by decide) (by decide) (by decide +kernel)
  obtain ⟨fs, fs', refs₁, refs₂, hfs, hfs', hrefs₁, hrefs₂, hiff⟩ :=
    create_update_parity_iff .team h
  refine ⟨σ, h, fs, fs', hfs, hfs', hiff.mpr (fun f hf => ?_)⟩
  cases hrefs₁
  cases hrefs₂
  -- The specs have the same limits for members.
  cases f with
  | teamMemberRPMLimit | teamMemberTPMLimit => rfl
  | _ => cases hf

/-- **An update does not push the limits for members.** -/
theorem create_update_disparity :
    ¬ ∀ (k : MirroredKind) (lib : Ext) (req : NamespacedName) (cr₁ cr₂ : (k.mirroring lib).R.CR)
      (E₁ E₂ E₃ : (k.mirroring lib).R.RPass) (σ : (k.mirroring lib).R.RScene),
      (k.mirroring lib).TwoWays req cr₁ cr₂ E₁ E₂ E₃ σ →
      ∃ fs fs', (k.mirroring lib).fields (Reconciler.done lib req σ E₂) = some fs ∧
        (k.mirroring lib).fields (Reconciler.done lib req ((k.mirroring lib).R.scene cr₂) E₃) =
          some fs' ∧
        (k.mirroring lib).shown fs = (k.mirroring lib).shown fs' := by
  intro hall
  obtain ⟨σ, h⟩ := Sample.twoWays_fullTeam "team" 2 (by decide) (by decide) (by decide +kernel)
  obtain ⟨fs, fs', hfs, hfs', heq⟩ := hall .team _ _ _ _ _ _ _ _ h
  obtain ⟨gs, gs', refs₁, refs₂, hgs, hgs', hrefs₁, hrefs₂, hiff⟩ := Mirroring.fields_agree_iff h
  cases hrefs₁
  cases hrefs₂
  have hgs : gs = fs := Option.some.inj (hgs.symm.trans hfs)
  have hgs' : gs' = fs' := Option.some.inj (hgs'.symm.trans hfs')
  rw [hgs, hgs'] at hiff
  have hlimit := hiff.mp heq .teamMemberRPMLimit rfl
  -- The limit was 1 and is to be 2.
  cases hlimit

end LitellmOperator
