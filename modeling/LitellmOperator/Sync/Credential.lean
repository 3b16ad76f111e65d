import LitellmOperator.Sync.Rules

/-! # The sync hash of credentials

Whether a credential is created or updated is decided by the stored hash, and both send the same
body. The hash covers the key and the body.
-/

set_option autoImplicit false

namespace LitellmOperator

open Effect Protocol Go Kube Ctl Scene

abbrev CredentialScene : Type := Scene LiteLLMCredentialSpec LiteLLMCredentialStatus CredentialApi

abbrev CredentialPass : Type := Pass LiteLLMCredentialSpec LiteLLMCredentialStatus CredentialApi

namespace Credential

/-- A resource that says nothing but its namespace and its spec. -/
def bare (ns : String) (spec : LiteLLMCredentialSpec) : LiteLLMCredential :=
  ⟨{ name := "", ns := ns }, spec, {}⟩

def pushedName : Served CredentialApi → Option String
  | ⟨_, .create payload, _⟩ => some payload.credentialName
  | ⟨_, .update payload, _⟩ => some payload.credentialName
  | _ => none

def payloadOf (lib : Ext) (spec : LiteLLMCredentialSpec) (apiKey : String) : CredentialPayload :=
  buildCredentialPayload lib (bare "" spec) apiKey

def carries (lib : Ext) (req : CredentialApi) (spec : LiteLLMCredentialSpec) (apiKey : String) :
    Prop :=
  match req with
  | .create payload => payload = payloadOf lib spec apiKey
  | .update payload => payload = payloadOf lib spec apiKey
  | _ => False

theorem carries_create {lib : Ext} {spec : LiteLLMCredentialSpec} {apiKey : String} :
    carries lib (.create (payloadOf lib spec apiKey)) spec apiKey := rfl

theorem carries_update {lib : Ext} {spec : LiteLLMCredentialSpec} {apiKey : String} :
    carries lib (.update (payloadOf lib spec apiKey)) spec apiKey := rfl

/-- The key a credential refers to, if it can be read. -/
def apiKeyOf (E : CredentialPass) (ns : String) (spec : LiteLLMCredentialSpec) : Option String :=
  (readOff E.cluster (fetchAPIKey (bare ns spec)).run).bind Except.toOption

@[reducible] def pushing (lib : Ext) : Pushing where
  R := .credential
  Tag := Unit
  tag _ := ()
  Refs := String
  refs := apiKeyOf
  value spec apiKey := .credential spec apiKey (payloadOf lib spec apiKey)
  object spec _ := some (show LiteLLMCredentialSpec from spec).credentialName
  adopts := false
  pushed := pushedName
  carries req spec _ apiKey := carries lib req spec apiKey
  synced st := isStatusConditionTrue (show LiteLLMCredentialStatus from st).conditions conditionReady
  sane _ _ _ := True

variable {lib : Ext} {home apiKey hash : String}
variable {E : CredentialPass}
variable {σ τ : CredentialScene}
variable {cr c cred : LiteLLMCredential} {conn : ResolvedInstance}

/-! ## Reporting -/

theorem wp_setStatus_false {reason message : String} (hat : (pushing lib).At cr τ c)
    (hrv : cred.rv = c.rv) (h : (pushing lib).Forgotten c ∨ (pushing lib).Kept lib E σ cr τ c) :
    (E.rules kind lib home).wp (setStatus cred false reason message)
      (fun _ τ' => ∃ c, (pushing lib).Ends lib E σ cr τ' c) τ := by
  unfold setStatus
  rw [wp_bind]
  refine Pass.wp_statusUpdate hat.now ?_ hat.live (fun r τ' hst _ hrep => ?_)
    (fun e τ' _ hq hrep => ?_)
  · exact hrv
  · have hre : Pushing.Restated (S := pushing lib) τ τ' c r := by
      obtain ⟨rv, gen, rfl⟩ := hst.stamped
      exact ⟨hst.log, rfl, rfl⟩
    have hat' : (pushing lib).At cr τ' r := by
      obtain ⟨rv, gen, rfl⟩ := hst.stamped
      exact ⟨hst.now, hat.live, hat.spec, hat.ns⟩
    refine ⟨r, Pushing.ends_of_partly hat' ?_ (fun r' hr' => ?_)⟩
    · rcases h with hblank | hkept
      · exact .inl (hblank.imp hre.hash.trans (fun hb => ⟨hb.1, hb.2⟩))
      · exact .inr (hkept.restated hre)
    · obtain rfl := Option.some.inj (hr'.symm.trans hrep)
      obtain ⟨rv, gen, rfl⟩ := hst.stamped
      exact isStatusConditionTrue_set_self _ _
  · have ha := Pushing.aside_of_quiet (S := pushing lib) hq
    refine ⟨c, Pushing.ends_of_partly (hat.aside ha) (h.imp id (·.aside ha)) (fun r' hr' => ?_)⟩
    rw [hrep] at hr'
    cases hr'

theorem wp_setStatus_true {reason message : String} (hat : (pushing lib).At cr τ c)
    (hrv : cred.rv = c.rv) (hkey : apiKeyOf E cr.metadata.ns cr.spec = some apiKey)
    (h : (pushing lib).Skipped lib σ cr τ c apiKey ∨ (pushing lib).Recorded lib σ cr τ c apiKey) :
    (E.rules kind lib home).wp (setStatus cred true reason message)
      (fun _ τ' => ∃ c, (pushing lib).Ends lib E σ cr τ' c) τ := by
  unfold setStatus
  rw [wp_bind]
  refine Pass.wp_statusUpdate hat.now ?_ hat.live (fun r τ' hst _ hrep => ?_)
    (fun e τ' _ hq hrep => ?_)
  · exact hrv
  · have hre : Pushing.Restated (S := pushing lib) τ τ' c r := by
      obtain ⟨rv, gen, rfl⟩ := hst.stamped
      exact ⟨hst.log, rfl, rfl⟩
    have hat' : (pushing lib).At cr τ' r := by
      obtain ⟨rv, gen, rfl⟩ := hst.stamped
      exact ⟨hst.now, hat.live, hat.spec, hat.ns⟩
    refine ⟨r, Pushing.ends_of_done hat' hkey (h.imp (·.restated hre) (·.restated hre))
      (fun r' hr' => ?_)⟩
    exact Option.some.inj (hr'.symm.trans hrep)
  · have ha := Pushing.aside_of_quiet (S := pushing lib) hq
    refine ⟨c, Pushing.ends_of_done (hat.aside ha) hkey (h.imp (·.aside ha) (·.aside ha))
      (fun r' hr' => ?_)⟩
    rw [hrep] at hr'
    cases hr'

/-! ## Pushing -/

theorem wpE_failWith_ends {op : String} {e : Error} (h : (pushing lib).Ready σ cr conn τ cred)
    {Q : Unit → CredentialScene → Prop} :
    (E.rules kind lib home).wpE (failWith cred op e) Q
      (fun _ τ' => ∃ c, (pushing lib).Ends lib E σ cr τ' c) τ := by
  unfold failWith reportAPIError
  rw [wpE_bind, wpE_lift, wp_bind]
  refine wp_mono (wp_setStatus_false h.toAt rfl ?_) (fun _ τ' h' => h')
  rcases h.same with ⟨hhash, htag⟩ | hblank
  · exact .inr (.inl ⟨h.log, hhash, htag⟩)
  · exact .inl (.inl hblank)

variable (lib E σ cr) in
/-- The body was pushed by some request, and its hash is to be stored. -/
def Sent (apiKey : String) (τ : CredentialScene) (cred : LiteLLMCredential) : Prop :=
  ∃ req, (pushing lib).Ripe σ cr cr.spec.credentialName req τ cred ∧ carries lib req cr.spec apiKey

theorem wp_send_ripe {req : CredentialApi} (h : (pushing lib).Ready σ cr conn τ cred)
    (hreq : carries lib req cr.spec apiKey)
    {Q : Except Error (Service.Result req) →
      CredentialScene → Prop}
    (hok : ∀ a τ', Sent lib σ cr apiKey τ' cred → Q (.ok a) τ')
    (herr : ∀ e τ', (pushing lib).Ready σ cr conn τ' cred → Q (.error e) τ') :
    (E.rules kind lib home).wp (api conn req) Q τ := by
  refine Pushing.wp_push h (fun a τ' _ hripe => hok a τ' ⟨req, hripe _ ?_, hreq⟩)
    (fun e τ' _ h' => herr e τ' h')
  cases req with
  | create payload | update payload =>
    have hp : payload = payloadOf lib cr.spec apiKey := hreq
    rw [hp]
    rfl
  | delete name => exact hreq.elim

theorem wpE_createCredential_sent (h : (pushing lib).Ready σ cr conn τ cred) :
    (E.rules kind lib home).wpE (createCredential conn cred (payloadOf lib cr.spec apiKey))
      (fun _ τ' => Sent lib σ cr apiKey τ' cred)
      (fun _ τ' => ∃ c, (pushing lib).Ends lib E σ cr τ' c) τ := by
  unfold createCredential
  rw [wpE_bind, wpE_lift]
  refine wp_send_ripe h carries_create (fun _ τ₁ h₁ => h₁) (fun e τ₁ h₁ => ?_)
  dsimp only
  split
  · rw [wpE_bind, wpE_lift]
    exact wp_send_ripe h₁ carries_update (fun _ τ₂ h₂ => h₂) (fun e τ₂ h₂ => wpE_failWith_ends h₂)
  · exact wpE_failWith_ends h₁

theorem wpE_updateCredential_sent (h : (pushing lib).Ready σ cr conn τ cred) :
    (E.rules kind lib home).wpE (updateCredential conn cred (payloadOf lib cr.spec apiKey))
      (fun _ τ' => Sent lib σ cr apiKey τ' cred)
      (fun _ τ' => ∃ c, (pushing lib).Ends lib E σ cr τ' c) τ := by
  unfold updateCredential
  rw [wpE_bind, wpE_lift]
  refine wp_send_ripe h carries_update (fun _ τ₁ h₁ => h₁) (fun e τ₁ h₁ => ?_)
  dsimp only
  split
  · rw [wpE_bind, wpE_lift]
    exact wp_send_ripe h₁ carries_create (fun _ τ₂ h₂ => h₂) (fun e τ₂ h₂ => wpE_failWith_ends h₂)
  · exact wpE_failWith_ends h₁

theorem wpE_pushCredential_sent (h : (pushing lib).Ready σ cr conn τ cred) :
    (E.rules kind lib home).wpE (pushCredential conn cred (payloadOf lib cr.spec apiKey) hash)
      (fun _ τ' => (syncHash cred = hash ∧ (pushing lib).Ready σ cr conn τ' cred) ∨
        (syncHash cred = "" ∨ syncHash cred ≠ hash) ∧ Sent lib σ cr apiKey τ' cred)
      (fun _ τ' => ∃ c, (pushing lib).Ends lib E σ cr τ' c) τ := by
  unfold pushCredential planAction
  by_cases hnone : annotationAt cred annotationSyncHash = ""
  · rw [if_pos hnone]
    exact wpE_post (wpE_createCredential_sent h) (fun _ _ h' => .inr ⟨.inl hnone, h'⟩)
  · rw [if_neg hnone]
    by_cases hsame : annotationAt cred annotationSyncHash = hash
    · rw [if_neg (by simpa using hsame)]
      exact .inl ⟨hsame, h⟩
    · rw [if_pos hsame]
      exact wpE_post (wpE_updateCredential_sent h) (fun _ _ h' => .inr ⟨.inr hsame, h'⟩)

/-! ## The controller -/

theorem wp_reportSynced_ends (hat : (pushing lib).At cr τ cred)
    (hkey : apiKeyOf E cr.metadata.ns cr.spec = some apiKey)
    (h : (pushing lib).Skipped lib σ cr τ cred apiKey ∨
      (pushing lib).Recorded lib σ cr τ cred apiKey) :
    (E.rules kind lib home).wp (do
        let refCount ← countReferencingModels cred
        let cred := { cred with status.referencedByModels := refCount }
        setStatus cred true "Synced" "Credential registered with LiteLLM"
        pure (after 300, (none : Option Error)))
      (fun _ τ' => ∃ c, (pushing lib).Ends lib E σ cr τ' c) τ := by
  rw [wp_bind]
  refine Pass.wp_reads (isRead_of_plain (uses_countReferencingModels cred)) (fun n τ₁ _ hq => ?_)
  have ha := Pushing.aside_of_quiet (S := pushing lib) hq
  rw [wp_bind]
  refine wp_mono (wp_setStatus_true (hat.aside ha) ?_ hkey
    (h.imp (·.aside ha) (·.aside ha))) (fun _ _ h' => h')
  rfl

theorem skipped_of_ready (h : (pushing lib).Ready σ cr conn τ cred)
    (hskip : syncHash cred = lib.computeSpecHash ((pushing lib).value cr.spec apiKey)) :
    (pushing lib).Skipped lib σ cr τ cred apiKey := by
  rcases h.same with ⟨hhash, htag⟩ | hblank
  · exact ⟨⟨h.log, hhash, htag⟩, hhash.symm.trans hskip, _, rfl⟩
  · rw [hskip] at hblank
    exact absurd hblank (lib.computeSpecHash_ne _)

theorem wp_persistHash_ends {req : CredentialApi}
    (h : (pushing lib).Ripe σ cr cr.spec.credentialName req τ cred)
    (hcarries : carries lib req cr.spec apiKey)
    (hguard : (pushing lib).Guarded E)
    (hhash : hash = lib.computeSpecHash ((pushing lib).value cr.spec apiKey))
    (hdiff : syncHash cred = "" ∨ syncHash cred ≠ hash) :
    (E.rules kind lib home).wp (persistHash cred hash) (fun r τ' => match r with
        | .ok v => (pushing lib).At cr τ' v ∧ (pushing lib).Recorded lib σ cr τ' v apiKey
        | .error _ => ∃ c, (pushing lib).Ends lib E σ cr τ' c) τ := by
  have hne : annotationAt cred annotationSyncHash ≠ hash := by
    rcases hdiff with hblank | hne
    · intro heq
      rw [hhash] at heq
      exact lib.computeSpecHash_ne _ (heq.symm.trans hblank)
    · exact hne
  unfold persistHash
  rw [if_neg hne]
  refine Pass.wp_update h.now ?_ h.live (fun r τ' hst => ?_) (fun e τ' he hq hrep => ?_)
  · rfl
  · obtain ⟨rv, gen, rfl⟩ := hst.stamped
    refine ⟨⟨hst.now, h.live, h.spec, h.ns⟩, h.recorded hst.rest ?_ rfl hcarries⟩
    exact (Pushing.lookup_stamp_updated (S := pushing lib) cred cred hash rv gen).trans hhash
  · -- the write failed, so no hash had been stored
    have ha := Pushing.aside_of_quiet (S := pushing lib) hq
    refine ⟨cred, Pushing.ends_of_partly (h.toAt.aside ha)
      (.inl (.inl (h.blank_of_fault hguard he))) (fun r' hr' => ?_)⟩
    rw [hrep] at hr'
    cases hr'

theorem wp_syncCredential_ends (h : (pushing lib).Ready σ cr conn τ cred)
    (hguard : (pushing lib).Guarded E)
    (hkey : apiKeyOf E cr.metadata.ns cr.spec = some apiKey) :
    (E.rules kind lib home).wp (syncCredential lib conn cred apiKey)
      (fun _ τ' => ∃ c, (pushing lib).Ends lib E σ cr τ' c) τ := by
  have hpayload : buildCredentialPayload lib cred apiKey = payloadOf lib cr.spec apiKey := by
    rw [← h.spec]
    rfl
  unfold syncCredential
  dsimp only
  rw [wp_bind, hpayload, h.spec]
  refine wp_mono (wpE_pushCredential_sent h) (fun r τ₁ h₁ => ?_)
  rcases r with result | _
  · exact h₁
  rw [wp_bind]
  rcases h₁ with ⟨hskip, h₁⟩ | ⟨hdiff, req, hripe, hcarries⟩
  · have hnoop : persistHash cred (lib.computeSpecHash (.credential cr.spec apiKey
        (payloadOf lib cr.spec apiKey))) = pure (.ok cred) := if_pos hskip
    rw [hnoop]
    exact wp_reportSynced_ends h₁.toAt hkey (.inl (skipped_of_ready h₁ hskip))
  · refine wp_mono (wp_persistHash_ends hripe hcarries hguard rfl hdiff) (fun r τ₂ h₂ => ?_)
    cases r with
    | error e => exact h₂
    | ok v => exact wp_reportSynced_ends h₂.1 hkey (.inr h₂.2)

theorem ready_of_alike {v : LiteLLMCredential} (hlive : cr.metadata.deleting = false)
    (hv : Pass.Alike cr v) (hnow : τ.Now v) (hrest : Rest σ τ)
    (hkey : conn.inst.metadata.key = (pushing lib).key cr.metadata.ns cr.spec) :
    (pushing lib).Ready σ cr conn τ v := by
  have hsame : (pushing lib).Untouched σ cr τ v := Pushing.untouched_of_alike hv hrest
  exact ⟨Pushing.at_of_alike hlive hv hnow, hsame.log, .inl ⟨hsame.hash, hsame.tag⟩, hkey⟩

theorem wp_reconcileLive_ends (hlive : cr.metadata.deleting = false) (hv : Pass.Alike cr cred)
    (hnow : τ.Now cred) (hrest : Rest σ τ)
    (hguard : (pushing lib).Guarded E) :
    (E.rules kind lib home).wp (reconcileLive lib cred)
      (fun _ τ' => ∃ c, (pushing lib).Ends lib E σ cr τ' c) τ := by
  have hat : ∀ τ', Quiet τ τ' → (pushing lib).At cr τ' cred := fun τ' hq =>
    Pushing.at_of_alike hlive hv (hq.now hnow)
  have hkept : ∀ τ', Quiet τ τ' → (pushing lib).Kept lib E σ cr τ' cred := fun τ' hq =>
    .inl (Pushing.untouched_of_alike hv (hrest.trans hq.rest))
  unfold reconcileLive
  rw [wp_bind]
  refine Pass.wp_reads (isRead_resolveInstanceRef lib _ _ _ _) (fun r τ₁ hres hq₁ => ?_)
  cases r with
  | error e =>
    dsimp only
    rw [wp_bind]
    exact wp_mono (wp_setStatus_false (hat τ₁ hq₁) rfl (.inr (hkept τ₁ hq₁))) (fun _ _ h' => h')
  | ok conn =>
    have hkey := Pass.key_of_readOff hres
    rw [hv.ns, hv.spec] at hkey
    dsimp only
    rw [wp_bind]
    refine Pass.wp_reads (isRead_of_plain (uses_fetchAPIKey cred)) (fun r τ₂ hfetch hq₂ => ?_)
    have hq := hq₁.trans hq₂
    cases r with
    | error e =>
      dsimp only
      rw [wp_bind]
      exact wp_mono (wp_setStatus_false (hat τ₂ hq) rfl (.inr (hkept τ₂ hq))) (fun _ _ h' => h')
    | ok apiKey =>
      refine wp_syncCredential_ends (ready_of_alike hlive hv (hq.now hnow)
        (hrest.trans hq.rest) hkey) hguard ?_
      -- what is fetched is a matter of the namespace and the spec
      have hbare : fetchAPIKey cred = fetchAPIKey (bare cr.metadata.ns cr.spec) := by
        rw [← hv.ns, ← hv.spec]
        rfl
      rw [hbare] at hfetch
      unfold apiKeyOf
      rw [hfetch]
      rfl

def hashSync (lib : Ext) : HashSync lib where
  toPushing := pushing lib
  spec_of_value _ _ _ _ h := (SpecValue.credential.inj h).1
  object_isSome _ _ _ _ _ := ⟨_, rfl⟩
  bound_eq v hne := by
    refine if_pos ?_
    unfold pushed
    exact Bool.or_eq_true_iff.mpr (.inl (decide_eq_true hne))
  ends req E σ cr hnow hlive _ _ hguard := by
    show (E.rules kind lib req.ns).wp (reconcile lib req) _ σ
    unfold reconcile
    rw [wp_bind]
    refine Pass.wp_get hnow (fun σ₀ hq₀ => ?_)
    dsimp only
    rw [if_neg (by simp [hlive]), wp_bind]
    refine Pass.wp_ensureFinalizer (hq₀.now hnow) hlive (fun v σ₁ hv _ hnow₁ hrest => ?_)
      (fun e σ₁ _ hq₁ hrep => ?_)
    · exact wp_reconcileLive_ends hlive hv hnow₁ (hq₀.rest.trans hrest) hguard
    · have hq := hq₀.trans hq₁
      refine ⟨cr, Pushing.ends_of_partly (Pushing.at_of_alike hlive (Pass.Alike.refl cr)
        (hq.now hnow)) (.inr (.inl (Pushing.untouched_of_alike (Pass.Alike.refl cr) hq.rest)))
        (fun r hr => ?_)⟩
      rw [hrep] at hr
      cases hr

end Credential

end LitellmOperator
