import LitellmOperator.Controller.Credential
import LitellmOperator.Session.Reconcile

/-! # The credential controller keeps to the session protocol

A credential counts as bound once its sync hash was stored, or while it is marked as configured,
and then to the name in its spec. Creating and updating are taken alike: either may find the
credential there or not.
-/

set_option autoImplicit false

namespace LitellmOperator

open Effect Protocol Go Kube Ctl Kind

namespace Credential

/-- Whether the resource says that it was pushed. -/
def pushed (cred : LiteLLMCredential) : Bool :=
  annotationAt cred annotationSyncHash ≠ "" || cred.status.configured

def kind : Kind LiteLLMCredentialSpec LiteLLMCredentialStatus CredentialApi where
  kind := kindCredential
  instanceRef := (·.instanceRef)
  bound v := if pushed v then some v.spec.credentialName else none
  adopted _ := false
  byName := true
  replaces := false
  creates
    | .create _ => true
    | _ => false
  names
    | .create payload => some payload.credentialName
    | _ => none
  takes
    | .create payload, _ => some payload.credentialName
    | .update payload, _ => some payload.credentialName
    | .delete _, _ => none
  deletes
    | .delete credentialName => some credentialName
    | _ => none
  finds _ := none
  hinders _ := failedWrite
  merge _ modified _ := modified
  bound_congr := by
    intro v v' hspec hst hann
    unfold pushed annotationAt
    rw [hspec, hst, hann]
  takes_deletes req _ _ h := by
    cases req with
    | delete _ => cases h
    | _ => rfl

theorem cleans : kind.Cleans (·.instanceRef) target .delete where
  instanceRef := rfl
  target := by
    intro cred x h
    unfold target at h
    split at h
    · rename_i hconf
      cases h
      refine ⟨if_pos ?_, rfl⟩
      unfold pushed
      simp [hconf]
    · cases h
  deletes _ := rfl
  creates _ := rfl
  takes _ _ := rfl

variable {lib : Ext} {conn : ResolvedInstance} {cred : LiteLLMCredential}
variable {s : Session LiteLLMCredentialSpec LiteLLMCredentialStatus}

/-! ## Status -/

/-- Reporting ends the reconcile: a failure may be reported from any copy, a success from one whose
hash is stored. -/
theorem wp_setStatus {configured : Bool} {reason message : String}
    {c : LiteLLMCredential} (hc : s.copy = some c) (hf : s.fresh = none)
    (hnear : cred = c.withStatus cred.status)
    (hconf : configured = true → annotationAt c annotationSyncHash ≠ "") :
    (kind.session lib).wp (setStatus cred configured reason message) (fun _ s' => Final s') s := by
  unfold setStatus
  simp only [wp_bind]
  refine wp_report ⟨c, hc, ?_, .inr ⟨.inl hf, ?_⟩⟩
  · rw [hnear]
    rfl
  · -- with the hash stored nothing changes; without it the name is forgotten
    by_cases hh : annotationAt c annotationSyncHash = ""
    · cases configured with
      | true => exact absurd hh (hconf rfl)
      | false =>
        refine .inr (.inl ⟨if_neg ?_, .inl rfl⟩)
        have hh' : lookup c.metadata.annotations annotationSyncHash = "" := hh
        simp [pushed, annotationAt, Resource.withStatus, hh']
    · refine .inl ?_
      have hh' : lookup c.metadata.annotations annotationSyncHash ≠ "" := hh
      show (if pushed _ then _ else none) = if pushed c then _ else none
      simp [pushed, annotationAt, Resource.withStatus, hh']

theorem wp_reportAPIError {op : String} {e : Error} {c : LiteLLMCredential}
    (hc : s.copy = some c) (hf : s.fresh = none) (hnear : cred = c.withStatus cred.status) :
    (kind.session lib).wp (reportAPIError cred op e) (fun _ s' => Final s') s := by
  unfold reportAPIError
  simp only [wp_bind]
  exact wp_setStatus hc hf hnear (fun h => by cases h)

theorem wpE_failWith {op : String} {e : Error} (h : Live kind lib conn cred s)
    {Q : Unit → Session LiteLLMCredentialSpec LiteLLMCredentialStatus → Prop} :
    (kind.session lib).wpE (failWith cred op e) Q (fun _ s' => Final s') s := by
  obtain ⟨subj, c, ho, hf, -⟩ := h
  unfold failWith
  simp only [wpE_bind, wpE_lift]
  exact wp_reportAPIError ho.copy hf ho.near

/-! ## Pushing -/

theorem wp_send {req : CredentialApi} {x : String} (hd : kind.deletes req = none)
    (ht : ∀ a, kind.takes req a = some x) (h : Live kind lib conn cred s)
    {Q : Except Error Unit → Session LiteLLMCredentialSpec LiteLLMCredentialStatus → Prop}
    (hok : ∀ s', Pending kind lib conn x cred s' → Q (.ok ()) s')
    (herr : ∀ e s', Live kind lib conn cred s' → Q (.error e) s') :
    (kind.session lib).wp (api conn req) Q s := by
  obtain ⟨subj, c, ho, hf, hb⟩ := h
  refine wp_create hd ho hf (.inl rfl) (fun a s' y hy ho' hf' _ => ?_) (fun a s' hn _ _ _ => ?_)
    (fun e s' ho' hf' _ _ => herr e s' ⟨subj, c, ho', hf', hb⟩)
  · rw [ht a] at hy
    cases hy
    exact hok s' ⟨subj, c, ho', hf'⟩
  · rw [ht a] at hn
    cases hn

variable {payload : CredentialPayload}

theorem wpE_createCredential (h : Live kind lib conn cred s) :
    (kind.session lib).wpE (createCredential conn cred payload)
      (fun _ s' => Pending kind lib conn payload.credentialName cred s') (fun _ s' => Final s')
      s := by
  unfold createCredential
  simp only [wpE_bind, wpE_lift]
  refine wp_send rfl (fun _ => rfl) h (fun _ h₁ => h₁) (fun e s₁ h₁ => ?_)
  dsimp only
  split
  · simp only [wpE_bind, wpE_lift]
    exact wp_send rfl (fun _ => rfl) h₁ (fun _ h₂ => h₂) (fun _ _ h₂ => wpE_failWith h₂)
  · exact wpE_failWith h₁

theorem wpE_updateCredential (h : Live kind lib conn cred s) :
    (kind.session lib).wpE (updateCredential conn cred payload)
      (fun _ s' => Pending kind lib conn payload.credentialName cred s') (fun _ s' => Final s')
      s := by
  unfold updateCredential
  simp only [wpE_bind, wpE_lift]
  refine wp_send rfl (fun _ => rfl) h (fun _ h₁ => h₁) (fun e s₁ h₁ => ?_)
  dsimp only
  split
  · simp only [wpE_bind, wpE_lift]
    exact wp_send rfl (fun _ => rfl) h₁ (fun _ h₂ => h₂) (fun _ _ h₂ => wpE_failWith h₂)
  · exact wpE_failWith h₁

theorem wpE_pushCredential {hash : String} (hhash : hash ≠ "") (h : Live kind lib conn cred s) :
    (kind.session lib).wpE (pushCredential conn cred payload hash)
      (fun _ s' => (annotationAt cred annotationSyncHash = hash ∧ Live kind lib conn cred s') ∨
        (annotationAt cred annotationSyncHash ≠ hash ∧
          Pending kind lib conn payload.credentialName cred s')) (fun _ s' => Final s') s := by
  unfold pushCredential
  by_cases he : annotationAt cred annotationSyncHash = ""
  · have hplan : planAction cred hash = .create := if_pos he
    rw [hplan]
    refine wpE_post (wpE_createCredential h) (fun _ _ h' => .inr ⟨?_, h'⟩)
    rw [he]
    exact hhash.symm
  · by_cases hne : annotationAt cred annotationSyncHash = hash
    · have hplan : planAction cred hash = .noop := by
        unfold planAction
        rw [if_neg he, if_neg (not_not.mpr hne)]
      rw [hplan]
      exact .inl ⟨hne, h⟩
    · have hplan : planAction cred hash = .update := by
        unfold planAction
        rw [if_neg he, if_pos hne]
      rw [hplan]
      exact wpE_post (wpE_updateCredential h) (fun _ _ h' => .inr ⟨hne, h'⟩)

/-! ## The controller -/

theorem uses_fetchAPIKey (cred : LiteLLMCredential) : (fetchAPIKey cred).run.Uses Op.PlainRead := by
  unfold fetchAPIKey
  refine uses_run_bind (uses_orFail (uses_read trivial)) (fun secret => ?_)
  split <;> exact .pure

theorem uses_countReferencingModels (cred : LiteLLMCredential) :
    (countReferencingModels cred).Uses Op.PlainRead := by
  refine .bind (uses_read trivial) (fun r => ?_)
  cases r with
  | error e | ok models => exact .pure

theorem wp_reportSynced (h : Live kind lib conn cred s)
    (hhash : annotationAt cred annotationSyncHash ≠ "") :
    (kind.session lib).wp (do
        let refCount ← countReferencingModels cred
        let cred := { cred with status.referencedByModels := refCount }
        setStatus cred true "Synced" "Credential registered with LiteLLM"
        pure (after 300, (none : Option Error))) (fun _ s' => Final s') s := by
  simp only [wp_bind]
  refine wp_plain (uses_countReferencingModels cred) (fun n s' hs' => ?_)
  obtain ⟨subj, c, ho, hf, -⟩ := h.same hs'
  refine wp_setStatus ho.copy hf (ho.withStatus _).near (fun _ => ?_)
  have hann : annotationAt cred annotationSyncHash = annotationAt c annotationSyncHash := by
    rw [ho.near]
    rfl
  rw [← hann]
  exact hhash

theorem wp_storeHash {hash : String} (hhash : hash ≠ "")
    (h : Pending kind lib conn cred.spec.credentialName cred s)
    {Q : Except Error LiteLLMCredential →
      Session LiteLLMCredentialSpec LiteLLMCredentialStatus → Prop}
    (hok : ∀ cred' s', Live kind lib conn cred' s' →
      annotationAt cred' annotationSyncHash = hash → Q (.ok cred') s')
    (herr : ∀ e s', Final s' → Q (.error e) s') :
    (kind.session lib).wp (update (annotate cred annotationSyncHash hash)) Q s := by
  obtain ⟨subj, c, ho, hf⟩ := h
  have hspec : cred.spec = c.spec := by
    rw [ho.near]
    rfl
  have hrv : cred.rv = c.rv := by
    rw [ho.near]
    rfl
  have hup := updated_annotate annotationSyncHash hash ho.near
  have hann : annotationAt (annotate c annotationSyncHash hash) annotationSyncHash = hash :=
    lookup_assign_self _ _ _
  have hb : kind.bound (c.updated (annotate cred annotationSyncHash hash))
      = some cred.spec.credentialName := by
    rw [hup, hspec]
    refine if_pos ?_
    unfold pushed
    rw [hann]
    simp [hhash]
  refine wp_update (annotate cred annotationSyncHash hash) ho.copy hrv hspec (.inl rfl)
    (.inl ⟨_, hf, hb⟩) (fun rv gen => ?_) (fun e => herr e _ (.inr ?_))
  · rw [hup] at hb ⊢
    have hopen : OpenAt kind lib conn subj ((annotate c annotationSyncHash hash).stamp rv gen)
        ((annotate c annotationSyncHash hash).stamp rv gen)
        (kind.next s (.update (annotate cred annotationSyncHash hash))
          (.ok ((annotate c annotationSyncHash hash).stamp rv gen))) :=
      ⟨⟨ho.connected.inst, ho.connected.key, ho.connected.admitted⟩, ho.live, ho.key, rfl, rfl⟩
    refine hok _ _ ⟨subj, _, hopen, fresh_wrote (.inr ?_), rfl⟩ hann
    rw [bound_stamp, hb, hf]
  · show ((s.hindered && decide (s.fresh = s.fresh)) || s.copy.any _) = true
    rw [ho.copy]
    simp [kind, failedWrite]

theorem wp_syncCredential {apiKey : String} (h : Live kind lib conn cred s) :
    (kind.session lib).wp (syncCredential lib conn cred apiKey) (fun _ s' => Final s') s := by
  unfold syncCredential
  have hhash := lib.computeSpecHash_ne
    (.credential cred.spec apiKey (buildCredentialPayload lib cred apiKey))
  rw [wp_bind]
  refine wp_mono (wpE_pushCredential hhash h) (fun r s₁ h₁ => ?_)
  rcases r with result | _
  · exact h₁
  rw [wp_bind]
  unfold persistHash
  rcases h₁ with ⟨heq, h₁⟩ | ⟨hne, h₁⟩
  · rw [if_pos heq]
    exact wp_reportSynced h₁ (by rw [heq]; exact hhash)
  · rw [if_neg hne]
    exact wp_storeHash hhash h₁
      (fun cred' s₂ h₂ hann => wp_reportSynced h₂ (by rw [hann]; exact hhash))
      (fun e s₂ hf => hf)

theorem wp_reconcileLive (hc : s.copy = some cred) (hf : s.fresh = none)
    (hd : cred.metadata.deleting = false) :
    (kind.session lib).wp (reconcileLive lib cred) (fun _ s' => Final s') s := by
  unfold reconcileLive resolveInstance
  rw [wp_bind]
  refine wp_mono (wpE_resolveInstanceRef (K := kind)
    (Q := fun conn s' => Live kind lib conn cred s')
    (E := fun _ s' => s'.copy = some cred ∧ s'.fresh = none) hc hf
    (fun conn s' h ha => h.toLive hd (ha rfl)) (fun e s' hc' hf' => ⟨hc', hf'⟩)) (fun r s' h => ?_)
  rcases r with e | conn
  · simp only [wp_bind]
    exact wp_setStatus h.1 h.2 rfl (fun h' => by cases h')
  rw [wp_bind]
  refine wp_plain (uses_fetchAPIKey cred) (fun r s₁ hs₁ => ?_)
  have h₁ := Live.same h hs₁
  cases r with
  | error e =>
    obtain ⟨subj, c, ho, hf', -⟩ := h₁
    simp only [wp_bind]
    exact wp_setStatus ho.copy hf' ho.near (fun h' => by cases h')
  | ok apiKey => exact wp_syncCredential h₁

/-- **The credential controller keeps to the session protocol.** -/
theorem follows (lib : Ext) (req : NamespacedName) :
    (kind.session lib).wp (reconcile lib req) (fun _ s => Final s) {} := by
  unfold reconcile
  rw [wp_bind]
  refine ⟨⟨rfl, rfl⟩, fun r _ => ?_⟩
  rcases r with e | cred
  · exact .inl rfl
  show (kind.session lib).wp (if cred.metadata.deleting then _ else _) _ _
  cases hd : cred.metadata.deleting with
  | true => exact wp_handleDeletion cleans rfl rfl hd
  | false =>
    show (kind.session lib).wp (ensureFinalizer cred >>= _) _ _
    rw [wp_bind]
    exact wp_ensureFinalizer rfl rfl
      (fun cred' s' hc hf hd' => wp_reconcileLive hc hf (hd'.trans hd))
      (fun e s' hf => .inl hf)

end Credential

end LitellmOperator
