import LitellmOperator.Sync.Credential

/-! # The removal of a credential

`handleDeletion` deletes a credential from LiteLLM if `status.configured` is set. Every reconcile
that fails takes the mark off, although the credential that was pushed before is still there, and
one whose status is not stored does not put it on. So a credential is removed if, from the
reconcile that pushes it on, none of that happens (`pushed_credential_removed`), and not in general
(`unconfigured_credential_stays`).
-/

set_option autoImplicit false

namespace LitellmOperator

open Effect Protocol Go Kube Ctl Scene

namespace Credential

/-- LiteLLM has carried out a create or an update of the credential. -/
def Pushed (name : String) (log : List (Served CredentialApi)) : Prop :=
  ∃ s ∈ log, pushedName s = some name

/-- A turn of a run in which the name and the reference to the instance stay, and the resource is
not deleted. -/
def Lasting (name : String) (ref : InstanceRef) : Reconciler.credential.Turn → Prop
  | .env (.edit spec) =>
    LiteLLMCredentialSpec.credentialName spec = name ∧ LiteLLMCredentialSpec.instanceRef spec = ref
  | .env .remove => False
  | _ => True

/-- Every push goes through, perhaps by its fallback. -/
def Accepts (E : CredentialPass) : Prop := ∀ conn payload,
    (∀ τ e, E.serve τ conn (.create payload) = .error e → isCredentialConflict e = true ∧
      ∀ τ' e', E.serve τ' conn (.update payload) ≠ .error e') ∧
    (∀ τ e, E.serve τ conn (.update payload) = .error e →
      (isAPIError e).any APIError.isNotFound = true ∧
      ∀ τ' e', E.serve τ' conn (.create payload) ≠ .error e')

/-- The reconcile finds the instance and the key, and its push goes through. -/
structure Healthy (lib : Ext) (E : CredentialPass) (v : LiteLLMCredential) : Prop where
  resolves : ∀ e, readOff E.cluster (resolveInstance lib
    (client : Reader CredentialCtl) v.metadata.ns kindCredential v.spec.instanceRef).run ≠
      some (.error e)
  fetches : ∀ e, readOff E.cluster (fetchAPIKey v).run ≠ some (.error e)
  accepts : Accepts E

/-- A reconcile of a credential that was pushed is healthy. One that pushes it first stores what it
writes from there on. -/
def Steady (lib : Ext) (name : String) (τ : CredentialScene) : Reconciler.credential.Turn → Prop
  | .pass E =>
    (Pushed name τ.log → ∀ v, τ.Now v → Healthy lib E v) ∧
      (¬ Pushed name τ.log → ∀ τ', Pushed name τ'.log → E.fault τ' = none)
  | _ => True

/-- If the credential was ever pushed, then the reconcile after a deletion asks LiteLLM to delete
it, provided that the instance resolves. -/
def CleanedUp (lib : Ext) (req : NamespacedName) (name : String) (σ : CredentialScene) : Prop :=
  Pushed name σ.log → ∀ v σ' (E : CredentialPass) conn, σ.Now v →
    Reconciler.take (R := .credential) lib req σ (.env .remove) = some σ' →
    readOff E.cluster (resolveInstanceForCleanup lib (client : Reader CredentialCtl)
      v.metadata.ns v.spec.instanceRef).run = some (.ok conn) →
    Asked σ' conn (.delete name) (Reconciler.done (R := .credential) lib req σ' E)

variable {lib : Ext} {home name : String} {E : CredentialPass} {σ τ τ' : CredentialScene}
variable {cr v cred : LiteLLMCredential} {conn : ResolvedInstance}

/-! ## The invariant -/

/-- A credential that was pushed is marked, and has the finalizer. -/
structure Marked (name : String) (σ : CredentialScene) (v : LiteLLMCredential) : Prop where
  now : σ.Now v
  live : v.metadata.deleting = false
  named : v.spec.credentialName = name
  marked : Pushed name σ.log → v.status.configured = true ∧
    containsFinalizer v.metadata finalizerName = true

/-- The same within a reconcile: a credential that has just been pushed is not marked yet, but then
no write fails. -/
structure Marking (E : CredentialPass) (name : String) (τ : CredentialScene)
    (v : LiteLLMCredential) : Prop where
  now : τ.Now v
  live : v.metadata.deleting = false
  named : v.spec.credentialName = name
  finalizer : containsFinalizer v.metadata finalizerName = true
  marking : Pushed name τ.log →
    v.status.configured = true ∨ ∀ τ', Pushed name τ'.log → E.fault τ' = none

theorem Marking.advance (h : Marking E name τ v) (hstore : τ'.world.store = τ.world.store)
    (hmarking : Pushed name τ'.log →
      v.status.configured = true ∨ ∀ τ'', Pushed name τ''.log → E.fault τ'' = none) :
    Marking E name τ' v := by
  refine ⟨?_, h.live, h.named, h.finalizer, hmarking⟩
  unfold Scene.Now
  rw [hstore]
  exact h.now

theorem Marking.quiet (h : Marking E name τ v) (hq : Quiet τ τ') : Marking E name τ' v := by
  refine h.advance hq.store ?_
  rw [hq.log]
  exact h.marking

/-- A write has failed, so a credential that was pushed is marked already. -/
theorem Marking.of_fault {e : Error} (h : Marking E name τ v) (he : E.fault τ = some e)
    (hq : Quiet τ τ') : Marked name τ' v := by
  refine ⟨hq.now h.now, h.live, h.named, fun hpushed => ?_⟩
  rw [hq.log] at hpushed
  rcases h.marking hpushed with hconf | hnofault
  · exact ⟨hconf, h.finalizer⟩
  · rw [hnofault τ hpushed] at he
    cases he

/-! ## Reporting -/

theorem wp_setStatus_true_marked {reason message : String} (h : Marking E name τ v)
    (hrv : cred.rv = v.rv) :
    (E.rules kind lib home).wp (setStatus cred true reason message)
      (fun _ τ' => ∃ r, Marked name τ' r) τ := by
  unfold setStatus
  rw [wp_bind]
  refine Pass.wp_statusUpdate h.now ?_ h.live (fun r τ' hst _ _ => ?_)
    (fun e τ' he hq _ => ⟨v, h.of_fault he hq⟩)
  · exact hrv
  · have hnow := hst.now
    obtain ⟨rv, gen, rfl⟩ := hst.stamped
    exact ⟨_, hnow, h.live, h.named, fun _ => ⟨rfl, h.finalizer⟩⟩

theorem wp_setStatus_false_marked {reason message : String} (h : Marking E name τ v)
    (hrv : cred.rv = v.rv) (hnot : ¬ Pushed name τ.log) :
    (E.rules kind lib home).wp (setStatus cred false reason message)
      (fun _ τ' => ∃ r, Marked name τ' r) τ := by
  unfold setStatus
  rw [wp_bind]
  refine Pass.wp_statusUpdate h.now ?_ h.live (fun r τ' hst _ _ => ?_)
    (fun e τ' he hq _ => ⟨v, h.of_fault he hq⟩)
  · exact hrv
  · have hnow := hst.now
    have hlog := hst.log
    obtain ⟨rv, gen, rfl⟩ := hst.stamped
    refine ⟨_, hnow, h.live, h.named, fun hpushed => ?_⟩
    rw [hlog] at hpushed
    exact absurd hpushed hnot

/-! ## Pushing -/

/-- Up to its push a reconcile has not changed what was pushed, and it is healthy if the credential
was. -/
structure Unsent (lib : Ext) (E : CredentialPass) (name : String) (τ : CredentialScene)
    (v : LiteLLMCredential) : Prop extends Marking E name τ v where
  healthy : Pushed name τ.log → Healthy lib E v
  first : ¬ Pushed name τ.log → ∀ τ', Pushed name τ'.log → E.fault τ' = none

theorem Unsent.quiet (h : Unsent lib E name τ v) (hq : Quiet τ τ') : Unsent lib E name τ' v := by
  refine ⟨h.toMarking.quiet hq, ?_, ?_⟩
  · rw [hq.log]
    exact h.healthy
  · rw [hq.log]
    exact h.first

/-- Once the push is carried out, either the credential is marked from before, or no write fails. -/
theorem Unsent.sent (h : Unsent lib E name τ v) (hstore : τ'.world.store = τ.world.store) :
    Marking E name τ' v := by
  refine h.toMarking.advance hstore (fun _ => ?_)
  by_cases hpushed : Pushed name τ.log
  · exact h.marking hpushed
  · exact .inr (h.first hpushed)

theorem wpE_failWith_marked {op : String} {e : Error} (h : Unsent lib E name τ v)
    (hunhealthy : ¬ Healthy lib E v) {Q : Unit → CredentialScene → Prop} :
    (E.rules kind lib home).wpE (failWith v op e) Q (fun _ τ' => ∃ r, Marked name τ' r) τ := by
  unfold failWith reportAPIError
  rw [wpE_bind, wpE_lift, wp_bind]
  exact wp_mono
    (wp_setStatus_false_marked h.toMarking rfl (fun hpushed => hunhealthy (h.healthy hpushed)))
    (fun _ _ h' => h')

variable {payload : CredentialPayload}

theorem wpE_createCredential_marked (h : Unsent lib E name τ v) :
    (E.rules kind lib home).wpE (createCredential conn v payload)
      (fun _ τ' => Marking E name τ' v) (fun _ τ' => ∃ r, Marked name τ' r) τ := by
  unfold createCredential
  rw [wpE_bind, wpE_lift]
  refine Pass.wp_api (fun _ τ₁ _ hc => h.sent hc.store) (fun e τ₁ he hq => ?_)
  dsimp only
  split
  · rw [wpE_bind, wpE_lift]
    refine Pass.wp_api (fun _ τ₂ _ hc => (h.quiet hq).sent hc.store) (fun e' τ₂ he' hq' => ?_)
    refine wpE_failWith_marked ((h.quiet hq).quiet hq') (fun hhealthy => ?_)
    exact ((hhealthy.accepts conn payload).1 τ e he).2 τ₁ e' he'
  · rename_i hconflict
    refine wpE_failWith_marked (h.quiet hq) (fun hhealthy => ?_)
    exact hconflict ((hhealthy.accepts conn payload).1 τ e he).1

theorem wpE_updateCredential_marked (h : Unsent lib E name τ v) :
    (E.rules kind lib home).wpE (updateCredential conn v payload)
      (fun _ τ' => Marking E name τ' v) (fun _ τ' => ∃ r, Marked name τ' r) τ := by
  unfold updateCredential
  rw [wpE_bind, wpE_lift]
  refine Pass.wp_api (fun _ τ₁ _ hc => h.sent hc.store) (fun e τ₁ he hq => ?_)
  dsimp only
  split
  · rw [wpE_bind, wpE_lift]
    refine Pass.wp_api (fun _ τ₂ _ hc => (h.quiet hq).sent hc.store) (fun e' τ₂ he' hq' => ?_)
    refine wpE_failWith_marked ((h.quiet hq).quiet hq') (fun hhealthy => ?_)
    exact ((hhealthy.accepts conn payload).2 τ e he).2 τ₁ e' he'
  · rename_i hfound
    refine wpE_failWith_marked (h.quiet hq) (fun hhealthy => ?_)
    exact hfound ((hhealthy.accepts conn payload).2 τ e he).1

theorem wpE_pushCredential_marked {hash : String} (h : Unsent lib E name τ v) :
    (E.rules kind lib home).wpE (pushCredential conn v payload hash)
      (fun _ τ' => Marking E name τ' v) (fun _ τ' => ∃ r, Marked name τ' r) τ := by
  unfold pushCredential
  cases planAction v hash with
  | create => exact wpE_createCredential_marked h
  | update => exact wpE_updateCredential_marked h
  | noop => exact h.toMarking

/-! ## The reconcile -/

theorem wp_persistHash_marked {hash : String} (h : Marking E name τ v) :
    (E.rules kind lib home).wp (persistHash v hash) (fun r τ' => match r with
        | .ok v' => Marking E name τ' v'
        | .error _ => ∃ r, Marked name τ' r) τ := by
  unfold persistHash
  split
  · exact h
  · refine Pass.wp_update h.now ?_ h.live (fun r τ' hst => ?_)
      (fun e τ' he hq _ => ⟨v, h.of_fault he hq⟩)
    · rfl
    · have hnow := hst.now
      have hlog := hst.log
      obtain ⟨rv, gen, rfl⟩ := hst.stamped
      refine ⟨hnow, h.live, h.named, h.finalizer, ?_⟩
      rw [hlog]
      exact h.marking

theorem wp_syncCredential_marked {apiKey : String} (h : Unsent lib E name τ v) :
    (E.rules kind lib home).wp (syncCredential lib conn v apiKey)
      (fun _ τ' => ∃ r, Marked name τ' r) τ := by
  unfold syncCredential
  dsimp only
  rw [wp_bind]
  refine wp_mono (wpE_pushCredential_marked h) (fun r τ₁ h₁ => ?_)
  rcases r with result | _
  · exact h₁
  rw [wp_bind]
  refine wp_mono (wp_persistHash_marked h₁) (fun r τ₂ h₂ => ?_)
  rcases r with e | v'
  · exact h₂
  dsimp only at h₂ ⊢
  rw [wp_bind]
  refine Pass.wp_reads (isRead_of_plain (uses_countReferencingModels v')) (fun n τ₃ _ hq => ?_)
  rw [wp_bind]
  refine wp_mono (wp_setStatus_true_marked (h₂.quiet hq) ?_) (fun _ _ h' => h')
  rfl

theorem wp_reconcileLive_marked (h : Unsent lib E name τ v) :
    (E.rules kind lib home).wp (reconcileLive lib v) (fun _ τ' => ∃ r, Marked name τ' r) τ := by
  unfold reconcileLive
  rw [wp_bind]
  refine Pass.wp_reads (isRead_resolveInstanceRef lib _ _ _ _) (fun r τ₁ hres hq₁ => ?_)
  have h₁ := h.quiet hq₁
  cases r with
  | error e =>
    dsimp only
    rw [wp_bind]
    refine wp_mono (wp_setStatus_false_marked h₁.toMarking rfl (fun hpushed => ?_))
      (fun _ _ h' => h')
    exact (h₁.healthy hpushed).resolves e hres
  | ok conn =>
    dsimp only
    rw [wp_bind]
    refine Pass.wp_reads (isRead_of_plain (uses_fetchAPIKey v)) (fun r τ₂ hfetch hq₂ => ?_)
    have h₂ := h₁.quiet hq₂
    cases r with
    | error e =>
      dsimp only
      rw [wp_bind]
      refine wp_mono (wp_setStatus_false_marked h₂.toMarking rfl (fun hpushed => ?_))
        (fun _ _ h' => h')
      exact (h₂.healthy hpushed).fetches e hfetch
    | ok apiKey => exact wp_syncCredential_marked h₂

theorem Healthy.of_alike (h : Healthy lib E cr) (hv : Pass.Alike cr v) : Healthy lib E v := by
  obtain ⟨finalizers, rv, gen, rfl⟩ := hv
  exact ⟨h.resolves, h.fetches, h.accepts⟩

variable {req : NamespacedName}

/-- **One reconcile** keeps a pushed credential marked, if it is steady. -/
theorem marked_of_pass (h : Marked name σ cr) (hsteady : Steady lib name σ (.pass E)) :
    ∃ r, Marked name (Reconciler.done (R := .credential) lib req σ E) r := by
  have hwp : (E.rules kind lib req.ns).wp (reconcile lib req)
      (fun _ τ' => ∃ r, Marked name τ' r) σ := by
    unfold reconcile
    rw [wp_bind]
    refine Pass.wp_get h.now (fun σ₀ hq₀ => ?_)
    dsimp only
    rw [if_neg (by simp [h.live]), wp_bind]
    refine Pass.wp_ensureFinalizer (hq₀.now h.now) h.live (fun v σ₁ hv hfin hnow₁ hrest => ?_)
      (fun e σ₁ _ hq₁ _ => ?_)
    · have hlog : σ₁.log = σ.log := hrest.log.trans hq₀.log
      refine wp_reconcileLive_marked ⟨⟨hnow₁, hv.deleting.trans h.live, ?_, hfin, ?_⟩, ?_, ?_⟩
      · rw [hv.spec]
        exact h.named
      · rw [hlog, hv.status]
        exact fun hpushed => .inl (h.marked hpushed).1
      · rw [hlog]
        exact fun hpushed => (hsteady.1 hpushed cr h.now).of_alike hv
      · rw [hlog]
        exact hsteady.2
    · have hq := hq₀.trans hq₁
      refine ⟨cr, hq.now h.now, h.live, h.named, ?_⟩
      rw [hq.log]
      exact h.marked
  exact Pass.wp_run.mp hwp

/-! ## Runs -/

variable {σ' : CredentialScene}

/-- **One turn.** -/
theorem marked_of_turn {ref : InstanceRef} {t : Reconciler.credential.Turn}
    (h : ∃ v, Marked name σ v) (hlasting : Lasting name ref t) (hsteady : Steady lib name σ t)
    (hx : Reconciler.take (R := .credential) lib req σ t = some σ') : ∃ v, Marked name σ' v := by
  obtain ⟨v, hv⟩ := h
  cases t with
  | pass E =>
    cases hx
    exact marked_of_pass hv hsteady
  | env e =>
    cases e with
    | edit spec =>
      obtain ⟨⟨rv, gen, hnow⟩, htrace⟩ := Reconciler.now_of_edit hv.now hv.live hx
      refine ⟨_, hnow, hv.live, hlasting.1, ?_⟩
      unfold Scene.log
      rw [htrace]
      exact hv.marked
    | remove => exact hlasting.elim
    | clear age | drift age => cases hx
    | appear o =>
      obtain ⟨w, hw, rfl⟩ := Option.map_eq_some_iff.mp hx
      have hmake : (if o ∈ σ.world.objects then none
          else some { σ.world with objects := o :: σ.world.objects }) = some w := hw
      split at hmake
      · cases hmake
      · cases hmake
        exact ⟨v, hv.now, hv.live, hv.named, hv.marked⟩
    | vanish o =>
      cases hx
      exact ⟨v, hv.now, hv.live, hv.named, hv.marked⟩

theorem now_of_remove (hnow : σ.Now v) (hfin : containsFinalizer v.metadata finalizerName = true)
    (hx : Reconciler.take (R := .credential) lib req σ (.env .remove) = some σ') :
    ∃ rv gen, σ'.Now (Resource.stamp
      { v with metadata := { v.metadata with deleting := true } } rv gen) := by
  obtain ⟨w, hw, rfl⟩ := Option.map_eq_some_iff.mp hx
  obtain ⟨store, hstore, rfl⟩ := Option.map_eq_some_iff.mp hw
  obtain ⟨cur, hcur, rfl⟩ := Option.map_eq_some_iff.mp hstore
  obtain rfl : v = cur := Option.some.inj (hnow.symm.trans hcur)
  have hwritten := Store.written_put hcur { v with metadata := { v.metadata with deleting := true } }
  obtain ⟨rv, gen, hr⟩ := hwritten.stored
  refine ⟨rv, gen, ?_⟩
  rcases hwritten.now with hnow' | hgone
  · rw [← hr]
    exact hnow'
  · -- an object with a finalizer is only marked
    have hnone : v.metadata.finalizers = [] := (hwritten.gone hgone).2
    unfold containsFinalizer at hfin
    rw [hnone] at hfin
    cases hfin

theorem asked_of_marked (h : Marked name σ v) (hpushed : Pushed name σ.log)
    (hx : Reconciler.take (R := .credential) lib req σ (.env .remove) = some σ')
    (hres : readOff E.cluster (resolveInstanceForCleanup lib (client : Reader CredentialCtl)
      v.metadata.ns v.spec.instanceRef).run = some (.ok conn)) :
    Asked σ' conn (.delete name) (Reconciler.done (R := .credential) lib req σ' E) := by
  obtain ⟨hconf, hfin⟩ := h.marked hpushed
  obtain ⟨rv, gen, hnow⟩ := now_of_remove h.now hfin hx
  have hwp : (E.rules kind lib req.ns).wp (reconcile lib req)
      (fun _ τ' => Asked σ' conn (.delete name) τ') σ' := by
    unfold reconcile
    rw [wp_bind]
    refine wp_mono (Pass.wp_later (Later.refl σ') (Pass.wp_get hnow
      (Q := fun r _ => r = .ok _) (fun _ _ => rfl))) ?_
    rintro _ σ₁ ⟨h₁, rfl⟩
    dsimp only
    show (E.rules kind lib req.ns).wp (handleDeletion lib _ _ _ _) _ σ₁
    refine Pass.wp_handleDeletion_asked h₁ hfin ?_ hres
    show (if v.status.configured then some v.spec.credentialName else none) = some name
    rw [if_pos hconf, h.named]
  exact Pass.wp_run.mp hwp

/-- **A pushed credential is removed, if nothing fails in between.** In every run of edits and
reconciles that keeps the name and the instance, in which a reconcile that pushes the credential for
the first time stores its writes from there on, and every later one finds the instance and the key
and gets its push through, the deletion asks LiteLLM to delete the credential. -/
theorem pushed_credential_removed (lib : Ext) (req : NamespacedName) (cr : LiteLLMCredential)
    (hlive : cr.metadata.deleting = false) (σ : CredentialScene)
    (hrun : Reconciler.Passes (R := .credential) lib req
      (fun τ t => Lasting cr.spec.credentialName cr.spec.instanceRef t ∧
        Steady lib cr.spec.credentialName τ t) (Reconciler.credential.scene cr) σ) :
    CleanedUp lib req cr.spec.credentialName σ := by
  have hstart : Marked cr.spec.credentialName (Reconciler.credential.scene cr) cr :=
    ⟨rfl, hlive, rfl, fun ⟨_, hs, _⟩ => absurd hs List.not_mem_nil⟩
  obtain ⟨v, hv⟩ := hrun.invariant (I := fun τ => ∃ v, Marked cr.spec.credentialName τ v)
    ⟨cr, hstart⟩ (fun τ τ' t hτ ht hx => marked_of_turn hτ ht.1 ht.2 hx)
  intro hpushed v' σ' E conn hnow hx hres
  obtain rfl : v = v' := Option.some.inj (hv.now.symm.trans hnow)
  exact asked_of_marked hv hpushed hx hres

end Credential

/-! ## A credential whose Secret is gone -/

namespace Sample

def openai : LiteLLMCredential where
  metadata := { name := "openai", ns := "apps" }
  spec :=
    { instanceRef := { name := "a" }, credentialName := "openai"
      apiKeySecretRef := { name := "openai", key := "master-key" } }
  status := {}

def accepting : CredentialPass := pass (fun _ => none) (fun _ => some ())

/-- The same, but the Secret with the key is not found. -/
def keyless : CredentialPass where
  cluster
    | .getSecret key =>
      if key.name = "openai" then .error (.leaf (.kube Store.notFound)) else cluster (.getSecret key)
    | r => cluster r
  fits r o h := by
    cases r <;> first | rfl | exact fits_cluster _ o h
  fault _ := none
  serve _ _ _ := .ok ()
  random _ := .ok []

end Sample

namespace Credential

def isDelete : Op LiteLLMCredentialSpec LiteLLMCredentialStatus CredentialApi → Bool
  | .api _ (.delete _) => true
  | _ => false

theorem not_asked_of_all {name : String} {conn : ResolvedInstance} {τ τ' : CredentialScene}
    (h : (τ'.trace.all fun e => !isDelete e.1) = true) :
    ¬ Asked τ conn (.delete name) τ' := by
  rintro ⟨t, ht, e, he, hop⟩
  have hnot := List.all_eq_true.mp h e (ht ▸ List.mem_append_left _ he)
  rw [hop] at hnot
  cases hnot

theorem accepts_accepting : Accepts Sample.accepting := by
  intro conn payload
  refine ⟨fun τ e he => ?_, fun τ e he => ?_⟩
  · cases he
  · cases he

/-- The credential is pushed, reconciled once more, and deleted. -/
theorem pushed_credential_removed_twice :
    ∃ σ, Pushed "openai" σ.log ∧ CleanedUp Sample.lib ⟨"apps", "openai"⟩ "openai" σ := by
  refine ⟨_, ?_, pushed_credential_removed Sample.lib ⟨"apps", "openai"⟩ Sample.openai rfl _
    (.turn (t := .pass Sample.accepting)
      (.turn (t := .pass Sample.accepting) (.refl _) ⟨trivial, ?_⟩ rfl) ⟨trivial, ?_⟩ rfl)⟩
  · exact ⟨_, List.mem_cons_self, rfl⟩
  · exact ⟨fun ⟨_, hs, _⟩ => absurd hs List.not_mem_nil, fun _ _ _ => rfl⟩
  · refine ⟨fun _ v hv => ?_, fun _ _ _ => rfl⟩
    obtain rfl := Option.some.inj hv
    refine ⟨fun e he => ?_, fun e he => ?_, accepts_accepting⟩
    · cases he
    · cases he

/-- **A credential whose Secret is gone stays in LiteLLM.** The first reconcile pushes it, the second
does not find the Secret and takes the mark off, and the deletion leaves it alone. -/
theorem unconfigured_credential_stays :
    ¬ ∀ (lib : Ext) (req : NamespacedName) (cr : LiteLLMCredential),
      cr.metadata.deleting = false → ∀ σ : CredentialScene,
      Reconciler.Passes (R := .credential) lib req
        (fun _ t => Lasting cr.spec.credentialName cr.spec.instanceRef t)
        (Reconciler.credential.scene cr) σ → CleanedUp lib req cr.spec.credentialName σ := by
  intro hall
  have hclean := hall Sample.lib ⟨"apps", "openai"⟩ Sample.openai rfl _
    (.turn (t := .pass Sample.keyless)
      (.turn (t := .pass Sample.accepting) (.refl _) trivial rfl) trivial rfl)
  exact not_asked_of_all rfl
    (hclean ⟨_, List.mem_cons_self, rfl⟩ _ _ Sample.accepting _ rfl rfl rfl)

end Credential

end LitellmOperator
