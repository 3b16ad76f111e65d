import LitellmOperator.Recovery.Run
import LitellmOperator.Sync.Provider

/-! # Recovery of a model

A reconcile in which nothing fails that can succeed. From a state in which the model named by the
status exists it returns no error, and ends in such a state with an id in the status; so it does
from every state that a guarded run leaves behind (`recovers`). From a state in which the status
names a model that is gone it may not get over that: a model whose auth mode was switched is to be
deleted first, which fails every time (`stuck_after_switch`).
-/

set_option autoImplicit false

namespace LitellmOperator

open Effect Protocol Go Kube Ctl Scene

namespace Model

/-- Nothing fails that can succeed: the references of the resource resolve, writes go through,
and LiteLLM carries out what addresses one of its models, and only that. -/
structure Healthy (lib : Ext) (E : Reconciler.model.RPass) (cr : LiteLLMModel) : Prop where
  calm : E.Calm
  resolves : ∃ conn, Pass.resolved lib E (controller lib) cr = some (.ok conn)
  params : (paramsOf E cr.metadata.ns cr.spec).isSome = true
  create : ∀ τ conn body, ∃ resp, E.serve τ conn (.create body) = .ok resp ∧
    (show ModelCreateResponse from resp).modelID ≠ ""
  update : ∀ τ conn body, (∃ a, E.serve τ conn (.update body) = .ok a) ↔
    (conn.inst.metadata.key, body.modelID) ∈ τ.world.objects
  delete : ∀ τ conn id, (∃ a, E.serve τ conn (.delete id) = .ok a) ↔
    (conn.inst.metadata.key, id) ∈ τ.world.objects

variable {lib : Ext} {home hash mode : String} {key : NamespacedName}
variable {E : Reconciler.model.RPass} {τ : Reconciler.model.RScene}
variable {cr model : LiteLLMModel} {conn : ResolvedInstance} {body : ModelCreateRequest}

/-- The stored resource is `c`, and the copy `v` of it names a model on the instance `key`. -/
structure Bound (key : NamespacedName) (v c : LiteLLMModel) (τ : Reconciler.model.RScene) :
    Prop where
  now : τ.Now c
  rv : v.rv = c.rv
  live : c.metadata.deleting = false
  refers : kind.refKey c = key
  named : v.status.litellmModelID ≠ ""
  there : (key, v.status.litellmModelID) ∈ τ.world.objects

/-! ## Its branches -/

variable {τ' : ModelScene}

theorem mem_of_created {resp : ModelCreateResponse} (hid : resp.modelID ≠ "")
    (hc : Pass.Carried kind lib home τ conn (.create body) resp τ') :
    (conn.inst.metadata.key, resp.modelID) ∈ τ'.world.objects := by
  have hmade : τ'.world.objects = (conn.inst.metadata.key, resp.modelID) :: τ.world.objects := by
    rw [hc.objects, serve_create, idOf_of_ne hid]
    rfl
  rw [hmade]
  exact List.mem_cons_self

theorem Healthy.id_ne (hE : Healthy lib E cr) {resp : ModelCreateResponse}
    (hresp : E.serve τ conn (.create body) = .ok resp) : resp.modelID ≠ "" := by
  obtain ⟨resp', hresp', hid⟩ := hE.create τ conn body
  obtain rfl : resp' = resp := Except.ok.inj (hresp'.symm.trans hresp)
  exact hid

variable {v : LiteLLMModel}

theorem Noted.bound {id : String} (h : Noted model id hash mode τ v τ')
    (hkey : kind.refKey model = key) (hid : id ≠ "") (hobj : (key, id) ∈ τ.world.objects) :
    Bound key v v τ' := by
  have hrefers : kind.refKey v = kind.refKey model := by
    unfold Kind.refKey
    rw [h.spec, h.ns]
  refine ⟨h.now, rfl, h.live, hrefers.trans hkey, ?_, ?_⟩
  · rw [h.id]
    exact hid
  · rw [h.id, h.objects]
    exact hobj

theorem Took.bound (hE : Healthy lib E cr) (hnow : τ.Now model)
    (hlive : model.metadata.deleting = false) (hconn : conn.inst.metadata.key = kind.refKey model)
    (hb : ∀ x ∈ kind.bound model, (kind.refKey model, x) ∈ τ.world.objects)
    (h : Took lib home E conn model body hash mode τ v τ') : Bound (kind.refKey model) v v τ' := by
  cases h with
  | created hid hresp hc hn =>
    exact hn.bound rfl (hE.id_ne hresp) (hconn ▸ mem_of_created (hE.id_ne hresp) hc)
  | recreated hid hflip ha hc hresp hc₁ hn =>
    exact hn.bound rfl (hE.id_ne hresp) (hconn ▸ mem_of_created (hE.id_ne hresp) hc₁)
  | @updated _ τ₁ _ _ hid hkeep ha hc hn =>
    -- an update leaves the models that there are
    have hsame : τ₁.world.objects = τ.world.objects := hc.objects
    refine hn.bound rfl hid ?_
    rw [hsame]
    exact hb _ (idOf_of_ne hid)
  | skipped hid hhash hmode => exact ⟨hnow, rfl, hlive, rfl, hid, hb _ (idOf_of_ne hid)⟩

theorem not_hindered (hE : Healthy lib E cr) (hconn : conn.inst.metadata.key = kind.refKey model)
    (hb : ∀ x ∈ kind.bound model, (kind.refKey model, x) ∈ τ.world.objects) :
    ¬ Hindered E conn model body τ := by
  rw [← hconn] at hb
  intro h
  cases h with
  | fault h =>
    rw [hE.calm] at h
    cases h
  | create h =>
    obtain ⟨resp, hresp, -⟩ := hE.create _ conn body
    rw [hresp] at h
    cases h
  | delete hid h =>
    obtain ⟨a, ha⟩ := (hE.delete τ conn _).mpr (hb _ (idOf_of_ne hid))
    rw [ha] at h
    cases h
  | update hid h =>
    obtain ⟨a, ha⟩ := (hE.update τ conn (addressed body model.status.litellmModelID)).mpr
      (hb _ (idOf_of_ne hid))
    rw [ha] at h
    cases h

/-! ## The whole reconcile -/

theorem Bound.checked {v v' c : LiteLLMModel} (h : Bound key v c τ) (hc : Checked v τ v' τ') :
    Bound key v' c τ' := by
  obtain ⟨health, rfl⟩ := hc.copy
  refine ⟨now_of_store h.now hc.store, h.rv, h.live, h.refers, h.named, ?_⟩
  rw [hc.objects]
  exact h.there

theorem Healthy.settings (hE : Healthy lib E cr) (halike : Pass.Alike cr model) :
    ∃ p, readOff E.cluster (resolveParams model).run = some (.ok p) := by
  obtain ⟨params, hparams⟩ := Option.isSome_iff_exists.mp hE.params
  obtain ⟨p, hp, -⟩ := Option.map_eq_some_iff.mp hparams
  obtain ⟨r, hr, hok⟩ := Option.bind_eq_some_iff.mp hp
  cases r with
  | error f => cases hok
  | ok p =>
    refine ⟨p, readOff_resolveParams ?_ ?_ hr⟩
    · exact halike.ns
    · exact halike.spec

theorem wpE_reconcileModel_bound (hE : Healthy lib E cr) (halike : Pass.Alike cr model)
    (hnow : τ.Now model) (hlive : model.metadata.deleting = false)
    (hconn : conn.inst.metadata.key = kind.refKey model)
    (hb : ∀ x ∈ kind.bound model, (kind.refKey model, x) ∈ τ.world.objects) :
    (E.rules kind lib home).wpE (reconcileModel lib model conn)
      (fun out τ' => ∃ c, Bound (kind.refKey model) out.1 c τ') (fun _ _ => False) τ := by
  refine wpE_mono (wpE_reconcileModel_took hnow hlive) (fun out τ' h => ?_) (fun f τ' h => ?_)
  · obtain ⟨params, τ₁, v, τ₂, -, hq, htook, hcheck⟩ := h
    rw [← hq.objects] at hb
    exact ⟨v, (htook.bound hE (hq.now hnow) hlive hconn hb).checked hcheck⟩
  · rcases h with ⟨f, hf⟩ | ⟨body, τ₁, hq, hhind⟩
    · obtain ⟨p, hp⟩ := hE.settings halike
      rw [hp] at hf
      cases hf
    · rw [← hq.objects] at hb
      exact not_hindered hE hconn hb hhind

theorem bound_of_healthy (home : String) (req : NamespacedName) {σ : Reconciler.model.RScene}
    (hE : Healthy lib E cr) (hnow : σ.Now cr) (hlive : cr.metadata.deleting = false)
    (hb : Backed σ.world) :
    (E.run kind lib home (reconcile lib req) σ).1.2 = none ∧
      ∃ v, Bound (kind.refKey cr) v v (E.run kind lib home (reconcile lib req) σ).2 := by
  obtain ⟨conn, hconn⟩ := hE.resolves
  refine Pass.wp_run.mp (Pass.wp_reconcile (Q := fun out σ' =>
    out.2 = none ∧ ∃ v, Bound (kind.refKey cr) v v σ') hnow hlive ?_ ?_ ?_)
  · intro out v σ' _ _ _ hfault _
    obtain ⟨τ, e, he⟩ := hfault
    rw [hE.calm] at he
    cases he
  · intro e v reason message observed r σ₁ σ' hres _ _ _ _ _ _
    rw [hconn] at hres
    cases hres
  · intro conn' v τ hres halike _ hnow' hrest
    have hkey : kind.refKey v = kind.refKey cr := by
      show (⟨v.spec.instanceRef.namespaceOr v.metadata.ns, v.spec.instanceRef.name⟩ :
        NamespacedName) = _
      rw [halike.spec, halike.ns]
      rfl
    have hback : ∀ x ∈ kind.bound v, (kind.refKey v, x) ∈ τ.world.objects := by
      intro x hx
      have hbound : kind.bound v = kind.bound cr := by
        show idOf v.status.litellmModelID = _
        rw [halike.status]
        rfl
      rw [hkey, hrest.objects]
      rw [hbound] at hx
      exact hb cr hnow x hx
    refine wpE_mono (wpE_reconcileModel_bound hE halike hnow'
      (halike.deleting.trans hlive) ((Pass.key_of_readOff hres).trans hkey.symm) hback)
      (fun out τ' h => ?_) (fun _ _ h => h.elim)
    obtain ⟨c, hc⟩ := h
    refine Pass.wp_report_ok hc.now hc.rv hc.live (fun r σ' hst _ => ⟨rfl, r, ?_⟩)
      (fun e σ' he _ _ => ?_)
    · obtain ⟨rv, gen, rfl⟩ := hst.stamped
      refine ⟨hst.now, rfl, hc.live, hc.refers.trans hkey, hc.named, ?_⟩
      rw [hst.objects, ← hkey]
      exact hc.there
    · rw [hE.calm] at he
      cases he

/-- **Recovery.** From every state that reconciles and edits leave behind, with failures as
`replacing` admits them, one healthy reconcile returns no error and ends with the id of an existing
model in the status. -/
theorem recovers (lib : Ext) (req : NamespacedName) {cr : LiteLLMModel} {c : Reconciler.model.RConf}
    (hlive : cr.metadata.deleting = false) (hunbound : cr.status.litellmModelID = "")
    (hreach : (Reconciler.model.machine lib req).Reaches replacing (Reconciler.model.initial cr) c)
    (hidle : c.running = none) (hv : c.world.store.current = some v) {E : Reconciler.model.RPass}
    (hE : Healthy lib E v) :
    let out := E.run kind lib req.ns (reconcile lib req) { world := c.world }
    out.1.2 = none ∧ ∃ v', out.2.Now v' ∧ v'.status.litellmModelID ≠ "" ∧
      (kind.refKey v', v'.status.litellmModelID) ∈ out.2.world.objects := by
  have hinv := backed_of_reaches hlive hunbound hreach hidle
  have hbacked : Backed c.world := by
    rcases hinv.backed with hb | ⟨s, hs, -⟩
    · exact hb
    · cases hs
  obtain ⟨-, hlive'⟩ := hinv.versions v (Store.mem_of_current hv)
  obtain ⟨hout, v', hbound⟩ :=
    bound_of_healthy req.ns req (σ := { world := c.world }) hE hv hlive' hbacked
  refine ⟨hout, v', hbound.now, hbound.named, ?_⟩
  rw [hbound.refers]
  exact hbound.there

/-! ## A switch of the auth mode that is cut off -/

instance : replacing.Decides where
  env _ e := by
    unfold replacing
    rcases e with _ | _ <;> infer_instance
  reply w op rep := by
    unfold replacing
    cases op with
    | statusUpdate obj => exact inferInstanceAs (Decidable (Backed w ∨ _))
    | api conn req => rcases req with _ | _ <;> infer_instance
    | _ => infer_instance
  crash w := inferInstanceAs (Decidable (Backed w))

/-- Reconciles and edits; anything may fail, and the operator may crash. -/
def edited : Guard ModelOp ModelWorld (Reply ModelApi) (Env LiteLLMModelSpec) where
  env _ e :=
    match e with
    | .edit _ => True
    | _ => False
  reply _ _ _ := True
  crash _ := True

instance : edited.Decides where
  env _ e := by
    unfold edited
    rcases e with _ | _ <;> infer_instance
  reply _ _ _ := inferInstanceAs (Decidable True)
  crash _ := inferInstanceAs (Decidable True)

end Model

namespace Sample

/-- The same model with a credential. -/
def credentialSpec : LiteLLMModelSpec :=
  { modelSpec "" with litellmParams := { model := "azure/gpt", credentialRef := some ⟨"azure"⟩ } }

def credential (key : NamespacedName) : LiteLLMCredential where
  metadata := { name := key.name, ns := key.ns }
  spec := { instanceRef := { name := "a" }, credentialName := "azure"
            apiKeySecretRef := { name := "azure", key := "master-key" } }
  status := {}

/-- There is a credential too. -/
def modelCluster : (r : Read) → Except Error r.Obj
  | .getCredential key => .ok (credential key)
  | r => cluster r

theorem fits_modelCluster : ∀ r o, modelCluster r = .ok o → r.fits o = true := by
  intro r o h
  cases r with
  | getCredential key => rfl
  | _ => exact fits_cluster _ o h

/-- LiteLLM updates and deletes the models that there are. -/
def healthyServed (σ : Reconciler.model.RScene) (conn : ResolvedInstance) :
    (req : ModelApi) → Except Error (Service.Result req)
  | .create _ => .ok (show ModelCreateResponse from ⟨"model-2"⟩)
  | .update body =>
    if (conn.inst.metadata.key, body.modelID) ∈ σ.world.objects then .ok ()
    else .error (errorf "model not found")
  | .delete id =>
    if (conn.inst.metadata.key, id) ∈ σ.world.objects then .ok ()
    else .error (errorf "model not found")
  | .check => .error (errorf "no answer")

def healthyPass : Reconciler.model.RPass where
  cluster := modelCluster
  fits := fits_modelCluster
  fault _ := none
  serve := healthyServed
  random _ := .ok []

theorem exists_ok_iff {p : Prop} [Decidable p] {e : Error} :
    (∃ a, (if p then .ok () else .error e : Except Error Unit) = .ok a) ↔ p := by
  by_cases h : p <;> simp [h]

theorem healthy_healthyPass {v : LiteLLMModel} (hns : v.metadata.ns = "apps")
    (hspec : v.spec = credentialSpec) : Model.Healthy lib healthyPass v where
  calm _ := rfl
  resolves := by
    unfold Pass.resolved
    rw [hns, hspec]
    exact ⟨_, rfl⟩
  params := by
    rw [hns, hspec]
    rfl
  create τ conn body := ⟨_, rfl, by show "model-2" ≠ ""; decide⟩
  update τ conn body := exists_ok_iff
  delete τ conn id := exists_ok_iff

def modelFound (r : Read) : Option r.Obj := (modelCluster r).toOption

/-- LiteLLM carries out the request; a new model gets the given id. -/
def modelAnswer (id : String) : (req : ModelApi) → Option (Service.Result req)
  | .create _ => some (show ModelCreateResponse from ⟨id⟩)
  | .update _ => some ()
  | .delete _ => some ()
  | .check => none

/-- The model is created, and its spec then switched to the credential. The next reconcile deletes
the model and fails to create it; what comes of its two status writes is left open. -/
def switched : List Reconciler.model.RAction :=
  [.start, .step (.cached 0), .step .done, .step (.found modelFound), .step (.found modelFound),
    .step (.served (modelAnswer "model-1") none), .step .done, .step .done, .step .done,
    .env (.edit credentialSpec), .start, .step (.cached 0), .step (.found modelFound),
    .step (.found modelFound), .step (.found modelFound), .step (.found modelFound),
    .step (.served (modelAnswer "model-1") none), .step (.fail (errorf "no answer"))]

end Sample

namespace Model

/-- The id was cleared, so that the next reconcile creates the model. -/
theorem recovers_after_clear :
    ∃ c, (Reconciler.model.machine Sample.lib ⟨"apps", "gpt"⟩).Reaches replacing
        (Reconciler.model.initial Sample.model) c ∧
      c.world.store.current.any (fun v => v.status.litellmModelID == "") = true ∧
      (let out := Sample.healthyPass.run kind Sample.lib "apps"
        (reconcile Sample.lib ⟨"apps", "gpt"⟩) { world := c.world }
      out.1.2 = none ∧ ∃ v', out.2.Now v' ∧ v'.status.litellmModelID ≠ "" ∧
        (kind.refKey v', v'.status.litellmModelID) ∈ out.2.world.objects) := by
  have hrun : ((Reconciler.model.machine Sample.lib ⟨"apps", "gpt"⟩).run replacing
      (Reconciler.model.initial Sample.model)
      (Sample.switched ++ [.step .done, .step .done])).any (fun c =>
        c.running.isNone && c.world.store.current.any (fun v =>
          v.status.litellmModelID == "" && (v.metadata.ns == "apps" &&
            decide (v.spec = Sample.credentialSpec)))) = true := by
    decide +kernel
  obtain ⟨c, hc, hcond⟩ := (Option.any_eq_true _ _).mp hrun
  obtain ⟨hnone, hcur⟩ := Bool.and_eq_true_iff.mp hcond
  obtain ⟨v, hv, hdata⟩ := (Option.any_eq_true _ _).mp hcur
  obtain ⟨hid, hdata⟩ := Bool.and_eq_true_iff.mp hdata
  obtain ⟨hns, hspec⟩ := Bool.and_eq_true_iff.mp hdata
  have hr := Machine.reaches_of_run _ _ (.refl _) hc
  have hlive : Sample.model.metadata.deleting = false := rfl
  have hunbound : Sample.model.status.litellmModelID = "" := rfl
  refine ⟨c, hr, ?_, recovers Sample.lib ⟨"apps", "gpt"⟩ hlive hunbound hr
    (Option.isNone_iff_eq_none.mp hnone) hv
    (Sample.healthy_healthyPass (eq_of_beq hns) (of_decide_eq_true hspec))⟩
  rw [hv]
  exact hid

/-- **A model can get stuck.** A reconcile deletes the model, fails to create it anew, and both of
its status writes fail. The next one tries to delete the model that is gone. -/
theorem stuck_after_switch :
    ¬ ∀ (lib : Ext) (req : NamespacedName) (cr v : LiteLLMModel) (c : Reconciler.model.RConf)
      (E : Reconciler.model.RPass), cr.metadata.deleting = false →
      cr.status.litellmModelID = "" →
      (Reconciler.model.machine lib req).Reaches edited (Reconciler.model.initial cr) c →
      c.running = none → c.world.store.current = some v → Healthy lib E v →
      (let out := E.run kind lib req.ns (reconcile lib req) { world := c.world }
      out.1.2 = none ∧ ∃ v', out.2.Now v' ∧ v'.status.litellmModelID ≠ "" ∧
        (kind.refKey v', v'.status.litellmModelID) ∈ out.2.world.objects) := by
  intro hall
  have hrun : ((Reconciler.model.machine Sample.lib ⟨"apps", "gpt"⟩).run edited
      (Reconciler.model.initial Sample.model)
      (Sample.switched ++ [.step (.fail (errorf "timeout")), .step (.fail (errorf "timeout"))])).any
        (fun c => (Sample.healthyPass.run kind Sample.lib "apps"
            (reconcile Sample.lib ⟨"apps", "gpt"⟩) { world := c.world }).1.2.isSome &&
          (c.running.isNone && c.world.store.current.any (fun v => v.metadata.ns == "apps" &&
            decide (v.spec = Sample.credentialSpec)))) = true := by
    decide +kernel
  obtain ⟨c, hc, hcond⟩ := (Option.any_eq_true _ _).mp hrun
  obtain ⟨herr, hcond⟩ := Bool.and_eq_true_iff.mp hcond
  obtain ⟨hnone, hcur⟩ := Bool.and_eq_true_iff.mp hcond
  obtain ⟨v, hv, hdata⟩ := (Option.any_eq_true _ _).mp hcur
  obtain ⟨hns, hspec⟩ := Bool.and_eq_true_iff.mp hdata
  have hlive : Sample.model.metadata.deleting = false := rfl
  have hunbound : Sample.model.status.litellmModelID = "" := rfl
  obtain ⟨hout, -⟩ := hall Sample.lib ⟨"apps", "gpt"⟩ Sample.model v c Sample.healthyPass hlive
    hunbound (Machine.reaches_of_run _ _ (.refl _) hc) (Option.isNone_iff_eq_none.mp hnone) hv
    (Sample.healthy_healthyPass (eq_of_beq hns) (of_decide_eq_true hspec))
  rw [hout] at herr
  cases herr

end Model

end LitellmOperator
