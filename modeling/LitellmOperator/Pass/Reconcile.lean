import LitellmOperator.Lifecycle.World
import LitellmOperator.Session.Reconcile

/-! # One reconcile after the other

A run in which each reconcile starts from the current resource and ends before anything else
happens. A `Pass` says what such a reconcile meets: the other objects as its reads find them, which
of its writes fail, and how LiteLLM answers. A call that fails has no effect, so a reconcile that
is cut off is one whose remaining calls all fail.

The `trace` of a scene is history that no program reads: every call made so far with its answer.
-/

set_option autoImplicit false

namespace LitellmOperator

open Effect Protocol Go Kube Ctl

/-- A call of a reconcile, with its answer. -/
abbrev Made (Spec Status Api : Type) [Service Api] : Type := Prog.Event (Op Spec Status Api) Op.Resp

/-- Where a run stands: the world, and the calls made so far, newest first. -/
structure Scene (Spec Status Api : Type) [Service Api] where
  world : World Spec Status
  trace : List (Made Spec Status Api) := []

/-- A request that LiteLLM has carried out. -/
structure Served (Api : Type) [Service Api] where
  key : NamespacedName
  req : Api
  result : Service.Result req

section

variable {Spec Status Api : Type} [Service Api]

def Served.of : Made Spec Status Api → Option (Served Api)
  | ⟨.api conn req, .ok a⟩ => some ⟨conn.inst.metadata.key, req, a⟩
  | _ => none

/-- The last of some requests has not been followed by a write of the resource's metadata. -/
def pending (pushes : Served Api → Bool) : List (Made Spec Status Api) → Bool
  | [] => false
  | ⟨.update _, .ok _⟩ :: _ => false
  | e :: t => (Served.of e).any pushes || pending pushes t

namespace Scene

variable (σ : Scene Spec Status Api)

/-- The requests carried out so far, newest first. -/
def log : List (Served Api) := σ.trace.filterMap Served.of

/-- The status write that was the last call made, if it went through: what is stored since. -/
def reported : Option (Resource Spec Status) :=
  match σ.trace with
  | ⟨.statusUpdate _, .ok r⟩ :: _ => some r
  | _ => none

/-- The scene after a call, with the world it has led to. -/
def after (op : Op Spec Status Api) (r : op.Resp) (w : World Spec Status) : Scene Spec Status Api :=
  ⟨w, ⟨op, r⟩ :: σ.trace⟩

/-- The object as it is now is `v`. -/
def Now (v : Resource Spec Status) : Prop :=
  σ.world.store.current = some v

/-- Between the two scenes LiteLLM has carried out nothing. -/
structure Rest (σ σ' : Scene Spec Status Api) : Prop where
  objects : σ'.world.objects = σ.world.objects
  log : σ'.log = σ.log

/-- Nor was the resource written. -/
structure Quiet (σ σ' : Scene Spec Status Api) : Prop where
  store : σ'.world.store = σ.world.store
  objects : σ'.world.objects = σ.world.objects
  log : σ'.log = σ.log
  pending : ∀ pushes, pending pushes σ'.trace = pending pushes σ.trace

theorem Rest.refl : Rest σ σ := ⟨rfl, rfl⟩

theorem Rest.trans {σ σ' σ'' : Scene Spec Status Api} (h : Rest σ σ') (h' : Rest σ' σ'') :
    Rest σ σ'' :=
  ⟨h'.objects.trans h.objects, h'.log.trans h.log⟩

variable {σ σ' : Scene Spec Status Api}

theorem Quiet.rest (h : Quiet σ σ') : Rest σ σ' := ⟨h.objects, h.log⟩

theorem Quiet.refl (σ : Scene Spec Status Api) : Quiet σ σ := ⟨rfl, rfl, rfl, fun _ => rfl⟩

theorem Quiet.trans {σ σ' σ'' : Scene Spec Status Api} (h : Quiet σ σ') (h' : Quiet σ' σ'') :
    Quiet σ σ'' where
  store := h'.store.trans h.store
  objects := h'.objects.trans h.objects
  log := h'.log.trans h.log
  pending pushes := (h'.pending pushes).trans (h.pending pushes)

theorem Quiet.now {v : Resource Spec Status} (h : Quiet σ σ') (hv : σ.Now v) : σ'.Now v := by
  unfold Now
  rw [h.store]
  exact hv

/-- `σ'` is `σ` after `v` was stored, with the answer `r`. -/
structure Stored (σ : Scene Spec Status Api) (v r : Resource Spec Status)
    (σ' : Scene Spec Status Api) : Prop where
  now : σ'.Now r
  stamped : ∃ rv gen, r = v.stamp rv gen
  objects : σ'.world.objects = σ.world.objects
  log : σ'.log = σ.log

theorem Stored.rest {v r : Resource Spec Status} (h : Stored σ v r σ') :
    Rest σ σ' := ⟨h.objects, h.log⟩

end Scene

end

/-- What a reconcile meets. -/
structure Pass (Spec Status Api : Type) [Service Api] where
  cluster : (r : Read) → Except Error r.Obj
  /-- A read returns the instance asked for. -/
  fits : ∀ r o, cluster r = .ok o → r.fits o = true
  /-- The write made in a scene fails. -/
  fault : Scene Spec Status Api → Option Error
  serve : Scene Spec Status Api → ResolvedInstance → (req : Api) → Except Error (Service.Result req)
  random : Scene Spec Status Api → Except Error (List UInt8)

namespace Pass

variable {Spec Status Api : Type} [Service Api]

theorem noted_store (w : World Spec Status) (r : Read) (out : Except Error r.Obj) :
    (w.noted r out).store = w.store ∧ (w.noted r out).objects = w.objects := by
  cases r <;> cases out <;> exact ⟨rfl, rfl⟩

theorem request_store (K : Kind Spec Status Api) (w : World Spec Status) (key : NamespacedName)
    (req : Api) : (World.request K w key req).store = w.store ∧
      (World.request K w key req).objects = w.objects := by
  unfold World.request
  split
  · exact ⟨rfl, rfl⟩
  · split <;> exact ⟨rfl, rfl⟩

theorem serve_store (K : Kind Spec Status Api) (lib : Ext) (home : String) (w : World Spec Status)
    (conn : ResolvedInstance) (req : Api) (a : Service.Result req) :
    (World.serve K lib home w conn req a).store = w.store := by
  unfold World.serve
  dsimp only
  split
  · split <;> rfl
  · split <;> rfl

variable [DecidableEq Spec] [DecidableEq Status]
variable (K : Kind Spec Status Api) (lib : Ext) (home : String) (E : Pass Spec Status Api)

def Calm (E : Pass Spec Status Api) : Prop := ∀ σ, E.fault σ = none

variable (σ : Scene Spec Status Api)

/-- The answer to a write, made or not. -/
def commit (out : Except StatusError (Resource Spec Status × Store Spec Status)) :
    Except Error (Resource Spec Status) × World Spec Status :=
  match E.fault σ with
  | some e => (.error e, σ.world)
  | none => σ.world.commit out none

/-- How a call is answered, and the world after it. -/
def reply : (op : Op Spec Status Api) → op.Resp × World Spec Status
  | .get _ =>
    match σ.world.store.current with
    | some v => (.ok v, σ.world)
    | none => (.error (.leaf (.kube Store.notFound)), σ.world)
  | .update obj => E.commit σ (σ.world.store.update obj)
  | .statusUpdate obj => E.commit σ (σ.world.store.statusUpdate obj)
  | .statusPatch base obj =>
    E.commit σ (σ.world.store.statusPatch (K.merge base.status obj.status))
  | .read r => (E.cluster r, σ.world.noted r (E.cluster r))
  | .createSecret secret =>
    match E.fault σ with
    | some e => (.error e, σ.world)
    | none => (.ok secret, σ.world)
  | .updateSecret secret =>
    match E.fault σ with
    | some e => (.error e, σ.world)
    | none => (.ok secret, σ.world)
  | .random _ => (E.random σ, σ.world)
  | .api conn req =>
    let asked := World.request K σ.world conn.inst.metadata.key req
    match E.serve σ conn req with
    | .ok a => (.ok a, World.serve K lib home asked conn req a)
    | .error e => (.error e, asked)

def answer (op : Op Spec Status Api) : op.Resp × Scene Spec Status Api :=
  let out := E.reply K lib home σ op
  (out.1, σ.after op out.1 out.2)

abbrev rules : Protocol (Op Spec Status Api) Op.Resp (Scene Spec Status Api) :=
  Protocol.ofHandler (E.answer K lib home)

/-- The run of a program. -/
def run {α : Type} (p : Ctl Spec Status Api α) (σ : Scene Spec Status Api) :
    α × Scene Spec Status Api :=
  p.eval (E.answer K lib home) σ

variable {K lib home E}

theorem wp_run {α : Type} {p : Ctl Spec Status Api α} {Q : α → Scene Spec Status Api → Prop}
    {σ : Scene Spec Status Api} :
    (E.rules K lib home).wp p Q σ ↔ Q (E.run K lib home p σ).1 (E.run K lib home p σ).2 :=
  Protocol.wp_ofHandler

theorem wp_reply {op : Op Spec Status Api} {Q : op.Resp → Scene Spec Status Api → Prop}
    {σ : Scene Spec Status Api} {r : op.Resp} {w : World Spec Status}
    (h : E.reply K lib home σ op = (r, w)) (hQ : Q r (σ.after op r w)) :
    (E.rules K lib home).wp (Prog.perform op) Q σ := by
  refine ⟨trivial, ?_⟩
  rintro _ rfl
  show Q (E.reply K lib home σ op).1
    (σ.after op (E.reply K lib home σ op).1 (E.reply K lib home σ op).2)
  rw [h]
  exact hQ

/-! ## Rules for the calls -/

open Scene

variable {σ : Scene Spec Status Api} {c : Resource Spec Status}

variable {Q : Except Error (Resource Spec Status) → Scene Spec Status Api → Prop}

theorem wp_get {key : NamespacedName} (hc : σ.Now c) (hQ : ∀ σ', Quiet σ σ' → Q (.ok c) σ') :
    (E.rules K lib home).wp (Ctl.get key) Q σ := by
  have hreply : E.reply K lib home σ (.get key) = (.ok c, σ.world) := by
    unfold reply
    simp only [show σ.world.store.current = some c from hc]
  exact wp_reply hreply (hQ _ ⟨rfl, rfl, rfl, fun _ => rfl⟩)

omit [DecidableEq Spec] [DecidableEq Status] in
theorem commit_fault {out : Except StatusError (Resource Spec Status × Store Spec Status)}
    {e : Error} (h : E.fault σ = some e) : E.commit σ out = (.error e, σ.world) := by
  simp only [commit, h]

theorem commit_put {v : Resource Spec Status} (h : E.fault σ = none) :
    E.commit σ (.ok (σ.world.store.put c v)) = (.ok (σ.world.store.put c v).1,
      { σ.world with store := (σ.world.store.put c v).2 }) := by
  simp only [commit, h]
  rfl

theorem wp_update {obj : Resource Spec Status} (hc : σ.Now c) (hrv : obj.rv = c.rv)
    (hlive : c.metadata.deleting = false)
    (hQ : ∀ r σ', Stored σ (c.updated obj) r σ' → Q (.ok r) σ')
    (hfault : ∀ e σ', E.fault σ = some e → Quiet σ σ' → σ'.reported = none → Q (.error e) σ') :
    (E.rules K lib home).wp (Ctl.update obj) Q σ := by
  cases hf : E.fault σ with
  | some e =>
    refine wp_reply (commit_fault hf) (hfault e _ hf ?_ rfl)
    exact ⟨rfl, rfl, rfl, fun _ => rfl⟩
  | none =>
    have hreply : E.reply K lib home σ (.update obj) =
        E.commit σ (.ok (σ.world.store.put c (c.updated obj))) :=
      congrArg (E.commit σ) (Store.update_of_current hc hrv)
    refine wp_reply (hreply.trans (commit_put hf)) (hQ _ _ ?_)
    exact ⟨Store.current_put hc hlive, (Store.written_put hc _).stored, rfl, rfl⟩

theorem wp_statusUpdate {obj : Resource Spec Status} (hc : σ.Now c) (hrv : obj.rv = c.rv)
    (hlive : c.metadata.deleting = false)
    (hQ : ∀ r σ', Stored σ (c.withStatus obj.status) r σ' →
      (∀ pushes, pending pushes σ'.trace = pending pushes σ.trace) → σ'.reported = some r →
      Q (.ok r) σ')
    (hfault : ∀ e σ', E.fault σ = some e → Quiet σ σ' → σ'.reported = none → Q (.error e) σ') :
    (E.rules K lib home).wp (Ctl.statusUpdate obj) Q σ := by
  cases hf : E.fault σ with
  | some e =>
    refine wp_reply (commit_fault hf) (hfault e _ hf ?_ rfl)
    exact ⟨rfl, rfl, rfl, fun _ => rfl⟩
  | none =>
    have hreply : E.reply K lib home σ (.statusUpdate obj) =
        E.commit σ (.ok (σ.world.store.put c (c.withStatus obj.status))) :=
      congrArg (E.commit σ) (Store.statusUpdate_of_current hc hrv)
    refine wp_reply (hreply.trans (commit_put hf)) (hQ _ _ ?_ (fun _ => rfl) rfl)
    exact ⟨Store.current_put hc hlive, (Store.written_put hc _).stored, rfl, rfl⟩

/-- A patch carries no resource version. -/
theorem wp_statusPatch {base obj : Resource Spec Status} (hc : σ.Now c)
    (hlive : c.metadata.deleting = false)
    (hQ : ∀ r σ', Stored σ (c.withStatus (K.merge base.status obj.status c.status)) r σ' →
      Q (.ok r) σ')
    (hfault : ∀ e σ', E.fault σ = some e → Quiet σ σ' → Q (.error e) σ') :
    (E.rules K lib home).wp (Ctl.statusPatch base obj) Q σ := by
  cases hf : E.fault σ with
  | some e =>
    refine wp_reply (commit_fault hf) (hfault e _ hf ?_)
    exact ⟨rfl, rfl, rfl, fun _ => rfl⟩
  | none =>
    have hreply : E.reply K lib home σ (.statusPatch base obj) =
        E.commit σ (.ok (σ.world.store.put c
          (c.withStatus (K.merge base.status obj.status c.status)))) :=
      congrArg (E.commit σ) (Store.statusPatch_of_current hc _)
    refine wp_reply (hreply.trans (commit_put hf)) (hQ _ _ ?_)
    exact ⟨Store.current_put hc hlive, (Store.written_put hc _).stored, rfl, rfl⟩

theorem wp_reads {α : Type} {p : Ctl Spec Status Api α} (hp : p.Uses Op.IsRead)
    {Q : α → Scene Spec Status Api → Prop}
    (hQ : ∀ a σ', readOff E.cluster p = some a → Quiet σ σ' → Q a σ') :
    (E.rules K lib home).wp p Q σ := by
  induction p generalizing σ with
  | ret a => exact hQ a σ rfl (Quiet.refl σ)
  | call op k ih =>
    cases op with
    | read r =>
      refine ⟨trivial, ?_⟩
      rintro _ rfl
      obtain ⟨hstore, hobjects⟩ := noted_store σ.world r (E.cluster r)
      refine ih _ (hp.2 _) (fun a σ' ha hquiet => hQ a σ' ha (Quiet.trans ?_ hquiet))
      exact ⟨hstore, hobjects, rfl, fun _ => rfl⟩
    | _ => exact hp.1.elim

theorem wp_read {r : Read} {Q : Except Error r.Obj → Scene Spec Status Api → Prop}
    (hQ : ∀ σ', Quiet σ σ' → Q (E.cluster r) σ') : (E.rules K lib home).wp (Ctl.read r) Q σ := by
  obtain ⟨hstore, hobjects⟩ := noted_store σ.world r (E.cluster r)
  exact wp_reply (E := E) rfl (hQ _ ⟨hstore, hobjects, rfl, fun _ => rfl⟩)

theorem wp_random {n : Nat} {Q : Except Error (List UInt8) → Scene Spec Status Api → Prop}
    (hQ : ∀ r σ', Quiet σ σ' → Q r σ') : (E.rules K lib home).wp (Ctl.random n) Q σ :=
  wp_reply (E := E) rfl (hQ _ _ ⟨rfl, rfl, rfl, fun _ => rfl⟩)

/-- `σ'` is `σ` after LiteLLM has carried out `req`. -/
structure Carried (K : Kind Spec Status Api) (lib : Ext) (home : String)
    (σ : Scene Spec Status Api) (conn : ResolvedInstance) (req : Api) (a : Service.Result req)
    (σ' : Scene Spec Status Api) : Prop where
  store : σ'.world.store = σ.world.store
  objects : σ'.world.objects =
    (World.serve K lib home (World.request K σ.world conn.inst.metadata.key req) conn req a).objects
  log : σ'.log = ⟨conn.inst.metadata.key, req, a⟩ :: σ.log
  pending : ∀ pushes, pending pushes σ'.trace =
    (pushes ⟨conn.inst.metadata.key, req, a⟩ || pending pushes σ.trace)

theorem wp_api {conn : ResolvedInstance} {req : Api}
    {Q : Except Error (Service.Result req) → Scene Spec Status Api → Prop}
    (hok : ∀ a σ', E.serve σ conn req = .ok a → Carried K lib home σ conn req a σ' → Q (.ok a) σ')
    (herr : ∀ e σ', E.serve σ conn req = .error e → Quiet σ σ' → Q (.error e) σ') :
    (E.rules K lib home).wp (Ctl.api conn req) Q σ := by
  obtain ⟨hstore, hobjects⟩ := request_store K σ.world conn.inst.metadata.key req
  cases hs : E.serve σ conn req with
  | ok a =>
    have hreply : E.reply K lib home σ (.api conn req) = (.ok a, World.serve K lib home
        (World.request K σ.world conn.inst.metadata.key req) conn req a) := by
      simp only [reply, hs]
    refine wp_reply hreply (hok a _ hs ⟨?_, rfl, rfl, fun _ => rfl⟩)
    exact (serve_store K lib home _ conn req a).trans hstore
  | error e =>
    have hreply : E.reply K lib home σ (.api conn req) =
        (.error e, World.request K σ.world conn.inst.metadata.key req) := by
      simp only [reply, hs]
    exact wp_reply hreply (herr e _ hs ⟨hstore, hobjects, rfl, fun _ => rfl⟩)

end Pass

open Scene

/-! ## The common part of a pass

`Pass.wp_reconcile` leaves one obligation per controller: what its body does, from the current
resource. Around it, the finalizer is there or is added, the instance resolves or does not as can
be read off the cluster, and the report is stored unless its write fails.
-/

namespace Pass

variable {Spec Status Api : Type} [Service Api]
variable {K : Kind Spec Status Api} {lib : Ext} {home : String} {E : Pass Spec Status Api}
variable {σ : Scene Spec Status Api} {cr c : Resource Spec Status}

/-- `v` is `cr` up to finalizers and what the API server adds. -/
def Alike (cr v : Resource Spec Status) : Prop :=
  ∃ finalizers rv gen, v = { cr with metadata := { cr.metadata with
    finalizers := finalizers, resourceVersion := rv, generation := gen } }

theorem Alike.refl (cr : Resource Spec Status) : Alike cr cr := ⟨_, _, _, rfl⟩

variable {v : Resource Spec Status}

theorem Alike.spec (h : Alike cr v) : v.spec = cr.spec := by
  obtain ⟨_, _, _, rfl⟩ := h
  rfl

theorem Alike.status (h : Alike cr v) : v.status = cr.status := by
  obtain ⟨_, _, _, rfl⟩ := h
  rfl

theorem Alike.ns (h : Alike cr v) : v.metadata.ns = cr.metadata.ns := by
  obtain ⟨_, _, _, rfl⟩ := h
  rfl

theorem Alike.deleting (h : Alike cr v) : v.metadata.deleting = cr.metadata.deleting := by
  obtain ⟨_, _, _, rfl⟩ := h
  rfl

theorem Alike.annotations (h : Alike cr v) : v.metadata.annotations = cr.metadata.annotations := by
  obtain ⟨_, _, _, rfl⟩ := h
  rfl

theorem addFinalizer_eq (m : ObjectMeta) (f : String) :
    ∃ finalizers, addFinalizer m f = { m with finalizers := finalizers } ∧
      finalizers.contains f = true := by
  unfold addFinalizer
  split
  · rename_i h
    exact ⟨m.finalizers, rfl, h⟩
  · exact ⟨_, rfl, by simp⟩

variable [DecidableEq Spec] [DecidableEq Status]

/-- The finalizer is there, or it is added, or the write fails. -/
theorem wp_ensureFinalizer (hnow : σ.Now cr) (hlive : cr.metadata.deleting = false)
    {Q : Except Error (Resource Spec Status) → Scene Spec Status Api → Prop}
    (hQ : ∀ v σ', Alike cr v → containsFinalizer v.metadata finalizerName = true → σ'.Now v →
      Rest σ σ' → Q (.ok v) σ')
    (hfault : ∀ e σ', E.fault σ = some e → Quiet σ σ' → σ'.reported = none → Q (.error e) σ') :
    (E.rules K lib home).wp (ensureFinalizer cr) Q σ := by
  unfold ensureFinalizer
  split
  · rename_i hfin
    exact hQ cr σ (Alike.refl cr) hfin hnow (Rest.refl σ)
  · obtain ⟨finalizers, hadd, hfin⟩ := addFinalizer_eq cr.metadata finalizerName
    rw [hadd]
    refine wp_update hnow ?_ hlive (fun r σ' hst => ?_) hfault
    · rfl
    · obtain ⟨rv, gen, rfl⟩ := hst.stamped
      exact hQ _ σ' ⟨finalizers, rv, gen, rfl⟩ hfin hst.now hst.rest

variable {k : Controller Spec Status Api}

/-! ## The report -/

variable (k) in
/-- The stored resource after a report made from the copy `v` over the current object `c`. -/
def reportedAs (c v : Resource Spec Status) (status : ConditionStatus) (reason message : String)
    (observed : Bool) : Resource Spec Status :=
  c.withStatus (k.setSynced v status reason message observed).status

variable {Q : Result × Option Error → Scene Spec Status Api → Prop}

theorem wp_report_ok {result : Result} (hnow : σ.Now c) (hrv : v.rv = c.rv)
    (hlive : c.metadata.deleting = false)
    (hQ : ∀ r σ', Stored σ (reportedAs k c v .true "Synced" k.syncedMessage k.observes) r σ' →
      σ'.reported = some r → Q (result, none) σ')
    (hfault : ∀ e σ', E.fault σ = some e → Quiet σ σ' → σ'.reported = none → Q (result, none) σ') :
    (E.rules K lib home).wp (k.report (.ok (v, result))) Q σ := by
  show (E.rules K lib home).wp (statusUpdate _ >>= _) Q σ
  rw [wp_bind]
  refine wp_statusUpdate hnow ?_ hlive (fun r σ' hst _ hrep => hQ r σ' hst hrep)
    (fun e σ' he hq hrep => hfault e σ' he hq hrep)
  exact hrv

theorem wp_report_error {f : Failure Spec Status} (hnow : σ.Now c) (hrv : f.cr.rv = c.rv)
    (hlive : c.metadata.deleting = false)
    (hQ : ∀ out reason message observed r σ',
      Stored σ (reportedAs k c f.cr .false reason message observed) r σ' → σ'.reported = some r →
      Q out σ')
    (hfault : ∀ out e σ', E.fault σ = some e → Quiet σ σ' → σ'.reported = none → Q out σ') :
    (E.rules K lib home).wp (k.report (.error f)) Q σ := by
  unfold Controller.report
  dsimp only
  split
  · rw [wp_bind]
    refine wp_statusUpdate hnow ?_ hlive (fun r σ' hst _ hrep => hQ _ _ _ _ r σ' hst hrep)
      (fun e σ' he hq hrep => hfault _ e σ' he hq hrep)
    exact hrv
  · rw [wp_bind]
    refine wp_statusUpdate hnow ?_ hlive (fun r σ' hst _ hrep => hQ _ _ _ _ r σ' hst hrep)
      (fun e σ' he hq hrep => hfault _ e σ' he hq hrep)
    exact hrv

/-! ## The whole reconcile -/

variable (k lib E) in
/-- What the resource's reference to an instance resolves to. -/
def resolved (cr : Resource Spec Status) : Option (Except Error ResolvedInstance) :=
  readOff E.cluster (resolveInstance lib (client : Reader (Ctl Spec Status Api)) cr.metadata.ns
    k.kind (k.instanceRef cr.spec)).run

omit [DecidableEq Spec] [DecidableEq Status] in
theorem key_of_readOff {ns kind : String} {ref : InstanceRef} {check : Bool}
    {conn : ResolvedInstance}
    (h : readOff E.cluster (resolveInstanceRef lib (client : Reader (Ctl Spec Status Api)) ns kind
      ref check).run = some (.ok conn)) :
    conn.inst.metadata.key = ⟨ref.namespaceOr ns, ref.name⟩ := by
  unfold resolveInstanceRef at h
  obtain ⟨inst, hinst, h⟩ := readOff_run_bind_ok.mp h
  -- the check, readiness, the master key and the certificate leave the instance alone
  obtain ⟨_, -, h⟩ := readOff_run_bind_ok.mp h
  obtain ⟨_, -, h⟩ := readOff_run_bind_ok.mp h
  obtain ⟨_, -, h⟩ := readOff_run_bind_ok.mp h
  obtain ⟨_, -, h⟩ := readOff_run_bind_ok.mp h
  cases h
  have hread := Option.some.inj (readOff_orFail_ok.mp hinst)
  have hfit := E.fits _ _ hread
  simpa [Read.fits] using hfit

/-- A reconcile of a live resource from its current copy is its body between the finalizer and the
report, if the instance resolves, and a report otherwise. -/
theorem wp_reconcile {req : NamespacedName} (hnow : σ.Now cr) (hlive : cr.metadata.deleting = false)
    (hstop : ∀ out v σ', Alike cr v → σ'.Now v → Rest σ σ' → (∃ τ e, E.fault τ = some e) →
      σ'.reported = none → Q out σ')
    (hunresolved : ∀ e v reason message observed r σ₁ σ', resolved lib E k cr = some (.error e) →
      Alike cr v → containsFinalizer v.metadata finalizerName = true → σ₁.Now v → Rest σ σ₁ →
      Stored σ₁ (reportedAs k v v .false reason message observed) r σ' → σ'.reported = some r →
      Q (after 30, none) σ')
    (hbody : ∀ conn v σ', resolved lib E k cr = some (.ok conn) → Alike cr v →
      containsFinalizer v.metadata finalizerName = true → σ'.Now v → Rest σ σ' →
      (E.rules K lib home).wpE (k.body v conn) (fun out σ₂ => (E.rules K lib home).wp (k.report
      (.ok out)) Q σ₂) (fun f σ₂ => (E.rules K lib home).wp (k.report (.error f)) Q σ₂) σ') :
    (E.rules K lib home).wp (k.reconcile lib req) Q σ := by
  unfold Controller.reconcile
  rw [wp_bind]
  refine wp_get hnow (fun σ₀ hq₀ => ?_)
  dsimp only
  rw [if_neg (by simp [hlive]), wp_bind]
  refine wp_ensureFinalizer (hq₀.now hnow) hlive (fun v σ₁ hv hfin hnow₁ hrest₁ => ?_)
    (fun e σ₁ he hq₁ hrep => ?_)
  · have hlive₁ : v.metadata.deleting = false := hv.deleting.trans hlive
    have hrest := hq₀.rest.trans hrest₁
    unfold Controller.reconcileLive
    rw [wp_bind]
    refine wp_reads (isRead_resolveInstanceRef lib _ _ _ _) (fun out σ₂ hout hq₂ => ?_)
    rw [hv.ns, hv.spec] at hout
    have hnow₂ := hq₂.now hnow₁
    have hrest₂ := hrest.trans hq₂.rest
    cases out with
    | error e =>
      rw [wp_bind]
      refine wp_statusUpdate hnow₂ ?_ hlive₁ (fun r σ' hst _ hrep => ?_)
        (fun e' σ' he' hq' hrep => ?_)
      · rfl
      · exact hunresolved e v _ _ _ r σ₂ σ' hout hv hfin hnow₂ hrest₂ hst hrep
      · exact hstop _ v σ' hv (hq'.now hnow₂) (hrest₂.trans hq'.rest) ⟨_, e', he'⟩ hrep
    | ok conn =>
      rw [wp_bind]
      refine wp_mono (hbody conn v σ₂ hout hv hfin hnow₂ hrest₂) (fun out σ' h' => ?_)
      cases out with
      | ok out | error f => exact h'
  · exact hstop _ cr σ₁ (Alike.refl cr) (hq₁.now (hq₀.now hnow)) (hq₀.rest.trans hq₁.rest)
      ⟨_, e, he⟩ hrep

end Pass

/-! ## What a reconcile does besides

Much of a reconcile leaves both the resource and its object in LiteLLM alone: it reads, draws
random bytes, handles Secrets, and sends requests about other things, such as the members of a
team. `Beside N` relates the scenes before and after such a stretch, `N` being the requests that
count as such.
-/

variable {conn : ResolvedInstance}

section

variable {Spec Status Api : Type} [Service Api]

/-- A call that does not write the resource, and sends nothing but `N`. -/
def Op.IsBeside (N : Api → Prop) : Op Spec Status Api → Prop
  | .read _ => True
  | .random _ => True
  | .createSecret _ => True
  | .updateSecret _ => True
  | .api _ req => N req
  | _ => False

/-- Between the two scenes the resource was not written, and of requests only `N` carried out. -/
structure Scene.Beside (N : Api → Prop) (τ τ' : Scene Spec Status Api) : Prop where
  store : τ'.world.store = τ.world.store
  log : ∃ l, τ'.log = l ++ τ.log ∧ ∀ s ∈ l, N s.req

/-- The requests carried out so far, newest first. -/
def Scene.requests (τ : Scene Spec Status Api) : List Api := τ.log.map (·.req)

namespace Scene.Beside

variable {N : Api → Prop} {τ τ' τ'' : Scene Spec Status Api}

theorem refl (τ : Scene Spec Status Api) : Beside N τ τ :=
  ⟨rfl, [], rfl, fun _ hs => absurd hs List.not_mem_nil⟩

theorem trans (h : Beside N τ τ') (h' : Beside N τ' τ'') : Beside N τ τ'' := by
  obtain ⟨l, hl, hN⟩ := h.log
  obtain ⟨l', hl', hN'⟩ := h'.log
  refine ⟨h'.store.trans h.store, l' ++ l, ?_, fun s hs => ?_⟩
  · rw [hl', hl, List.append_assoc]
  · rcases List.mem_append.mp hs with hs | hs
    · exact hN' s hs
    · exact hN s hs

theorem mono {N' : Api → Prop} (h : Beside N τ τ') (hN : ∀ req, N req → N' req) :
    Beside N' τ τ' := by
  obtain ⟨l, hl, hall⟩ := h.log
  exact ⟨h.store, l, hl, fun s hs => hN s.req (hall s hs)⟩

theorem of_quiet (h : Quiet τ τ') : Beside N τ τ' :=
  ⟨h.store, [], h.log, fun _ hs => absurd hs List.not_mem_nil⟩

theorem now {v : Resource Spec Status} (h : Beside N τ τ') (hv : τ.Now v) : τ'.Now v := by
  unfold Scene.Now
  rw [h.store]
  exact hv

end Scene.Beside

namespace Pass

variable [DecidableEq Spec] [DecidableEq Status]
variable {K : Kind Spec Status Api} {lib : Ext} {home : String} {E : Pass Spec Status Api}
variable {N : Api → Prop} {τ : Scene Spec Status Api}

theorem wp_besideApi {req : Api} (hreq : N req)
    {Q : Except Error (Service.Result req) → Scene Spec Status Api → Prop}
    (hQ : ∀ r τ', Beside N τ τ' → Q r τ') : (E.rules K lib home).wp (Ctl.api conn req) Q τ := by
  refine wp_api (fun a τ' _ hc => hQ _ τ' ⟨hc.store, [_], hc.log, fun s hs => ?_⟩)
    (fun e τ' _ hq => hQ _ τ' (.of_quiet hq))
  obtain rfl := List.mem_singleton.mp hs
  exact hreq

theorem wp_beside {α : Type} {p : Ctl Spec Status Api α} (hp : p.Uses (Op.IsBeside N))
    {Q : α → Scene Spec Status Api → Prop} (hQ : ∀ a τ', Beside N τ τ' → Q a τ') :
    (E.rules K lib home).wp p Q τ := by
  refine wp_mono (wp_of_uses hp (I := fun τ' => Beside N τ τ') (Beside.refl τ) ?_) hQ
  intro op τ₁ hop h₁
  refine ⟨trivial, ?_⟩
  rintro _ rfl
  refine h₁.trans ?_
  cases op with
  | read r => exact ⟨(noted_store τ₁.world r _).1, [], rfl, fun _ hs => absurd hs List.not_mem_nil⟩
  | random n => exact ⟨rfl, [], rfl, fun _ hs => absurd hs List.not_mem_nil⟩
  | createSecret secret =>
    show Beside N τ₁ (τ₁.after _ (E.reply K lib home τ₁ (.createSecret secret)).1
      (E.reply K lib home τ₁ (.createSecret secret)).2)
    unfold reply
    cases E.fault τ₁ <;> exact ⟨rfl, [], rfl, fun _ hs => absurd hs List.not_mem_nil⟩
  | updateSecret secret =>
    show Beside N τ₁ (τ₁.after _ (E.reply K lib home τ₁ (.updateSecret secret)).1
      (E.reply K lib home τ₁ (.updateSecret secret)).2)
    unfold reply
    cases E.fault τ₁ <;> exact ⟨rfl, [], rfl, fun _ hs => absurd hs List.not_mem_nil⟩
  | api conn req =>
    have hcall : (E.rules K lib home).wp (Ctl.api conn req) (fun _ τ' => Beside N τ₁ τ') τ₁ :=
      wp_besideApi (show N req from hop) (fun _ _ h => h)
    exact hcall.2 _ rfl
  | _ => exact hop.elim

/-- A loop that sends one request for each element that it does not skip, when all are served. -/
theorem wp_requests {A : Type} (xs : List A) (skip : A → Bool) (req : A → Api)
    (hserve : ∀ x τ, ∃ a, E.serve τ conn (req x) = .ok a) :
    (E.rules K lib home).wp (xs.forM (fun x =>
        if skip x then pure ⟨⟩
        else do
          let _ ← Ctl.api conn (req x)
          pure PUnit.unit))
      (fun _ τ' => τ'.world.store = τ.world.store ∧
        τ'.requests = ((xs.filter (fun x => !skip x)).map req).reverse ++ τ.requests) τ := by
  induction xs generalizing τ with
  | nil => exact ⟨rfl, rfl⟩
  | cons x xs ih =>
    show (E.rules K lib home).wp ((if _ then _ else _) >>= fun _ => xs.forM _) _ τ
    rw [wp_bind]
    by_cases hx : skip x = true
    · rw [if_pos hx, wp_pure, List.filter_cons_of_neg (by simp [hx])]
      exact ih
    · rw [if_neg hx, wp_bind, List.filter_cons_of_pos (by simp [hx]), List.map_cons,
        List.reverse_cons, List.append_assoc]
      refine wp_api (fun a τ₁ _ hc => ?_) (fun e τ₁ he _ => ?_)
      · rw [wp_pure]
        refine wp_mono ih (fun _ τ' h' => ⟨h'.1.trans hc.store, ?_⟩)
        rw [h'.2]
        unfold Scene.requests
        rw [hc.log]
        rfl
      · obtain ⟨a, ha⟩ := hserve x τ
        rw [ha] at he
        cases he

end Pass

end

/-! ## A stretch that leaves a part of the status alone

Before a reconcile comes to the part of a resource that a property is about, it does much else: it
adopts, creates or updates the object, and writes the resource. `Since` relates a scene on the way
to the one where the reconcile began: the spec and the part of the status in question are as they
were, in the stored resource and in the copy, and only requests of a harmless kind were carried out.
-/

variable {Spec Status Api P : Type} [Service Api]

/-- `v` is a live version of `cr` with its spec and this part of its status. -/
structure Keeps (part : Status → P) (cr v : Resource Spec Status) : Prop where
  live : v.metadata.deleting = false
  ns : v.metadata.ns = cr.metadata.ns
  spec : v.spec = cr.spec
  part : part v.status = part cr.status

/-- Since the scene `σ`, where `cr` was stored, LiteLLM has carried out no requests but `N`, and
what is stored in the scene `τ` keeps to `cr`, as does the copy `v` of it. -/
structure Since (part : Status → P) (N : Api → Prop) (cr : Resource Spec Status)
    (σ τ : Scene Spec Status Api) (v : Resource Spec Status) : Prop where
  stored : ∃ c, τ.Now c ∧ v.rv = c.rv ∧ Keeps part cr c
  copy : Keeps part cr v
  log : ∃ l, τ.log = l ++ σ.log ∧ ∀ s ∈ l, N s.req

namespace Since

variable {part : Status → P} {N : Api → Prop} {cr v : Resource Spec Status}
variable {σ τ τ' : Scene Spec Status Api}

theorem decoded (hnow : τ.Now v) (hv : Keeps part cr v)
    (hlog : ∃ l, τ.log = l ++ σ.log ∧ ∀ s ∈ l, N s.req) : Since part N cr σ τ v :=
  ⟨⟨v, hnow, rfl, hv⟩, hv, hlog⟩

theorem beside (h : Since part N cr σ τ v) (hb : Beside N τ τ') : Since part N cr σ τ' v := by
  obtain ⟨c, hnow, hc⟩ := h.stored
  obtain ⟨l, hl, hN⟩ := h.log
  obtain ⟨l', hl', hN'⟩ := hb.log
  refine ⟨⟨c, hb.now hnow, hc⟩, h.copy, l' ++ l, ?_, fun s hs => ?_⟩
  · rw [hl', hl, List.append_assoc]
  · rcases List.mem_append.mp hs with hs | hs
    · exact hN' s hs
    · exact hN s hs

theorem quiet (h : Since part N cr σ τ v) (hq : Quiet τ τ') : Since part N cr σ τ' v :=
  h.beside (.of_quiet hq)

theorem withStatus (h : Since part N cr σ τ v) {st : Status} (hst : part st = part v.status) :
    Since part N cr σ τ (v.withStatus st) :=
  ⟨h.stored, ⟨h.copy.live, h.copy.ns, h.copy.spec, hst.trans h.copy.part⟩, h.log⟩

theorem annotate (h : Since part N cr σ τ v) (key value : String) :
    Since part N cr σ τ (annotate v key value) :=
  ⟨h.stored, ⟨h.copy.live, h.copy.ns, h.copy.spec, h.copy.part⟩, h.log⟩

theorem rest (h : Since part N cr σ τ v) (hrest : Rest τ τ') :
    ∃ l, τ'.log = l ++ σ.log ∧ ∀ s ∈ l, N s.req := by
  rw [hrest.log]
  exact h.log

section

variable [DecidableEq Spec] [DecidableEq Status]
variable {K : Kind Spec Status Api} {lib : Ext} {home : String} {E : Pass Spec Status Api}

theorem wp_api {req : Api} (h : Since part N cr σ τ v) (hreq : N req)
    {Q : Except Error (Service.Result req) → Scene Spec Status Api → Prop}
    (hQ : ∀ r τ', Since part N cr σ τ' v → Q r τ') :
    (E.rules K lib home).wp (Ctl.api conn req) Q τ :=
  Pass.wp_besideApi hreq (fun r τ' hb => hQ r τ' (h.beside hb))

variable {Q : Except Error (Resource Spec Status) → Scene Spec Status Api → Prop}

theorem wp_statusUpdate (h : Since part N cr σ τ v)
    (hok : ∀ r τ', Since part N cr σ τ' r → τ'.Now r → r.status = v.status → Q (.ok r) τ')
    (hfault : ∀ e τ', Since part N cr σ τ' v → Q (.error e) τ') :
    (E.rules K lib home).wp (Ctl.statusUpdate v) Q τ := by
  obtain ⟨c, hnow, hrv, hc⟩ := h.stored
  refine Pass.wp_statusUpdate hnow hrv hc.live (fun r τ' hst _ _ => ?_)
    (fun e τ' _ hq _ => hfault e τ' (h.quiet hq))
  obtain ⟨rv, gen, rfl⟩ := hst.stamped
  exact hok _ τ' (decoded hst.now ⟨hc.live, hc.ns, hc.spec, h.copy.part⟩ (h.rest hst.rest))
    hst.now rfl

theorem wp_update (h : Since part N cr σ τ v)
    (hok : ∀ r τ', Since part N cr σ τ' r → τ'.Now r →
      (∀ c, τ.Now c → r.status = c.status) → Q (.ok r) τ')
    (hfault : ∀ e τ', Since part N cr σ τ' v → Q (.error e) τ') :
    (E.rules K lib home).wp (Ctl.update v) Q τ := by
  obtain ⟨c, hnow, hrv, hc⟩ := h.stored
  refine Pass.wp_update hnow hrv hc.live (fun r τ' hst => ?_)
    (fun e τ' _ hq _ => hfault e τ' (h.quiet hq))
  obtain ⟨rv, gen, rfl⟩ := hst.stamped
  refine hok _ τ' (decoded hst.now ⟨hc.live, hc.ns, h.copy.spec, hc.part⟩ (h.rest hst.rest))
    hst.now (fun c' hnow' => ?_)
  obtain rfl : c = c' := Option.some.inj (hnow.symm.trans hnow')
  rfl

theorem wpE_storeSyncHash {hash : String} (h : Since part N cr σ τ v) :
    (E.rules K lib home).wpE (storeSyncHash v hash)
      (fun r τ' => Since part N cr σ τ' r ∧ ∀ c, τ.Now c → r.status = c.status)
      (fun f τ' => Since part N cr σ τ' f.cr) τ := by
  unfold storeSyncHash
  rw [wpE_orFail]
  exact (h.annotate _ _).wp_update (fun _ _ h' _ hst => ⟨h', hst⟩) (fun _ _ h' => h')

theorem wpE_recordCreated {pre : String} {hash : Spec → String} (h : Since part N cr σ τ v) :
    (E.rules K lib home).wpE (recordCreated pre hash v)
      (fun r τ' => Since part N cr σ τ' r ∧ r.status = v.status)
      (fun f τ' => Since part N cr σ τ' f.cr) τ := by
  unfold recordCreated
  rw [wpE_bind, wpE_orFail]
  refine h.wp_statusUpdate (fun r τ₁ h₁ hnow hst => ?_) (fun _ _ h' => h')
  exact wpE_post h₁.wpE_storeSyncHash (fun _ _ h₂ => ⟨h₂.1, (h₂.2 r hnow).trans hst⟩)

theorem wpE_markAdopted (h : Since part N cr σ τ v) :
    (E.rules K lib home).wpE (markAdopted v) (fun r τ' => Since part N cr σ τ' r)
      (fun f τ' => Since part N cr σ τ' f.1) τ := by
  unfold markAdopted
  rw [wpE_orFail]
  exact (h.annotate _ _).wp_update (fun _ _ h' _ _ => h') (fun _ _ h' => h')

end

end Since

end LitellmOperator
