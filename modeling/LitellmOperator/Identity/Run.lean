import LitellmOperator.Sync.Rules

/-! # Whom the requests of a resource are about

The id of an object in LiteLLM is taken from several places: a create gets it from the answer or
the spec, an update from the spec, a password change and the cleanup from the status or the spec.
`Addressing` says for one kind which requests are addressed to an existing object. `Holds` relates
the requests carried out so far to the resource as it is stored: each was addressed to an object
that the resource has created or has adopted, and what it created and has not deleted is what it is
bound to.

`Held` is what a reconcile keeps while it holds a copy of the resource; the rules say which calls
keep it when no write fails.
-/

set_option autoImplicit false

namespace LitellmOperator

open Effect Protocol Go Kube Ctl Scene

/-- The requests sent so far with the instance they went to, carried out or not. -/
def Scene.sent {Spec Status Api : Type} [Service Api] (σ : Scene Spec Status Api) :
    List (NamespacedName × Api) :=
  σ.trace.filterMap (fun e => match e with
    | ⟨.api conn req, _⟩ => some (conn.inst.metadata.key, req)
    | _ => none)

/-- A kind some of whose requests are addressed to an existing object. -/
structure Addressing extends Pushing where
  /-- The object that an update, or a change of the password, is addressed to. -/
  addresses : R.Api → Option String

namespace Addressing

variable (A : Addressing)

/-- The object that a request has created. -/
def makes (s : Served A.R.Api) : Option Obj :=
  if A.R.kind.creates s.req then (A.R.kind.takes s.req s.result).map (fun x => (s.key, x)) else none

def created (log : List (Served A.R.Api)) : List Obj := log.filterMap A.makes

/-- Those of them that were not deleted since. -/
def standing : List (Served A.R.Api) → List Obj
  | [] => []
  | s :: log =>
    match A.makes s, A.R.kind.deletes s.req with
    | some o, _ => o :: standing log
    | none, some x => (standing log).filter (fun o => o ≠ (s.key, x))
    | none, none => standing log

/-- The resource carries the adopted mark and is bound to the object. -/
structure Adopted (v : A.R.CR) (o : Obj) : Prop where
  mark : A.R.kind.adopted v = true
  bound : A.R.kind.bound v = some o.2
  key : A.R.kind.refKey v = o.1

/-- What the requests carried out so far have to do with the stored resource. -/
structure Holds (log : List (Served A.R.Api)) (v : A.R.CR) : Prop where
  addressed : ∀ s ∈ log, ∀ x, A.addresses s.req = some x →
    (s.key, x) ∈ A.created log ∨ A.Adopted v (s.key, x)
  /-- What was created and not deleted is what the resource is bound to, and will delete. -/
  standing : ∀ o ∈ A.standing log, A.R.kind.bound v = some o.2 ∧ A.R.kind.refKey v = o.1 ∧
    A.R.kind.adopted v = false
  bound : ∀ x, A.R.kind.bound v = some x →
    (A.R.kind.refKey v, x) ∈ A.created log ∨ A.R.kind.adopted v = true
  unbound : A.R.kind.bound v = none → A.R.kind.adopted v = false
  finalizer : containsFinalizer v.metadata finalizerName = false → A.standing log = []

/-- A request that neither creates nor deletes nor is addressed to an existing object. -/
structure IsIdle (req : A.R.Api) : Prop where
  creates : A.R.kind.creates req = false
  deletes : A.R.kind.deletes req = none
  addresses : A.addresses req = none

variable {A} {log : List (Served A.R.Api)} {s : Served A.R.Api} {v v' c : A.R.CR} {x : String}

/-! ## Requests -/

theorem makes_eq_none (h : A.R.kind.creates s.req = false) : A.makes s = none := by
  unfold makes
  rw [h]
  rfl

theorem created_cons (h : A.R.kind.creates s.req = false) :
    A.created (s :: log) = A.created log := by
  unfold created
  rw [List.filterMap_cons, makes_eq_none h]

theorem standing_cons (h : A.R.kind.creates s.req = false) (hd : A.R.kind.deletes s.req = none) :
    A.standing (s :: log) = A.standing log := by
  show (match A.makes s, A.R.kind.deletes s.req with
    | some o, _ => o :: A.standing log
    | none, some x => (A.standing log).filter (fun o => o ≠ (s.key, x))
    | none, none => A.standing log) = _
  rw [makes_eq_none h, hd]

theorem created_make {o : Obj} (h : A.makes s = some o) :
    A.created (s :: log) = o :: A.created log := by
  unfold created
  rw [List.filterMap_cons, h]

theorem standing_make {o : Obj} (h : A.makes s = some o) :
    A.standing (s :: log) = o :: A.standing log := by
  show (match A.makes s, A.R.kind.deletes s.req with
    | some o, _ => o :: A.standing log
    | none, some x => (A.standing log).filter (fun o => o ≠ (s.key, x))
    | none, none => A.standing log) = _
  rw [h]

theorem Holds.standing_of_unbound (h : A.Holds log v) (hv : A.R.kind.bound v = none) :
    A.standing log = [] := by
  refine List.eq_nil_iff_forall_not_mem.mpr (fun o ho => ?_)
  have hb := (h.standing o ho).1
  rw [hv] at hb
  cases hb

theorem Holds.created_of_unbound (h : A.Holds log v) (hv : A.R.kind.bound v = none)
    (hs : s ∈ log) (hx : A.addresses s.req = some x) : (s.key, x) ∈ A.created log := by
  rcases h.addressed s hs x hx with hmade | hadopted
  · exact hmade
  · have hb := hadopted.bound
    rw [hv] at hb
    cases hb

theorem Holds.congr (h : A.Holds log v) (hb : A.R.kind.bound v' = A.R.kind.bound v)
    (hk : A.R.kind.refKey v' = A.R.kind.refKey v) (ha : A.R.kind.adopted v' = A.R.kind.adopted v)
    (hf : containsFinalizer v'.metadata finalizerName = false → A.standing log = []) :
    A.Holds log v' where
  addressed s hs x hx := by
    rcases h.addressed s hs x hx with hmade | hadopted
    · exact .inl hmade
    · exact .inr ⟨ha.trans hadopted.mark, hb.trans hadopted.bound, hk.trans hadopted.key⟩
  standing o ho := by
    rw [hb, hk, ha]
    exact h.standing o ho
  bound x hx := by
    rw [hk, ha]
    exact h.bound x (hb.symm.trans hx)
  unbound hv := ha.trans (h.unbound (hb.symm.trans hv))
  finalizer := hf

theorem Holds.stamp (h : A.Holds log v) (rv gen : Nat) : A.Holds log (v.stamp rv gen) :=
  h.congr (A.R.kind.bound_congr _ _ rfl rfl rfl) rfl (A.R.kind.adopted_congr _ _ rfl) h.finalizer

theorem Holds.idle (h : A.Holds log v) (hs : A.IsIdle s.req) : A.Holds (s :: log) v where
  addressed s' hs' x hx := by
    rw [created_cons hs.creates]
    rcases List.mem_cons.mp hs' with rfl | hs'
    · rw [hs.addresses] at hx
      cases hx
    · exact h.addressed s' hs' x hx
  standing := by
    rw [standing_cons hs.creates hs.deletes]
    exact h.standing
  bound := by
    rw [created_cons hs.creates]
    exact h.bound
  unbound := h.unbound
  finalizer := by
    rw [standing_cons hs.creates hs.deletes]
    exact h.finalizer

theorem Holds.address (h : A.Holds log v) (hc : A.R.kind.creates s.req = false)
    (hd : A.R.kind.deletes s.req = none) (hkey : s.key = A.R.kind.refKey v)
    (hs : ∀ x, A.addresses s.req = some x → A.R.kind.bound v = some x) :
    A.Holds (s :: log) v where
  addressed s' hs' x hx := by
    rw [created_cons hc]
    rcases List.mem_cons.mp hs' with rfl | hs'
    · rw [hkey]
      rcases h.bound x (hs x hx) with hmade | hmark
      · exact .inl hmade
      · exact .inr ⟨hmark, hs x hx, rfl⟩
    · exact h.addressed s' hs' x hx
  standing := by
    rw [standing_cons hc hd]
    exact h.standing
  bound := by
    rw [created_cons hc]
    exact h.bound
  unbound := h.unbound
  finalizer := by
    rw [standing_cons hc hd]
    exact h.finalizer

theorem Holds.create (h : A.Holds log v) (hv : A.R.kind.bound v = none)
    (hs : A.makes s = some (A.R.kind.refKey v, x)) (hx : A.addresses s.req = none)
    (hb : A.R.kind.bound v' = some x) (hk : A.R.kind.refKey v' = A.R.kind.refKey v)
    (ha : A.R.kind.adopted v' = A.R.kind.adopted v)
    (hf : containsFinalizer v'.metadata finalizerName = true) : A.Holds (s :: log) v' where
  addressed s' hs' y hy := by
    rw [created_make hs]
    rcases List.mem_cons.mp hs' with rfl | hs'
    · rw [hx] at hy
      cases hy
    · exact .inl (List.mem_cons_of_mem _ (h.created_of_unbound hv hs' hy))
  standing o ho := by
    rw [standing_make hs, h.standing_of_unbound hv] at ho
    obtain rfl := List.mem_singleton.mp ho
    exact ⟨hb, hk, ha.trans (h.unbound hv)⟩
  bound y hy := by
    obtain rfl := Option.some.inj (hb.symm.trans hy)
    rw [created_make hs, hk]
    exact .inl List.mem_cons_self
  unbound hn := by
    rw [hb] at hn
    cases hn
  finalizer hn := by
    rw [hf] at hn
    cases hn

theorem Holds.adopt (h : A.Holds log v) (hv : A.R.kind.bound v = none)
    (hc : A.R.kind.creates s.req = false) (hd : A.R.kind.deletes s.req = none)
    (hkey : s.key = A.R.kind.refKey v) (hs : A.addresses s.req = some x)
    (hb : A.R.kind.bound v' = some x) (hk : A.R.kind.refKey v' = A.R.kind.refKey v)
    (ha : A.R.kind.adopted v' = true) : A.Holds (s :: log) v' where
  addressed s' hs' y hy := by
    rcases List.mem_cons.mp hs' with rfl | hs'
    · obtain rfl := Option.some.inj (hs.symm.trans hy)
      exact .inr ⟨ha, hb, hk.trans hkey.symm⟩
    · rw [created_cons hc]
      exact .inl (h.created_of_unbound hv hs' hy)
  standing o ho := by
    rw [standing_cons hc hd, h.standing_of_unbound hv] at ho
    cases ho
  bound _ _ := .inr ha
  unbound hn := by
    rw [hb] at hn
    cases hn
  finalizer _ := by rw [standing_cons hc hd, h.standing_of_unbound hv]

theorem Holds.delete (h : A.Holds log v) (hc : A.R.kind.creates s.req = false)
    (hd : A.R.kind.deletes s.req = some x) (ha : A.addresses s.req = none)
    (hkey : s.key = A.R.kind.refKey v) (hb : A.R.kind.bound v = some x) :
    A.Holds (s :: log) v ∧ A.standing (s :: log) = [] := by
  have hnone : A.standing (s :: log) = [] := by
    show (match A.makes s, A.R.kind.deletes s.req with
      | some o, _ => o :: A.standing log
      | none, some x => (A.standing log).filter (fun o => o ≠ (s.key, x))
      | none, none => A.standing log) = _
    rw [makes_eq_none hc, hd]
    refine List.filter_eq_nil_iff.mpr (fun o ho => ?_)
    -- whatever still stands is the object of the resource
    obtain ⟨hx, hk, -⟩ := h.standing o ho
    obtain rfl := Option.some.inj (hb.symm.trans hx)
    simp [hkey, hk]
  refine ⟨⟨fun s' hs' y hy => ?_, fun o ho => ?_, ?_, h.unbound, fun _ => hnone⟩, hnone⟩
  · rw [created_cons hc]
    rcases List.mem_cons.mp hs' with rfl | hs'
    · rw [ha] at hy
      cases hy
    · exact h.addressed s' hs' y hy
  · rw [hnone] at ho
    cases ho
  · rw [created_cons hc]
    exact h.bound

/-! ## What a reconcile keeps -/

variable (A) in
/-- The reconcile holds the copy `v` of the stored resource `c`, from which it differs in the
status, but not in the object. -/
structure Held (τ : A.R.RScene) (v c : A.R.CR) : Prop where
  now : τ.Now c
  metadata : v.metadata = c.metadata
  spec : v.spec = c.spec
  live : c.metadata.deleting = false
  finalizer : containsFinalizer c.metadata finalizerName = true
  tag : A.tag v.status = A.tag c.status
  holds : A.Holds τ.log c

variable {lib : Ext} {home : String} {E : A.R.RPass} {τ τ' : A.R.RScene}

theorem Held.copy (h : A.Held τ v c) (hm : v'.metadata = v.metadata) (hs : v'.spec = v.spec)
    (ht : A.tag v'.status = A.tag v.status) : A.Held τ v' c :=
  { h with metadata := hm.trans h.metadata, spec := hs.trans h.spec, tag := ht.trans h.tag }

theorem Held.quiet (h : A.Held τ v c) (hq : Quiet τ τ') : A.Held τ' v c :=
  { h with now := hq.now h.now, holds := by rw [hq.log]; exact h.holds }

theorem Held.carried {conn : ResolvedInstance} {req : A.R.Api} {a : Service.Result req}
    (h : A.Held τ v c) (hc : Pass.Carried A.R.kind lib home τ conn req a τ')
    (hholds : A.Holds (⟨conn.inst.metadata.key, req, a⟩ :: τ.log) c) : A.Held τ' v c := by
  refine { h with now := ?_, holds := by rw [hc.log]; exact hholds }
  unfold Scene.Now
  rw [hc.store]
  exact h.now

theorem Held.beside {N : A.R.Api → Prop} (h : A.Held τ v c) (hb : Beside N τ τ')
    (hN : ∀ s log, N s.req → A.Holds log c → A.Holds (s :: log) c) : A.Held τ' v c := by
  obtain ⟨l, hl, hl'⟩ := hb.log
  refine { h with now := hb.now h.now, holds := ?_ }
  rw [hl]
  clear hl
  induction l with
  | nil => exact h.holds
  | cons s l ih =>
    rw [List.cons_append]
    exact hN s _ (hl' s List.mem_cons_self) (ih (fun s' hs' => hl' s' (List.mem_cons_of_mem _ hs')))

theorem wp_storeStatus (hcalm : E.Calm) (hnow : τ.Now c) (hlive : c.metadata.deleting = false)
    (hfin : containsFinalizer c.metadata finalizerName = true) (hm : v.metadata = c.metadata)
    (hv : A.Holds τ.log (c.withStatus v.status)) {Q : Except Error A.R.CR → A.R.RScene → Prop}
    (hQ : ∀ r τ', A.Held τ' r r → r.status = v.status →
      A.R.kind.refKey r = A.R.kind.refKey c → Q (.ok r) τ') :
    (E.rules A.R.kind lib home).wp (statusUpdate v) Q τ := by
  have hrv : v.rv = c.rv := by
    unfold Resource.rv
    rw [hm]
  refine Pass.wp_statusUpdate hnow hrv hlive (fun r τ' hst _ _ => ?_) (fun e _ he _ _ => ?_)
  · obtain ⟨rv, gen, rfl⟩ := hst.stamped
    have hholds : A.Holds τ'.log ((c.withStatus v.status).stamp rv gen) := by
      rw [hst.log]
      exact hv.stamp rv gen
    exact hQ _ τ' ⟨hst.now, rfl, rfl, hlive, hfin, rfl, hholds⟩ rfl rfl
  · rw [hcalm] at he
    cases he

variable {Q : A.R.CR → A.R.RScene → Prop} {F : Failure A.R.Spec A.R.Status → A.R.RScene → Prop}

theorem wpE_storeSyncHash {hash : String} (hann : A.R.kind.Annotates annotationSyncHash)
    (hcalm : E.Calm) (h : A.Held τ v c)
    (hQ : ∀ r τ', A.Held τ' r r → r.status = c.status → A.R.kind.refKey r = A.R.kind.refKey c →
      Q r τ') : (E.rules A.R.kind lib home).wpE (storeSyncHash v hash) Q F τ := by
  have hrv : (annotate v annotationSyncHash hash).rv = c.rv := by
    show v.metadata.resourceVersion = c.metadata.resourceVersion
    rw [h.metadata]
  -- the write changes nothing but the annotation
  have hup : c.updated (annotate v annotationSyncHash hash) =
      annotate c annotationSyncHash hash := by
    obtain ⟨m, s, st⟩ := v
    obtain rfl : m = c.metadata := h.metadata
    obtain rfl : s = c.spec := h.spec
    rfl
  have hholds : A.Holds τ.log (annotate c annotationSyncHash hash) :=
    h.holds.congr (hann.bound _ _) rfl (hann.adopted _ _) h.holds.finalizer
  unfold storeSyncHash
  rw [wpE_orFail]
  refine Pass.wp_update h.now hrv h.live (fun r τ' hst => ?_) (fun e _ he _ _ => ?_)
  · rw [hup] at hst
    obtain ⟨rv, gen, rfl⟩ := hst.stamped
    have hholds' : A.Holds τ'.log ((annotate c annotationSyncHash hash).stamp rv gen) := by
      rw [hst.log]
      exact hholds.stamp rv gen
    exact hQ _ τ' ⟨hst.now, rfl, rfl, h.live, h.finalizer, rfl, hholds'⟩ rfl rfl
  · rw [hcalm] at he
    cases he

theorem wpE_markAdopted (hcalm : E.Calm) (hnow : τ.Now c) (hlive : c.metadata.deleting = false)
    {F : A.R.CR × Error → A.R.RScene → Prop}
    (hQ : ∀ r τ', Stored τ (annotate c annotationAdopted annotationAdoptedValue) r τ' → Q r τ') :
    (E.rules A.R.kind lib home).wpE (markAdopted c) Q F τ := by
  unfold markAdopted
  rw [wpE_orFail]
  refine Pass.wp_update hnow ?_ hlive hQ (fun e _ he _ _ => ?_)
  · rfl
  · rw [hcalm] at he
    cases he

theorem wpE_recordCreated {pre : String} {hash : A.R.Spec → String}
    (hann : A.R.kind.Annotates annotationSyncHash) (hcalm : E.Calm) (hnow : τ.Now c)
    (hlive : c.metadata.deleting = false) (hfin : containsFinalizer c.metadata finalizerName = true)
    (hm : v.metadata = c.metadata) (hv : A.Holds τ.log (c.withStatus v.status))
    (hQ : ∀ r τ', A.Held τ' r r → r.status = v.status → A.R.kind.refKey r = A.R.kind.refKey c →
      Q r τ') : (E.rules A.R.kind lib home).wpE (recordCreated pre hash v) Q F τ := by
  unfold recordCreated
  rw [wpE_bind, wpE_orFail]
  refine wp_storeStatus hcalm hnow hlive hfin hm hv (fun r τ' h' hst hkey => ?_)
  exact wpE_storeSyncHash hann hcalm h'
    (fun r' τ'' h'' hst' hkey' => hQ r' τ'' h'' (hst'.trans hst) (hkey'.trans hkey))

end Addressing

/-! ## One identity over a whole run

Runs of spec edits that keep the instance, of a deletion, and of reconciles in which no call fails
(`Addressing.Ordinary`). If edits keep the object the resource is bound to, and every reconcile
starts from a resource whose updates are addressed to that object (`Identified.Consistent`), then
`Addressing.Holds` is an invariant of the run (`Identified.holds_of_turn`), and so every update is
addressed to the resource's own object, and nothing it created is left once its finalizer is gone.
-/

/-- Every request of some sort that was sent was carried out. -/
def Scene.AllCarried {Spec Status Api : Type} [Service Api] (N : Api → Prop)
    (σ : Scene Spec Status Api) : Prop :=
  ∀ key req, (key, req) ∈ σ.sent → N req → ∃ a, ⟨key, req, a⟩ ∈ σ.log

namespace Pass

variable {Spec Status Api : Type} [Service Api] [DecidableEq Spec] [DecidableEq Status]
variable {K : Kind Spec Status Api} {lib : Ext} {home : String} {E : Pass Spec Status Api}
variable {σ : Scene Spec Status Api} {c : Resource Spec Status}

theorem wp_updateLast {obj : Resource Spec Status} (hc : σ.Now c) (hrv : obj.rv = c.rv)
    (hcalm : E.Calm) {Q : Except Error (Resource Spec Status) → Scene Spec Status Api → Prop}
    (hQ : ∀ r σ', (∃ rv gen, r = (c.updated obj).stamp rv gen) →
      σ'.world.store.versions.head? = some r → σ'.log = σ.log → Q (.ok r) σ') :
    (E.rules K lib home).wp (Ctl.update obj) Q σ := by
  have hreply : E.reply K lib home σ (.update obj) =
      E.commit σ (.ok (σ.world.store.put c (c.updated obj))) :=
    congrArg (E.commit σ) (Store.update_of_current hc hrv)
  have hw := Store.written_put hc (c.updated obj)
  exact wp_reply (hreply.trans (commit_put (hcalm σ))) (hQ _ _ hw.stored hw.head rfl)

variable {Q : Result × Option Error → Scene Spec Status Api → Prop}

theorem wp_reconcile_gone {k : Controller Spec Status Api} {req : NamespacedName}
    (hgone : σ.world.store.current = none) (hQ : ∀ out σ', Quiet σ σ' → Q out σ') :
    (E.rules K lib home).wp (k.reconcile lib req) Q σ := by
  unfold Controller.reconcile
  rw [wp_bind]
  have hreply : E.reply K lib home σ (.get req) =
      (.error (.leaf (.kube Store.notFound)), σ.world) := by
    unfold reply
    simp only [hgone]
  exact wp_reply hreply (hQ _ _ ⟨rfl, rfl, rfl, fun _ => rfl⟩)

theorem wp_reconcile_deleting {k : Controller Spec Status Api} {req : NamespacedName} (hc : σ.Now c)
    (hdel : c.metadata.deleting = true)
    (hQ : ∀ σ', Quiet σ σ' → (E.rules K lib home).wp (handleDeletion lib k.instanceRef k.target
      k.delete c) Q σ') : (E.rules K lib home).wp (k.reconcile lib req) Q σ := by
  unfold Controller.reconcile
  rw [wp_bind]
  refine wp_get hc (fun σ' hq => ?_)
  dsimp only
  rw [if_pos hdel]
  exact hQ σ' hq

/-- Requests that are always answered are carried out whenever they are sent. -/
theorem wp_allCarried {N : Api → Prop} (hN : ∀ τ conn req, N req → ∃ a, E.serve τ conn req = .ok a)
    {α : Type} (p : Ctl Spec Status Api α) (hσ : σ.AllCarried N) :
    (E.rules K lib home).wp p (fun _ σ' => σ'.AllCarried N) σ := by
  refine wp_of_uses (I := Scene.AllCarried N) (Prog.uses_true p) hσ ?_
  intro op τ _ hτ
  refine ⟨trivial, ?_⟩
  rintro _ rfl key req hsent hreq
  have hlog : ∀ s ∈ τ.log, s ∈ (τ.after op (E.reply K lib home τ op).1
      (E.reply K lib home τ op).2).log := by
    intro s hs
    unfold Scene.log Scene.after
    rw [List.filterMap_cons]
    split
    · exact hs
    · exact List.mem_cons_of_mem _ hs
  cases op with
  | api conn req' =>
    rcases List.mem_cons.mp (show (key, req) ∈ (conn.inst.metadata.key, req') :: τ.sent
      from hsent) with heq | hold
    · -- the request that was sent now
      cases heq
      obtain ⟨a, ha⟩ := hN τ conn req hreq
      refine ⟨a, ?_⟩
      have hans : (E.reply K lib home τ (.api conn req)).1 = .ok a := by
        simp only [reply, ha]
        rfl
      show _ ∈ List.filterMap Served.of (⟨.api conn req, _⟩ :: τ.trace)
      rw [hans]
      exact List.mem_cons_self
    · obtain ⟨a, ha⟩ := hτ key req hold hreq
      exact ⟨a, hlog _ ha⟩
  | _ =>
    obtain ⟨a, ha⟩ := hτ key req hsent hreq
    exact ⟨a, hlog _ ha⟩

end Pass

namespace Addressing

variable (A : Addressing)

/-- No write fails, LiteLLM carries out what is addressed to an existing object and deletes, and
answers a create with the id of a new object. (A create may be refused, because there is such an
object already.) -/
structure Smooth (E : A.R.RPass) : Prop where
  calm : E.Calm
  carried : ∀ τ conn req, (A.addresses req).isSome = true ∨ (A.R.kind.deletes req).isSome = true →
    ∃ a, E.serve τ conn req = .ok a
  named : ∀ τ conn req a, A.R.kind.creates req = true → E.serve τ conn req = .ok a →
    (A.R.kind.takes req a).isSome = true

/-- Neither does the cleanup of a resource that is being deleted. -/
structure FailureFree (lib : Ext) (E : A.R.RPass) (σ : A.R.RScene) : Prop extends A.Smooth E where
  resolves : ∀ v, σ.Now v → v.metadata.deleting = true → ∃ conn,
    readOff E.cluster (resolveInstanceForCleanup lib
      (client : Reader (Ctl A.R.Spec A.R.Status A.R.Api)) v.metadata.ns
      (A.R.kind.instanceRef v.spec)).run = some (.ok conn)

/-- The turns of a run: edits of the spec that keep the instance, the deletion, and reconciles
without failures. -/
def Ordinary (lib : Ext) (σ : A.R.RScene) : A.R.Turn → Prop
  | .env (.edit spec) => ∀ v, σ.Now v → A.R.kind.instanceRef spec = A.R.kind.instanceRef v.spec
  | .env .remove => True
  | .env _ => False
  | .pass E => A.FailureFree lib E σ

/-- What is said of every scene of a run. -/
structure OneIdentity (σ : A.R.RScene) : Prop where
  /-- Every update and password change that was sent is addressed to an object that the resource
  has created, or to which it is bound under the adopted mark. -/
  addressed : ∀ key req x, (key, req) ∈ σ.sent → A.addresses req = some x →
    (key, x) ∈ A.created σ.log ∨ ∃ v, σ.world.store.versions.head? = some v ∧ A.Adopted v (key, x)
  /-- Nothing it created is left when the resource does not have the finalizer. -/
  cleaned : ∀ v, σ.world.store.versions.head? = some v →
    containsFinalizer v.metadata finalizerName = false → A.standing σ.log = []

/-- The resource as it was last stored agrees with what was carried out. -/
def Agrees (σ : A.R.RScene) : Prop := ∃ v, σ.world.store.versions.head? = some v ∧ A.Holds σ.log v

/-- The request is addressed to an existing object. -/
def IsAddressed (req : A.R.Api) : Prop := (A.addresses req).isSome = true

variable {A}

theorem oneIdentity {σ : A.R.RScene} (h : A.Agrees σ) (hall : σ.AllCarried A.IsAddressed) :
    A.OneIdentity σ := by
  obtain ⟨v, hv, hholds⟩ := h
  refine ⟨fun key req x hsent hx => ?_, fun v' hv' hfin => ?_⟩
  · obtain ⟨a, ha⟩ := hall key req hsent (by unfold IsAddressed; rw [hx]; rfl)
    rcases hholds.addressed _ ha x hx with hmade | hadopted
    · exact .inl hmade
    · exact .inr ⟨v, hv, hadopted⟩
  · obtain rfl := Option.some.inj (hv.symm.trans hv')
    exact hholds.finalizer hfin

theorem Held.agrees {τ : A.R.RScene} {v c : A.R.CR} (h : A.Held τ v c) : A.Agrees τ :=
  ⟨c, Store.head_of_current h.now, h.holds⟩

end Addressing

/-- A kind whose reconciles keep to one object. -/
structure Identified (lib : Ext) extends Addressing where
  controller : Controller R.Spec R.Status R.Api
  shaped : toPushing.Shaped lib controller
  bound_eq : ∀ v, R.kind.bound v = object v.spec (tag v.status) := by intros; rfl
  target_eq : ∀ v, controller.target v = if R.kind.adopted v then none else R.kind.bound v
  deletes : ∀ x, R.kind.deletes (controller.delete x) = some x
  creates_delete : ∀ x, R.kind.creates (controller.delete x) = false
  addresses_delete : ∀ x, addresses (controller.delete x) = none
  /-- The updates of this resource are addressed to its object. -/
  aimed : R.CR → Prop
  aimed_alike : ∀ v v', Pass.Alike v v' → aimed v → aimed v'
  body : ∀ (home : String) (E : R.RPass) (conn : ResolvedInstance) (v : R.CR) (τ : R.RScene),
    toAddressing.Smooth E → aimed v → toAddressing.Held τ v v →
    conn.inst.metadata.key = R.kind.refKey v →
    (E.rules R.kind lib home).wpE (controller.body v conn)
      (fun out τ' => ∃ c, toAddressing.Held τ' out.1 c)
      (fun f τ' => ∃ c, toAddressing.Held τ' f.cr c) τ

namespace Identified

variable {lib : Ext} (I : Identified lib)

/-- The condition: an edit keeps the object the resource is bound to, and a reconcile finds a
resource whose updates are addressed to its object. -/
def Consistent (σ : I.R.RScene) : I.R.Turn → Prop
  | .env (.edit spec) => ∀ v, σ.Now v → I.R.kind.bound { v with spec := spec } = I.R.kind.bound v
  | .env _ => True
  | .pass _ => ∀ v, σ.Now v → v.metadata.deleting = false → I.aimed v

variable {I} {σ σ' : I.R.RScene} {E : I.R.RPass} {v c : I.R.CR} {req : NamespacedName}

theorem holds_setSynced {log : List (Served I.R.Api)} {status : ConditionStatus}
    {reason message : String} {observed : Bool} (h : I.Holds log c)
    (htag : I.tag v.status = I.tag c.status) :
    I.Holds log (Pass.reportedAs I.controller c v status reason message observed) := by
  refine h.congr ?_ rfl (I.R.kind.adopted_congr _ _ rfl) h.finalizer
  rw [I.bound_eq, I.bound_eq]
  exact congrArg (I.object c.spec) ((I.shaped.tag _ _).trans htag)

theorem agrees_reported {τ : I.R.RScene} {status : ConditionStatus} {reason message : String}
    {observed : Bool} {r : I.R.CR} (h : I.Held τ v c)
    (hst : Stored τ (Pass.reportedAs I.controller c v status reason message observed) r σ') :
    I.Agrees σ' := by
  refine ⟨r, Store.head_of_current hst.now, ?_⟩
  rw [hst.log]
  obtain ⟨rv, gen, rfl⟩ := hst.stamped
  exact (holds_setSynced h.holds h.tag).stamp rv gen

theorem rv_of_held {τ : I.R.RScene} (h : I.Held τ v c) : v.rv = c.rv :=
  congrArg (·.resourceVersion) h.metadata

theorem wp_live (hE : I.Smooth E) (hnow : σ.Now v) (hlive : v.metadata.deleting = false)
    (haim : I.aimed v) (h : I.Holds σ.log v) :
    (E.rules I.R.kind lib req.ns).wp (I.R.reconcile lib req) (fun _ σ' => I.Agrees σ') σ := by
  -- with the finalizer in place, nothing else that matters has changed
  have hsame : ∀ v' τ, Pass.Alike v v' → Rest σ τ →
      containsFinalizer v'.metadata finalizerName = true → I.Holds τ.log v' := by
    intro v' τ hv' hrest hfin
    rw [hrest.log]
    obtain ⟨_, _, _, rfl⟩ := hv'
    refine h.congr (I.R.kind.bound_congr _ _ rfl rfl rfl) rfl (I.R.kind.adopted_congr _ _ rfl)
      (fun hno => ?_)
    rw [hfin] at hno
    cases hno
  rw [I.shaped.reconcile]
  refine Pass.wp_reconcile hnow hlive (fun _ _ _ _ _ _ hfault _ => ?_)
    (fun e v' _ _ _ r τ σ' _ hv' hfin hnow' hrest hst _ => ?_)
    (fun conn v' τ hres hv' hfin hnow' hrest => ?_)
  · obtain ⟨τ, e, he⟩ := hfault
    rw [hE.calm] at he
    cases he
  · -- the instance did not resolve; what was written are the finalizer and the report
    refine ⟨r, Store.head_of_current hst.now, ?_⟩
    rw [hst.log]
    obtain ⟨rv, gen, rfl⟩ := hst.stamped
    exact (holds_setSynced (hsame v' τ hv' hrest hfin) rfl).stamp rv gen
  · have hkey : conn.inst.metadata.key = I.R.kind.refKey v' := by
      rw [Pass.key_of_readOff hres, I.shaped.instanceRef]
      unfold Kind.refKey
      rw [hv'.spec, hv'.ns]
    have hheld : I.Held τ v' v' :=
      ⟨hnow', rfl, rfl, hv'.deleting.trans hlive, hfin, rfl, hsame v' τ hv' hrest hfin⟩
    refine wpE_mono (I.body req.ns E conn v' τ hE (I.aimed_alike v v' hv' haim) hheld hkey)
      (fun out τ' h' => ?_) (fun f τ' h' => ?_)
    · obtain ⟨c, hc⟩ := h'
      exact Pass.wp_report_ok hc.now (rv_of_held hc) hc.live
        (fun r σ' hst _ => agrees_reported hc hst) (fun e σ' _ hq _ => (hc.quiet hq).agrees)
    · obtain ⟨c, hc⟩ := h'
      exact Pass.wp_report_error hc.now (rv_of_held hc) hc.live
        (fun _ _ _ _ r σ' hst _ => agrees_reported hc hst)
        (fun _ e σ' _ hq _ => (hc.quiet hq).agrees)

/-- What is left to delete is what the cleanup deletes. -/
theorem standing_of_no_target {log : List (Served I.R.Api)} (h : I.Holds log v)
    (ht : I.controller.target v = none) : I.standing log = [] := by
  rw [I.target_eq] at ht
  refine List.eq_nil_iff_forall_not_mem.mpr (fun o ho => ?_)
  obtain ⟨hb, -, ha⟩ := h.standing o ho
  rw [ha, hb] at ht
  cases ht

theorem bound_of_target {x : String} (ht : I.controller.target v = some x) :
    I.R.kind.bound v = some x := by
  rw [I.target_eq] at ht
  split at ht
  · cases ht
  · exact ht

theorem wp_deleteUpstream (hE : I.FailureFree lib E σ) (hnow : σ.Now v)
    (hdel : v.metadata.deleting = true) (h : I.Holds σ.log v)
    {Q : Unit → I.R.RScene → Prop}
    (hQ : ∀ σ', σ'.Now v → I.Holds σ'.log v → I.standing σ'.log = [] → Q () σ') :
    (E.rules I.R.kind lib req.ns).wp (deleteUpstream lib I.controller.instanceRef
      I.controller.target I.controller.delete v) Q σ := by
  unfold deleteUpstream
  split
  · rename_i ht
    exact hQ σ hnow h (standing_of_no_target h ht)
  · rename_i x ht
    obtain ⟨conn, hconn⟩ := hE.resolves v hnow hdel
    rw [wp_bind]
    refine Pass.wp_reads (isRead_resolveInstanceRef lib _ _ _ _) (fun out τ hout hq => ?_)
    rw [I.shaped.instanceRef] at hout
    obtain rfl := Option.some.inj (hout.symm.trans hconn)
    dsimp only
    rw [wp_bind]
    obtain ⟨a, ha⟩ := hE.carried τ conn (I.controller.delete x) (.inr (by rw [I.deletes]; rfl))
    refine Pass.wp_api (fun a τ' _ hc => ?_) (fun e τ' he _ => ?_)
    · have hkey : conn.inst.metadata.key = I.R.kind.refKey v := Pass.key_of_readOff hconn
      have hlog := h.delete (s := ⟨conn.inst.metadata.key, I.controller.delete x, a⟩)
        (I.creates_delete x) (I.deletes x) (I.addresses_delete x) hkey (bound_of_target ht)
      rw [← hq.log, ← hc.log] at hlog
      refine hQ τ' ?_ hlog.1 hlog.2
      unfold Scene.Now
      rw [hc.store]
      exact hq.now hnow
    · rw [ha] at he
      cases he

theorem wp_cleanup (hE : I.FailureFree lib E σ) (hnow : σ.Now v)
    (hdel : v.metadata.deleting = true) (h : I.Holds σ.log v) :
    (E.rules I.R.kind lib req.ns).wp (I.R.reconcile lib req) (fun _ σ' => I.Agrees σ') σ := by
  rw [I.shaped.reconcile]
  refine Pass.wp_reconcile_deleting hnow hdel (fun τ hq => ?_)
  have hnow' := hq.now hnow
  have hholds : I.Holds τ.log v := by
    rw [hq.log]
    exact h
  have hE' : I.FailureFree lib E τ := by
    refine { hE with resolves := fun v' hv' => hE.resolves v' ?_ }
    unfold Scene.Now at hv' ⊢
    rw [← hq.store]
    exact hv'
  unfold handleDeletion
  split
  · rw [wp_bind]
    refine wp_deleteUpstream hE' hnow' hdel hholds (fun τ' hnow₁ h₁ hnone => ?_)
    rw [wp_bind]
    refine Pass.wp_updateLast hnow₁ ?_ hE.calm (fun r σ' hr hhead hlog => ?_)
    · rfl
    · obtain ⟨rv, gen, rfl⟩ := hr
      refine ⟨_, hhead, ?_⟩
      rw [hlog]
      refine Addressing.Holds.stamp ?_ rv gen
      exact h₁.congr (I.R.kind.bound_congr _ _ rfl rfl rfl) rfl (I.R.kind.adopted_congr _ _ rfl)
        (fun _ => hnone)
  · exact ⟨v, Store.head_of_current hnow', hholds⟩

theorem wp_pass (hE : I.FailureFree lib E σ)
    (haim : ∀ v, σ.Now v → v.metadata.deleting = false → I.aimed v) (h : I.Agrees σ) :
    (E.rules I.R.kind lib req.ns).wp (I.R.reconcile lib req) (fun _ σ' => I.Agrees σ') σ := by
  obtain ⟨v, hv, hholds⟩ := h
  cases hcur : σ.world.store.current with
  | none =>
    rw [I.shaped.reconcile]
    refine Pass.wp_reconcile_gone hcur (fun _ σ' hq => ⟨v, ?_, ?_⟩)
    · rw [hq.store]
      exact hv
    · rw [hq.log]
      exact hholds
  | some c =>
    obtain rfl := Option.some.inj (hv.symm.trans (Store.head_of_current hcur))
    cases hdel : v.metadata.deleting with
    | false => exact wp_live hE.toSmooth hcur hdel (haim v hcur hdel) hholds
    | true => exact wp_cleanup hE hcur hdel hholds

theorem agrees_of_written {store : Store I.R.Spec I.R.Status} {r : I.R.CR} (h : I.Agrees σ)
    (hw : Store.Written σ.world.store c v r store)
    (hb : I.R.kind.bound v = I.R.kind.bound c) (hk : I.R.kind.refKey v = I.R.kind.refKey c)
    (hm : v.metadata.annotations = c.metadata.annotations)
    (hf : v.metadata.finalizers = c.metadata.finalizers) :
    I.Agrees { σ with world := { σ.world with store := store } } := by
  obtain ⟨c', hc', hholds⟩ := h
  obtain rfl := Option.some.inj (hc'.symm.trans (Store.head_of_current hw.was))
  refine ⟨r, hw.head, ?_⟩
  obtain ⟨rv, gen, rfl⟩ := hw.stored
  refine Addressing.Holds.stamp ?_ rv gen
  refine hholds.congr hb hk (I.R.kind.adopted_congr _ _ hm) (fun hno => hholds.finalizer ?_)
  unfold containsFinalizer at hno ⊢
  rw [← hf]
  exact hno

/-- **Each turn keeps to one object.** -/
theorem agrees_of_turn {t : I.R.Turn} (h : I.Agrees σ) (ht : I.Ordinary lib σ t)
    (hcons : I.Consistent σ t) (hx : Reconciler.take lib req σ t = some σ') : I.Agrees σ' := by
  cases t with
  | pass E =>
    cases hx
    exact Pass.wp_run.mp (wp_pass ht hcons h)
  | env e =>
    obtain ⟨w, hw, rfl⟩ := Option.map_eq_some_iff.mp hx
    cases e with
    | edit spec =>
      obtain ⟨store, hstore, rfl⟩ := Option.map_eq_some_iff.mp hw
      obtain ⟨c, r, hwr⟩ := Store.edit_some hstore
      refine agrees_of_written h hwr (hcons c hwr.was) ?_ rfl rfl
      unfold Kind.refKey
      rw [ht c hwr.was]
    | remove =>
      obtain ⟨store, hstore, rfl⟩ := Option.map_eq_some_iff.mp hw
      obtain ⟨c, r, hwr⟩ := Store.markDeleted_some hstore
      exact agrees_of_written h hwr (I.R.kind.bound_congr _ _ rfl rfl rfl) rfl rfl rfl
    | _ => exact ht.elim

theorem allCarried_of_turn {t : I.R.Turn} (h : σ.AllCarried I.IsAddressed) (ht : I.Ordinary lib σ t)
    (hx : Reconciler.take lib req σ t = some σ') : σ'.AllCarried I.IsAddressed := by
  cases t with
  | pass E =>
    cases hx
    exact Pass.wp_run.mp (Pass.wp_allCarried
      (fun τ conn req hreq => ht.carried τ conn req (.inl hreq)) _ h)
  | env e =>
    obtain ⟨w, -, rfl⟩ := Option.map_eq_some_iff.mp hx
    exact h

theorem agrees_scene {cr : I.R.CR} (hunbound : I.R.kind.bound cr = none)
    (hmark : I.R.kind.adopted cr = false) : I.Agrees (Reconciler.scene I.R cr) := by
  refine ⟨cr, rfl, fun s hs => absurd hs List.not_mem_nil, fun o ho => absurd ho List.not_mem_nil,
    fun x hx => ?_, fun _ => hmark, fun _ => rfl⟩
  rw [hunbound] at hx
  cases hx

/-- **One identity.** In every scene of a consistent run. -/
theorem oneIdentity_of_passes {cr : I.R.CR} (hunbound : I.R.kind.bound cr = none)
    (hmark : I.R.kind.adopted cr = false)
    (h : Reconciler.Passes lib req (fun τ t => I.Ordinary lib τ t ∧ I.Consistent τ t)
      (Reconciler.scene I.R cr) σ) : I.OneIdentity σ := by
  have hboth : I.Agrees σ ∧ σ.AllCarried I.IsAddressed := by
    refine h.invariant (I := fun τ => I.Agrees τ ∧ τ.AllCarried I.IsAddressed)
      ⟨agrees_scene hunbound hmark, ?_⟩
      (fun τ τ' t hτ ht hx => ⟨agrees_of_turn hτ.1 ht.1 ht.2 hx, allCarried_of_turn hτ.2 ht.1 hx⟩)
    intro key req hsent
    cases hsent
  exact Addressing.oneIdentity hboth.1 hboth.2

end Identified

end LitellmOperator
