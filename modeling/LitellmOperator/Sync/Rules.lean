import LitellmOperator.Pass.Run

/-! # What the sync hash remembers

A controller pushes a spec to LiteLLM and then stores, in an annotation of the resource, a hash of
what it pushed; a later reconcile that computes the same hash pushes nothing. `HashSync` collects
what this looks like for one kind: what the hash is taken of, which requests push, and which body
a request must carry. What a pass may do with the hash is said once, in `Ends`; each kind proves
that its reconcile ends so (the other modules of `Sync/`).

The hash is sound when it is the hash of what was pushed last (`HashSync.Sound`). Every turn of a
run keeps that, as long as no write fails between a push and the write of the hash
(`HashSync.sound_of_turn`).
-/

set_option autoImplicit false

namespace LitellmOperator

open Effect Go Kube Protocol Ctl Scene

/-- The sync hash stored on a resource; empty if there is none. -/
def syncHash {Spec Status : Type} (v : Resource Spec Status) : String :=
  annotationAt v annotationSyncHash

/-- How a kind of resource is pushed to LiteLLM. -/
structure Pushing where
  R : Reconciler
  /-- What of the status says which object the resource has. -/
  Tag : Type
  tag : R.Status → Tag
  /-- What the references of a spec resolve to. -/
  Refs : Type
  refs : R.RPass → String → R.Spec → Option Refs
  /-- What the hash is taken of. -/
  value : R.Spec → Refs → SpecValue
  /-- The object in LiteLLM. -/
  object : R.Spec → Tag → Option String
  /-- Whether a resource may be bound to an object that it has not pushed to. -/
  adopts : Bool
  /-- The object to which a request has pushed a body. -/
  pushed : Served R.Api → Option String
  /-- The request has the body that a create or an update, whichever it is, has for this spec. -/
  carries : R.Api → R.Spec → Tag → Refs → Prop
  /-- The status reports that the resource is in sync. -/
  synced : R.Status → Bool
  /-- What is asked of a pass and the resource it starts from. -/
  sane : Ext → R.RPass → R.CR → Prop

namespace Pushing

variable (S : Pushing)

/-- The instance that a spec refers to from a namespace. -/
def key (ns : String) (spec : S.R.Spec) : NamespacedName :=
  ⟨(S.R.kind.instanceRef spec).namespaceOr ns, (S.R.kind.instanceRef spec).name⟩

def pushes (log : List (Served S.R.Api)) : List (Obj × S.R.Api) :=
  log.filterMap (fun s => (S.pushed s).map (fun x => ((s.key, x), s.req)))

def last (log : List (Served S.R.Api)) (o : Obj) : Option S.R.Api :=
  ((S.pushes log).find? (fun p => p.1 = o)).map (·.2)

/-- A push has been made since the metadata was last written, over a stored hash. -/
def Ahead (τ : S.R.RScene) : Prop :=
  pending (fun s => (S.pushed s).isSome) τ.trace = true ∧ ∃ v, τ.Now v ∧ syncHash v ≠ ""

/-- No write fails while that is so. -/
abbrev Guarded (E : S.R.RPass) : Prop := ∀ τ, S.Ahead τ → E.fault τ = none

/-! ## What a pass does with the hash -/

section

variable (lib : Ext) (E : S.R.RPass) (σ : S.R.RScene) (cr : S.R.CR) (σ' : S.R.RScene) (c : S.R.CR)

/-- Nothing was pushed, and the hash is as it was. -/
structure Untouched : Prop where
  log : S.pushes σ'.log = S.pushes σ.log
  hash : syncHash c = syncHash cr
  tag : S.tag c.status = S.tag cr.status

/-- Nothing was pushed, because the stored hash is that of the spec. -/
structure Skipped (refs : S.Refs) : Prop extends S.Untouched σ cr σ' c where
  matched : syncHash cr = lib.computeSpecHash (S.value cr.spec refs)
  bound : ∃ x, S.object cr.spec (S.tag cr.status) = some x

/-- The body for the spec was pushed and its hash stored. -/
structure Recorded (refs : S.Refs) : Prop where
  hash : syncHash c = lib.computeSpecHash (S.value cr.spec refs)
  push : ∃ x req, S.pushes σ'.log = ((S.key cr.metadata.ns cr.spec, x), req) :: S.pushes σ.log ∧
    S.object cr.spec (S.tag c.status) = some x ∧ S.carries req cr.spec (S.tag c.status) refs

/-- The hash will not be relied on: there is none, or no object that it could be about. -/
def Forgotten : Prop :=
  syncHash c = "" ∨ (S.adopts = false ∧ ∀ s, S.object s (S.tag c.status) = none)

/-- The pass that started from `cr` has ended with `c` as the object. -/
structure Ends : Prop where
  now : σ'.Now c
  live : c.metadata.deleting = false
  spec : c.spec = cr.spec
  ns : c.metadata.ns = cr.metadata.ns
  outcome : S.Untouched σ cr σ' c ∨ S.Forgotten c ∨
    ∃ refs, S.refs E cr.metadata.ns cr.spec = some refs ∧ S.Recorded lib σ cr σ' c refs
  /-- Success is reported only for what was pushed, now or earlier. -/
  reports : ∀ r, σ'.reported = some r → S.synced r.status = true → r = c ∧
    ∃ refs, S.refs E cr.metadata.ns cr.spec = some refs ∧
      (S.Skipped lib σ cr σ' c refs ∨ S.Recorded lib σ cr σ' c refs)

end

end Pushing

/-- A kind that remembers what it pushed by the sync hash. -/
structure HashSync (lib : Ext) extends Pushing where
  /-- Equal hashed values are of equal specs. -/
  spec_of_value : ∀ s refs s' refs', value s refs = value s' refs' → s = s'
  /-- Whether there is an object is a matter of the tag. -/
  object_isSome : ∀ s s' t x, object s t = some x → ∃ x', object s' t = some x'
  bound_eq : ∀ v, syncHash v ≠ "" → R.kind.bound v = object v.spec (tag v.status) := by intros; rfl
  ends : ∀ (req : NamespacedName) (E : R.RPass) (σ : R.RScene) (cr : R.CR),
    σ.Now cr → cr.metadata.deleting = false →
    (adopts = true → ∀ s, object s (tag cr.status) = none → syncHash cr = "") → sane lib E cr →
    (∀ τ, toPushing.Ahead τ → E.fault τ = none) →
    (E.rules R.kind lib req.ns).wp (R.reconcile lib req)
      (fun _ σ' => ∃ c, toPushing.Ends lib E σ cr σ' c) σ

namespace HashSync

variable {lib : Ext} (S : HashSync lib)

/-- The pairs of a spec and what its references resolve to that occur in a run. -/
abbrev Occurs : Type := S.R.Spec → S.Refs → Prop

/-- No two of the values hashed in the run have the same hash. -/
def CollisionFree (U : S.Occurs) : Prop := ∀ s refs s' refs', U s refs → U s' refs' →
    lib.computeSpecHash (S.value s refs) = lib.computeSpecHash (S.value s' refs') →
    S.value s refs = S.value s' refs'

/-- What the references of a spec resolve to does not change, unless the hashed value does. -/
def Settled (U : S.Occurs) : Prop :=
  ∀ s refs refs', U s refs → U s refs' → S.value s refs = S.value s refs' → refs = refs'

/-! ## Soundness -/

/-- The stored hash is the hash of what was pushed last. -/
structure Sound (U : S.Occurs) (σ : S.R.RScene) (v : S.R.CR) : Prop where
  live : v.metadata.deleting = false
  /-- A resource that may adopt an object has no hash as long as it has none. -/
  unbound : S.adopts = true → ∀ s, S.object s (S.tag v.status) = none → syncHash v = ""
  hash : syncHash v ≠ "" → (∃ x, S.object v.spec (S.tag v.status) = some x) →
    ∃ s refs x req, U s refs ∧
    syncHash v = lib.computeSpecHash (S.value s refs) ∧ S.object s (S.tag v.status) = some x ∧
    S.last σ.log (S.key v.metadata.ns s, x) = some req ∧ S.carries req s (S.tag v.status) refs

/-- The turns considered: edits of the spec, and passes. -/
def Ordinary (U : S.Occurs) (σ : S.R.RScene) : S.R.Turn → Prop
  | .env e => ∃ spec, e = .edit spec
  | .pass E => ∀ cr, σ.Now cr → S.sane lib E cr ∧
      ∀ refs, S.refs E cr.metadata.ns cr.spec = some refs → U cr.spec refs

/-- Among them those in which no write fails between a push and the write of its hash. -/
def Meets (U : S.Occurs) (σ : S.R.RScene) : S.R.Turn → Prop
  | .env e => S.Ordinary U σ (.env e)
  | .pass E => (∀ τ, S.Ahead τ → E.fault τ = none) ∧ S.Ordinary U σ (.pass E)

variable {S} {U : S.Occurs} {σ σ' : S.R.RScene} {v c : S.R.CR}

theorem last_of_pushes {log log' : List (Served S.R.Api)} {o : Obj} {req : S.R.Api}
    (h : S.pushes log' = (o, req) :: S.pushes log) : S.last log' o = some req := by
  unfold Pushing.last
  rw [h, List.find?_cons_of_pos (by simp)]
  rfl

theorem Sound.edit {spec : S.R.Spec} {rv gen : Nat} (h : S.Sound U σ v)
    (hlog : σ'.log = σ.log) : S.Sound U σ' (Resource.stamp { v with spec := spec } rv gen) where
  live := h.live
  unbound := h.unbound
  hash hne hobj := by
    obtain ⟨x, hx⟩ := hobj
    rw [hlog]
    exact h.hash hne (S.object_isSome _ _ _ x hx)

variable {cr : S.R.CR}

theorem sound_of_recorded {refs : S.Refs} (hlive : c.metadata.deleting = false)
    (hns : c.metadata.ns = cr.metadata.ns) (hU : U cr.spec refs)
    (h : S.Recorded lib σ cr σ' c refs) : S.Sound U σ' c where
  live := hlive
  unbound := by
    intro _ s hs
    obtain ⟨x, -, -, hobj, -⟩ := h.push
    obtain ⟨x', hx'⟩ := S.object_isSome cr.spec s _ x hobj
    rw [hx'] at hs
    cases hs
  hash := by
    intro _ _
    obtain ⟨x, req, hlog, hobj, hcarries⟩ := h.push
    refine ⟨cr.spec, refs, x, req, hU, h.hash, hobj, ?_, hcarries⟩
    rw [hns]
    exact last_of_pushes hlog

variable {E : S.R.RPass}

theorem sound_of_ends (h : S.Sound U σ cr)
    (hU : ∀ refs, S.refs E cr.metadata.ns cr.spec = some refs → U cr.spec refs)
    (hends : S.Ends lib E σ cr σ' c) : S.Sound U σ' c := by
  rcases hends.outcome with hsame | hblank | ⟨refs, hrefs, hrec⟩
  · refine ⟨hends.live, fun ha s hs => ?_, fun hne hobj => ?_⟩
    · rw [hsame.tag] at hs
      rw [hsame.hash]
      exact h.unbound ha s hs
    · rw [hends.spec, hsame.tag] at hobj
      rw [hsame.hash] at hne ⊢
      rw [hsame.tag, hends.ns]
      unfold Pushing.last
      rw [hsame.log]
      exact h.hash hne hobj
  · rcases hblank with hblank | ⟨ha, hnone⟩
    · exact ⟨hends.live, fun _ _ _ => hblank, fun hne => absurd hblank hne⟩
    · refine ⟨hends.live, fun ha' => ?_, fun _ hobj => ?_⟩
      · rw [ha] at ha'
        cases ha'
      · obtain ⟨x, hx⟩ := hobj
        rw [hnone] at hx
        cases hx
  · exact sound_of_recorded hends.live hends.ns (hU refs hrefs) hrec

variable (S U) in
/-- The current resource, if there is one, has a sound hash. -/
def Held (σ : S.R.RScene) : Prop := ∃ v, σ.Now v ∧ S.Sound U σ v

theorem ends_of_pass (req : NamespacedName) (hnow : σ.Now cr) (h : S.Sound U σ cr)
    (hE : S.Meets U σ (.pass E)) : ∃ c, S.Ends lib E σ cr (Reconciler.done lib req σ E) c :=
  Pass.wp_run.mp (S.ends req E σ cr hnow h.live h.unbound (hE.2 cr hnow).1 hE.1)

variable {req : NamespacedName}

/-- **Step.** Every turn keeps the hash sound. -/
theorem sound_of_turn {t : S.R.Turn} (h : S.Held U σ) (ht : S.Meets U σ t)
    (hx : Reconciler.take lib req σ t = some σ') : S.Held U σ' := by
  obtain ⟨v, hnow, hv⟩ := h
  cases t with
  | env e =>
    obtain ⟨spec, rfl⟩ := ht
    obtain ⟨⟨rv, gen, hnow'⟩, htrace⟩ := Reconciler.now_of_edit hnow hv.live hx
    exact ⟨_, hnow', hv.edit (by unfold Scene.log; rw [htrace])⟩
  | pass E =>
    cases hx
    obtain ⟨c, hc⟩ := ends_of_pass req hnow hv ht
    exact ⟨c, hc.now, sound_of_ends hv (ht.2 v hnow).2 hc⟩

/-- **Run.** The hash is sound in every scene of a run. -/
theorem sound_of_run (hlive : cr.metadata.deleting = false) (hblank : syncHash cr = "")
    (h : Reconciler.Passes lib req (S.Meets U) (S.R.scene cr) σ) : S.Held U σ := by
  refine h.invariant ?_ (fun τ τ' t hτ ht hx => sound_of_turn hτ ht hx)
  exact ⟨cr, rfl, hlive, fun _ _ _ => hblank, fun hne => absurd hblank hne⟩

/-! ## What is reported -/

variable (S) in
/-- The last body pushed to the object of `r` is the one for its spec and its references. -/
def InSync (E : S.R.RPass) (σ : S.R.RScene) (r : S.R.CR) : Prop :=
  ∃ refs x req, S.refs E r.metadata.ns r.spec = some refs ∧ S.R.kind.bound r = some x ∧
    S.last σ.log (S.R.kind.refKey r, x) = some req ∧ S.carries req r.spec (S.tag r.status) refs

theorem inSync_of_ends {cr r : S.R.CR} (hfree : S.CollisionFree U) (hids : S.Settled U)
    (h : S.Sound U σ cr) (hU : ∀ refs, S.refs E cr.metadata.ns cr.spec = some refs → U cr.spec refs)
    (hends : S.Ends lib E σ cr σ' c) (hrep : σ'.reported = some r)
    (hsync : S.synced r.status = true) : S.InSync E σ' r := by
  obtain ⟨rfl, refs, hrefs, hcases⟩ := hends.reports r hrep hsync
  have hkey : S.R.kind.refKey r = S.key cr.metadata.ns cr.spec := by
    unfold Kind.refKey Pushing.key
    rw [hends.spec, hends.ns]
  rcases hcases with hsame | hrec
  · -- nothing was pushed: the hash says what was pushed last
    have hne : syncHash cr ≠ "" := by
      rw [hsame.matched]
      exact lib.computeSpecHash_ne _
    obtain ⟨s, refs', x, req, hU', hhash', hobj, hlast, hcarries⟩ := h.hash hne hsame.bound
    have hval := hfree s refs' cr.spec refs hU' (hU refs hrefs) (hhash'.symm.trans hsame.matched)
    obtain rfl : s = cr.spec := S.spec_of_value _ _ _ _ hval
    obtain rfl : refs' = refs := hids _ _ _ hU' (hU refs hrefs) hval
    refine ⟨refs', x, req, by rw [hends.ns, hends.spec]; exact hrefs, ?_, ?_, ?_⟩
    · rw [S.bound_eq r (by rw [hsame.hash]; exact hne), hends.spec, hsame.tag]
      exact hobj
    · rw [hkey]
      unfold Pushing.last at hlast ⊢
      rw [hsame.log]
      exact hlast
    · rw [hends.spec, hsame.tag]
      exact hcarries
  · obtain ⟨x, req, hlog, hobj, hcarries⟩ := hrec.push
    have hne : syncHash r ≠ "" := by
      rw [hrec.hash]
      exact lib.computeSpecHash_ne _
    refine ⟨refs, x, req, by rw [hends.ns, hends.spec]; exact hrefs, ?_, ?_, ?_⟩
    · rw [S.bound_eq r hne, hends.spec]
      exact hobj
    · rw [hkey]
      exact last_of_pushes hlog
    · rw [hends.spec]
      exact hcarries

theorem inSync_of_run {r : S.R.CR} (hfree : S.CollisionFree U) (hids : S.Settled U)
    (hlive : cr.metadata.deleting = false) (hblank : syncHash cr = "")
    (h : Reconciler.Passes lib req (S.Meets U) (S.R.scene cr) σ) (hE : S.Meets U σ (.pass E))
    (hrep : (Reconciler.done lib req σ E).reported = some r) (hsync : S.synced r.status = true) :
    S.InSync E (Reconciler.done lib req σ E) r := by
  obtain ⟨v, hnow, hv⟩ := sound_of_run hlive hblank h
  obtain ⟨c, hc⟩ := ends_of_pass req hnow hv hE
  exact inSync_of_ends hfree hids hv (hE.2 v hnow).2 hc hrep hsync

end HashSync

/-! ## Pushing and recording

Rules for the steps of a reconcile as far as the sync hash goes. `Done` says that the body is
pushed and the hash stored, `Partly` that the reconcile may stop here. What a kind does besides
pushing (members, logging, health) keeps both (`Aside`). `Shaped.ends` turns a body that ends so
into a pass that ends as `HashSync` demands.
-/

namespace Pushing

variable (S : Pushing) (lib : Ext) (E : S.R.RPass) (σ : S.R.RScene) (cr : S.R.CR)

/-- The resource stored now is `c`, with the spec of `cr`. -/
structure At (τ : S.R.RScene) (c : S.R.CR) : Prop where
  now : τ.Now c
  live : c.metadata.deleting = false
  spec : c.spec = cr.spec
  ns : c.metadata.ns = cr.metadata.ns

/-- What was stored is consistent: nothing was pushed, or what was pushed is recorded. -/
def Kept (τ : S.R.RScene) (c : S.R.CR) : Prop := S.Untouched σ cr τ c ∨
    ∃ refs, S.refs E cr.metadata.ns cr.spec = some refs ∧ S.Recorded lib σ cr τ c refs

/-- The reconcile may stop with the copy `v`: whether its report is stored or not, the hash will
not be relied on or is that of what was pushed last. -/
def Partly (τ : S.R.RScene) (v : S.R.CR) : Prop :=
  ∃ c, S.At cr τ c ∧ v.rv = c.rv ∧ (syncHash c = "" ∨
    (S.adopts = false ∧ (∀ s, S.object s (S.tag v.status) = none) ∧
      (S.Forgotten c ∨ S.Kept lib E σ cr τ c)) ∨
    (S.tag v.status = S.tag c.status ∧ S.Kept lib E σ cr τ c))

/-- The reconcile may report success for the copy `v`. -/
def Done (τ : S.R.RScene) (v : S.R.CR) : Prop :=
  ∃ c, S.At cr τ c ∧ v.rv = c.rv ∧ S.tag v.status = S.tag c.status ∧
    ∃ refs, S.refs E cr.metadata.ns cr.spec = some refs ∧
      (S.Skipped lib σ cr τ c refs ∨ S.Recorded lib σ cr τ c refs)

/-- `p` ends with what it has pushed recorded, or stops where it may. -/
abbrev Finishes {α : Type} (home : String) (copy : α → S.R.CR)
    (p : ExceptT (Failure S.R.Spec S.R.Status) (Ctl S.R.Spec S.R.Status S.R.Api) α)
    (τ : S.R.RScene) : Prop :=
  (E.rules S.R.kind lib home).wpE p (fun a τ' => S.Done lib E σ cr τ' (copy a))
    (fun f τ' => S.Partly lib E σ cr τ' f.cr) τ

/-- Between the two scenes nothing was pushed or written. -/
structure Aside (τ τ' : S.R.RScene) : Prop where
  store : τ'.world.store = τ.world.store
  log : S.pushes τ'.log = S.pushes τ.log

variable {S lib E σ cr} {τ τ' : S.R.RScene} {c v v' : S.R.CR}

theorem Aside.refl (τ : S.R.RScene) : S.Aside τ τ := ⟨rfl, rfl⟩

theorem aside_of_quiet (h : Quiet τ τ') : S.Aside τ τ' := ⟨h.store, by rw [h.log]⟩

theorem aside_of_beside {N : S.R.Api → Prop}
    (hN : ∀ req, N req → ∀ key a, S.pushed ⟨key, req, a⟩ = none) (h : Beside N τ τ') :
    S.Aside τ τ' := by
  obtain ⟨l, hl, hN'⟩ := h.log
  refine ⟨h.store, ?_⟩
  have hnone : l.filterMap (fun s => (S.pushed s).map (fun x => ((s.key, x), s.req))) = [] := by
    refine List.filterMap_eq_nil_iff.mpr (fun s hs => ?_)
    rw [hN s.req (hN' s hs) s.key s.result]
    rfl
  unfold pushes
  rw [hl, List.filterMap_append, hnone]
  rfl

theorem At.aside (h : S.At cr τ c) (ha : S.Aside τ τ') : S.At cr τ' c where
  now := by
    unfold Scene.Now
    rw [ha.store]
    exact h.now
  live := h.live
  spec := h.spec
  ns := h.ns

theorem Untouched.aside (h : S.Untouched σ cr τ c) (ha : S.Aside τ τ') : S.Untouched σ cr τ' c :=
  ⟨ha.log.trans h.log, h.hash, h.tag⟩

theorem Skipped.aside {refs : S.Refs} (h : S.Skipped lib σ cr τ c refs) (ha : S.Aside τ τ') :
    S.Skipped lib σ cr τ' c refs :=
  ⟨h.toUntouched.aside ha, h.matched, h.bound⟩

theorem Recorded.aside {refs : S.Refs} (h : S.Recorded lib σ cr τ c refs) (ha : S.Aside τ τ') :
    S.Recorded lib σ cr τ' c refs := by
  refine ⟨h.hash, ?_⟩
  rw [ha.log]
  exact h.push

theorem Kept.aside (h : S.Kept lib E σ cr τ c) (ha : S.Aside τ τ') : S.Kept lib E σ cr τ' c := by
  rcases h with hsame | ⟨refs, hrefs, hrec⟩
  · exact .inl (hsame.aside ha)
  · exact .inr ⟨refs, hrefs, hrec.aside ha⟩

theorem Done.aside (h : S.Done lib E σ cr τ v) (ha : S.Aside τ τ') (hrv : v'.rv = v.rv)
    (htag : S.tag v'.status = S.tag v.status) : S.Done lib E σ cr τ' v' := by
  obtain ⟨c, hat, hv, ht, refs, hrefs, hcases⟩ := h
  refine ⟨c, hat.aside ha, hrv.trans hv, htag.trans ht, refs, hrefs, ?_⟩
  rcases hcases with hsame | hrec
  · exact .inl (hsame.aside ha)
  · exact .inr (hrec.aside ha)

theorem Done.partly (h : S.Done lib E σ cr τ v) : S.Partly lib E σ cr τ v := by
  obtain ⟨c, hat, hv, ht, refs, hrefs, hcases⟩ := h
  refine ⟨c, hat, hv, .inr (.inr ⟨ht, ?_⟩)⟩
  rcases hcases with hsame | hrec
  · exact .inl hsame.toUntouched
  · exact .inr ⟨refs, hrefs, hrec⟩

variable {lib' : Ext} {home : String}

variable {conn : ResolvedInstance} {req : S.R.Api}

variable {Q : Except Error (Service.Result req) → S.R.RScene → Prop}

theorem wp_aside (hreq : ∀ key a, S.pushed ⟨key, req, a⟩ = none)
    (hQ : ∀ r τ', S.Aside τ τ' → Q r τ') : (E.rules S.R.kind lib' home).wp (api conn req) Q τ := by
  refine Pass.wp_api (fun a τ' _ hc => hQ _ τ' ⟨hc.store, ?_⟩)
    (fun e τ' _ hq => hQ _ τ' (aside_of_quiet hq))
  unfold pushes
  rw [hc.log, List.filterMap_cons, hreq]
  rfl

/-! ## Storing the hash -/

theorem lookup_stamp_updated (c v : S.R.CR) (hash : String) (rv gen : Nat) :
    syncHash ((c.updated (annotate v annotationSyncHash hash)).stamp rv gen) = hash :=
  lookup_assign_self _ _ _

theorem wpE_storeSyncHash {hash : String} (hat : S.At cr τ c) (hrv : v.rv = c.rv)
    (hspec : v.spec = c.spec) {Q : S.R.CR → S.R.RScene → Prop}
    {F : Failure S.R.Spec S.R.Status → S.R.RScene → Prop}
    (hok : ∀ r τ', S.At cr τ' r → syncHash r = hash → r.status = c.status → Rest τ τ' → Q r τ')
    (hfault : ∀ f e τ', E.fault τ = some e → f.cr.rv = c.rv → f.cr.status = v.status →
      Quiet τ τ' → F f τ') :
    (E.rules S.R.kind lib' home).wpE (storeSyncHash v hash) Q F τ := by
  unfold storeSyncHash
  rw [wpE_orFail]
  refine Pass.wp_update hat.now ?_ hat.live (fun r τ' hst => ?_) (fun e τ' he hq _ => ?_)
  · exact hrv
  · obtain ⟨rv, gen, rfl⟩ := hst.stamped
    exact hok _ τ' ⟨hst.now, hat.live, hspec.trans hat.spec, hat.ns⟩
      (lookup_stamp_updated c v hash rv gen) rfl hst.rest
  · exact hfault _ e τ' he hrv rfl hq

theorem wp_storeStatus (hat : S.At cr τ c) (hrv : v.rv = c.rv)
    {Q : Except Error S.R.CR → S.R.RScene → Prop}
    (hok : ∀ r τ', S.At cr τ' r → syncHash r = syncHash c → r.status = v.status → Rest τ τ' →
      (∀ p, pending p τ'.trace = pending p τ.trace) → Q (.ok r) τ')
    (hfault : ∀ e τ', E.fault τ = some e → Quiet τ τ' → Q (.error e) τ') :
    (E.rules S.R.kind lib' home).wp (statusUpdate v) Q τ := by
  refine Pass.wp_statusUpdate hat.now hrv hat.live (fun r τ' hst hp _ => ?_)
    (fun e τ' he hq _ => hfault e τ' he hq)
  obtain ⟨rv, gen, rfl⟩ := hst.stamped
  exact hok _ τ' ⟨hst.now, hat.live, hat.spec, hat.ns⟩ rfl rfl hst.rest hp

theorem wpE_markAdopted (hat : S.At cr τ v) {Q : S.R.CR → S.R.RScene → Prop}
    {F : S.R.CR × Error → S.R.RScene → Prop}
    (hok : ∀ r τ', S.At cr τ' r → syncHash r = syncHash v → r.status = v.status → Rest τ τ' →
      Q r τ')
    (hfault : ∀ f τ', f.1.rv = v.rv → f.1.status = v.status → Quiet τ τ' → F f τ') :
    (E.rules S.R.kind lib' home).wpE (markAdopted v) Q F τ := by
  unfold markAdopted
  rw [wpE_orFail]
  refine Pass.wp_update hat.now ?_ hat.live (fun r τ' hst => ?_) (fun e τ' _ hq _ => ?_)
  · rfl
  · obtain ⟨rv, gen, rfl⟩ := hst.stamped
    refine hok _ τ' ⟨hst.now, hat.live, hat.spec, hat.ns⟩ ?_ rfl hst.rest
    exact lookup_assign_ne _ _ (by decide)
  · exact hfault _ τ' rfl rfl hq

/-! ## Pushing -/

variable (S σ cr) in
/-- The reconcile may push: it holds the resource as it is stored and nothing was pushed yet. The
hash is as it was, or there is none. -/
structure Ready (conn : ResolvedInstance) (τ : S.R.RScene) (v : S.R.CR) : Prop
    extends S.At cr τ v where
  log : S.pushes τ.log = S.pushes σ.log
  same : (syncHash v = syncHash cr ∧ S.tag v.status = S.tag cr.status) ∨ syncHash v = ""
  key : conn.inst.metadata.key = S.key cr.metadata.ns cr.spec

theorem Ready.partly (h : S.Ready σ cr conn τ v) : S.Partly lib E σ cr τ v := by
  refine ⟨v, h.toAt, rfl, ?_⟩
  rcases h.same with ⟨hhash, htag⟩ | hblank
  · exact .inr (.inr ⟨rfl, .inl ⟨h.log, hhash, htag⟩⟩)
  · exact .inl hblank

theorem Ready.aside (h : S.Ready σ cr conn τ v) (ha : S.Aside τ τ') : S.Ready σ cr conn τ' v :=
  ⟨h.toAt.aside ha, ha.log.trans h.log, h.same, h.key⟩

theorem Ready.quiet (h : S.Ready σ cr conn τ v) (hq : Quiet τ τ') :
    S.Ready σ cr conn τ' v := h.aside (aside_of_quiet hq)

theorem Ready.blank {s : S.R.Spec} (h : S.Ready σ cr conn τ v)
    (hunbound : ∀ s, S.object s (S.tag cr.status) = none → syncHash cr = "")
    (hv : S.object s (S.tag v.status) = none) : syncHash v = "" := by
  rcases h.same with ⟨hhash, htag⟩ | hblank
  · rw [hhash]
    rw [htag] at hv
    exact hunbound s hv
  · exact hblank

theorem Ready.done_of_skip {refs : S.Refs} (h : S.Ready σ cr conn τ v)
    (hrefs : S.refs E cr.metadata.ns cr.spec = some refs)
    (hskip : syncHash v = lib.computeSpecHash (S.value cr.spec refs)) {x : String}
    (hobj : S.object cr.spec (S.tag v.status) = some x) : S.Done lib E σ cr τ v := by
  rcases h.same with ⟨hhash, htag⟩ | hblank
  · rw [htag] at hobj
    exact ⟨v, h.toAt, rfl, rfl, refs, hrefs,
      .inl ⟨⟨h.log, hhash, htag⟩, hhash.symm.trans hskip, x, hobj⟩⟩
  · rw [hskip] at hblank
    exact absurd hblank (lib.computeSpecHash_ne _)

variable (S σ cr) in
/-- `req` was carried out and has pushed to the object `x`, and its hash is to be stored. -/
structure Ripe (x : String) (req : S.R.Api) (τ : S.R.RScene) (c : S.R.CR) : Prop
    extends S.At cr τ c where
  log : S.pushes τ.log = ((S.key cr.metadata.ns cr.spec, x), req) :: S.pushes σ.log
  pending : pending (fun s => (S.pushed s).isSome) τ.trace = true ∨ syncHash c = ""

variable {x : String} {refs : S.Refs}

theorem wp_push (h : S.Ready σ cr conn τ v)
    (hok : ∀ a τ', E.serve τ conn req = .ok a →
      (∀ x, S.pushed ⟨conn.inst.metadata.key, req, a⟩ = some x → S.Ripe σ cr x req τ' v) →
      Q (.ok a) τ')
    (herr : ∀ e τ', E.serve τ conn req = .error e → S.Ready σ cr conn τ' v → Q (.error e) τ') :
    (E.rules S.R.kind lib' home).wp (api conn req) Q τ := by
  refine Pass.wp_api (fun a τ' ha hc => hok a τ' ha (fun x hx => ⟨⟨?_, h.live, h.spec, h.ns⟩,
    ?_, ?_⟩)) (fun e τ' he hq => herr e τ' he (h.quiet hq))
  · unfold Scene.Now
    rw [hc.store]
    exact h.now
  · rw [← h.log, ← h.key]
    unfold pushes
    rw [hc.log, List.filterMap_cons, hx]
    rfl
  · rw [hc.pending, hx]
    exact .inl rfl

/-- A write that follows a push fails only while no hash is stored. -/
theorem Ripe.blank_of_fault {e : Error} (h : S.Ripe σ cr x req τ c) (hguard : S.Guarded E)
    (he : E.fault τ = some e) : syncHash c = "" := by
  rcases h.pending with hp | hblank
  · by_contra hne
    rw [hguard τ ⟨hp, c, h.now, hne⟩] at he
    cases he
  · exact hblank

variable {r : S.R.CR}

theorem Ripe.recorded (h : S.Ripe σ cr x req τ c) (hrest : Rest τ τ')
    (hhash : syncHash r = lib.computeSpecHash (S.value cr.spec refs))
    (hobj : S.object cr.spec (S.tag r.status) = some x)
    (hcarries : S.carries req cr.spec (S.tag r.status) refs) : S.Recorded lib σ cr τ' r refs := by
  refine ⟨hhash, x, req, ?_, hobj, hcarries⟩
  rw [hrest.log]
  exact h.log

theorem wpE_recordHash {hash : String} (h : S.Ripe σ cr x req τ c) (hguard : S.Guarded E)
    (hrefs : S.refs E cr.metadata.ns cr.spec = some refs)
    (hhash : hash = lib.computeSpecHash (S.value cr.spec refs)) (hrv : v.rv = c.rv)
    (hspec : v.spec = c.spec) (hobj : S.object cr.spec (S.tag c.status) = some x)
    (hcarries : S.carries req cr.spec (S.tag c.status) refs) :
    (E.rules S.R.kind lib' home).wpE (storeSyncHash v hash)
      (fun r τ' => S.Done lib E σ cr τ' r) (fun f τ' => S.Partly lib E σ cr τ' f.cr) τ := by
  refine wpE_storeSyncHash h.toAt hrv hspec (fun r τ' hat hr hst hrest => ?_)
    (fun f e τ' he hf _ hq => ?_)
  · refine ⟨r, hat, rfl, rfl, refs, hrefs, .inr ?_⟩
    exact h.recorded hrest (hr.trans hhash) (by rw [hst]; exact hobj) (by rw [hst]; exact hcarries)
  · exact ⟨c, h.toAt.aside (aside_of_quiet hq), hf, .inl (h.blank_of_fault hguard he)⟩

theorem wpE_recordCreated {pre : String} {hash : S.R.Spec → String} (h : S.Ripe σ cr x req τ c)
    (hguard : S.Guarded E) (hrefs : S.refs E cr.metadata.ns cr.spec = some refs)
    (hhash : hash cr.spec = lib.computeSpecHash (S.value cr.spec refs)) (hrv : v.rv = c.rv)
    (hobj : S.object cr.spec (S.tag v.status) = some x)
    (hcarries : S.carries req cr.spec (S.tag v.status) refs) :
    (E.rules S.R.kind lib' home).wpE (recordCreated pre hash v)
      (fun r τ' => S.Done lib E σ cr τ' r) (fun f τ' => S.Partly lib E σ cr τ' f.cr) τ := by
  unfold recordCreated
  rw [wpE_bind, wpE_orFail]
  refine wp_storeStatus h.toAt hrv (fun r τ' hat hr hst hrest hp => ?_) (fun e τ' he hq => ?_)
  · have hripe : S.Ripe σ cr x req τ' r :=
      ⟨hat, by rw [hrest.log]; exact h.log, by rw [hp, hr]; exact h.pending⟩
    refine wpE_recordHash hripe hguard hrefs ?_ rfl rfl ?_ ?_
    · rw [hat.spec]
      exact hhash
    · rw [hst]
      exact hobj
    · rw [hst]
      exact hcarries
  · exact ⟨c, h.toAt.aside (aside_of_quiet hq), hrv, .inl (h.blank_of_fault hguard he)⟩

/-! ## From the body to the pass -/

/-- A kind whose reconcile has the common shape. -/
structure Shaped (S : Pushing) (lib : Ext) (k : Controller S.R.Spec S.R.Status S.R.Api) :
    Prop where
  reconcile : ∀ req, S.R.reconcile lib req = k.reconcile lib req := by intros; rfl
  instanceRef : k.instanceRef = S.R.kind.instanceRef := by rfl
  tag : ∀ st cs, S.tag (k.setConditions st cs) = S.tag st := by intros; rfl
  synced : ∀ st cs, S.synced (k.setConditions st cs) =
    isStatusConditionTrue cs conditionSynced := by intros; rfl

variable {k : Controller S.R.Spec S.R.Status S.R.Api}

theorem Shaped.synced_false (hs : Shaped S lib k) (v : S.R.CR) (reason message : String)
    (observed : Bool) :
    S.synced (k.setSynced v .false reason message observed).status = false := by
  unfold Controller.setSynced
  rw [hs.synced]
  exact isStatusConditionTrue_set_self _ _

/-- `r` differs from `c` in nothing the hash is about. -/
structure Restated (τ τ' : S.R.RScene) (c r : S.R.CR) : Prop where
  log : τ'.log = τ.log
  hash : syncHash r = syncHash c
  tag : S.tag r.status = S.tag c.status

theorem Untouched.restated (h : S.Untouched σ cr τ c) (hr : Restated τ τ' c r) :
    S.Untouched σ cr τ' r :=
  ⟨by rw [hr.log]; exact h.log, hr.hash.trans h.hash, hr.tag.trans h.tag⟩

theorem Skipped.restated (h : S.Skipped lib σ cr τ c refs) (hr : Restated τ τ' c r) :
    S.Skipped lib σ cr τ' r refs :=
  ⟨h.toUntouched.restated hr, h.matched, h.bound⟩

theorem Recorded.restated (h : S.Recorded lib σ cr τ c refs) (hr : Restated τ τ' c r) :
    S.Recorded lib σ cr τ' r refs := by
  refine ⟨hr.hash.trans h.hash, ?_⟩
  rw [hr.log, hr.tag]
  exact h.push

theorem Kept.restated (h : S.Kept lib E σ cr τ c) (hr : Restated τ τ' c r) :
    S.Kept lib E σ cr τ' r := by
  rcases h with hsame | ⟨refs, hrefs, hrec⟩
  · exact .inl (hsame.restated hr)
  · exact .inr ⟨refs, hrefs, hrec.restated hr⟩

theorem Shaped.restated (hs : Shaped S lib k) {status : ConditionStatus} {reason message : String}
    {observed : Bool} (htag : S.tag v.status = S.tag c.status)
    (hst : Stored τ (Pass.reportedAs k c v status reason message observed) r τ') :
    Restated τ τ' c r := by
  obtain ⟨rv, gen, rfl⟩ := hst.stamped
  exact ⟨hst.log, rfl, (hs.tag _ _).trans htag⟩

theorem At.reported {status : ConditionStatus} {reason message : String} {observed : Bool}
    (h : S.At cr τ c) (hst : Stored τ (Pass.reportedAs k c v status reason message observed) r τ') :
    S.At cr τ' r ∧ syncHash r = syncHash c := by
  obtain ⟨rv, gen, rfl⟩ := hst.stamped
  exact ⟨⟨hst.now, h.live, h.spec, h.ns⟩, rfl⟩

theorem ends_of_partly (hat : S.At cr τ r) (h : S.Forgotten r ∨ S.Kept lib E σ cr τ r)
    (hrep : ∀ r, τ.reported = some r → S.synced r.status = false) : S.Ends lib E σ cr τ r where
  now := hat.now
  live := hat.live
  spec := hat.spec
  ns := hat.ns
  outcome := by
    rcases h with hforgot | hsame | hrec
    · exact .inr (.inl hforgot)
    · exact .inl hsame
    · exact .inr (.inr hrec)
  reports := by
    intro r' hr' hsync
    rw [hrep r' hr'] at hsync
    cases hsync

theorem ends_of_done (hat : S.At cr τ r) (hrefs : S.refs E cr.metadata.ns cr.spec = some refs)
    (h : S.Skipped lib σ cr τ r refs ∨ S.Recorded lib σ cr τ r refs)
    (hrep : ∀ r', τ.reported = some r' → r' = r) : S.Ends lib E σ cr τ r where
  now := hat.now
  live := hat.live
  spec := hat.spec
  ns := hat.ns
  outcome := by
    rcases h with hsame | hrec
    · exact .inl hsame.toUntouched
    · exact .inr (.inr ⟨refs, hrefs, hrec⟩)
  reports r' hr' _ := ⟨hrep r' hr', refs, hrefs, h⟩

theorem Shaped.wp_report_ok (hs : Shaped S lib k) {result : Result} (h : S.Done lib E σ cr τ v) :
    (E.rules S.R.kind lib' home).wp (k.report (.ok (v, result)))
      (fun _ τ' => ∃ c, S.Ends lib E σ cr τ' c) τ := by
  obtain ⟨c, hat, hrv, htag, refs, hrefs, hcases⟩ := h
  refine Pass.wp_report_ok hat.now hrv hat.live (fun r τ' hst hrep => ?_) (fun e τ' _ hq hrep => ?_)
  · have hre := hs.restated htag hst
    refine ⟨r, ends_of_done (hat.reported hst).1 hrefs ?_ (fun r' hr' => ?_)⟩
    · rcases hcases with hsame | hrec
      · exact .inl (hsame.restated hre)
      · exact .inr (hrec.restated hre)
    · exact Option.some.inj (hr'.symm.trans hrep)
  · have ha := aside_of_quiet (S := S) hq
    refine ⟨c, ends_of_done (hat.aside ha) hrefs ?_ (fun r' hr' => ?_)⟩
    · rcases hcases with hsame | hrec
      · exact .inl (hsame.aside ha)
      · exact .inr (hrec.aside ha)
    · rw [hrep] at hr'
      cases hr'

theorem Shaped.wp_report_error (hs : Shaped S lib k) {f : Failure S.R.Spec S.R.Status}
    (h : S.Partly lib E σ cr τ f.cr) :
    (E.rules S.R.kind lib' home).wp (k.report (.error f))
      (fun _ τ' => ∃ c, S.Ends lib E σ cr τ' c) τ := by
  obtain ⟨c, hat, hrv, hcases⟩ := h
  refine Pass.wp_report_error hat.now hrv hat.live (fun _ _ _ _ r τ' hst hrep => ?_)
    (fun _ e τ' _ hq hrep => ?_)
  · refine ⟨r, ends_of_partly (hat.reported hst).1 ?_ (fun r' hr' => ?_)⟩
    · rcases hcases with hblank | ⟨ha, hnone, -⟩ | ⟨htag, hkept⟩
      · exact .inl (.inl ((hat.reported hst).2.trans hblank))
      · refine .inl (.inr ⟨ha, fun s => ?_⟩)
        obtain ⟨rv, gen, rfl⟩ := hst.stamped
        exact (congrArg (S.object s) (hs.tag _ _)).trans (hnone s)
      · exact .inr (hkept.restated (hs.restated htag hst))
    · obtain rfl := Option.some.inj (hr'.symm.trans hrep)
      obtain ⟨rv, gen, rfl⟩ := hst.stamped
      exact hs.synced_false _ _ _ _
  · have ha := aside_of_quiet (S := S) hq
    refine ⟨c, ends_of_partly (hat.aside ha) ?_ (fun r' hr' => ?_)⟩
    · rcases hcases with hblank | ⟨-, -, hforgot | hkept⟩ | ⟨-, hkept⟩
      · exact .inl (.inl hblank)
      · exact .inl hforgot
      · exact .inr (hkept.aside ha)
      · exact .inr (hkept.aside ha)
    · rw [hrep] at hr'
      cases hr'

theorem at_of_alike (hlive : cr.metadata.deleting = false) (hv : Pass.Alike cr v)
    (hnow : τ.Now v) : S.At cr τ v :=
  ⟨hnow, hv.deleting.trans hlive, hv.spec, hv.ns⟩

theorem untouched_of_alike (hv : Pass.Alike cr v) (hrest : Rest σ τ) : S.Untouched σ cr τ v where
  log := by rw [hrest.log]
  hash := by
    unfold syncHash annotationAt
    rw [hv.annotations]
  tag := by rw [hv.status]

/-- **From the body to the pass.** A reconcile of the common shape ends as it should if its body
does. -/
theorem Shaped.ends (hs : Shaped S lib k) {req : NamespacedName} (hnow : σ.Now cr)
    (hlive : cr.metadata.deleting = false)
    (hbody : ∀ conn v τ, S.Ready σ cr conn τ v → S.Untouched σ cr τ v →
      S.Finishes lib E σ cr req.ns (·.1) (k.body v conn) τ) :
    (E.rules S.R.kind lib req.ns).wp (S.R.reconcile lib req)
      (fun _ σ' => ∃ c, S.Ends lib E σ cr σ' c) σ := by
  rw [hs.reconcile]
  refine Pass.wp_reconcile hnow hlive (fun out v σ' hv hnow' hrest _ hrep => ?_)
    (fun e v reason message observed r σ₁ σ' _ hv _ hnow₁ hrest hst hrep => ?_)
    (fun conn v σ' hres hv _ hnow' hrest => ?_)
  · refine ⟨v, ends_of_partly (at_of_alike hlive hv hnow')
      (.inr (.inl (untouched_of_alike hv hrest))) (fun r hr => ?_)⟩
    rw [hrep] at hr
    cases hr
  · -- the instance did not resolve, which was reported
    obtain ⟨hat, -⟩ := (at_of_alike hlive hv hnow₁ : S.At cr σ₁ v).reported hst
    refine ⟨r, ends_of_partly hat (.inr (.inl ?_)) (fun r' hr' => ?_)⟩
    · exact (untouched_of_alike hv hrest).restated (hs.restated rfl hst)
    · obtain rfl := Option.some.inj (hr'.symm.trans hrep)
      obtain ⟨rv, gen, rfl⟩ := hst.stamped
      exact hs.synced_false _ _ _ _
  · have hkey := Pass.key_of_readOff hres
    rw [hs.instanceRef] at hkey
    have hsame : S.Untouched σ cr σ' v := untouched_of_alike hv hrest
    refine wpE_mono (hbody conn v σ' ?_ hsame)
      (fun out τ' hdone => hs.wp_report_ok hdone) (fun f τ' hpart => hs.wp_report_error hpart)
    exact ⟨at_of_alike hlive hv hnow', hsame.log, .inl ⟨hsame.hash, hsame.tag⟩, hkey⟩

end Pushing

end LitellmOperator
