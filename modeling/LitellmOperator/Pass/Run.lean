import LitellmOperator.Lifecycle.Reconcilers
import LitellmOperator.Pass.Reconcile

/-! # Runs of passes

A run of one resource is a sequence of turns: a reconcile that meets some `Pass`, or a step of the
environment. `Reconciler.Passes` is reachability by turns that satisfy a side condition, and
`Reconciler.take` executes a turn. Nothing happens between the calls of a reconcile.
-/

set_option autoImplicit false

namespace LitellmOperator

open Effect Go Kube Protocol Ctl Scene

namespace Reconciler

variable (R : Reconciler)

abbrev RScene : Type := Scene R.Spec R.Status R.Api

abbrev RPass : Type := Pass R.Spec R.Status R.Api

/-- What happens next in a run. -/
inductive Turn where
  | env (e : Env R.Spec)
  | pass (E : R.RPass)

def scene (cr : R.CR) : R.RScene := { world := World.initial cr }

variable {R} (lib : Ext) (req : NamespacedName)

/-- The scene after a reconcile. -/
def done (σ : R.RScene) (E : R.RPass) : R.RScene :=
  (E.run R.kind lib req.ns (R.reconcile lib req) σ).2

def take (σ : R.RScene) : R.Turn → Option R.RScene
  | .env e => (World.env R.cleared σ.world e).map (fun w => { σ with world := w })
  | .pass E => some (done lib req σ E)

/-- Take the turns one after the other. -/
def takeAll : R.RScene → List R.Turn → Option R.RScene
  | σ, [] => some σ
  | σ, t :: ts => (take lib req σ t).bind (fun σ' => takeAll σ' ts)

/-- `σ'` is reached from `σ` by turns that satisfy `G`, each seen with the scene before it. -/
inductive Passes (G : R.RScene → R.Turn → Prop) : R.RScene → R.RScene → Prop where
  | refl (σ : R.RScene) : Passes G σ σ
  | turn {σ σ' σ'' : R.RScene} {t : R.Turn} (h : Passes G σ σ') (ht : G σ' t)
      (hx : take lib req σ' t = some σ'') : Passes G σ σ''

variable {lib req} {G : R.RScene → R.Turn → Prop}

/-- **Invariants of runs.** What every turn keeps holds in every scene reached. -/
theorem Passes.invariant {I : R.RScene → Prop} {σ σ' : R.RScene} (h : Passes lib req G σ σ')
    (hinit : I σ) (hturn : ∀ τ τ' t, I τ → G τ t → take lib req τ t = some τ' → I τ') : I σ' := by
  induction h with
  | refl => exact hinit
  | turn _ ht hx ih => exact hturn _ _ _ ih ht hx

theorem now_of_edit {σ σ' : R.RScene} {v : R.CR} {spec : R.Spec} (hnow : σ.Now v)
    (hlive : v.metadata.deleting = false) (h : take lib req σ (.env (.edit spec)) = some σ') :
    (∃ rv gen, σ'.Now (Resource.stamp { v with spec := spec } rv gen)) ∧ σ'.trace = σ.trace := by
  obtain ⟨w, hw, rfl⟩ := Option.map_eq_some_iff.mp h
  obtain ⟨store, hstore, rfl⟩ := Option.map_eq_some_iff.mp hw
  obtain ⟨cur, hcur, rfl⟩ := Option.map_eq_some_iff.mp hstore
  obtain rfl : v = cur := Option.some.inj (hnow.symm.trans hcur)
  obtain ⟨rv, gen, hr⟩ := (Store.written_put hcur { v with spec := spec }).stored
  refine ⟨⟨rv, gen, ?_⟩, rfl⟩
  rw [← hr]
  exact Store.current_put hcur hlive

end Reconciler

/-! ## A small setting

The instances of the small setting of the lifecycle, each in the namespace it is looked up in. -/

namespace Sample

/-- Every instance and its master key is found. -/
def cluster : (r : Read) → Except Error r.Obj
  | .getInstance key => .ok { inst key.name with metadata := { name := key.name, ns := key.ns } }
  | .getSecret key => .ok (show Secret from
      { metadata := { name := key.name, ns := key.ns }, data := [("master-key", "sk-master")] })
  | _ => .error (.leaf (.kube Store.notFound))

theorem fits_cluster : ∀ r o, cluster r = .ok o → r.fits o = true := by
  intro r o h
  cases r with
  | getInstance key =>
    cases h
    exact decide_eq_true rfl
  | _ => rfl

/-- A pass in this setting. -/
def pass {Spec Status Api : Type} [Service Api] (fault : Scene Spec Status Api → Option Error)
    (served : (req : Api) → Option (Service.Result req)) : Pass Spec Status Api where
  cluster := cluster
  fits := fits_cluster
  fault := fault
  serve _ _ req := (served req).elim (.error (errorf "no answer")) .ok
  random _ := .ok []

end Sample

/-! ## Passes that report success

What can be said of a reconcile that ends by storing `Synced=True`, whatever has failed on its way
without keeping it from that: its body has returned, and its report was stored over the current
resource. Nothing has to be shown of bodies that fail (`Pass.wp_success`).
-/

namespace Pass

variable {Spec Status Api : Type} [Service Api] [DecidableEq Spec] [DecidableEq Status]
variable {K : Kind Spec Status Api} {lib : Ext} {home : String} {E : Pass Spec Status Api}
variable {σ : Scene Spec Status Api} {cr c : Resource Spec Status}
variable {k : Controller Spec Status Api}

theorem wp_true {α : Type} (p : Ctl Spec Status Api α) :
    (E.rules K lib home).wp p (fun _ _ => True) σ := wp_run.mpr trivial

theorem wp_statusUpdate_reported {obj : Resource Spec Status}
    {Q : Except Error (Resource Spec Status) → Scene Spec Status Api → Prop}
    (hQ : ∀ r σ', (∀ v, σ'.reported = some v → v.status = obj.status) → Q r σ') :
    (E.rules K lib home).wp (Ctl.statusUpdate obj) Q σ := by
  cases hf : E.fault σ with
  | some e =>
    refine wp_reply (commit_fault hf) (hQ _ _ (fun v hv => ?_))
    cases hv
  | none =>
    have hreply : E.reply K lib home σ (.statusUpdate obj) =
        σ.world.commit (σ.world.store.statusUpdate obj) none := by
      show E.commit σ _ = _
      simp only [commit, hf]
    cases hout : σ.world.store.statusUpdate obj with
    | error e =>
      rw [hout] at hreply
      refine wp_reply hreply (hQ _ _ (fun v hv => ?_))
      cases hv
    | ok out =>
      rw [hout] at hreply
      obtain ⟨cur, -, hw⟩ := Store.statusUpdate_ok hout
      refine wp_reply hreply (hQ _ _ (fun v hv => ?_))
      obtain rfl := Option.some.inj hv
      obtain ⟨rv, gen, hr⟩ := hw.stored
      exact (congrArg (·.status) hr).trans rfl

variable (k) in
/-- The pass has ended by storing `r`, which says that the resource is in sync. -/
structure Success (σ' : Scene Spec Status Api) (r : Resource Spec Status) : Prop where
  reported : σ'.reported = some r
  synced : isStatusConditionTrue (k.conditions r.status) conditionSynced = true

omit [DecidableEq Spec] [DecidableEq Status] in
theorem not_success {σ' : Scene Spec Status Api} {r v : Resource Spec Status}
    {reason message : String} {observed : Bool}
    (hcond : ∀ st cs, k.conditions (k.setConditions st cs) = cs)
    (hrep : ∀ r, σ'.reported = some r →
      r.status = (k.setSynced v .false reason message observed).status) : ¬ Success k σ' r := by
  intro h
  have hfalse : isStatusConditionTrue (k.conditions r.status) conditionSynced = false := by
    rw [hrep r h.reported]
    unfold Controller.setSynced
    dsimp only
    rw [hcond]
    exact isStatusConditionTrue_set_self _ _
  rw [h.synced] at hfalse
  cases hfalse

variable {P : Resource Spec Status → Resource Spec Status → Scene Spec Status Api → Prop}

/-- A pass that ends with success is one whose body has returned and whose report is stored. -/
theorem wp_success {req : NamespacedName} (hnow : σ.Now cr) (hlive : cr.metadata.deleting = false)
    (hcond : ∀ st cs, k.conditions (k.setConditions st cs) = cs)
    (hbody : ∀ conn v τ, resolved lib E k cr = some (.ok conn) → Alike cr v → τ.Now v →
      Rest σ τ → (E.rules K lib home).wpE (k.body v conn)
        (fun out τ' => ∃ c, τ'.Now c ∧ out.1.rv = c.rv ∧ c.metadata.deleting = false ∧
          P out.1 c τ') (fun _ _ => True) τ) :
    (E.rules K lib home).wp (k.reconcile lib req) (fun _ σ' => ∀ r, Success k σ' r →
      ∃ v c τ, P v c τ ∧
        Stored τ (reportedAs k c v .true "Synced" k.syncedMessage k.observes) r σ') σ := by
  refine wp_reconcile hnow hlive (fun out v σ' _ _ _ _ hrep r hr => ?_)
    (fun e v reason message observed r' σ₁ σ' _ _ _ _ _ hst hrep r hr => ?_)
    (fun conn v τ hres hv _ hnow' hrest => ?_)
  · rw [hr.reported] at hrep
    cases hrep
  · have hstatus : ∀ r₀, σ'.reported = some r₀ →
        r₀.status = (k.setSynced v .false reason message observed).status := by
      intro r₀ hr₀
      obtain rfl := Option.some.inj (hr₀.symm.trans hrep)
      obtain ⟨rv, gen, rfl⟩ := hst.stamped
      rfl
    exact absurd hr (not_success hcond hstatus)
  · refine wpE_mono (hbody conn v τ hres hv hnow' hrest) (fun out τ' h => ?_) (fun f τ' _ => ?_)
    · obtain ⟨c, hc, hrv, hdel, hP⟩ := h
      refine wp_report_ok hc hrv hdel (fun r σ' hst hrep r' hr' => ?_)
        (fun e σ' _ _ hrep r' hr' => ?_)
      · obtain rfl := Option.some.inj (hrep.symm.trans hr'.reported)
        exact ⟨out.1, c, τ', hP, hst⟩
      · rw [hr'.reported] at hrep
        cases hrep
    · -- the body failed, and so it is reported
      unfold Controller.report
      dsimp only
      split
      · rw [wp_bind]
        exact wp_statusUpdate_reported (fun _ σ' hrep r hr => absurd hr (not_success hcond hrep))
      · rw [wp_bind]
        exact wp_statusUpdate_reported (fun _ σ' hrep r hr => absurd hr (not_success hcond hrep))

theorem of_success {req : NamespacedName} {r : Resource Spec Status} (hnow : σ.Now cr)
    (hlive : cr.metadata.deleting = false)
    (hcond : ∀ st cs, k.conditions (k.setConditions st cs) = cs)
    (hbody : ∀ conn v τ, resolved lib E k cr = some (.ok conn) → Alike cr v → τ.Now v →
      Rest σ τ → (E.rules K lib home).wpE (k.body v conn)
        (fun out τ' => ∃ c, τ'.Now c ∧ out.1.rv = c.rv ∧ c.metadata.deleting = false ∧
          P out.1 c τ') (fun _ _ => True) τ)
    (hr : Success k (E.run K lib home (k.reconcile lib req) σ).2 r) :
    ∃ v c τ, P v c τ ∧ Stored τ (reportedAs k c v .true "Synced" k.syncedMessage k.observes) r
      (E.run K lib home (k.reconcile lib req) σ).2 :=
  wp_run.mp (wp_success hnow hlive hcond hbody) r hr

end Pass

/-! ## Specs that are reconciled in turn

A resource is edited to one spec after the other, and each edit is followed by a reconcile that ends
with success. `Reconciler.Succession` is reachability by such steps, `Reconciler.succeed` executes
them.
-/

namespace Reconciler

variable {R : Reconciler} (lib : Ext) (req : NamespacedName)
variable (k : Controller R.Spec R.Status R.Api) (cr : R.CR)

variable (R) in
/-- A spec, and the reconcile that follows the edit to it. -/
abbrev Step : Type := R.Spec × R.RPass

/-- The scene is reached from a new resource by the given steps, which all satisfy `G`; newest
first. -/
inductive Succession (G : R.Step → Prop) : List R.Step → R.RScene → Prop where
  | start : Succession G [] (R.scene cr)
  | next {ps : List R.Step} {p : R.Step} {σ τ : R.RScene} {r : R.CR} (h : Succession G ps σ)
      (hedit : take lib req σ (.env (.edit p.1)) = some τ) (hp : G p)
      (hr : Pass.Success k (done lib req τ p.2) r) : Succession G (p :: ps) (done lib req τ p.2)

/-- Take the steps, the oldest of which is the last, as long as each reconcile ends with success. -/
def succeed : List R.Step → Option R.RScene
  | [] => some (R.scene cr)
  | p :: ps => do
    let σ ← succeed ps
    let τ ← take lib req σ (.env (.edit p.1))
    let σ' := done lib req τ p.2
    if σ'.reported.any (fun r => isStatusConditionTrue (k.conditions r.status) conditionSynced)
      then some σ' else none

variable {lib req k cr} {G : R.Step → Prop}

theorem succession_of_succeed {ps : List R.Step} {σ : R.RScene} (hG : ∀ p ∈ ps, G p)
    (h : succeed lib req k cr ps = some σ) : Succession lib req k cr G ps σ := by
  induction ps generalizing σ with
  | nil =>
    cases h
    exact .start
  | cons p ps ih =>
    obtain ⟨σ₀, hσ₀, h⟩ := Option.bind_eq_some_iff.mp h
    obtain ⟨τ, hτ, h⟩ := Option.bind_eq_some_iff.mp h
    dsimp only at h
    split at h
    · rename_i hrep
      obtain ⟨r, hr, hsync⟩ := (Option.any_eq_true _ _).mp hrep
      cases h
      exact .next (ih (fun q hq => hG q (List.mem_cons_of_mem p hq)) hσ₀) hτ
        (hG p List.mem_cons_self) ⟨hr, hsync⟩
    · cases h

end Reconciler

/-! ## What a reconcile sends

The requests that a reconcile sends to LiteLLM, carried out or not, as they stand in the trace of
its calls. `Scene.Sent` says that nothing but requests of some kind was sent since an earlier scene,
`Scene.Asked` that one request was sent since then.
-/

section

variable {Spec Status Api : Type}

/-- A call that sends nothing but `N`. -/
def Op.Sends (N : ResolvedInstance → Api → Prop) : Op Spec Status Api → Prop
  | .api conn req => N conn req
  | _ => True

theorem Op.sends_of_isRead {N : ResolvedInstance → Api → Prop} (op : Op Spec Status Api)
    (h : op.IsRead) : op.Sends N := by
  cases op with
  | read r => trivial
  | _ => exact h.elim

variable [Service Api]

/-- Between the two scenes nothing but `N` was sent. -/
def Scene.Sent (N : ResolvedInstance → Api → Prop) (σ σ' : Scene Spec Status Api) : Prop :=
  ∃ t, σ'.trace = t ++ σ.trace ∧ ∀ e ∈ t, Op.Sends N e.1

/-- Calls were made between the two scenes. -/
def Scene.Later (σ σ' : Scene Spec Status Api) : Prop := ∃ t, σ'.trace = t ++ σ.trace

/-- Between the two scenes the request was sent. -/
def Scene.Asked (σ : Scene Spec Status Api) (conn : ResolvedInstance) (req : Api)
    (σ' : Scene Spec Status Api) : Prop :=
  ∃ t, σ'.trace = t ++ σ.trace ∧ ∃ e ∈ t, e.1 = .api conn req

variable {req : Api}

namespace Scene

variable {N N' : ResolvedInstance → Api → Prop} {σ σ' σ'' : Scene Spec Status Api}

theorem Sent.refl (σ : Scene Spec Status Api) : Sent N σ σ :=
  ⟨[], rfl, fun _ he => absurd he List.not_mem_nil⟩

theorem Sent.trans (h : Sent N σ σ') (h' : Sent N σ' σ'') : Sent N σ σ'' := by
  obtain ⟨t, ht, hN⟩ := h
  obtain ⟨t', ht', hN'⟩ := h'
  refine ⟨t' ++ t, by rw [ht', ht, List.append_assoc], fun e he => ?_⟩
  rcases List.mem_append.mp he with he | he
  · exact hN' e he
  · exact hN e he

theorem Sent.mono (h : Sent N σ σ') (hN : ∀ conn req, N conn req → N' conn req) :
    Sent N' σ σ' := by
  obtain ⟨t, ht, hall⟩ := h
  refine ⟨t, ht, fun e he => ?_⟩
  have hsends := hall e he
  generalize e.1 = op at hsends ⊢
  cases op with
  | api conn req => exact hN conn req hsends
  | _ => trivial

theorem Later.refl (σ : Scene Spec Status Api) : Later σ σ := ⟨[], rfl⟩

theorem Later.trans (h : Later σ σ') (h' : Later σ' σ'') : Later σ σ'' := by
  obtain ⟨t, ht⟩ := h
  obtain ⟨t', ht'⟩ := h'
  exact ⟨t' ++ t, by rw [ht', ht, List.append_assoc]⟩

theorem Asked.later {conn : ResolvedInstance} (h : Asked σ conn req σ') (h' : Later σ' σ'') :
    Asked σ conn req σ'' := by
  obtain ⟨t, ht, e, he, hop⟩ := h
  obtain ⟨t', ht'⟩ := h'
  exact ⟨t' ++ t, by rw [ht', ht, List.append_assoc], e, List.mem_append_right t' he, hop⟩

theorem Sent.of_asked {conn : ResolvedInstance} (h : Sent N σ σ') (hasked : Asked σ conn req σ') :
    N conn req := by
  obtain ⟨t, ht, hall⟩ := h
  obtain ⟨t', ht', e, he, hop⟩ := hasked
  obtain rfl : t' = t := List.append_cancel_right (ht'.symm.trans ht)
  have hsends := hall e he
  rw [hop] at hsends
  exact hsends

end Scene

namespace Pass

open Scene

variable {α : Type}
variable {K : Kind Spec Status Api} {lib : Ext} {home : String} {E : Pass Spec Status Api}
variable {N : ResolvedInstance → Api → Prop} {σ τ : Scene Spec Status Api}
variable {cr : Resource Spec Status} {k : Controller Spec Status Api}

/-! ## Programs that send nothing else -/

section

variable {hash pre : String} {digest : Spec → String}

theorem sends_api {conn : ResolvedInstance} (h : N conn req) :
    (api conn req : Ctl Spec Status Api _).Uses (Op.Sends N) :=
  .perform (show Op.Sends N (.api conn req) from h)

theorem sends_storeSyncHash :
    (storeSyncHash cr hash : ExceptT _ (Ctl Spec Status Api) _).run.Uses (Op.Sends N) :=
  uses_orFail (.perform trivial)

theorem sends_recordCreated :
    (recordCreated pre digest cr : ExceptT _ (Ctl Spec Status Api) _).run.Uses (Op.Sends N) :=
  uses_run_bind (uses_orFail (.perform trivial)) (fun _ => sends_storeSyncHash)

theorem sends_markAdopted :
    (markAdopted cr : ExceptT _ (Ctl Spec Status Api) _).run.Uses (Op.Sends N) :=
  uses_orFail (.perform trivial)

end

theorem sends_handleDeletion (hdelete : ∀ conn id, N conn (k.delete id)) :
    (handleDeletion lib k.instanceRef k.target k.delete cr).Uses (Op.Sends N) := by
  unfold handleDeletion
  split
  · have hupstream : (deleteUpstream lib k.instanceRef k.target k.delete cr).Uses (Op.Sends N) := by
      unfold deleteUpstream
      split
      · exact .pure
      · refine ((isRead_resolveInstanceRef lib _ _ _ _).mono Op.sends_of_isRead).bind (fun r => ?_)
        cases r with
        | error e => exact .pure
        | ok conn =>
          refine .bind ?_ (fun _ => .pure)
          exact .perform (show Op.Sends N (.api conn _) from hdelete conn _)
    refine hupstream.bind (fun _ => ?_)
    refine .bind (.perform trivial) (fun r => ?_)
    cases r with
    | error e | ok _ => exact .pure
  · exact .pure

theorem sends_ensureFinalizer : (ensureFinalizer cr).Uses (Op.Sends N) := by
  unfold ensureFinalizer
  split
  · exact .pure
  · exact .perform trivial

theorem sends_report (out : Except (Failure Spec Status) (Resource Spec Status × Result)) :
    (k.report out).Uses (Op.Sends N) := by
  unfold Controller.report
  cases out with
  | error f =>
    dsimp only
    split <;> exact .bind (.perform trivial) (fun _ => .pure)
  | ok out => exact .bind (.perform trivial) (fun _ => .pure)

/-! ## Runs -/

variable [DecidableEq Spec] [DecidableEq Status] {p : Ctl Spec Status Api α}

/-- A run has one end, of which both hold. -/
theorem wp_and {Q Q' : α → Scene Spec Status Api → Prop} (h : (E.rules K lib home).wp p Q τ)
    (h' : (E.rules K lib home).wp p Q' τ) :
    (E.rules K lib home).wp p (fun a τ' => Q a τ' ∧ Q' a τ') τ :=
  wp_run.mpr ⟨wp_run.mp h, wp_run.mp h'⟩

theorem wp_sent (hp : p.Uses (Op.Sends N)) :
    (E.rules K lib home).wp p (fun _ τ' => Sent N τ τ') τ := by
  refine wp_of_uses hp (I := fun τ' => Sent N τ τ') (Sent.refl τ) ?_
  intro op τ₁ hop h₁
  refine ⟨trivial, ?_⟩
  rintro _ rfl
  refine h₁.trans ⟨[_], rfl, fun e he => ?_⟩
  rw [List.mem_singleton.mp he]
  exact hop

variable {Q : α → Scene Spec Status Api → Prop}

theorem wp_sent_and (hp : p.Uses (Op.Sends N)) (h : (E.rules K lib home).wp p Q τ) :
    (E.rules K lib home).wp p (fun a τ' => Sent N τ τ' ∧ Q a τ') τ :=
  wp_and (wp_sent hp) h

theorem wp_sent_since (h : Sent N σ τ)
    (hp : (E.rules K lib home).wp p (fun _ τ' => Sent N τ τ') τ) :
    (E.rules K lib home).wp p (fun _ τ' => Sent N σ τ') τ :=
  wp_mono hp (fun _ _ h' => h.trans h')

theorem wp_later (h : Later σ τ) (hp : (E.rules K lib home).wp p Q τ) :
    (E.rules K lib home).wp p (fun a τ' => Later σ τ' ∧ Q a τ') τ := by
  refine wp_and ?_ hp
  refine wp_of_uses (Prog.uses_true p) (I := fun τ' => Later σ τ') h ?_
  intro op τ₁ _ h₁
  refine ⟨trivial, ?_⟩
  rintro _ rfl
  exact h₁.trans ⟨[_], rfl⟩

theorem wp_asked {conn : ResolvedInstance} (h : Later σ τ) :
    (E.rules K lib home).wp (Ctl.api conn req) (fun _ τ' => Asked σ conn req τ') τ := by
  refine ⟨trivial, ?_⟩
  rintro _ rfl
  obtain ⟨t, ht⟩ := h
  exact ⟨_ :: t, congrArg (_ :: ·) ht, _, List.mem_cons_self, rfl⟩

theorem wp_asked_since {conn : ResolvedInstance} (p : Ctl Spec Status Api α)
    (h : Asked σ conn req τ) : (E.rules K lib home).wp p (fun _ τ' => Asked σ conn req τ') τ := by
  have hp : (E.rules K lib home).wp p (fun _ _ => True) τ := wp_run.mpr trivial
  exact wp_mono (wp_later (Later.refl τ) hp) (fun _ _ h' => h.later h'.1)

section

variable {A B ε : Type} {conn : ResolvedInstance} {req : Api}

theorem wpE_asked_bind {p : ExceptT ε (Ctl Spec Status Api) A}
    {f : A → ExceptT ε (Ctl Spec Status Api) B}
    (hp : (E.rules K lib home).wpE p (fun _ τ' => Asked σ conn req τ')
      (fun _ τ' => Asked σ conn req τ') τ) :
    (E.rules K lib home).wpE (p >>= f) (fun _ τ' => Asked σ conn req τ')
      (fun _ τ' => Asked σ conn req τ') τ := by
  rw [wpE_bind]
  exact wpE_post hp (fun a τ' h => wpE_same.mpr (wp_asked_since _ h))

theorem wpE_asked_orFail {f : Error → ε} (h : Later σ τ) :
    (E.rules K lib home).wpE (orFail (api conn req) f) (fun _ τ' => Asked σ conn req τ')
      (fun _ τ' => Asked σ conn req τ') τ := by
  rw [wpE_orFail]
  refine wp_mono (wp_asked h) (fun r τ' h' => ?_)
  cases r <;> exact h'

end

/-! ## Looking something up first -/

section

variable {A B ε ε' : Type} {p : ExceptT ε (Ctl Spec Status Api) A} {f : ε → ε'}
variable {rest : A → ExceptT ε' (Ctl Spec Status Api) B}

theorem wp_lookup_sent (hp : p.run.Uses Op.IsRead)
    (hrest : ∀ a, readOff E.cluster p.run = some (.ok a) → ∀ τ,
      (E.rules K lib home).wp (rest a).run (fun _ τ' => Sent N τ τ') τ) :
    (E.rules K lib home).wp (orFail p.run f >>= rest).run (fun _ τ' => Sent N τ τ') τ := by
  rw [← wpE_same, wpE_bind, wpE_orFail]
  refine wp_mono (wp_sent_and (N := N) (hp.mono Op.sends_of_isRead)
    (wp_reads hp (fun a _ ha _ => ha))) ?_
  rintro r τ₁ ⟨hsent, hr⟩
  cases r with
  | error e => exact hsent
  | ok a => exact wpE_same.mpr (wp_sent_since hsent (hrest a hr τ₁))

theorem wp_lookup_asked {conn : ResolvedInstance} {asked : Api} {a : A}
    (hp : p.run.Uses Op.IsRead) (ha : readOff E.cluster p.run = some (.ok a)) (h : Later σ τ)
    (hrest : ∀ τ, Later σ τ →
      (E.rules K lib home).wp (rest a).run (fun _ τ' => Asked σ conn asked τ') τ) :
    (E.rules K lib home).wp (orFail p.run f >>= rest).run
      (fun _ τ' => Asked σ conn asked τ') τ := by
  rw [← wpE_same, wpE_bind, wpE_orFail]
  refine wp_mono (wp_later h (wp_reads hp (fun r _ hr _ => hr))) ?_
  rintro r τ₁ ⟨h₁, hr⟩
  obtain rfl := Option.some.inj (hr.symm.trans ha)
  exact wpE_same.mpr (hrest τ₁ h₁)

end

/-! ## The common part of a reconcile -/

/-- A reconcile sends what its body sends to the instance that the resource refers to, or a
deletion. -/
theorem wp_reconcile_sent {req : NamespacedName} (hnow : σ.Now cr)
    (hdelete : ∀ conn id, N conn (k.delete id))
    (hbody : ∀ conn v τ, resolved lib E k cr = some (.ok conn) → Alike cr v →
      (E.rules K lib home).wp (k.body v conn).run (fun _ τ' => Sent N τ τ') τ) :
    (E.rules K lib home).wp (k.reconcile lib req) (fun _ σ' => Sent N σ σ') σ := by
  unfold Controller.reconcile
  rw [wp_bind]
  have hget : (Ctl.get req : Ctl Spec Status Api _).Uses (Op.Sends N) := .perform trivial
  refine wp_mono (wp_sent_and hget (wp_get hnow (Q := fun r σ₁ => r = .ok cr ∧
    Quiet σ σ₁) (fun σ₁ hq => ⟨rfl, hq⟩))) ?_
  rintro _ σ₁ ⟨hsent₁, rfl, hq₁⟩
  dsimp only
  by_cases hdel : cr.metadata.deleting = true
  · rw [if_pos hdel]
    exact wp_sent_since hsent₁ (wp_sent (sends_handleDeletion hdelete))
  · rw [if_neg hdel, wp_bind]
    have hlive := Bool.eq_false_iff.mpr hdel
    refine wp_mono (wp_sent_and (N := N) sends_ensureFinalizer (wp_ensureFinalizer (hq₁.now hnow)
      hlive (Q := fun r _ => ∀ v, r = .ok v → Alike cr v)
      (fun v _ hv _ _ _ w hw => by cases hw; exact hv) (fun _ _ _ _ _ v hv => by cases hv))) ?_
    rintro r σ₂ ⟨hsent₂, halike⟩
    have hsent := hsent₁.trans hsent₂
    rcases r with e | v
    · exact hsent
    have hv := halike v rfl
    dsimp only
    unfold Controller.reconcileLive
    rw [wp_bind]
    refine wp_mono (wp_sent_and (N := N)
      ((isRead_resolveInstanceRef lib _ _ _ _).mono Op.sends_of_isRead)
      (wp_reads (isRead_resolveInstanceRef lib _ _ _ _) (fun out _ hout _ => hout))) ?_
    rintro out σ₃ ⟨hsent₃, hout⟩
    rw [hv.ns, hv.spec] at hout
    have hsent' := hsent.trans hsent₃
    rcases out with e | conn
    · refine wp_sent_since hsent' (wp_sent ?_)
      exact .bind (.perform trivial) (fun _ => .pure)
    dsimp only
    rw [wp_bind]
    refine wp_mono (hbody conn v σ₃ hout hv) (fun out σ₄ hsent₄ => ?_)
    exact wp_sent_since (hsent'.trans hsent₄) (wp_sent (sends_report out))

theorem wp_reconcile_asked {req : NamespacedName} {conn : ResolvedInstance} {asked : Api}
    (hnow : σ.Now cr) (hlive : cr.metadata.deleting = false)
    (hfin : containsFinalizer cr.metadata finalizerName = true)
    (hres : resolved lib E k cr = some (.ok conn))
    (hbody : ∀ τ, Later σ τ → (E.rules K lib home).wp (k.body cr conn).run
      (fun _ τ' => Asked σ conn asked τ') τ) :
    (E.rules K lib home).wp (k.reconcile lib req) (fun _ σ' => Asked σ conn asked σ') σ := by
  unfold Controller.reconcile
  rw [wp_bind]
  refine wp_mono (wp_later (Later.refl σ) (wp_get hnow (Q := fun r _ => r = .ok cr)
    (fun _ _ => rfl))) ?_
  rintro _ σ₁ ⟨h₁, rfl⟩
  dsimp only
  unfold ensureFinalizer
  rw [if_neg (by simp [hlive]), if_pos hfin, wp_bind, wp_pure]
  dsimp only
  unfold Controller.reconcileLive
  rw [wp_bind]
  refine wp_mono (wp_later h₁ (wp_reads (isRead_resolveInstanceRef lib _ _ _ _)
    (fun out _ hout _ => hout))) ?_
  rintro out σ₂ ⟨h₂, hout⟩
  obtain rfl := Option.some.inj (hout.symm.trans hres)
  dsimp only
  rw [wp_bind]
  exact wp_mono (hbody σ₂ h₂) (fun out σ₃ h₃ => wp_asked_since _ h₃)

theorem wp_handleDeletion_asked {instanceRef : Spec → InstanceRef}
    {target : Resource Spec Status → Option String} {delete : String → Api} {id : String}
    {conn : ResolvedInstance} (h : Later σ τ)
    (hfin : containsFinalizer cr.metadata finalizerName = true) (htarget : target cr = some id)
    (hres : readOff E.cluster (resolveInstanceForCleanup lib
      (client : Reader (Ctl Spec Status Api)) cr.metadata.ns (instanceRef cr.spec)).run =
        some (.ok conn)) :
    (E.rules K lib home).wp (handleDeletion lib instanceRef target delete cr)
      (fun _ τ' => Asked σ conn (delete id) τ') τ := by
  unfold handleDeletion deleteUpstream
  rw [if_pos hfin, htarget, wp_bind, wp_bind]
  refine wp_mono (wp_later h (wp_reads (isRead_resolveInstanceRef lib _ _ _ _)
    (fun out _ hout _ => hout))) ?_
  rintro out τ₁ ⟨h₁, hout⟩
  obtain rfl := Option.some.inj (hout.symm.trans hres)
  dsimp only
  rw [wp_bind]
  exact wp_mono (wp_asked h₁) (fun _ τ₂ h₂ => wp_asked_since _ h₂)

end Pass

end

end LitellmOperator
