import LitellmOperator.Lifecycle.Reconcilers

/-! # Replacing a model

When its auth mode changes a model is deleted in LiteLLM and created anew, and only then is the new
id stored. The protocol of this file follows the id through a reconcile: after a delete or a create
a status write is *due* that records what there is now, and it is the next status write that is
made. The stretch from a delete to the next status write, made or refused, is the *gap*; a
reconcile does not return in it.
-/

set_option autoImplicit false

namespace LitellmOperator

open Effect Protocol Go Kube Ctl

abbrev ModelOp : Type := Op LiteLLMModelSpec LiteLLMModelStatus ModelApi

namespace Model

structure Swap where
  /-- The resource as last decoded. -/
  copy : Option LiteLLMModel := none
  /-- What the next status write is to record: a model, or that there is none. -/
  due : Option (Option String) := none
  /-- The model was deleted, and no status write was tried since. -/
  gap : Bool := false

namespace Swap

/-- A request about the copy goes to the instance it refers to. -/
def Meant (s : Swap) (conn : ResolvedInstance) : Prop :=
  ∃ c, s.copy = some c ∧ conn.inst.metadata.key = kind.refKey c

def allowed (s : Swap) : ModelOp → Prop
  | .get _ => True
  | .update obj => ∃ c, s.copy = some c ∧ obj.rv = c.rv ∧ obj.spec = c.spec
  | .statusUpdate obj => ∃ c, s.copy = some c ∧ obj.rv = c.rv ∧
      idOf obj.status.litellmModelID = s.due.getD (idOf c.status.litellmModelID)
  | .read _ => True
  | .api conn (.create _) => s.Meant conn
  | .api conn (.delete _) => s.Meant conn ∧ s.due = none
  | .api _ _ => True
  | _ => False

/-- The resource is not being deleted, a write returns what was written, and a read the instance
asked for. -/
def expects (s : Swap) : (op : ModelOp) → op.Resp → Prop
  | .get _, .ok v => v.metadata.deleting = false
  | .update obj, .ok r => ∀ c, s.copy = some c → ∃ rv gen, r = (c.updated obj).stamp rv gen
  | .statusUpdate obj, .ok r =>
    ∀ c, s.copy = some c → ∃ rv gen, r = (c.withStatus obj.status).stamp rv gen
  | .read (.getInstance key), .ok i => (show LiteLLMInstance from i).metadata.key = key
  | _, _ => True

def next (s : Swap) : (op : ModelOp) → op.Resp → Swap
  | .get _, .ok v => { s with copy := some v }
  | .update _, .ok r => { s with copy := some r }
  | .statusUpdate _, .ok r => { copy := some r }
  | .statusUpdate _, .error _ => { s with gap := false }
  | .api _ (.create _), .ok resp =>
    { s with due := some (idOf (show ModelCreateResponse from resp).modelID) }
  | .api _ (.delete _), .ok _ => { s with due := some none, gap := true }
  | _, _ => s

end Swap

def swap : Protocol ModelOp Op.Resp Swap where
  allowed := Swap.allowed
  expects := Swap.expects
  next := Swap.next

/-! ## Assertions about the copy

`model` is the caller's copy of the resource. -/

/-- `model` differs from what was last decoded in the status only, and the status write that records
the id `y` is the one that is due. -/
structure Due (model : LiteLLMModel) (y : String) (s : Swap) : Prop where
  copy : ∃ c, s.copy = some c ∧ model = c.withStatus model.status ∧
    s.due.getD (idOf c.status.litellmModelID) = idOf y

/-- Nothing is due, and `model` has the id that was last decoded. -/
structure Calm (model : LiteLLMModel) (s : Swap) : Prop extends
    Due model model.status.litellmModelID s where
  due : s.due = none
  gap : s.gap = false

/-- The status of `v` may be written as the last thing a reconcile does. -/
structure Last (v : LiteLLMModel) (s : Swap) : Prop where
  gap : s.gap = false
  write : ∃ c, s.copy = some c ∧ v.rv = c.rv ∧
    idOf v.status.litellmModelID = s.due.getD (idOf c.status.litellmModelID)

variable {model v : LiteLLMModel} {s : Swap} {y : String} {lib : Ext} {conn : ResolvedInstance}

theorem calm_decoded (hc : s.copy = some model) (hd : s.due = none) (hg : s.gap = false) :
    Calm model s where
  copy := ⟨model, hc, rfl, by rw [hd]; rfl⟩
  due := hd
  gap := hg

variable {st : LiteLLMModelStatus}

theorem Due.last (h : Due model y s) (hg : s.gap = false) (hid : st.litellmModelID = y) :
    Last (model.withStatus st) s := by
  obtain ⟨c, hc, hnear, hdue⟩ := h.copy
  refine ⟨hg, c, hc, ?_, ?_⟩
  · rw [hnear]
    rfl
  · rw [hdue, ← hid]
    rfl

theorem Calm.last (h : Calm model s) : Last model s := h.toDue.last h.gap rfl

theorem Calm.withStatus (h : Calm model s) (hid : st.litellmModelID = model.status.litellmModelID) :
    Calm (model.withStatus st) s where
  copy := by
    obtain ⟨c, hc, hnear, hdue⟩ := h.copy
    refine ⟨c, hc, ?_, ?_⟩
    · rw [hnear]
      rfl
    · rw [hdue, ← hid]
      rfl
  due := h.due
  gap := h.gap

theorem Due.meant (h : Due model y s) (hkey : conn.inst.metadata.key = kind.refKey model) :
    s.Meant conn := by
  obtain ⟨c, hc, hnear, -⟩ := h.copy
  rw [hnear] at hkey
  exact ⟨c, hc, hkey⟩

/-! ## Reads -/

theorem wp_isRead {α : Type} {p : ModelCtl α} (hp : p.Uses Op.IsRead) {Q : α → Swap → Prop}
    (hQ : ∀ a, Q a s) : swap.wp p Q s := by
  have hsame : swap.wp p (fun _ s' => s' = s) s := by
    refine wp_of_uses hp rfl (fun op s' hop hs' => ?_)
    cases op with
    | read r => exact ⟨trivial, fun _ _ => hs'⟩
    | _ => exact hop.elim
  exact wp_mono hsame (fun a s' hs' => by rw [hs']; exact hQ a)

theorem wpE_isRead {α ε : Type} {p : ExceptT ε ModelCtl α} (hp : p.run.Uses Op.IsRead)
    {Q : α → Swap → Prop} {F : ε → Swap → Prop} (hQ : ∀ a, Q a s) (hF : ∀ e, F e s) :
    swap.wpE p Q F s := by
  refine wp_isRead hp (fun r => ?_)
  cases r with
  | error e => exact hF e
  | ok a => exact hQ a

theorem wpE_resolve {ns kindName : String} {ref : InstanceRef} {check : Bool}
    {Q : ResolvedInstance → Swap → Prop} {F : Error → Swap → Prop}
    (hQ : ∀ conn, conn.inst.metadata.key = ⟨ref.namespaceOr ns, ref.name⟩ → Q conn s)
    (hF : ∀ e, F e s) :
    swap.wpE (resolveInstanceRef lib client ns kindName ref check) Q F s := by
  unfold resolveInstanceRef
  rw [wpE_bind, wpE_orFail]
  refine ⟨trivial, fun r hr => ?_⟩
  rcases r with e | inst
  · exact hF _
  have hkey : inst.metadata.key = ⟨ref.namespaceOr ns, ref.name⟩ := hr
  have hcheck : (if check then checkAllowed lib client inst ns kindName else pure () :
      ExceptT Error ModelCtl Unit).run.Uses Op.IsRead := by
    cases check with
    | true => exact isRead_checkAllowed lib inst ns kindName
    | false => exact .pure
  -- what follows reads other objects
  show swap.wpE (_ >>= _) Q F s
  rw [wpE_bind]
  refine wpE_isRead hcheck (fun _ => ?_) hF
  rw [wpE_bind]
  refine wpE_isRead (uses_failIf _ _) (fun _ => ?_) hF
  rw [wpE_bind]
  refine wpE_isRead (uses_orFail (isRead_of_plain (uses_getSecretValue _ _))) (fun _ => ?_) hF
  rw [wpE_bind, wpE_lift]
  exact wp_isRead (isRead_of_plain (uses_operatorProxyCACert inst)) (fun _ => hQ _ hkey)

/-! ## Writes -/

variable {Q : Except Error LiteLLMModel → Swap → Prop}

/-- The status write that is due. It closes the gap, whether it is made or not. -/
theorem wp_record (h : Due model y s) (hid : st.litellmModelID = y)
    (hok : ∀ r s', Calm r s' → r.status = st → r.metadata.ns = model.metadata.ns →
      r.spec = model.spec → Q (.ok r) s')
    (herr : ∀ e s', Last (model.withStatus st) s' → Q (.error e) s') :
    swap.wp (statusUpdate (model.withStatus st)) Q s := by
  obtain ⟨c, hc, hnear, hdue⟩ := h.copy
  have hrv : (model.withStatus st).rv = c.rv := by
    rw [hnear]
    rfl
  have hids : idOf st.litellmModelID = s.due.getD (idOf c.status.litellmModelID) := by
    rw [hdue, hid]
  refine ⟨⟨c, hc, hrv, hids⟩, fun r hr => ?_⟩
  rcases r with e | r
  · exact herr e _ ⟨rfl, c, hc, hrv, hids⟩
  obtain ⟨rv, gen, rfl⟩ := hr c hc
  refine hok _ _ (calm_decoded rfl rfl rfl) rfl ?_ ?_
  · rw [hnear]
    rfl
  · rw [hnear]
    rfl

theorem wp_metadata (h : Calm model s) (hrv : v.rv = model.rv) (hspec : v.spec = model.spec)
    (hok : ∀ r s', Calm r s' → Q (.ok r) s') (herr : ∀ e, Q (.error e) s) :
    swap.wp (update v) Q s := by
  obtain ⟨c, hc, hnear, -⟩ := h.copy
  rw [hnear] at hrv hspec
  refine ⟨⟨c, hc, hrv, hspec⟩, fun r hr => ?_⟩
  cases r with
  | error e => exact herr e
  | ok r => exact hok r _ (calm_decoded rfl h.due h.gap)

/-! ## Pushing -/

variable {hash mode : String}

theorem wpE_recordSync_calm (h : Due model y s) :
    swap.wpE (recordSync model y hash mode) Calm (fun f s' => Last f.cr s') s := by
  unfold recordSync
  simp only [wpE_bind, wpE_orFail]
  refine wp_record h rfl (fun r s₁ h₁ _ _ _ => ?_) (fun _ _ hl => hl)
  refine wp_metadata h₁ ?_ ?_ (fun _ _ h₂ => h₂) (fun _ => ?_)
  · rfl
  · rfl
  · exact ⟨h₁.gap, h₁.last.write⟩

theorem Due.created {x : String} (h : Due model y s) : Due model x { s with due := some (idOf x) } where
  copy := by
    obtain ⟨c, hc, hnear, -⟩ := h.copy
    exact ⟨c, hc, hnear, rfl⟩

variable {req : ModelCreateRequest}

theorem wpE_createModel_calm (h : Calm model s)
    (hkey : conn.inst.metadata.key = kind.refKey model) :
    swap.wpE (createModel conn model req hash mode) Calm (fun f s' => Last f.cr s') s := by
  unfold createModel
  rw [wpE_bind, wpE_orFail]
  refine ⟨h.meant hkey, fun r _ => ?_⟩
  cases r with
  | error e => exact h.last
  | ok resp => exact wpE_recordSync_calm h.toDue.created

theorem wpE_clearModelID_last {e : Error} (h : Due model "" s) :
    swap.wpE (do
        let model ← ExceptT.lift (clearModelID model)
        throw (⟨model, after 30, wrapf "recreate model for auth-mode switch: " e⟩ : ModelFailure))
      (fun (v : LiteLLMModel) s' => Calm v s') (fun (f : ModelFailure) s' => Last f.cr s') s := by
  unfold clearModelID
  simp only [wpE_bind, wpE_lift, wp_bind]
  exact wp_record h rfl (fun _ _ h₁ _ _ _ => h₁.last) (fun _ _ hl => hl)

theorem wpE_recreateModel_calm (h : Calm model s)
    (hkey : conn.inst.metadata.key = kind.refKey model) :
    swap.wpE (recreateModel conn model req hash mode) Calm (fun f s' => Last f.cr s') s := by
  unfold recreateModel
  simp only [wpE_bind, wpE_orFail]
  refine ⟨⟨h.meant hkey, h.due⟩, fun r _ => ?_⟩
  rcases r with e | _
  · exact h.last
  have hdue : Due model "" { s with due := some none, gap := true } := by
    obtain ⟨c, hc, hnear, -⟩ := h.copy
    exact ⟨c, hc, hnear, rfl⟩
  simp only [wpE_lift]
  refine ⟨hdue.meant hkey, fun r _ => ?_⟩
  cases r with
  | error e => exact wpE_clearModelID_last hdue
  | ok resp => exact wpE_recordSync_calm hdue.created

theorem wpE_updateModel_calm (h : Calm model s) :
    swap.wpE (updateModel conn model req hash mode) Calm (fun f s' => Last f.cr s') s := by
  unfold updateModel
  simp only [wpE_bind, wpE_orFail]
  refine ⟨trivial, fun r _ => ?_⟩
  cases r with
  | error e => exact h.last
  | ok _ => exact wpE_recordSync_calm h.toDue

theorem wpE_pushModel_calm (h : Calm model s) (hkey : conn.inst.metadata.key = kind.refKey model) :
    swap.wpE (pushModel conn model req hash mode) Calm (fun f s' => Last f.cr s') s := by
  unfold pushModel
  split
  · exact wpE_createModel_calm h hkey
  · split
    · exact h
    · split
      · exact wpE_recreateModel_calm h hkey
      · exact wpE_updateModel_calm h

/-! ## The controller -/

theorem wp_reportHealth_calm (h : Calm model s) :
    swap.wp (reportHealth conn model) Calm s := by
  unfold reportHealth
  split
  · unfold updateModelHealth
    rw [wp_bind]
    refine ⟨trivial, fun r _ => ?_⟩
    cases r with
    | error e | ok report => exact h.withStatus rfl
  · exact h.withStatus rfl

theorem wpE_optionalSecretValue_calm {ref : Option SecretKeyRef} {pre : String} (h : Calm model s)
    {Q : String → Swap → Prop} (hQ : ∀ a, Q a s) :
    swap.wpE (optionalSecretValue model ref pre) Q (fun f s' => Last f.cr s') s := by
  rcases ref with _ | ref
  · exact hQ ""
  show swap.wpE (orFail _ _) Q _ s
  rw [wpE_orFail]
  refine wp_isRead (isRead_of_plain (uses_getSecretValue _ _)) (fun r => ?_)
  cases r with
  | error e => exact h.last
  | ok val => exact hQ val

theorem wpE_resolveParams_calm (h : Calm model s) {Q : ModelParams × String → Swap → Prop}
    (hQ : ∀ p, Q p s) : swap.wpE (resolveParams model) Q (fun f s' => Last f.cr s') s := by
  unfold resolveParams
  split
  · rw [wpE_bind, wpE_orFail]
    refine wp_isRead (isRead_of_plain (uses_resolveCredential _ _)) (fun r => ?_)
    cases r with
    | error e => exact h.last
    | ok cred => exact hQ _
  · simp only [wpE_bind]
    refine wpE_optionalSecretValue_calm h (fun _ => ?_)
    exact wpE_optionalSecretValue_calm h (fun _ => hQ _)

theorem wpE_reconcileModel_last (h : Calm model s)
    (hkey : conn.inst.metadata.key = kind.refKey model) :
    swap.wpE (reconcileModel lib model conn) (fun out s' => Last out.1 s')
      (fun f s' => Last f.cr s') s := by
  unfold reconcileModel
  simp only [wpE_bind, wpE_lift, wpE_pure]
  refine wpE_resolveParams_calm h (fun p => ?_)
  refine wpE_post (wpE_pushModel_calm h hkey) (fun v s₁ h₁ => ?_)
  exact wp_mono (wp_reportHealth_calm h₁) (fun _ _ h₂ => h₂.last)

theorem reports_swap : (controller lib).Reports swap Last (fun s' => s'.gap = false) := by
  rintro v s status reason message observed ⟨-, c, hc, hrv, hid⟩
  refine ⟨⟨c, hc, hrv, hid⟩, fun r _ => ?_⟩
  cases r with
  | error e | ok r => exact rfl

/-- **The model controller never returns between a delete and a status write.** -/
theorem follows_swap (lib : Ext) (req : NamespacedName) :
    swap.wp (reconcile lib req) (fun _ s => s.gap = false) {} := by
  refine reports_swap.wp_reconcile (B := Calm) ⟨trivial, fun r hr => ?_⟩ (fun model s h => ?_)
    (fun model s h => wpE_resolve (fun _ hkey => wpE_reconcileModel_last h hkey) (fun _ => h.last))
  · rcases r with e | model
    · exact rfl
    have hlive : model.metadata.deleting = false := hr
    refine ⟨fun hdel => ?_, fun _ => calm_decoded rfl rfl rfl⟩
    rw [hlive] at hdel
    cases hdel
  · refine wp_metadata h ?_ ?_ (fun _ _ h' => ?_) (fun _ => ?_)
    · rfl
    · rfl
    · exact h'
    · exact h.gap

end Model

/-! ## The model named by the status exists

Along a run of reconciles and edits, the stored status names a model that LiteLLM has, or none,
except in the gap of a reconcile that replaces the model. If the operator stops there, or the
status write that ends the gap is refused, the status keeps naming a model that is gone.
-/

namespace Model

abbrev ModelWorld : Type := World LiteLLMModelSpec LiteLLMModelStatus

/-- The model that the stored status names, if any, exists. -/
def Backed (w : ModelWorld) : Prop :=
  ∀ v ∈ w.store.current, ∀ x ∈ kind.bound v, (kind.refKey v, x) ∈ w.objects

instance (w : ModelWorld) : Decidable (Backed w) := by
  unfold Backed
  infer_instance

/-! ## The side condition -/

/-- The status write is made, and its answer arrives. -/
def goesThrough (w : ModelWorld) (obj : LiteLLMModel) : Reply ModelApi → Bool
  | .done => (w.store.statusUpdate obj).toOption.isSome
  | _ => false

/-- Only edits that leave the instance alone, and no answer to a delete is lost. While the status
names a model that is gone, status writes go through and the operator does not crash. -/
def replacing : Guard ModelOp ModelWorld (Reply ModelApi) (Env LiteLLMModelSpec) where
  env w e :=
    match e with
    | .edit spec => ∀ v ∈ w.store.current, spec.instanceRef = v.spec.instanceRef
    | _ => False
  reply w op rep :=
    match op with
    | .statusUpdate obj => Backed w ∨ goesThrough w obj rep = true
    | .api _ (.delete _) => rep.isLost = false
    | _ => True
  crash w := Backed w

/-! ## The invariant -/

/-- What holds in every configuration of such a run of a resource that refers to `key`. -/
structure Replaceable (key : NamespacedName) (w : ModelWorld) (s? : Option Swap) : Prop where
  versions : ∀ v ∈ w.store.versions, kind.refKey v = key ∧ v.metadata.deleting = false
  copy : ∀ s c, s? = some s → s.copy = some c → c ∈ w.store.versions
  /-- The model that is due to be recorded exists. -/
  due : ∀ s y, s? = some s → s.due = some (some y) → (key, y) ∈ w.objects
  /-- In the gap something is due. -/
  gap : ∀ s, s? = some s → s.gap = true → s.due.isSome = true
  backed : Backed w ∨ ∃ s, s? = some s ∧ s.gap = true

variable {key : NamespacedName} {w w' : ModelWorld} {s s' : Swap} {s? : Option Swap}
variable {lib : Ext} {home : String} {store : Store LiteLLMModelSpec LiteLLMModelStatus}

theorem replaceable_idle (hv : ∀ v ∈ w.store.versions, kind.refKey v = key ∧
    v.metadata.deleting = false) (h : Backed w) : Replaceable key w none :=
  ⟨hv, fun _ _ hs => (by cases hs), fun _ _ hs => (by cases hs), fun _ hs => (by cases hs), .inl h⟩

variable {cur v r : LiteLLMModel}

theorem versions_of_written
    (h : ∀ v ∈ w.store.versions, kind.refKey v = key ∧ v.metadata.deleting = false)
    (hw : Store.Written w.store cur v r store) (hkey : kind.refKey v = kind.refKey cur)
    (hdel : v.metadata.deleting = cur.metadata.deleting) :
    ∀ x ∈ store.versions, kind.refKey x = key ∧ x.metadata.deleting = false := by
  intro x hx
  rcases hw.only x hx with rfl | hold
  · obtain ⟨rv, gen, rfl⟩ := hw.stored
    obtain ⟨hk, hd⟩ := h cur (Store.mem_of_current hw.was)
    exact ⟨hkey.trans hk, hdel.trans hd⟩
  · exact h x hold

theorem backed_of_written (hw : Store.Written w.store cur v r store)
    (hb : ∀ x ∈ kind.bound v, (kind.refKey v, x) ∈ w.objects) :
    Backed { w with store := store } := by
  intro v' hv'
  rcases hw.now with hnow | hnow
  · obtain ⟨rv, gen, rfl⟩ := hw.stored
    obtain rfl := Option.some.inj (hnow.symm.trans hv')
    exact hb
  · rw [show Store.current _ = none from hnow] at hv'
    cases hv'

theorem backed_of_kept (hw : Store.Written w.store cur v r store)
    (hkey : kind.refKey v = kind.refKey cur) (hst : v.status = cur.status) (h : Backed w) :
    Backed { w with store := store } := by
  refine backed_of_written hw (fun x hx => ?_)
  rw [hkey]
  have hsame : kind.bound cur = kind.bound v := by
    show idOf cur.status.litellmModelID = idOf v.status.litellmModelID
    rw [hst]
  refine h cur hw.was x ?_
  rw [hsame]
  exact hx

theorem Replaceable.restore (h : Replaceable key w (some s))
    (hv : ∀ v ∈ store.versions, kind.refKey v = key ∧ v.metadata.deleting = false)
    (hcopy : ∀ c, s'.copy = some c → c ∈ store.versions) (hdue : s'.due = s.due ∨ s'.due = none)
    (hgap : s'.gap = true → s'.due = s.due ∧ s.gap = true)
    (hb : Backed { w with store := store } ∨ s'.gap = true) :
    Replaceable key { w with store := store } (some s') where
  versions := hv
  copy t c ht hc := by
    cases ht
    exact hcopy c hc
  due t y ht hy := by
    cases ht
    rcases hdue with heq | hnone
    · rw [heq] at hy
      exact h.due s y rfl hy
    · rw [hnone] at hy
      cases hy
  gap t ht hg := by
    cases ht
    obtain ⟨heq, hs⟩ := hgap hg
    rw [heq]
    exact h.gap s rfl hs
  backed := hb.imp id (fun hg => ⟨s', rfl, hg⟩)

theorem Replaceable.backed_or (h : Replaceable key w (some s)) : Backed w ∨ s.gap = true := by
  rcases h.backed with hb | ⟨t, ht, hg⟩
  · exact .inl hb
  · cases ht
    exact .inr hg

/-! ### Calls -/

/-- The call was answered as expected, and the invariant holds after it. -/
def Keeps (key : NamespacedName) (s : Swap) (op : ModelOp) (r : op.Resp) (w' : ModelWorld) : Prop :=
  s.expects op r ∧ Replaceable key w' (some (s.next op r))

variable {r : Except Error LiteLLMModel} {obj : LiteLLMModel}

theorem keeps_update {lost : Option Error} (h : Replaceable key w (some s))
    (ha : s.allowed (.update obj)) (hx : w.commit (w.store.update obj) lost = (r, w')) :
    Keeps key s (.update obj) r w' := by
  obtain ⟨c, hc, hrv, hspec⟩ := ha
  rcases committed_cases hx with ⟨v, store, hok, rfl, hr⟩ | ⟨e, rfl, rfl⟩
  · have hw := Store.written_of_update hok (h.copy s c rfl hc) hrv
    have hkey : kind.refKey (c.updated obj) = kind.refKey c := by
      show (⟨obj.spec.instanceRef.namespaceOr c.metadata.ns, obj.spec.instanceRef.name⟩ :
        NamespacedName) = kind.refKey c
      rw [hspec]
      rfl
    have hv := versions_of_written h.versions hw hkey rfl
    have hb := h.backed_or.imp (backed_of_kept hw hkey rfl) id
    rcases hr with ⟨-, rfl⟩ | ⟨e, -, rfl⟩
    · refine ⟨fun c' hc' => ?_, h.restore hv (fun c' hc' => ?_) (.inl rfl) (fun hg => ⟨rfl, hg⟩) hb⟩
      · obtain rfl := Option.some.inj (hc.symm.trans hc')
        exact hw.stored
      · obtain rfl := Option.some.inj hc'
        exact hw.mem
    · exact ⟨trivial, h.restore hv (fun c' hc' => hw.grows c' (h.copy s c' rfl hc')) (.inl rfl)
        (fun hg => ⟨rfl, hg⟩) hb⟩
  · exact ⟨trivial, h⟩

theorem keeps_statusUpdate {lost : Option Error} (h : Replaceable key w (some s))
    (ha : s.allowed (.statusUpdate obj)) (hG : Backed w ∨ ∀ e, r ≠ .error e)
    (hx : w.commit (w.store.statusUpdate obj) lost = (r, w')) :
    Keeps key s (.statusUpdate obj) r w' := by
  obtain ⟨c, hc, hrv, hid⟩ := ha
  rcases committed_cases hx with ⟨v, store, hok, rfl, hr⟩ | ⟨e, rfl, rfl⟩
  · have hw := Store.written_of_statusUpdate hok (h.copy s c rfl hc) hrv
    have hv := versions_of_written h.versions hw rfl rfl
    have hckey := (h.versions c (h.copy s c rfl hc)).1
    have hb : Backed { w with store := store } := by
      refine backed_of_written hw (fun x hx => ?_)
      have hx' : s.due.getD (idOf c.status.litellmModelID) = some x := hid.symm.trans hx
      show (kind.refKey c, x) ∈ w.objects
      cases hdue : s.due with
      | none =>
        -- nothing is due, so this is not the gap and the same id is written
        rw [hdue] at hx'
        rcases h.backed_or with hb | hg
        · exact hb c hw.was x hx'
        · have := h.gap s rfl hg
          rw [hdue] at this
          cases this
      | some m =>
        rw [hdue] at hx'
        have hm : s.due = some (some x) := by rw [hdue]; exact congrArg some hx'
        rw [hckey]
        exact h.due s x rfl hm
    rcases hr with ⟨-, rfl⟩ | ⟨e, -, rfl⟩
    · refine ⟨fun c' hc' => ?_, h.restore hv (fun c' hc' => ?_) (.inr rfl) nofun (.inl hb)⟩
      · obtain rfl := Option.some.inj (hc.symm.trans hc')
        exact hw.stored
      · obtain rfl := Option.some.inj hc'
        exact hw.mem
    · exact ⟨trivial, h.restore hv (fun c' hc' => hw.grows c' (h.copy s c' rfl hc')) (.inl rfl) nofun
        (.inl hb)⟩
  · have hb : Backed w' := hG.resolve_right (fun hne => hne e rfl)
    exact ⟨trivial, h.restore h.versions (fun c' hc' => h.copy s c' rfl hc') (.inl rfl) nofun (.inl hb)⟩

theorem Replaceable.grow (h : Replaceable key w s?) (hstore : w'.store = w.store)
    (hobjects : ∀ o ∈ w.objects, o ∈ w'.objects) : Replaceable key w' s? where
  versions := by
    rw [hstore]
    exact h.versions
  copy := by
    rw [hstore]
    exact h.copy
  due s y hs hy := hobjects _ (h.due s y hs hy)
  gap := h.gap
  backed := by
    refine h.backed.imp (fun hb v hv x hx => ?_) id
    rw [hstore] at hv
    exact hobjects _ (hb v hv x hx)

variable {conn : ResolvedInstance}

theorem serve_create {body : ModelCreateRequest} (resp : ModelCreateResponse) :
    World.serve kind lib home w conn (.create body) resp =
      match idOf resp.modelID with
      | some x => w.having (conn.inst.metadata.key, x) (admits lib conn.inst home kindModel w.ns)
      | none => w := rfl

theorem keeps_create {body : ModelCreateRequest} {resp : ModelCreateResponse} (lost : Option Error)
    (h : Replaceable key w (some s)) (ha : s.Meant conn) :
    Keeps key s (.api conn (.create body)) (match lost with
      | none => .ok resp
      | some e => .error e) (World.serve kind lib home w conn (.create body) resp) := by
  have hgrow : Replaceable key (World.serve kind lib home w conn (.create body) resp) (some s) := by
    rw [serve_create]
    split
    · exact h.grow rfl (fun o ho => List.mem_cons_of_mem _ ho)
    · exact h
  cases lost with
  | some e => exact ⟨trivial, hgrow⟩
  | none =>
    refine ⟨trivial, hgrow.versions, ?_, ?_, ?_, ?_⟩
    · intro t c ht hc
      cases ht
      exact hgrow.copy s c rfl hc
    · intro t y ht hy
      cases ht
      have hid : idOf resp.modelID = some y := Option.some.inj hy
      obtain ⟨c, hc, hkey⟩ := ha
      rw [serve_create, hid, hkey, (h.versions c (h.copy s c rfl hc)).1]
      exact List.mem_cons_self
    · intro t ht _
      cases ht
      rfl
    · exact hgrow.backed_or.imp id (fun hg => ⟨_, rfl, hg⟩)

theorem keeps_delete {id : String} (h : Replaceable key w (some s)) :
    Keeps key s (.api conn (.delete id)) (.ok ()) (World.serve kind lib home w conn (.delete id) ())
    where
  left := trivial
  right :=
    { versions := h.versions
      copy := by
        intro t c ht hc
        cases ht
        exact h.copy s c rfl hc
      due := by
        intro t y ht hy
        cases ht
        cases hy
      gap := by
        intro t ht _
        cases ht
        rfl
      backed := .inr ⟨_, rfl, rfl⟩ }

variable {rep : Reply ModelApi}

theorem keeps_api {req : ModelApi} {r : Except Error (Service.Result req)}
    (h : Replaceable key w (some s)) (ha : s.allowed (.api conn req))
    (hG : replacing.reply w (.api conn req) rep)
    (hx : World.answer kind lib home w (.api conn req) rep = some (r, w')) :
    Keeps key s (.api conn req) r w' := by
  cases rep with
  | fail e =>
    cases hx
    cases req with
    | _ => exact ⟨trivial, h⟩
  | served result lost =>
    obtain ⟨a, -, heq⟩ := Option.map_eq_some_iff.mp hx
    cases req with
    | create body =>
      cases heq
      cases lost with
      | none => exact keeps_create none h ha
      | some e => exact keeps_create (some e) h ha
    | delete id =>
      cases lost with
      | none =>
        cases heq
        exact keeps_delete h
      | some e => cases hG
    | update body | check =>
      cases lost with
      | none => cases heq; exact ⟨trivial, h⟩
      | some e => cases heq; exact ⟨trivial, h⟩
  | _ => cases hx

theorem goesThrough_iff (hg : goesThrough w obj rep = true)
    (hx : World.answer kind lib home w (.statusUpdate obj) rep = some (r, w')) :
    ∀ e, r ≠ .error e := by
  cases rep with
  | done =>
    have hc : w.commit (w.store.statusUpdate obj) none = (r, w') := Option.some.inj hx
    cases hout : w.store.statusUpdate obj with
    | error e =>
      simp only [goesThrough, hout] at hg
      cases hg
    | ok out =>
      rw [hout] at hc
      cases hc
      exact fun e he => by cases he
  | _ => cases hg

/-- **Step.** Every call keeps the invariant. -/
theorem keeps {op : ModelOp} {r : op.Resp} (h : Replaceable key w (some s)) (ha : s.allowed op)
    (hG : replacing.reply w op rep) (hx : World.answer kind lib home w op rep = some (r, w')) :
    Keeps key s op r w' := by
  cases op with
  | get k =>
    cases rep with
    | fail e => cases hx; exact ⟨trivial, h⟩
    | cached age =>
      obtain ⟨v, hv, heq⟩ := Option.map_eq_some_iff.mp hx
      cases heq
      have hmem : v ∈ w.store.versions := List.mem_of_getElem? hv
      refine ⟨(h.versions v hmem).2, h.restore h.versions (fun c hc => ?_) (.inl rfl)
        (fun hg => ⟨rfl, hg⟩) h.backed_or⟩
      cases hc
      exact hmem
    | _ => cases hx
  | update obj =>
    cases rep with
    | fail e => cases hx; exact ⟨trivial, h⟩
    | done | lost e => exact keeps_update h ha (Option.some.inj hx)
    | _ => cases hx
  | statusUpdate obj =>
    have hG' : Backed w ∨ ∀ e, r ≠ .error e := hG.imp id (fun hg => goesThrough_iff hg hx)
    cases rep with
    | fail e =>
      cases hx
      have hb : Backed w := hG'.resolve_right (fun hne => hne e rfl)
      exact ⟨trivial, h.restore h.versions (fun c' hc' => h.copy s c' rfl hc') (.inl rfl) nofun
        (.inl hb)⟩
    | done | lost e => exact keeps_statusUpdate h ha hG' (Option.some.inj hx)
    | _ => cases hx
  | read q =>
    have hsame : ∀ out, Replaceable key (w.noted q out) (some s) := by
      intro out
      cases q <;> cases out <;> exact h.grow rfl (fun _ ho => ho)
    cases rep with
    | fail e =>
      cases hx
      cases q <;> exact ⟨trivial, hsame _⟩
    | found obj =>
      obtain ⟨o, -, ho⟩ := Option.bind_eq_some_iff.mp hx
      by_cases hfits : q.fits o = true
      · rw [if_pos hfits] at ho
        cases ho
        cases q with
        | getInstance k =>
          have hk : (show LiteLLMInstance from o).metadata.key = k := of_decide_eq_true hfits
          exact ⟨hk, hsame _⟩
        | _ => exact ⟨trivial, hsame _⟩
      · rw [if_neg hfits] at ho
        cases ho
    | _ => cases hx
  | api conn req => exact keeps_api h ha hG hx
  | _ => exact ha.elim

theorem replaceable_edit {spec : LiteLLMModelSpec} (h : Replaceable key w s?)
    (hG : replacing.env w (.edit spec)) (hx : w.store.edit spec = some store) :
    Replaceable key { w with store := store } s? := by
  obtain ⟨cur, r, hw⟩ := Store.edit_some hx
  have hkey : kind.refKey { cur with spec := spec } = kind.refKey cur := by
    have href := hG cur hw.was
    show (⟨spec.instanceRef.namespaceOr cur.metadata.ns, spec.instanceRef.name⟩ : NamespacedName) = _
    rw [href]
    rfl
  exact
    { versions := versions_of_written h.versions hw hkey rfl
      copy := fun s c hs hc => hw.grows c (h.copy s c hs hc)
      due := h.due
      gap := h.gap
      backed := h.backed.imp (backed_of_kept hw hkey rfl) id }

theorem replaceable_invariant (lib : Ext) (req : NamespacedName) (key : NamespacedName) :
    Invariant (Reconciler.model.machine lib req) swap replacing {} (fun s => s.gap = false)
      (Replaceable key) where
  main := by
    show swap.wp (reconcile lib req >>= fun _ => pure ()) _ _
    rw [Protocol.wp_bind]
    exact follows_swap lib req
  env w w' e s? h hG hx := by
    cases e with
    | edit spec =>
      obtain ⟨store, hst, rfl⟩ := Option.map_eq_some_iff.mp hx
      exact replaceable_edit h hG hst
    | _ => exact hG.elim
  start w h := by
    refine ⟨h.versions, fun s c hs hc => ?_, fun s y hs hy => ?_, fun s hs hg => ?_, ?_⟩
    · cases hs
      cases hc
    · cases hs
      cases hy
    · cases hs
      cases hg
    · rcases h.backed with hb | ⟨s, hs, -⟩
      · exact .inl hb
      · cases hs
  step w w' s op rep r h ha hG hx := keeps h ha hG hx
  finish w s h hf := by
    refine replaceable_idle h.versions (h.backed_or.resolve_right (fun hg => ?_))
    rw [hf] at hg
    cases hg
  crash w s h hc := replaceable_idle h.versions hc

/-- **Run.** Between two reconciles the model named by the status exists. -/
theorem backed_of_reaches {req : NamespacedName} {cr : LiteLLMModel} {c : Reconciler.model.RConf}
    (hlive : cr.metadata.deleting = false) (hid : cr.status.litellmModelID = "")
    (h : (Reconciler.model.machine lib req).Reaches replacing (Reconciler.model.initial cr) c)
    (hidle : c.running = none) : Replaceable (kind.refKey cr) c.world none := by
  refine (replaceable_invariant lib req (kind.refKey cr)).reach_idle ?_ h hidle
  refine replaceable_idle (fun v hv => ?_) (fun v hv x hx => ?_)
  · obtain rfl := List.mem_singleton.mp hv
    exact ⟨rfl, hlive⟩
  · obtain rfl : cr = v := Option.some.inj hv
    have hnone : kind.bound cr = none := idOf_eq_none.mpr hid
    rw [hnone] at hx
    cases hx

end Model

end LitellmOperator
