import LitellmOperator.Session.Rules

/-! # The common part of the reconciles keeps to the session protocol

Resolving the instance puts the session into `Live`; the cleanup of a deleted resource and the
shape shared by seven controllers keep to the protocol if the part that differs between the
controllers, the body, does. `Controller.follows` leaves one obligation per controller: that its
body, started in `Live`, ends with a copy that can be reported.
-/

set_option autoImplicit false

namespace LitellmOperator

open Effect Protocol Go Kube Ctl

section

variable {Spec Status Api : Type} [Service Api]

/-! ## Reading along the way -/

def Op.PlainRead : Op Spec Status Api → Prop
  | .read r => r.Plain
  | _ => False

theorem uses_read {r : Read} (hr : r.Plain) :
    (Ctl.read r : Ctl Spec Status Api (Except Error r.Obj)).Uses Op.PlainRead :=
  .perform hr

theorem uses_getSecretValue (ns : String) (ref : Option SecretKeyRef) :
    (getSecretValue (client : Reader (Ctl Spec Status Api)) ns ref).run.Uses Op.PlainRead := by
  rcases ref with _ | ref
  · exact .pure
  refine uses_run_bind (uses_orFail (uses_read trivial)) (fun secret => ?_)
  cases secret.data.get? ref.key with
  | none | some val => exact .pure

theorem uses_readSecretKey (ns name key : String) :
    (readSecretKey (client : Reader (Ctl Spec Status Api)) ns name key).Uses Op.PlainRead := by
  refine .bind (uses_read trivial) (fun r => ?_)
  cases r with
  | error e | ok secret => exact .pure

theorem uses_operatorProxyCACert (inst : LiteLLMInstance) :
    (operatorProxyCACert (client : Reader (Ctl Spec Status Api)) inst).Uses Op.PlainRead := by
  unfold operatorProxyCACert
  split
  · exact .pure
  · split
    · exact .pure
    · refine (uses_readSecretKey _ _ _).bind (fun pem => ?_)
      split
      · exact .pure
      · unfold trustedCACert
        split
        · exact .pure
        · exact uses_readSecretKey _ _ _

namespace Kind

variable {K : Kind Spec Status Api} {lib : Ext} {s : Session Spec Status}
variable {cr : Resource Spec Status}

theorem Same.trans {s s' s'' : Session Spec Status} (h : Same s s') (h' : Same s' s'') :
    Same s s'' where
  copy := h'.copy.trans h.copy
  inst := h'.inst.trans h.inst
  ns := h'.ns.trans h.ns
  fresh := h'.fresh.trans h.fresh
  dropped := h'.dropped.trans h.dropped

theorem wp_plain {α : Type} {p : Ctl Spec Status Api α} (hp : p.Uses Op.PlainRead)
    {Q : α → Session Spec Status → Prop} (hQ : ∀ a s', Same s s' → Q a s') :
    (K.session lib).wp p Q s := by
  refine wp_mono (wp_of_uses hp ⟨rfl, rfl, rfl, rfl, rfl⟩ ?_) hQ
  intro op s' hop hs'
  cases op with
  | read r =>
    refine ⟨?_, fun a _ => hs'.trans (next_read_same hop a)⟩
    cases r <;> first
      | exact hop.elim
      | exact trivial
  | _ => exact hop.elim

/-! ## Resolving the instance -/

/-- The state between reading the instance and the first request: `cr` is held, nothing is
pending, and `inst` was read for it. -/
structure Resolving (K : Kind Spec Status Api) (cr : Resource Spec Status)
    (inst : LiteLLMInstance) (s : Session Spec Status) : Prop where
  copy : s.copy = some cr
  fresh : s.fresh = none
  held : s.inst = some (inst, cr)
  key : inst.metadata.key = K.refKey cr

variable {inst : LiteLLMInstance}

theorem Resolving.same {s' : Session Spec Status} (h : Resolving K cr inst s) (hs : Same s s') :
    Resolving K cr inst s' where
  copy := hs.copy.trans h.copy
  fresh := hs.fresh.trans h.fresh
  held := hs.inst.trans h.held
  key := h.key

/-- The answer of the namespace check is the one the session's record of the lookup gives. -/
theorem wp_instanceAllowsNamespace (h : Resolving K cr inst s)
    {Q : Except Error Bool → Session Spec Status → Prop}
    (hQ : ∀ s', Resolving K cr inst s' → Q (instanceAllowsNamespace lib (namespaceReader s'.ns)
      inst cr.metadata.ns) s') :
    (K.session lib).wp (instanceAllowsNamespace lib client inst cr.metadata.ns) Q s := by
  rcases instanceAllowsNamespace_cases lib inst cr.metadata.ns with ⟨r, hr⟩ | ⟨sel, hsel⟩
  · have hq := hQ s h
    rw [hr] at hq
    rw [hr]
    exact hq
  · rw [hsel]
    refine ⟨⟨cr, h.copy, rfl⟩, fun r _ => ?_⟩
    have hq := hQ (K.next s (.read (.getNamespace cr.metadata.ns)) r)
      ⟨h.copy, h.fresh, h.held, h.key⟩
    rw [hsel] at hq
    cases r with
    | error e | ok n => exact hq

variable {E : Error → Session Spec Status → Prop}

theorem wpE_checkAllowed {kind : String} (h : Resolving K cr inst s)
    {Q : Unit → Session Spec Status → Prop}
    (hok : ∀ s', Resolving K cr inst s' → admits lib inst cr.metadata.ns kind s'.ns = true → Q () s')
    (herr : ∀ e s', Resolving K cr inst s' → E e s') :
    (K.session lib).wpE (checkAllowed lib client inst cr.metadata.ns kind) Q E s := by
  unfold checkAllowed
  rw [wpE_bind, wpE_orFail]
  refine wp_instanceAllowsNamespace h (fun s' h' => ?_)
  have hadm := admits_eq lib inst cr.metadata.ns kind s'.ns
  generalize instanceAllowsNamespace lib (namespaceReader s'.ns) inst cr.metadata.ns = r at hadm ⊢
  rcases r with e | allowed
  · exact herr _ s' h'
  simp only [wpE_bind]
  refine wpE_failIf (fun _ => herr _ s' h') (fun hallowed => ?_)
  refine wpE_failIf (fun _ => herr _ s' h') (fun hkind => ?_)
  refine hok s' h' ?_
  rw [hadm]
  simpa using And.intro hallowed hkind

/-- Resolving the instance of the copy. With the check, the instance admits it. -/
theorem wpE_resolveInstanceRef {kind : String} {check : Bool} (hc : s.copy = some cr)
    (hf : s.fresh = none) {Q : ResolvedInstance → Session Spec Status → Prop}
    (hok : ∀ conn s', Resolving K cr conn.inst s' →
      (check = true → admits lib conn.inst cr.metadata.ns kind s'.ns = true) → Q conn s')
    (herr : ∀ e s', s'.copy = some cr → s'.fresh = none → E e s') :
    (K.session lib).wpE (resolveInstanceRef lib client cr.metadata.ns kind
      (K.instanceRef cr.spec) check) Q E s := by
  unfold resolveInstanceRef
  rw [wpE_bind, wpE_orFail]
  refine ⟨⟨hf, cr, hc, rfl⟩, fun r hr => ?_⟩
  rcases r with e | inst
  · exact herr _ _ hc hf
  have hres : Resolving K cr inst (K.next s (.read (.getInstance (K.refKey cr))) (.ok inst)) := by
    refine ⟨hc, hf, ?_, hr⟩
    show s.copy.map (fun c => (inst, c)) = some (inst, cr)
    rw [hc]
    rfl
  -- what is left once the check is behind
  have hrest : ∀ s', Resolving K cr inst s' →
      (check = true → admits lib inst cr.metadata.ns kind s'.ns = true) →
      (K.session lib).wpE (do
        failIf (!inst.status.ready)
          (errorf ("instance " ++ quote (K.instanceRef cr.spec).name ++ " is not ready"))
        let masterKey ← orFail (getSecretValue client inst.metadata.ns (masterKeyRef inst)).run
          (wrapf "get master key: ")
        let caCert ← ExceptT.lift (operatorProxyCACert client inst)
        pure (⟨inst.status.endpoint, masterKey, caCert, inst⟩ : ResolvedInstance)) Q E s' := by
    intro s' h' hadm
    rw [wpE_bind]
    refine wpE_failIf (fun _ => herr _ s' h'.copy h'.fresh) (fun _ => ?_)
    rw [wpE_bind, wpE_orFail]
    refine wp_plain (uses_getSecretValue _ _) (fun r s₁ hs₁ => ?_)
    have h₁ := h'.same hs₁
    rcases r with e | masterKey
    · exact herr _ s₁ h₁.copy h₁.fresh
    simp only [wpE_bind, wpE_lift, wpE_pure]
    refine wp_plain (uses_operatorProxyCACert _) (fun caCert s₂ hs₂ => ?_)
    refine hok _ s₂ (h₁.same hs₂) (fun hcheck => ?_)
    rw [hs₂.ns, hs₁.ns]
    exact hadm hcheck
  show (K.session lib).wpE ((if check then checkAllowed lib client inst cr.metadata.ns kind
    else pure () : ExceptT Error (Ctl Spec Status Api) Unit) >>= fun _ => _) Q E _
  rw [wpE_bind]
  cases check with
  | false => exact hrest _ hres (fun hcheck => by cases hcheck)
  | true =>
    exact wpE_checkAllowed hres (fun s' h' hadm => hrest s' h' (fun _ => hadm))
      (fun e s' h' => herr e s' h'.copy h'.fresh)

theorem Resolving.toLive {conn : ResolvedInstance} (h : Resolving K cr conn.inst s)
    (hd : cr.metadata.deleting = false)
    (ha : admits lib conn.inst cr.metadata.ns K.kind s.ns = true) : Live K lib conn cr s :=
  ⟨cr, cr, ⟨⟨h.held, h.key, fun _ => ha⟩, hd, rfl, h.copy, rfl⟩, h.fresh, rfl⟩

/-! ## Finalizers and deletion -/

variable {Q : Except Error (Resource Spec Status) → Session Spec Status → Prop}

theorem wp_updateFinalizers (m : ObjectMeta) (hc : s.copy = some cr) (hf : s.fresh = none)
    (hrv : m.resourceVersion = cr.rv) (hann : m.annotations = cr.metadata.annotations)
    (hok : ∀ cr' s', s'.copy = some cr' → s'.fresh = none →
      cr'.metadata.deleting = cr.metadata.deleting → Q (.ok cr') s')
    (herr : ∀ e s', s'.fresh = none → Q (.error e) s') :
    (K.session lib).wp (update { cr with metadata := m }) Q s := by
  have hb : K.bound (cr.updated { cr with metadata := m }) = K.bound cr :=
    K.bound_congr _ _ rfl rfl hann
  have ha : K.adopted (cr.updated { cr with metadata := m }) = K.adopted cr :=
    K.adopted_congr _ _ hann
  exact wp_update { cr with metadata := m } hc hrv rfl (.inl ha) (.inr ⟨.inl hf, .inl hb⟩)
    (fun rv gen => hok _ _ rfl (fresh_wrote (.inl hf)) rfl) (fun e => herr e _ hf)

/-- What the cleanup of a controller is: it deletes the object its copy is bound to, and never an
adopted one. -/
structure Cleans (K : Kind Spec Status Api) (instanceRef : Spec → InstanceRef)
    (target : Resource Spec Status → Option String) (delete : String → Api) : Prop where
  instanceRef : instanceRef = K.instanceRef
  target : ∀ cr x, target cr = some x → K.bound cr = some x ∧ K.adopted cr = false
  deletes : ∀ x, K.deletes (delete x) = some x
  creates : ∀ x, K.creates (delete x) = false
  takes : ∀ x a, K.takes (delete x) a = none

section

variable {instanceRef : Spec → InstanceRef} {target : Resource Spec Status → Option String}
variable {delete : String → Api}

theorem wp_handleDeletion (hk : K.Cleans instanceRef target delete) (hc : s.copy = some cr)
    (hf : s.fresh = none) (hd : cr.metadata.deleting = true) :
    (K.session lib).wp (handleDeletion lib instanceRef target delete cr)
      (fun _ s' => Final s') s := by
  rw [hk.instanceRef]
  refine wp_handleDeletion_of (I := fun s' => s'.copy = some cr ∧ s'.fresh = none)
    (J := fun conn s' => Resolving K cr conn.inst s') ⟨hc, hf⟩ (.inl hf)
    (wpE_resolveInstanceRef hc hf (fun conn s' h _ => h) (fun e s' h h' => ⟨h, h'⟩))
    (fun x conn s' ht h => ?_) (fun s' h => ?_)
  · obtain ⟨hb, ha⟩ := hk.target cr x ht
    have hconn : K.Connected lib s' conn cr :=
      ⟨h.held, h.key, fun hnd => by rw [hd] at hnd; cases hnd⟩
    have hcall : K.MayCall lib s' conn (delete x) := by
      refine ⟨cr, cr, hconn, h.copy, fun _ => by rw [hk.deletes]; rfl, ?_, ?_⟩
      · exact fun hb' => absurd hb' (not_binds (hk.creates x) (hk.takes x))
      · intro y hy
        rw [hk.deletes] at hy
        cases hy
        exact ⟨rfl, hb, ha⟩
    refine ⟨hcall, fun a _ => ⟨h.copy, ?_⟩⟩
    cases a with
    | error e => exact h.fresh
    | ok a =>
      show (K.takes (delete x) a).or s'.fresh = none
      rw [hk.takes, h.fresh]
      rfl
  · exact wp_updateFinalizers (removeFinalizer cr.metadata finalizerName) h.1 h.2 rfl rfl
      (fun cr' s'' _ hf' _ => .inl hf') (fun e s'' hf' => .inl hf')

end

theorem wp_ensureFinalizer (hc : s.copy = some cr) (hf : s.fresh = none)
    (hok : ∀ cr' s', s'.copy = some cr' → s'.fresh = none →
      cr'.metadata.deleting = cr.metadata.deleting → Q (.ok cr') s')
    (herr : ∀ e s', s'.fresh = none → Q (.error e) s') :
    (K.session lib).wp (ensureFinalizer cr) Q s := by
  unfold ensureFinalizer
  by_cases hfin : containsFinalizer cr.metadata finalizerName = true
  · rw [if_pos hfin]
    exact hok cr s hc hf rfl
  · rw [if_neg hfin]
    refine wp_updateFinalizers _ hc hf ?_ ?_ hok herr
    · unfold addFinalizer
      rw [if_neg hfin]
      rfl
    · unfold addFinalizer
      rw [if_neg hfin]

end Kind

/-! ## The common reconcile -/

/-- The controller `k` is one of the kind `K`. -/
structure Controller.Fits (k : Controller Spec Status Api) (K : Kind Spec Status Api) : Prop where
  kind : k.kind = K.kind := by rfl
  cleans : K.Cleans k.instanceRef k.target k.delete
  conditions : ∀ v cs, K.bound (v.withStatus (k.setConditions v.status cs)) = K.bound v := by
    intros; rfl

namespace Controller

open Kind

variable {k : Controller Spec Status Api} {K : Kind Spec Status Api} {lib : Ext}
variable {s : Session Spec Status} {cr : Resource Spec Status}

theorem reports_session (hk : k.Fits K) : k.Reports (K.session lib) (Reportable K) Final := by
  rintro cr s status reason message observed ⟨c, hc, hrv, hm⟩
  exact wp_report ⟨c, hc, hrv, hm.congr (hk.conditions (c.withStatus cr.status) _)⟩

/-- **The common reconcile keeps to the session protocol** if its body does. -/
theorem follows (hk : k.Fits K) (hbody : ∀ cr conn s, Live K lib conn cr s →
      (K.session lib).wpE (k.body cr conn) (fun r s' => Reportable K r.1 s') (Stops K) s)
    (req : NamespacedName) :
    (K.session lib).wp (k.reconcile lib req) (fun _ s' => Final s') {} := by
  refine (reports_session hk).wp_reconcile (B := fun cr s => s.copy = some cr ∧
    s.fresh = none ∧ cr.metadata.deleting = false) ⟨⟨rfl, rfl⟩, fun r _ => ?_⟩ ?_ ?_
  · cases r with
    | error e => exact .inl rfl
    | ok cr => exact ⟨fun hd => wp_handleDeletion hk.cleans rfl rfl hd, fun hd => ⟨rfl, rfl, hd⟩⟩
  · rintro cr s ⟨hc, hf, hd⟩
    refine wp_updateFinalizers _ hc hf ?_ ?_ (fun cr' s' hc' hf' hd' => ?_) (fun e s' hf' => ?_)
    · rfl
    · rfl
    · exact ⟨hc', hf', hd'.trans hd⟩
    · exact .inl hf'
  · rintro cr s ⟨hc, hf, hd⟩
    rw [hk.cleans.instanceRef, hk.kind]
    exact wpE_resolveInstanceRef hc hf (fun conn s' h ha => hbody cr conn s' (h.toLive hd (ha rfl)))
      (fun e s' hc' hf' => ⟨cr, hc', rfl, .inr ⟨.inl hf', .inl rfl⟩⟩)

end Controller

end

/-! ## Programs that only read

What a program that only reads returns is determined by what the objects it reads are
(`Prog.readOff`). Resolving the instance is such a program, and so is resolving the other
references of a resource.
-/

section

variable {Spec Status Api : Type} [Service Api] {α : Type}

def Op.IsRead : Op Spec Status Api → Prop
  | .read _ => True
  | _ => False

theorem isRead_of_plain {p : Ctl Spec Status Api α} (hp : p.Uses Op.PlainRead) :
    p.Uses Op.IsRead := by
  refine hp.mono (fun op hop => ?_)
  cases op with
  | read r => exact trivial
  | _ => exact hop.elim

variable (lib : Ext)

theorem isRead_instanceAllowsNamespace (inst : LiteLLMInstance) (ns : String) :
    (instanceAllowsNamespace lib (client : Reader (Ctl Spec Status Api)) inst ns).Uses
      Op.IsRead := by
  rcases instanceAllowsNamespace_cases lib inst ns with ⟨r, hr⟩ | ⟨sel, hsel⟩
  · rw [hr]
    exact .pure
  · rw [hsel]
    refine .bind (.perform trivial) (fun r => ?_)
    cases r with
    | error e | ok n => exact .pure

theorem isRead_checkAllowed (inst : LiteLLMInstance) (ns kind : String) :
    (checkAllowed lib (client : Reader (Ctl Spec Status Api)) inst ns kind).run.Uses
      Op.IsRead := by
  refine uses_run_bind
    (uses_orFail (isRead_instanceAllowsNamespace lib inst ns)) (fun allowed => ?_)
  exact uses_run_bind (uses_failIf _ _) (fun _ => uses_failIf _ _)

theorem isRead_resolveInstanceRef (ns kind : String) (ref : InstanceRef) (check : Bool) :
    (resolveInstanceRef lib (client : Reader (Ctl Spec Status Api)) ns kind ref check).run.Uses
      Op.IsRead := by
  refine uses_run_bind (uses_orFail (.perform trivial)) (fun inst => ?_)
  have hcheck : (if check then checkAllowed lib client inst ns kind else pure () :
      ExceptT Error (Ctl Spec Status Api) Unit).run.Uses Op.IsRead := by
    cases check with
    | true => exact isRead_checkAllowed lib inst ns kind
    | false => exact .pure
  refine uses_run_bind hcheck (fun _ => ?_)
  refine uses_run_bind (uses_failIf _ _) (fun _ => ?_)
  refine uses_run_bind
    (uses_orFail (isRead_of_plain (uses_getSecretValue _ _))) (fun masterKey => ?_)
  have hcert : (ExceptT.lift (operatorProxyCACert client inst) :
      ExceptT Error (Ctl Spec Status Api) String).run.Uses Op.IsRead :=
    (isRead_of_plain (uses_operatorProxyCACert inst)).bind (fun _ => .pure)
  exact uses_run_bind hcert (fun _ => .pure)

/-! ## What they return -/

/-- What a program returns when every object it reads is as `cluster` says; nothing, if it does
more than read. -/
def readOff (cluster : (r : Read) → Except Error r.Obj) : Ctl Spec Status Api α → Option α
  | .ret a => some a
  | .call (.read r) k => readOff cluster (k (cluster r))
  | .call _ _ => none

section

variable {β ε : Type} {cluster : (r : Read) → Except Error r.Obj}

theorem readOff_bind (p : Ctl Spec Status Api α) (f : α → Ctl Spec Status Api β) :
    readOff cluster (p >>= f) = (readOff cluster p).bind (fun a => readOff cluster (f a)) := by
  induction p with
  | ret a => rfl
  | call op k ih =>
    rw [Prog.call_bind]
    cases op with
    | read r => exact ih _
    | _ => rfl

variable {f : α → ExceptT ε (Ctl Spec Status Api) β} {p : ExceptT ε (Ctl Spec Status Api) α}

theorem readOff_run_bind_ok {b : β} :
    readOff cluster (p >>= f).run = some (.ok b) ↔
      ∃ a, readOff cluster p.run = some (.ok a) ∧ readOff cluster (f a).run = some (.ok b) := by
  rw [ExceptT.run_bind, readOff_bind]
  constructor
  · intro h
    obtain ⟨r, hr, h'⟩ := Option.bind_eq_some_iff.mp h
    cases r with
    | ok a => exact ⟨a, hr, h'⟩
    | error e => cases h'
  · rintro ⟨a, ha, h'⟩
    rw [ha]
    exact h'

theorem readOff_orFail_ok {p : Ctl Spec Status Api (Except ε α)} {ε' : Type} {f : ε → ε'}
    {a : α} : readOff cluster (orFail p f).run = some (.ok a) ↔
      readOff cluster p = some (.ok a) := by
  show readOff cluster (p >>= fun r => pure (r.mapError f)) = _ ↔ _
  rw [readOff_bind]
  constructor
  · intro h
    obtain ⟨r, hr, h'⟩ := Option.bind_eq_some_iff.mp h
    cases r with
    | ok a' =>
      cases h'
      exact hr
    | error e => cases h'
  · intro h
    rw [h]
    rfl

theorem readOff_run_bind_error {e : ε} (h : readOff cluster (p >>= f).run = some (.error e)) :
    readOff cluster p.run = some (.error e) ∨ ∃ a, readOff cluster (f a).run = some (.error e) := by
  rw [ExceptT.run_bind, readOff_bind] at h
  obtain ⟨r, hr, h'⟩ := Option.bind_eq_some_iff.mp h
  cases r with
  | ok a => exact .inr ⟨a, h'⟩
  | error e' =>
    cases h'
    exact .inl hr

theorem readOff_orFail_error {p : Ctl Spec Status Api (Except ε α)} {ε' : Type} {f : ε → ε'}
    {e' : ε'} (h : readOff cluster (orFail p f).run = some (.error e')) : ∃ e, e' = f e := by
  have h' : readOff cluster (p >>= fun r => pure (r.mapError f)) = some (.error e') := h
  rw [readOff_bind] at h'
  obtain ⟨r, -, hr⟩ := Option.bind_eq_some_iff.mp h'
  cases r with
  | ok a => cases hr
  | error e =>
    cases hr
    exact ⟨e, rfl⟩

end

end

/-! ## Protocols that follow the caller's copy

All controllers treat their copy of the resource alike: it is what was last decoded, up to a status
that is being prepared, and a write is made from it. A `Tracker` is a protocol with that part fixed.
It says what may be stored over the status that was last decoded, and when the other calls may be
made. The rules of this file cover the calls that all controllers make in the same way; what is left
of a reconcile is its body (`Tracker.wp_reconcile`).
-/

structure Tracker (Spec Status Api : Type) [Service Api] where
  /-- What is known besides the copy. -/
  Aux : Type
  /-- What is known when the reconcile has got its resource. -/
  start : Resource Spec Status → Aux
  mayStore : Aux → Resource Spec Status → Status → Prop
  mayCall : Aux → Resource Spec Status → Api → Prop
  /-- What can be expected of the resource that a reconcile gets. -/
  fits : Resource Spec Status → Prop
  answers : Aux → (req : Api) → Except Error (Service.Result req) → Prop
  next : Aux → (req : Api) → Except Error (Service.Result req) → Aux
  /-- What is stored may be stored again. -/
  keep : ∀ x c, mayStore x c c.status

namespace Tracker

variable {Spec Status Api : Type} [Service Api]

structure State (T : Tracker Spec Status Api) where
  /-- The resource as last decoded. -/
  copy : Option (Resource Spec Status) := none
  aux : Option T.Aux := none

variable (T : Tracker Spec Status Api)

def allowed (s : T.State) : Op Spec Status Api → Prop
  | .update obj => ∃ c, s.copy = some c ∧ obj.rv = c.rv ∧ obj.spec = c.spec
  | .statusUpdate obj => ∃ c x, s.copy = some c ∧ s.aux = some x ∧ obj.rv = c.rv ∧
      T.mayStore x c obj.status
  | .statusPatch _ _ => False
  | .createSecret _ => False
  | .updateSecret _ => False
  | .api _ req => ∃ c x, s.copy = some c ∧ s.aux = some x ∧ T.mayCall x c req
  | _ => True

def expects (s : T.State) : (op : Op Spec Status Api) → op.Resp → Prop
  | .get _, .ok r => T.fits r
  | .update obj, .ok r => ∀ c, s.copy = some c → ∃ rv gen, r = (c.updated obj).stamp rv gen
  | .statusUpdate obj, .ok r =>
    ∀ c, s.copy = some c → ∃ rv gen, r = (c.withStatus obj.status).stamp rv gen
  | .api _ req, r => ∀ x, s.aux = some x → T.answers x req r
  | _, _ => True

def after (s : T.State) : (op : Op Spec Status Api) → op.Resp → T.State
  | .get _, .ok r => { copy := some r, aux := some (T.start r) }
  | .update _, .ok r => { s with copy := some r }
  | .statusUpdate _, .ok r => { s with copy := some r }
  | .api _ req, r => { s with aux := s.aux.map (fun x => T.next x req r) }
  | _, _ => s

def protocol : Protocol (Op Spec Status Api) Op.Resp T.State where
  allowed := T.allowed
  expects := T.expects
  next := T.after

/-! ## Assertions about the copy

`v` is the caller's copy of the resource. -/

/-- `v` differs from what was last decoded in the status only, and may be stored. -/
structure Held (v c : Resource Spec Status) (x : T.Aux) (s : T.State) : Prop where
  copy : s.copy = some c
  aux : s.aux = some x
  near : v = c.withStatus v.status
  store : T.mayStore x c v.status

/-- The status of `v` may be written. -/
def Writable (v : Resource Spec Status) (s : T.State) : Prop :=
  ∃ c x, s.copy = some c ∧ s.aux = some x ∧ v.rv = c.rv ∧ T.mayStore x c v.status

variable {T} {v c : Resource Spec Status} {x : T.Aux} {s : T.State}

theorem Held.writable (h : T.Held v c x s) : T.Writable v s := by
  refine ⟨c, x, h.copy, h.aux, ?_, h.store⟩
  rw [h.near]
  rfl

theorem Held.withStatus (h : T.Held v c x s) {st : Status} (hst : T.mayStore x c st) :
    T.Held (v.withStatus st) c x s := by
  refine ⟨h.copy, h.aux, ?_, hst⟩
  rw [h.near]
  rfl

/-! ## Rules -/

theorem wp_isRead {α : Type} {p : Ctl Spec Status Api α} (hp : p.Uses Op.IsRead)
    {Q : α → T.State → Prop} (hQ : ∀ a, Q a s) : T.protocol.wp p Q s := by
  refine wp_mono (wp_of_uses (I := fun s' => s' = s) hp rfl ?_)
    (fun a s' hs => by rw [hs]; exact hQ a)
  rintro op s' hop rfl
  cases op with
  | read r => exact ⟨trivial, fun _ _ => rfl⟩
  | _ => exact hop.elim

theorem wp_api {conn : ResolvedInstance} {req : Api} (hc : s.copy = some c) (hx : s.aux = some x)
    (hcall : T.mayCall x c req) {Q : Except Error (Service.Result req) → T.State → Prop}
    (hQ : ∀ r s', T.answers x req r → s'.copy = some c → s'.aux = some (T.next x req r) →
      Q r s') : T.protocol.wp (api conn req) Q s := by
  refine ⟨⟨c, x, hc, hx, hcall⟩, fun r hr => hQ r _ (hr x hx) hc ?_⟩
  show s.aux.map _ = _
  rw [hx]
  rfl

variable {Q : Except Error (Resource Spec Status) → T.State → Prop}

theorem wp_update {obj : Resource Spec Status} (hc : s.copy = some c) (hrv : obj.rv = c.rv)
    (hspec : obj.spec = c.spec)
    (hok : ∀ rv gen s', s'.copy = some ((c.updated obj).stamp rv gen) → s'.aux = s.aux →
      Q (.ok ((c.updated obj).stamp rv gen)) s')
    (herr : ∀ e, Q (.error e) s) : T.protocol.wp (update obj) Q s := by
  refine ⟨⟨c, hc, hrv, hspec⟩, fun r hr => ?_⟩
  cases r with
  | error e => exact herr e
  | ok r =>
    obtain ⟨rv, gen, rfl⟩ := hr c hc
    exact hok rv gen _ rfl rfl

theorem wp_statusUpdate (h : T.Held v c x s)
    (hok : ∀ v' s', T.Held v' v' x s' → v'.status = v.status → v'.spec = v.spec → Q (.ok v') s')
    (herr : ∀ e, Q (.error e) s) : T.protocol.wp (statusUpdate v) Q s := by
  refine ⟨h.writable, fun r hr => ?_⟩
  rcases r with e | r
  · exact herr e
  obtain ⟨rv, gen, rfl⟩ := hr c h.copy
  refine hok _ _ ⟨rfl, h.aux, rfl, T.keep _ _⟩ rfl ?_
  rw [h.near]
  rfl

theorem wp_annotate {key value : String} (h : T.Held v c x s)
    (hok : ∀ v' s', T.Held v' v' x s' → v'.status = c.status → v'.spec = v.spec → Q (.ok v') s')
    (herr : ∀ e, Q (.error e) s) : T.protocol.wp (update (annotate v key value)) Q s := by
  have hspec : v.spec = c.spec := by
    rw [h.near]
    rfl
  have hrv : (annotate v key value).rv = c.rv := by
    rw [h.near]
    rfl
  refine wp_update h.copy hrv hspec (fun rv gen s' hc' hx' => ?_) herr
  exact hok _ s' ⟨hc', hx'.trans h.aux, rfl, T.keep _ _⟩ rfl rfl

theorem writable_annotate {key value : String} (h : T.Held v c x s) :
    T.Writable (annotate v key value) s := h.writable

theorem wpE_storeSyncHash {hash : String} (h : T.Held v c x s)
    {Q : Resource Spec Status → T.State → Prop}
    (hok : ∀ v' s', T.Held v' v' x s' → v'.status = c.status → v'.spec = v.spec → Q v' s') :
    T.protocol.wpE (storeSyncHash v hash) Q (fun f s' => T.Writable f.cr s') s := by
  unfold storeSyncHash
  rw [wpE_orFail]
  exact wp_annotate h (fun v' s' h' hst hspec => hok v' s' h' hst hspec)
    (fun e => writable_annotate h)

theorem wpE_recordCreated {pre : String} {hash : Spec → String} (h : T.Held v c x s)
    {Q : Resource Spec Status → T.State → Prop}
    (hok : ∀ v' s', T.Held v' v' x s' → v'.status = v.status → v'.spec = v.spec → Q v' s') :
    T.protocol.wpE (recordCreated pre hash v) Q (fun f s' => T.Writable f.cr s') s := by
  unfold recordCreated
  rw [wpE_bind, wpE_orFail]
  refine wp_statusUpdate h (fun v' s' h' hst hspec => ?_) (fun e => h.writable)
  exact wpE_storeSyncHash h' (fun v'' s'' h'' hst' hspec' =>
    hok v'' s'' h'' (hst'.trans hst) (hspec'.trans hspec))

theorem wpE_markAdopted (h : T.Held v c x s) {Q : Resource Spec Status → T.State → Prop}
    (hok : ∀ v' s', T.Held v' v' x s' → v'.status = c.status → v'.spec = v.spec → Q v' s') :
    T.protocol.wpE (markAdopted v) Q (fun f s' => T.Writable f.1 s') s := by
  unfold markAdopted
  rw [wpE_orFail]
  exact wp_annotate h (fun v' s' h' hst hspec => hok v' s' h' hst hspec)
    (fun e => writable_annotate h)

/-! ## Reconcile -/

section

variable {lib : Ext} {k : Controller Spec Status Api}

/-- The conditions of a status are free. -/
def Free (T : Tracker Spec Status Api) (k : Controller Spec Status Api) : Prop :=
  ∀ x c st cs, T.mayStore x c st → T.mayStore x c (k.setConditions st cs)

theorem reports (hfree : T.Free k) : k.Reports T.protocol T.Writable (fun _ => True) := by
  rintro v s status reason message observed ⟨c, x, hc, hx, hrv, hst⟩
  exact ⟨⟨c, x, hc, hx, hrv, hfree x c _ _ hst⟩, fun _ _ => trivial⟩

/-- What holds of the copy when the body of a reconcile starts. -/
structure Begun (T : Tracker Spec Status Api) (cr v : Resource Spec Status) (s : T.State) :
    Prop where
  held : T.Held v v (T.start cr) s
  fits : T.fits cr
  live : cr.metadata.deleting = false
  status : v.status = cr.status
  spec : v.spec = cr.spec

theorem wp_handleDeletion (hc : s.copy = some c) (hx : s.aux = some x)
    (hcall : ∀ id, T.mayCall x c (k.delete id)) :
    T.protocol.wp (handleDeletion lib k.instanceRef k.target k.delete c) (fun _ _ => True) s := by
  refine wp_handleDeletion_of (I := fun s => s.copy = some c) (J := fun _ s' => s' = s) hc trivial
    (wp_isRead (isRead_resolveInstanceRef _ _ _ _ _) (fun r => ?_)) (fun id conn s' _ hs => ?_)
    (fun s' hc' => wp_update hc' ?_ ?_ (fun rv gen s'' _ _ => ?_) (fun e => ?_))
  · cases r with
    | error e => exact hc
    | ok conn => rfl
  · rw [hs]
    exact wp_api hc hx (hcall id) (fun _ s'' _ hc' _ => hc')
  · rfl
  · rfl
  · exact trivial
  · exact trivial

/-- **A reconcile keeps to the protocol if its body does.** -/
theorem wp_reconcile (hfree : T.Free k) (req : NamespacedName)
    (hdelete : ∀ cr id, cr.metadata.deleting = true → T.fits cr →
      T.mayCall (T.start cr) cr (k.delete id))
    (hbody : ∀ cr v conn s, T.Begun cr v s → T.protocol.wpE (k.body v conn)
      (fun out s' => T.Writable out.1 s') (fun f s' => T.Writable f.cr s') s) :
    T.protocol.wp (k.reconcile lib req) (fun _ _ => True) {} := by
  refine (reports hfree).wp_reconcile (B := fun v s => ∃ cr, T.Begun cr v s)
    ⟨trivial, fun r hr => ?_⟩ ?_ ?_
  · cases r with
    | error e => trivial
    | ok cr =>
      exact ⟨fun hdel => wp_handleDeletion rfl rfl (fun id => hdelete cr id hdel hr),
        fun hlive => ⟨cr, ⟨rfl, rfl, rfl, T.keep _ _⟩, hr, hlive, rfl, rfl⟩⟩
  · rintro v s ⟨cr, h⟩
    refine wp_update h.held.copy ?_ ?_ (fun rv gen s' hc' hx' => ?_) (fun e => trivial)
    · rfl
    · rfl
    · -- the finalizer leaves the spec and the status alone
      exact ⟨cr, ⟨hc', hx'.trans h.held.aux, rfl, T.keep _ _⟩, h.fits, h.live, h.status, h.spec⟩
  · rintro v s ⟨cr, h⟩
    refine wp_isRead (isRead_resolveInstanceRef _ _ _ _ _) (fun r => ?_)
    cases r with
    | error e => exact h.held.writable
    | ok conn => exact hbody cr v conn s h

end

/-! ## Writes that are made, refused or lost -/

section

abbrev commit (store : Store Spec Status)
    (out : Except StatusError (Resource Spec Status × Store Spec Status)) (lost : Option Error) :
    Except Error (Resource Spec Status) × Store Spec Status :=
  committed id store out lost

variable [DecidableEq Spec] [DecidableEq Status] {T : Tracker Spec Status Api} {s : T.State}
variable {store store' : Store Spec Status} {lost : Option Error}
variable {r : Except Error (Resource Spec Status)} {obj : Resource Spec Status}

/-- A write of the resource that the protocol allows is made over the copy, and answered as the
protocol expects. -/
theorem made_update (ha : T.allowed s (.update obj)) (hmem : ∀ c, s.copy = some c → c ∈ store.versions)
    (h : commit store (store.update obj) lost = (r, store')) :
    T.expects s (.update obj) r ∧ ((store' = store ∧ (T.after s (.update obj) r) = s) ∨
        ∃ c v, s.copy = some c ∧ obj.spec = c.spec ∧
          Store.Written store c (c.updated obj) v store' ∧
          ((T.after s (.update obj) r) = { s with copy := some v } ∨
            (T.after s (.update obj) r) = s)) := by
  obtain ⟨c, hc, hrv, hspec⟩ := ha
  rcases committed_cases h with ⟨v, store', hok, rfl, hr⟩ | ⟨e, rfl, rfl⟩
  · have hw := Store.written_of_update hok (hmem c hc) hrv
    rcases hr with ⟨-, rfl⟩ | ⟨e, -, rfl⟩
    · refine ⟨fun c' hc' => ?_, .inr ⟨c, v, hc, hspec, hw, .inl rfl⟩⟩
      cases hc.symm.trans hc'
      exact hw.stored
    · exact ⟨trivial, .inr ⟨c, v, hc, hspec, hw, .inr rfl⟩⟩
  · exact ⟨trivial, .inl ⟨rfl, rfl⟩⟩

theorem made_statusUpdate (ha : T.allowed s (.statusUpdate obj))
    (hmem : ∀ c, s.copy = some c → c ∈ store.versions)
    (h : commit store (store.statusUpdate obj) lost = (r, store')) :
    T.expects s (.statusUpdate obj) r ∧ ((store' = store ∧ (T.after s (.statusUpdate obj) r) = s) ∨
        ∃ c x v, s.copy = some c ∧ s.aux = some x ∧ T.mayStore x c obj.status ∧
          Store.Written store c (c.withStatus obj.status) v store' ∧
          ((T.after s (.statusUpdate obj) r) = { s with copy := some v } ∨
            (T.after s (.statusUpdate obj) r) = s)) := by
  obtain ⟨c, x, hc, hx, hrv, hmay⟩ := ha
  rcases committed_cases h with ⟨v, store', hok, rfl, hr⟩ | ⟨e, rfl, rfl⟩
  · have hw := Store.written_of_statusUpdate hok (hmem c hc) hrv
    rcases hr with ⟨-, rfl⟩ | ⟨e, -, rfl⟩
    · refine ⟨fun c' hc' => ?_, .inr ⟨c, x, v, hc, hx, hmay, hw, .inl rfl⟩⟩
      cases hc.symm.trans hc'
      exact hw.stored
    · exact ⟨trivial, .inr ⟨c, x, v, hc, hx, hmay, hw, .inr rfl⟩⟩
  · exact ⟨trivial, .inl ⟨rfl, rfl⟩⟩

end

end Tracker

end LitellmOperator
