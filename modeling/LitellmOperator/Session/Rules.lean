import LitellmOperator.Controller.Reconcile
import LitellmOperator.Kube.Store

/-! # What a reconcile may do

The abstract view of a per-resource reconcile. A stored resource is *bound* to an object in
LiteLLM or it is not, and it may be marked as having *adopted* that object. A reconcile reads the
resource once, and from then on holds a copy of it. It may

* call the admin API only of the instance the copy refers to, and only after the
  allowedNamespaces check (or, when the resource is being deleted, only to delete);
* create an object only while the copy is unbound, or after the bound object was deleted;
* delete only the object the copy is bound to, and never an adopted one;
* write the copy back bound as it was, or bound to the object it has just created, or to an
  existing object after marking it as adopted, or unbound after deleting its object;
* not return before it has recorded what it created, unless a call it depends on failed.

`Session` is the state of such a reconcile and `Kind.session` the protocol. The controllers keep
to it (the other modules of `Session/`); what follows from it for whole runs does not look into the
controllers.
-/

set_option autoImplicit false

namespace LitellmOperator

open Effect Go Kube Protocol Ctl

/-- How the resources of a kind and their requests are read by the protocol. -/
structure Kind (Spec Status Api : Type) [Service Api] where
  kind : String
  instanceRef : Spec → InstanceRef
  /-- The object in LiteLLM a resource says it has. -/
  bound : Resource Spec Status → Option String
  /-- Whether the resource is marked as having adopted its object. -/
  adopted : Resource Spec Status → Bool
  /-- Whether an object is known by the name in the spec alone, so that creating it again or
  forgetting that it was pushed does no harm. -/
  byName : Bool
  /-- Whether a reconcile may delete the object in order to create another one. -/
  replaces : Bool
  creates : Api → Bool
  /-- The object a create or a lookup asks for by name. -/
  names : Api → Option String
  /-- The object a resource may record after this request has succeeded. -/
  takes : (req : Api) → Service.Result req → Option String
  deletes : Api → Option String
  /-- The object whose existence the request asks for. -/
  finds : Api → Option String
  /-- Answers after which a reconcile may give up on recording what it has created. -/
  hinders : Resource Spec Status → (op : Op Spec Status Api) → op.Resp → Bool
  /-- The status a merge patch from the first to the second turns the third into. -/
  merge : Status → Status → Status → Status
  /-- Being bound is a matter of spec, status and annotations. -/
  bound_congr : ∀ v v' : Resource Spec Status, v'.spec = v.spec → v'.status = v.status →
    v'.metadata.annotations = v.metadata.annotations → bound v' = bound v
  /-- Being adopted is a matter of annotations. -/
  adopted_congr : ∀ v v' : Resource Spec Status,
    v'.metadata.annotations = v.metadata.annotations → adopted v' = adopted v := by intros; rfl
  hinders_update : ∀ v obj e, hinders v (.update obj) (.error e) = true := by intros; rfl
  hinders_statusUpdate : ∀ v obj e, hinders v (.statusUpdate obj) (.error e) = true := by intros; rfl
  /-- Nothing is recorded after a delete. -/
  takes_deletes : ∀ req a x, takes req a = some x → deletes req = none

/-- The state of a reconcile. -/
structure Session (Spec Status : Type) where
  /-- The resource as last decoded from the API server. -/
  copy : Option (Resource Spec Status) := none
  /-- The instance read last, with the copy it was read for. -/
  inst : Option (LiteLLMInstance × Resource Spec Status) := none
  /-- How the lookup of the resource's namespace came out. -/
  ns : Except Error Kube.Namespace := .error (errorf "not looked up")
  /-- An object created and not yet recorded. -/
  fresh : Option String := none
  /-- Objects whose deletion was requested, to replace them. -/
  dropped : List String := []
  /-- Objects found to exist. -/
  seen : List String := []
  /-- Whether a call has failed on which recording `fresh` depends. -/
  hindered : Bool := false

section

variable {Spec Status Api : Type} [Service Api]

/-- A failed write of the resource itself. -/
def failedWrite : (op : Op Spec Status Api) → op.Resp → Bool
  | .update _, .error _ => true
  | .statusUpdate _, .error _ => true
  | _, _ => false

/-- What the API server guarantees: an instance that is read is the one asked for, and a write that
succeeds returns the copy it was made on with what the write can change. -/
def Session.expects (s : Session Spec Status) : (op : Op Spec Status Api) → op.Resp → Prop
  | .update obj, .ok r => ∀ c, s.copy = some c → ∃ rv gen, r = (c.updated obj).stamp rv gen
  | .statusUpdate obj, .ok r =>
    ∀ c, s.copy = some c → ∃ rv gen, r = (c.withStatus obj.status).stamp rv gen
  | .read (.getInstance key), .ok i => (show LiteLLMInstance from i).metadata.key = key
  | _, _ => True

namespace Kind

variable (K : Kind Spec Status Api)

/-- The instance a resource refers to. -/
def refKey (v : Resource Spec Status) : NamespacedName :=
  ⟨(K.instanceRef v.spec).namespaceOr v.metadata.ns, (K.instanceRef v.spec).name⟩

/-! ## Writing the copy back -/

variable (s : Session Spec Status)

variable (c v : Resource Spec Status)

/-- `v` is bound to an existing object that `c`, marked as having adopted it, was not bound to. -/
def Adopts : Prop := K.bound c = none ∧ K.adopted c = true ∧ ∃ x ∈ s.seen, K.bound v = some x

/-- `v` is unbound, and the object of `c` was deleted. -/
def Forgets : Prop := K.bound v = none ∧ (K.byName = true ∨ ∃ x ∈ s.dropped, K.bound c = some x)

/-- `v` may be stored over the copy `c`. -/
def MayWrite : Prop := (∃ x, s.fresh = some x ∧ K.bound v = some x) ∨
  ((s.fresh = none ∨ s.hindered = true) ∧
    (K.bound v = K.bound c ∨ K.Forgets s c v ∨ K.Adopts s c v))

/-- The adopted mark of `v` is that of `c`, or it is set on an unbound resource after an existing
object was found. -/
def MayMark : Prop := K.adopted v = K.adopted c ∨
  (K.adopted v = true ∧ K.bound c = none ∧ s.fresh = none ∧ s.seen ≠ [])

/-! ## Calling the admin API -/

/-- The session has resolved the instance behind `conn` for the copy `subj`. -/
structure Connected (lib : Ext) (s : Session Spec Status) (conn : ResolvedInstance)
    (subj : Resource Spec Status) : Prop where
  inst : s.inst = some (conn.inst, subj)
  key : conn.inst.metadata.key = K.refKey subj
  /-- The allowedNamespaces check passed, unless the resource is being deleted. -/
  admitted : subj.metadata.deleting = false →
    admits lib conn.inst subj.metadata.ns K.kind s.ns = true

/-- A create is allowed: nothing is pending, and the copy has no object. -/
structure MayCreate (s : Session Spec Status) (subj c : Resource Spec Status) : Prop where
  fresh : s.fresh = none
  key : K.refKey c = K.refKey subj
  unbound : K.byName = true ∨ K.bound c = none ∨ ∃ x ∈ s.dropped, K.bound c = some x

structure MayDelete (subj c : Resource Spec Status) (x : String) : Prop where
  key : K.refKey c = K.refKey subj
  bound : K.bound c = some x
  notAdopted : K.adopted c = false

/-- The request creates an object, or its success lets the resource record one. -/
def Binds (req : Api) : Prop := K.creates req = true ∨ ∃ a x, K.takes req a = some x

/-- The request may be sent. -/
def MayCall (lib : Ext) (s : Session Spec Status) (conn : ResolvedInstance) (req : Api) : Prop :=
  ∃ subj c, K.Connected lib s conn subj ∧ s.copy = some c ∧
    (subj.metadata.deleting = true → (K.deletes req).isSome = true) ∧
    (K.Binds req → K.MayCreate s subj c) ∧
    (∀ x, K.deletes req = some x → K.MayDelete subj c x)

/-! ## The protocol -/

def allowed (lib : Ext) (s : Session Spec Status) : Op Spec Status Api → Prop
  | .get _ => s.copy = none ∧ s.fresh = none
  | .update obj => ∃ c, s.copy = some c ∧ obj.rv = c.rv ∧ obj.spec = c.spec ∧
      K.MayMark s c (c.updated obj) ∧ K.MayWrite s c (c.updated obj)
  | .statusUpdate obj => ∃ c, s.copy = some c ∧ obj.rv = c.rv ∧
      K.MayWrite s c (c.withStatus obj.status)
  | .statusPatch base obj => s.fresh = none ∧ ∃ c, s.copy = some c ∧
      ∀ v, K.bound (v.withStatus (K.merge base.status obj.status v.status)) = K.bound v
  | .read (.getInstance key) => s.fresh = none ∧ ∃ c, s.copy = some c ∧ key = K.refKey c
  | .read (.getNamespace name) => ∃ c, s.copy = some c ∧ name = c.metadata.ns
  | .api conn req => K.MayCall lib s conn req
  | _ => True

/-- The session after a write returned `c`. -/
def wrote (c : Resource Spec Status) : Session Spec Status :=
  { s with copy := some c, fresh := if s.fresh = K.bound c then none else s.fresh }

/-- What a request gives up, for a kind that replaces its object. -/
def drops (req : Api) : List String := if K.replaces then (K.deletes req).toList else []

/-- The session after a request. -/
def called (req : Api) (r : Except Error (Service.Result req)) : Session Spec Status :=
  { s with
    fresh := match r with
      | .ok a => (K.takes req a).or s.fresh
      | .error _ => s.fresh
    dropped := K.drops req ++ s.dropped
    seen := match r with
      | .ok _ => (K.finds req).toList ++ s.seen
      | .error _ => s.seen }

def track : (op : Op Spec Status Api) → op.Resp → Session Spec Status
  | .get _, .ok c => { s with copy := some c }
  | .update _, .ok c => K.wrote s c
  | .statusUpdate _, .ok c => K.wrote s c
  | .statusPatch _ _, .ok c => K.wrote s c
  | .read (.getInstance _), .ok i =>
    { s with inst := s.copy.map (fun c => (i, c)), ns := .error (errorf "not looked up") }
  | .read (.getNamespace _), r => { s with ns := r }
  | .api _ req, r => K.called s req r
  | _, _ => s

/-- A failure counts against what was created before it, not against what comes after. -/
def next (op : Op Spec Status Api) (r : op.Resp) : Session Spec Status :=
  let s' := K.track s op r
  { s' with hindered := (s.hindered && s'.fresh = s.fresh) ||
      s.copy.any (fun c => K.hinders c op r) }

def session (lib : Ext) : Protocol (Op Spec Status Api) Op.Resp (Session Spec Status) where
  allowed := K.allowed lib
  expects := Session.expects
  next := K.next

/-- A reconcile may return here. -/
def Final : Prop := s.fresh = none ∨ s.hindered = true

end Kind

end

/-! ## Rules for keeping to the session protocol

One rule for each call a reconcile makes, in the form of `wp`: what has to hold before, and what
may be assumed after. They move between three assertions about the session and the caller's copy
`cr` of the resource.

* `Live`: the instance is resolved and admitted, nothing is pending, and `cr` differs from what
  was last decoded only in the status, not in what it is bound to.
* `Pending x`: the object `x` has just been created.
* `Reportable`: the status of `cr` may be written as the last thing a reconcile does.
-/

section

variable {Spec Status Api : Type} [Service Api]

/-- An id read off a status or an answer, where the empty string stands for none. -/
def idOf (x : String) : Option String := if x ≠ "" then some x else none

theorem idOf_eq_none {x : String} : idOf x = none ↔ x = "" := by
  unfold idOf
  by_cases h : x = "" <;> simp [h]

theorem idOf_of_ne {x : String} (h : x ≠ "") : idOf x = some x := if_pos h

theorem idOf_eq_some {x y : String} : idOf x = some y ↔ x = y ∧ y ≠ "" := by
  unfold idOf
  constructor
  · intro h
    split at h
    · rename_i hne
      cases h
      exact ⟨rfl, hne⟩
    · cases h
  · rintro ⟨rfl, hne⟩
    exact if_pos hne

theorem bound_of_target {adopted : Bool} {id x : String}
    (h : (if adopted then none else idOf id) = some x) : idOf id = some x ∧ adopted = false := by
  cases adopted with
  | true => cases h
  | false => exact ⟨h, rfl⟩

omit [Service Api] in
theorem isAdopted_annotate_self (v : Resource Spec Status) :
    isAdopted (annotate v annotationAdopted annotationAdoptedValue).metadata = true := by
  unfold isAdopted annotate
  rw [lookup_assign_self]
  rfl

omit [Service Api] in
theorem isAdopted_annotate_ne (v : Resource Spec Status) {key : String} (val : String)
    (h : key ≠ annotationAdopted) :
    isAdopted (annotate v key val).metadata = isAdopted v.metadata := by
  unfold isAdopted annotate
  rw [lookup_assign_ne _ _ h]

/-- A read of anything but instances and namespaces. -/
def Read.Plain : Read → Prop
  | .getInstance _ => False
  | .getNamespace _ => False
  | _ => True

namespace Kind

variable {K : Kind Spec Status Api} {lib : Ext} {conn : ResolvedInstance}
variable {s s' : Session Spec Status} {cr c v subj : Resource Spec Status} {req : Api} {x : String}

theorem bound_stamp (v : Resource Spec Status) (rv gen : Nat) :
    K.bound (v.stamp rv gen) = K.bound v := K.bound_congr _ _ rfl rfl rfl

theorem adopted_stamp (v : Resource Spec Status) (rv gen : Nat) :
    K.adopted (v.stamp rv gen) = K.adopted v := K.adopted_congr _ _ rfl

theorem adopted_withStatus (v : Resource Spec Status) (st : Status) :
    K.adopted (v.withStatus st) = K.adopted v := K.adopted_congr _ _ rfl

/-! ## Assertions -/

/-- `s'` differs from `s` at most in what was seen and in whether a call failed. -/
structure Same (s s' : Session Spec Status) : Prop where
  copy : s'.copy = s.copy
  inst : s'.inst = s.inst
  ns : s'.ns = s.ns
  fresh : s'.fresh = s.fresh
  dropped : s'.dropped = s.dropped

/-- The instance is resolved for `subj`, and `cr` is the copy `c` up to the status. -/
structure OpenAt (K : Kind Spec Status Api) (lib : Ext) (conn : ResolvedInstance)
    (subj c cr : Resource Spec Status) (s : Session Spec Status) : Prop where
  connected : K.Connected lib s conn subj
  live : subj.metadata.deleting = false
  key : K.refKey c = K.refKey subj
  copy : s.copy = some c
  near : cr = c.withStatus cr.status

def Live (K : Kind Spec Status Api) (lib : Ext) (conn : ResolvedInstance)
    (cr : Resource Spec Status) (s : Session Spec Status) : Prop :=
  ∃ subj c, OpenAt K lib conn subj c cr s ∧ s.fresh = none ∧ K.bound cr = K.bound c

/-- `x` was created and nothing has failed since. -/
def Pending (K : Kind Spec Status Api) (lib : Ext) (conn : ResolvedInstance) (x : String)
    (cr : Resource Spec Status) (s : Session Spec Status) : Prop :=
  ∃ subj c, OpenAt K lib conn subj c cr s ∧ s.fresh = some x

def Reportable (K : Kind Spec Status Api) (cr : Resource Spec Status)
    (s : Session Spec Status) : Prop :=
  ∃ c, s.copy = some c ∧ cr.rv = c.rv ∧ K.MayWrite s c (c.withStatus cr.status)

theorem Connected.same (h : K.Connected lib s conn subj) (hs : Same s s') :
    K.Connected lib s' conn subj where
  inst := hs.inst.trans h.inst
  key := h.key
  admitted := by
    rw [hs.ns]
    exact h.admitted

theorem OpenAt.same (h : OpenAt K lib conn subj c cr s) (hs : Same s s') :
    OpenAt K lib conn subj c cr s' where
  connected := h.connected.same hs
  live := h.live
  key := h.key
  copy := hs.copy.trans h.copy
  near := h.near

theorem OpenAt.withStatus (h : OpenAt K lib conn subj c cr s)
    (st : Status) : OpenAt K lib conn subj c (cr.withStatus st) s where
  connected := h.connected
  live := h.live
  key := h.key
  copy := h.copy
  near := by
    rw [h.near]
    rfl

theorem Live.same (h : Live K lib conn cr s) (hs : Same s s') :
    Live K lib conn cr s' := by
  obtain ⟨subj, c, ho, hf, hb⟩ := h
  exact ⟨subj, c, ho.same hs, hs.fresh.trans hf, hb⟩

variable {st : Status}

theorem Live.withStatus (h : Live K lib conn cr s) (hb : K.bound (cr.withStatus st) = K.bound cr) :
    Live K lib conn (cr.withStatus st) s := by
  obtain ⟨subj, c, ho, hf, hbc⟩ := h
  exact ⟨subj, c, ho.withStatus st, hf, hb.trans hbc⟩

theorem Live.reportable (h : Live K lib conn cr s) : Reportable K cr s := by
  obtain ⟨subj, c, ho, hf, hb⟩ := h
  refine ⟨c, ho.copy, ?_, .inr ⟨.inl hf, .inl ?_⟩⟩
  · rw [ho.near]
    rfl
  · rw [← ho.near]
    exact hb

theorem MayWrite.congr {v' : Resource Spec Status} (h : K.MayWrite s c v)
    (hb : K.bound v' = K.bound v) : K.MayWrite s c v' := by
  unfold MayWrite Forgets Adopts at *
  rw [hb]
  exact h

/-! ## How the session moves -/

theorem next_read_same {r : Read} (hr : r.Plain) (a : (Op.read r : Op Spec Status Api).Resp) :
    Same s (K.next s (.read r) a) := by
  cases r <;> first
    | exact hr.elim
    | exact ⟨rfl, rfl, rfl, rfl, rfl⟩

/-- A request that neither creates nor deletes. -/
structure Neutral (K : Kind Spec Status Api) (req : Api) : Prop where
  creates : K.creates req = false
  deletes : K.deletes req = none
  takes : ∀ a, K.takes req a = none

theorem drops_of_none (hd : K.deletes req = none) : K.drops req = [] := by
  unfold drops
  rw [hd]
  split <;> rfl

variable (conn) in
theorem next_neutral_same (hn : K.Neutral req) (r : (Op.api conn req : Op Spec Status Api).Resp) :
    Same s (K.next s (.api conn req) r) := by
  have hd : (K.next s (.api conn req) r).dropped = s.dropped := by
    show K.drops req ++ s.dropped = s.dropped
    rw [drops_of_none hn.deletes]
    rfl
  rcases r with e | a
  · exact ⟨rfl, rfl, rfl, rfl, hd⟩
  refine ⟨rfl, rfl, rfl, ?_, hd⟩
  show (K.takes req a).or s.fresh = s.fresh
  rw [hn.takes a]
  rfl

theorem mem_seen_next {a : Service.Result req}
    (hx : K.finds req = some x) : x ∈ (K.next s (.api conn req) (.ok a)).seen := by
  show x ∈ (K.finds req).toList ++ s.seen
  rw [hx]
  exact List.mem_cons_self

theorem fresh_wrote (h : s.fresh = none ∨ s.fresh = K.bound v) : (K.wrote s v).fresh = none := by
  show (if s.fresh = K.bound v then none else s.fresh) = none
  rcases h with h | h
  · rw [h]
    exact ite_self none
  · exact if_pos h

/-! ## Requests and reads -/

theorem not_binds (hc : K.creates req = false) (ht : ∀ a, K.takes req a = none) :
    ¬ K.Binds req := by
  rintro (h | ⟨a, x, h⟩)
  · rw [hc] at h
    cases h
  · rw [ht a] at h
    cases h

theorem mayCall_neutral (hn : K.Neutral req)
    (hconn : K.Connected lib s conn subj) (hl : subj.metadata.deleting = false)
    (hc : s.copy = some c) : K.MayCall lib s conn req := by
  refine ⟨subj, c, hconn, hc, ?_, ?_, ?_⟩
  · intro hd
    rw [hl] at hd
    cases hd
  · exact fun hb => absurd hb (not_binds hn.creates hn.takes)
  · intro x hx
    rw [hn.deletes] at hx
    cases hx

theorem Live.mayCall (hn : K.Neutral req) (h : Live K lib conn cr s) :
    K.MayCall lib s conn req := by
  obtain ⟨subj, c, ho, -⟩ := h
  exact mayCall_neutral hn ho.connected ho.live ho.copy

variable {Q : (Op.api conn req : Op Spec Status Api).Resp → Session Spec Status → Prop}

theorem wp_api (hn : K.Neutral req) (h : Live K lib conn cr s)
    (hQ : ∀ r s', Live K lib conn cr s' → Q r s') : (K.session lib).wp (api conn req) Q s := by
  exact ⟨h.mayCall hn, fun r _ => hQ r _ (h.same (next_neutral_same _ hn r))⟩

/-- A request without which the body stops. -/
theorem wp_apiOr (hn : K.Neutral req) (h : Live K lib conn cr s)
    (hok : ∀ a s', Live K lib conn cr s' → Q (.ok a) s')
    (herr : ∀ e s', Reportable K cr s' → Q (.error e) s') :
    (K.session lib).wp (api conn req) Q s := by
  refine wp_api hn h (fun r s' h' => ?_)
  cases r with
  | error e => exact herr e s' h'.reportable
  | ok a => exact hok a s' h'

theorem wp_forApi {α : Type} {xs : List α} {skip : α → Bool} {req : α → Api}
    (hn : ∀ a, K.Neutral (req a)) (h : Live K lib conn cr s) :
    (K.session lib).wp (xs.forM (fun a => if skip a then pure ⟨⟩ else do
      let _ ← api conn (req a)
      pure ⟨⟩)) (fun _ s' => Live K lib conn cr s') s := by
  refine wp_forM (fun a _ s' h' => ?_) h
  split
  · exact h'
  · rw [wp_bind]
    exact wp_api (hn a) h' (fun _ _ h'' => h'')

theorem wp_find (hn : K.Neutral req) (hx : K.finds req = some x) (h : Live K lib conn cr s)
    (hok : ∀ a s', Live K lib conn cr s' → x ∈ s'.seen → Q (.ok a) s')
    (herr : ∀ e s', Live K lib conn cr s' → Q (.error e) s') :
    (K.session lib).wp (api conn req) Q s := by
  refine ⟨h.mayCall hn, fun r _ => ?_⟩
  have h' := h.same (next_neutral_same conn hn r)
  cases r with
  | ok a => exact hok a _ h' (mem_seen_next hx)
  | error e => exact herr e _ h'

theorem wp_apiSeen (hn : K.Neutral req) (h : Live K lib conn cr s) (hx : x ∈ s.seen)
    (hQ : ∀ r s', Live K lib conn cr s' → x ∈ s'.seen → Q r s') :
    (K.session lib).wp (api conn req) Q s := by
  refine ⟨h.mayCall hn, fun r _ => hQ r _ (h.same (next_neutral_same _ hn r)) ?_⟩
  cases r with
  | error e => exact hx
  | ok a => exact List.mem_append_right _ hx

theorem wp_random {n : Nat} (h : Live K lib conn cr s)
    {Q : Except Error (List UInt8) → Session Spec Status → Prop}
    (hQ : ∀ r s', Live K lib conn cr s' → Q r s') : (K.session lib).wp (random n) Q s :=
  ⟨trivial, fun r _ => hQ r _ (h.same ⟨rfl, rfl, rfl, rfl, rfl⟩)⟩

theorem wp_read {r : Read} (hr : r.Plain) (h : Live K lib conn cr s)
    {Q : (Op.read r : Op Spec Status Api).Resp → Session Spec Status → Prop}
    (hQ : ∀ a s', Live K lib conn cr s' → Q a s') : (K.session lib).wp (Ctl.read r) Q s := by
  refine ⟨?_, fun a _ => hQ a _ (h.same (next_read_same hr a))⟩
  cases r <;> first
    | exact hr.elim
    | exact trivial

theorem wp_create (hd : K.deletes req = none)
    (ho : OpenAt K lib conn subj c cr s) (hf : s.fresh = none)
    (hb : K.byName = true ∨ K.bound c = none ∨ ∃ x ∈ s.dropped, K.bound c = some x)
    (hok : ∀ a s' x, K.takes req a = some x → OpenAt K lib conn subj c cr s' →
      s'.fresh = some x → (s'.hindered = true → K.hinders c (.api conn req) (.ok a) = true) →
      Q (.ok a) s')
    (hnone : ∀ a s', K.takes req a = none → OpenAt K lib conn subj c cr s' → s'.fresh = none →
      s'.dropped = s.dropped → Q (.ok a) s')
    (herr : ∀ e s', OpenAt K lib conn subj c cr s' → s'.fresh = none →
      s'.dropped = s.dropped → s'.seen = s.seen → Q (.error e) s') :
    (K.session lib).wp (api conn req) Q s := by
  have hcall : K.MayCall lib s conn req := by
    refine ⟨subj, c, ho.connected, ho.copy, ?_, fun _ => ⟨hf, ho.key, hb⟩, ?_⟩
    · intro hdel
      rw [ho.live] at hdel
      cases hdel
    · intro x hx
      rw [hd] at hx
      cases hx
  have hopen : ∀ r, OpenAt K lib conn subj c cr (K.next s (.api conn req) r) := fun r =>
    ⟨⟨ho.connected.inst, ho.connected.key, ho.connected.admitted⟩, ho.live, ho.key, ho.copy,
      ho.near⟩
  have hdrop : ∀ r, (K.next s (.api conn req) r).dropped = s.dropped := by
    intro r
    show K.drops req ++ s.dropped = s.dropped
    rw [drops_of_none hd]
    rfl
  refine ⟨hcall, fun r _ => ?_⟩
  rcases r with e | a
  · exact herr e _ (hopen _) hf (hdrop _) rfl
  have hfresh : (K.next s (.api conn req) (.ok a)).fresh = (K.takes req a).or s.fresh := rfl
  rcases hx : K.takes req a with _ | x
  · rw [hx, hf] at hfresh
    exact hnone a _ hx (hopen _) hfresh (hdrop _)
  rw [hx] at hfresh
  refine hok a _ x hx (hopen _) hfresh ?_
  intro hh
  -- the flag restarts with the new object
  have hh' : ((s.hindered && decide ((K.takes req a).or s.fresh = s.fresh)) ||
      s.copy.any (fun c => K.hinders c (.api conn req) (.ok a))) = true := hh
  rw [hx, hf, ho.copy] at hh'
  simpa using hh'

/-! ## Writes -/

variable (cr' : Resource Spec Status)
variable {P : Except Error (Resource Spec Status) → Session Spec Status → Prop}

theorem wp_statusUpdate (hc : s.copy = some c) (hrv : cr'.rv = c.rv)
    (hm : K.MayWrite s c (c.withStatus cr'.status))
    (hok : ∀ rv gen, P (.ok ((c.withStatus cr'.status).stamp rv gen))
      (K.next s (.statusUpdate cr') (.ok ((c.withStatus cr'.status).stamp rv gen))))
    (herr : ∀ e, P (.error e) (K.next s (.statusUpdate cr') (.error e))) :
    (K.session lib).wp (statusUpdate cr') P s := by
  refine ⟨⟨c, hc, hrv, hm⟩, fun r hr => ?_⟩
  cases r with
  | error e => exact herr e
  | ok r =>
    obtain ⟨rv, gen, rfl⟩ := hr c hc
    exact hok rv gen

theorem wp_update (hc : s.copy = some c) (hrv : cr'.rv = c.rv) (hspec : cr'.spec = c.spec)
    (hmark : K.MayMark s c (c.updated cr')) (hm : K.MayWrite s c (c.updated cr'))
    (hok : ∀ rv gen, P (.ok ((c.updated cr').stamp rv gen))
      (K.next s (.update cr') (.ok ((c.updated cr').stamp rv gen))))
    (herr : ∀ e, P (.error e) (K.next s (.update cr') (.error e))) :
    (K.session lib).wp (update cr') P s := by
  refine ⟨⟨c, hc, hrv, hspec, hmark, hm⟩, fun r hr => ?_⟩
  cases r with
  | error e => exact herr e
  | ok r =>
    obtain ⟨rv, gen, rfl⟩ := hr c hc
    exact hok rv gen

theorem hindered_statusUpdate_error {cr' : Resource Spec Status} (hc : s.copy = some c)
    (e : Error) : (K.next s (.statusUpdate cr') (.error e)).hindered = true := by
  show ((s.hindered && decide (s.fresh = s.fresh)) ||
    s.copy.any (fun c => K.hinders c (.statusUpdate cr') (.error e))) = true
  rw [hc]
  simp [K.hinders_statusUpdate]

theorem MayWrite.hinder (h : K.MayWrite s c v)
    (hf : s'.fresh = s.fresh) (hd : s'.dropped = s.dropped) (hs : s'.seen = s.seen)
    (hh : s'.hindered = true) : K.MayWrite s' c v := by
  unfold MayWrite Forgets Adopts at *
  rw [hf, hd, hs, hh]
  rcases h with h | ⟨-, h⟩
  · exact .inl h
  · exact .inr ⟨.inr rfl, h⟩

theorem wp_report {cr' : Resource Spec Status} (h : Reportable K cr' s) :
    (K.session lib).wp (statusUpdate cr') (fun _ s' => Final s') s := by
  obtain ⟨c, hc, hrv, hm⟩ := h
  refine wp_statusUpdate _ hc hrv hm (fun rv gen => ?_)
    (fun e => .inr (hindered_statusUpdate_error hc e))
  have hbound : K.bound ((c.withStatus cr'.status).stamp rv gen) =
      K.bound (c.withStatus cr'.status) := bound_stamp _ _ _
  rcases hm with ⟨x, hx, hv⟩ | ⟨hf | hh, -⟩
  · exact .inl (fresh_wrote (.inr (by rw [hbound, hx, hv])))
  · exact .inl (fresh_wrote (.inl hf))
  · by_cases hrec : s.fresh = K.bound ((c.withStatus cr'.status).stamp rv gen)
    · exact .inl (fresh_wrote (.inr hrec))
    · refine .inr ?_
      show ((s.hindered && decide ((K.wrote s ((c.withStatus cr'.status).stamp rv gen)).fresh
        = s.fresh)) || _) = true
      have hsame : (K.wrote s ((c.withStatus cr'.status).stamp rv gen)).fresh = s.fresh :=
        if_neg hrec
      rw [hh, hsame]
      simp

/-! ## Recording -/

/-- The status of `cr` may be written, and after that nothing is pending. -/
def Writable (K : Kind Spec Status Api) (lib : Ext) (conn : ResolvedInstance)
    (cr : Resource Spec Status) (s : Session Spec Status) : Prop :=
  ∃ subj c, OpenAt K lib conn subj c cr s ∧ K.MayWrite s c cr ∧
    (s.fresh = none ∨ s.fresh = K.bound cr)

theorem Live.writable (h : Live K lib conn cr s) : Writable K lib conn cr s := by
  obtain ⟨subj, c, ho, hf, hb⟩ := h
  exact ⟨subj, c, ho, .inr ⟨.inl hf, .inl hb⟩, .inl hf⟩

theorem Pending.writable (h : Pending K lib conn x cr s)
    (hb : K.bound (cr.withStatus st) = some x) : Writable K lib conn (cr.withStatus st) s := by
  obtain ⟨subj, c, ho, hf⟩ := h
  exact ⟨subj, c, ho.withStatus st, .inl ⟨x, hf, hb⟩, .inr (hf.trans hb.symm)⟩

theorem Live.adopts (h : Live K lib conn cr s) (hn : K.bound cr = none) (ha : K.adopted cr = true)
    (hx : x ∈ s.seen) (hb : K.bound (cr.withStatus st) = some x) :
    Writable K lib conn (cr.withStatus st) s := by
  obtain ⟨subj, c, ho, hf, hbc⟩ := h
  have hca : K.adopted c = true := by
    rw [← ha, ho.near]
    exact (adopted_withStatus c _).symm
  exact ⟨subj, c, ho.withStatus st,
    .inr ⟨.inl hf, .inr (.inr ⟨hbc.symm.trans hn, hca, x, hx, hb⟩)⟩, .inl hf⟩

theorem Writable.reportable (h : Writable K lib conn cr s) : Reportable K cr s := by
  obtain ⟨subj, c, ho, hm, -⟩ := h
  refine ⟨c, ho.copy, ?_, ?_⟩
  · rw [ho.near]
    rfl
  · rw [← ho.near]
    exact hm

theorem wp_record (h : Writable K lib conn cr s)
    (hok : ∀ cr' s', Live K lib conn cr' s' → K.bound cr' = K.bound cr → cr'.spec = cr.spec →
      P (.ok cr') s')
    (herr : ∀ e s', Reportable K cr s' → P (.error e) s') :
    (K.session lib).wp (statusUpdate cr) P s := by
  obtain ⟨subj, c, ho, hm, hf⟩ := h
  have hrv : cr.rv = c.rv := by
    rw [ho.near]
    rfl
  have hm' : K.MayWrite s c (c.withStatus cr.status) := by
    rw [← ho.near]
    exact hm
  refine wp_statusUpdate _ ho.copy hrv hm' (fun rv gen => ?_) (fun e => ?_)
  · have hb : K.bound ((c.withStatus cr.status).stamp rv gen) = K.bound cr := by
      rw [bound_stamp, ← ho.near]
    refine hok _ _ ⟨subj, (c.withStatus cr.status).stamp rv gen, ?_, ?_, rfl⟩ hb ?_
    · exact ⟨⟨ho.connected.inst, ho.connected.key, ho.connected.admitted⟩, ho.live, ho.key, rfl,
        rfl⟩
    · exact fresh_wrote (by rw [hb]; exact hf)
    · rw [ho.near]
      rfl
  · exact herr e _ ⟨c, ho.copy, hrv, hm'.hinder rfl rfl rfl (hindered_statusUpdate_error ho.copy e)⟩

/-- The copy has no object: it is unbound, or its object was deleted. -/
def Vacant (K : Kind Spec Status Api) (lib : Ext) (conn : ResolvedInstance)
    (cr : Resource Spec Status) (s : Session Spec Status) : Prop :=
  ∃ subj c, OpenAt K lib conn subj c cr s ∧ s.fresh = none ∧
    (K.bound c = none ∨ ∃ x ∈ s.dropped, K.bound c = some x)

theorem Live.vacant (h : Live K lib conn cr s) (hn : K.bound cr = none) :
    Vacant K lib conn cr s := by
  obtain ⟨subj, c, ho, hf, hb⟩ := h
  exact ⟨subj, c, ho, hf, .inl (hb.symm.trans hn)⟩

theorem stores_unbound (hb : K.bound c = none ∨ ∃ x ∈ s.dropped, K.bound c = some x)
    (hn : K.bound v = none) :
    K.bound v = K.bound c ∨ K.Forgets s c v ∨ K.Adopts s c v := by
  rcases hb with hb | hb
  · exact .inl (hn.trans hb.symm)
  · exact .inr (.inl ⟨hn, .inr hb⟩)

theorem Vacant.writable (h : Vacant K lib conn cr s) (hn : K.bound (cr.withStatus st) = none) :
    Writable K lib conn (cr.withStatus st) s := by
  obtain ⟨subj, c, ho, hf, hb⟩ := h
  exact ⟨subj, c, ho.withStatus st, .inr ⟨.inl hf, stores_unbound hb hn⟩, .inl hf⟩

theorem Vacant.withStatus (h : Vacant K lib conn cr s) (st : Status) :
    Vacant K lib conn (cr.withStatus st) s := by
  obtain ⟨subj, c, ho, hf, hb⟩ := h
  exact ⟨subj, c, ho.withStatus st, hf, hb⟩

theorem wp_createVacant (hd : K.deletes req = none) (h : Vacant K lib conn cr s)
    (hok : ∀ a s', (∀ st, K.bound (cr.withStatus st) = K.takes req a →
      Writable K lib conn (cr.withStatus st) s') → Q (.ok a) s')
    (herr : ∀ e s', Vacant K lib conn cr s' → Q (.error e) s') :
    (K.session lib).wp (api conn req) Q s := by
  obtain ⟨subj, c, ho, hf, hb⟩ := h
  refine wp_create hd ho hf (.inr hb) ?_ ?_ ?_
  · intro a s' x hx ho' hf' _
    refine hok a s' (fun st hst => ?_)
    exact Pending.writable ⟨subj, c, ho', hf'⟩ (hst.trans hx)
  · intro a s' hx ho' hf' hdr
    refine hok a s' (fun st hst => Vacant.writable ⟨subj, c, ho', hf', ?_⟩ (hst.trans hx))
    rw [hdr]
    exact hb
  · intro e s' ho' hf' hdr _
    refine herr e s' ⟨subj, c, ho', hf', ?_⟩
    rw [hdr]
    exact hb

theorem wp_createUnbound (hd : K.deletes req = none) (h : Live K lib conn cr s)
    (hn : K.bound cr = none)
    (hok : ∀ a s', (∀ st, K.bound (cr.withStatus st) = K.takes req a →
      Writable K lib conn (cr.withStatus st) s') → Q (.ok a) s')
    (herr : ∀ e s', Live K lib conn cr s' → Q (.error e) s') :
    (K.session lib).wp (api conn req) Q s := by
  obtain ⟨subj, c, ho, hf, hbc⟩ := h
  have hcn : K.bound c = none := hbc.symm.trans hn
  refine wp_create hd ho hf (.inr (.inl hcn)) ?_ ?_ ?_
  · intro a s' x hx ho' hf' _
    refine hok a s' (fun st hst => ?_)
    exact Pending.writable ⟨subj, c, ho', hf'⟩ (hst.trans hx)
  · intro a s' hx ho' hf' _
    exact hok a s' (fun st hst =>
      Vacant.writable ⟨subj, c, ho', hf', .inl hcn⟩ (hst.trans hx))
  · intro e s' ho' hf' _ _
    exact herr e s' ⟨subj, c, ho', hf', hbc⟩

theorem wp_deleteBound (hrep : K.replaces = true) (hd : K.deletes req = some x)
    (hcr : K.creates req = false) (ht : ∀ a, K.takes req a = none) (h : Live K lib conn cr s)
    (hb : K.bound cr = some x) (ha : K.adopted cr = false)
    (hQ : ∀ r s', Live K lib conn cr s' → Vacant K lib conn cr s' → Q r s') :
    (K.session lib).wp (api conn req) Q s := by
  obtain ⟨subj, c, ho, hf, hbc⟩ := h
  have hcb : K.bound c = some x := hbc.symm.trans hb
  have hca : K.adopted c = false := by
    rw [← ha, ho.near]
    exact (adopted_withStatus c _).symm
  have hcall : K.MayCall lib s conn req := by
    refine ⟨subj, c, ho.connected, ho.copy, fun _ => by rw [hd]; rfl, ?_, ?_⟩
    · exact fun hb => absurd hb (not_binds hcr ht)
    · intro y hy
      rw [hd] at hy
      cases hy
      exact ⟨ho.key, hcb, hca⟩
  refine ⟨hcall, fun r _ => ?_⟩
  have hopen : OpenAt K lib conn subj c cr (K.next s (.api conn req) r) :=
    ⟨⟨ho.connected.inst, ho.connected.key, ho.connected.admitted⟩, ho.live, ho.key, ho.copy,
      ho.near⟩
  have hfresh : (K.next s (.api conn req) r).fresh = none := by
    cases r with
    | error e => exact hf
    | ok a =>
      show (K.takes req a).or s.fresh = none
      rw [ht, hf]
      rfl
  refine hQ r _ ⟨subj, c, hopen, hfresh, hbc⟩ ⟨subj, c, hopen, hfresh, .inr ⟨x, ?_, hcb⟩⟩
  show x ∈ K.drops req ++ s.dropped
  unfold drops
  rw [if_pos hrep, hd]
  exact List.mem_cons_self

/-- What an annotation written by a controller says about its resource. -/
structure Annotates (K : Kind Spec Status Api) (key : String) : Prop where
  bound : ∀ v val, K.bound (annotate v key val) = K.bound v
  adopted : ∀ v val, K.adopted (annotate v key val) = K.adopted v

theorem updated_annotate (key val : String) (h : cr = c.withStatus cr.status) :
    c.updated (annotate cr key val) = annotate c key val := by
  rw [h]
  rfl

theorem wp_updateMeta (h : Live K lib conn cr s) (hrv : cr'.rv = cr.rv) (hspec : cr'.spec = cr.spec)
    (hst : cr'.status = cr.status)
    (hb : ∀ c : Resource Spec Status, cr = c.withStatus cr.status →
      K.bound (c.updated cr') = K.bound c ∧ K.adopted (c.updated cr') = K.adopted c)
    (hok : ∀ cr'' s', Live K lib conn cr'' s' → K.bound cr'' = K.bound cr →
      cr''.spec = cr.spec → P (.ok cr'') s')
    (herr : ∀ e s', Reportable K cr' s' → P (.error e) s') :
    (K.session lib).wp (update cr') P s := by
  obtain ⟨subj, c, ho, hf, hbc⟩ := h
  have hcrv : cr.rv = c.rv := by
    rw [ho.near]
    rfl
  have hcspec : cr.spec = c.spec := by
    rw [ho.near]
    rfl
  obtain ⟨hbound, hadopted⟩ := hb c ho.near
  refine wp_update cr' ho.copy (hrv.trans hcrv) (hspec.trans hcspec) (.inl hadopted)
    (.inr ⟨.inl hf, .inl hbound⟩) (fun rv gen => ?_) (fun e => ?_)
  · have hb' : K.bound ((c.updated cr').stamp rv gen) = K.bound c := by
      rw [bound_stamp, hbound]
    refine hok _ _ ⟨subj, (c.updated cr').stamp rv gen, ?_, fresh_wrote (.inl hf), rfl⟩
      (hb'.trans hbc.symm) hspec
    refine ⟨⟨ho.connected.inst, ho.connected.key, ho.connected.admitted⟩, ho.live, ?_, rfl, rfl⟩
    -- the spec, and so the instance it names, is the one that was resolved
    rw [← ho.key]
    show (⟨(K.instanceRef cr'.spec).namespaceOr c.metadata.ns, (K.instanceRef cr'.spec).name⟩ :
      NamespacedName) = _
    rw [hspec, hcspec]
    rfl
  · refine herr e _ ⟨c, ho.copy, hrv.trans hcrv, .inr ⟨.inl hf, .inl ?_⟩⟩
    rw [hst, ← ho.near]
    exact hbc

theorem wp_updateAnnotated {key val : String} (ha : K.Annotates key) (h : Live K lib conn cr s)
    (hok : ∀ cr' s', Live K lib conn cr' s' → K.bound cr' = K.bound cr → cr'.spec = cr.spec →
      P (.ok cr') s')
    (herr : ∀ e s', Reportable K (annotate cr key val) s' → P (.error e) s') :
    (K.session lib).wp (update (annotate cr key val)) P s := by
  refine wp_updateMeta (annotate cr key val) h rfl rfl rfl (fun c hc => ?_) hok herr
  rw [updated_annotate key val hc]
  exact ⟨ha.bound c val, ha.adopted c val⟩

/-! ## The shared steps of the controllers

Each is stated for the outcomes it can have: where the caller goes on, and what holds of the copy
it stops with. -/

/-- How a body may stop: with a copy whose status can be written. -/
def Stops (K : Kind Spec Status Api) (f : Failure Spec Status) (s : Session Spec Status) : Prop :=
  Reportable K f.cr s

theorem wpE_storeSyncHash {hash : String} (ha : K.Annotates annotationSyncHash)
    (h : Live K lib conn cr s) {Q : Resource Spec Status → Session Spec Status → Prop}
    (hok : ∀ cr' s', Live K lib conn cr' s' → K.bound cr' = K.bound cr → cr'.spec = cr.spec →
      Q cr' s') :
    (K.session lib).wpE (storeSyncHash cr hash) Q (Stops K) s := by
  unfold storeSyncHash
  rw [wpE_orFail]
  exact wp_updateAnnotated ha h hok (fun _ _ h' => h')

theorem wpE_recordCreated {pre : String} {hash : Spec → String}
    (ha : K.Annotates annotationSyncHash) (h : Writable K lib conn cr s)
    {Q : Resource Spec Status → Session Spec Status → Prop}
    (hok : ∀ cr' s', Live K lib conn cr' s' → K.bound cr' = K.bound cr → cr'.spec = cr.spec →
      Q cr' s') :
    (K.session lib).wpE (recordCreated pre hash cr) Q (Stops K) s := by
  unfold recordCreated
  rw [wpE_bind, wpE_orFail]
  refine wp_record h (fun cr' s' h' hb hs => ?_) (fun e s' h' => h')
  exact wpE_storeSyncHash ha h' (fun cr'' s'' h'' hb' hs' =>
    hok cr'' s'' h'' (hb'.trans hb) (hs'.trans hs))

/-- Marking an unbound resource after an existing object `x` was found. -/
theorem wpE_markAdopted (hb : ∀ v val, K.bound (annotate v annotationAdopted val) = K.bound v)
    (ha : ∀ v, K.adopted (annotate v annotationAdopted annotationAdoptedValue) = true)
    (h : Live K lib conn cr s) (hn : K.bound cr = none) (hx : x ∈ s.seen)
    {Q : Resource Spec Status → Session Spec Status → Prop}
    {E : Resource Spec Status × Error → Session Spec Status → Prop}
    (hok : ∀ cr' s', Live K lib conn cr' s' → K.bound cr' = none → K.adopted cr' = true →
      x ∈ s'.seen → cr'.spec = cr.spec → Q cr' s')
    (herr : ∀ f s', Reportable K f.1 s' → E f s') :
    (K.session lib).wpE (markAdopted cr) Q E s := by
  unfold markAdopted
  rw [wpE_orFail]
  obtain ⟨subj, c, ho, hf, hbc⟩ := h
  have hcspec : cr.spec = c.spec := by
    rw [ho.near]
    rfl
  have hcrv : cr.rv = c.rv := by
    rw [ho.near]
    rfl
  have hup := updated_annotate annotationAdopted annotationAdoptedValue ho.near
  have hcn : K.bound c = none := hbc.symm.trans hn
  refine wp_update (annotate cr annotationAdopted annotationAdoptedValue) ho.copy hcrv
    hcspec ?_ ?_ (fun rv gen => ?_) (fun e => ?_)
  · rw [hup]
    exact .inr ⟨ha c, hcn, hf, List.ne_nil_of_mem hx⟩
  · rw [hup]
    exact .inr ⟨.inl hf, .inl (hb c _)⟩
  · rw [hup]
    have hopen : OpenAt K lib conn subj
        ((annotate c annotationAdopted annotationAdoptedValue).stamp rv gen)
        ((annotate c annotationAdopted annotationAdoptedValue).stamp rv gen)
        (K.next s (.update (annotate cr annotationAdopted annotationAdoptedValue))
          (.ok ((annotate c annotationAdopted annotationAdoptedValue).stamp rv gen))) :=
      ⟨⟨ho.connected.inst, ho.connected.key, ho.connected.admitted⟩, ho.live, ho.key, rfl, rfl⟩
    refine hok _ _ ⟨subj, _, hopen, fresh_wrote (.inl hf), rfl⟩ ?_ ?_ hx hcspec.symm
    · rw [bound_stamp, hb, hcn]
    · rw [adopted_stamp]
      exact ha c
  · refine herr _ _ ⟨c, ho.copy, hcrv, .inr ⟨.inl hf, .inl ?_⟩⟩
    show K.bound (c.withStatus cr.status) = K.bound c
    rw [← ho.near]
    exact hbc

end Kind

end

end LitellmOperator
