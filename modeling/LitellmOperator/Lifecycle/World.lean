import LitellmOperator.Effect.Machine
import LitellmOperator.Session.Rules

/-! # The life of one resource

The world a per-resource reconcile runs in: the stored resource with its history, and the objects
in LiteLLM. Between any two calls of a reconcile tenants may edit or delete the resource, the
config sync may write to it, and others may create and delete objects. Reads through the cache may
return any past version. Every call may fail, with or without having taken effect.

`created`, `asked` and `alien` are history that no program reads; the properties of runs are
about them.
-/

set_option autoImplicit false

namespace LitellmOperator

open Effect Go Kube

/-- An object in LiteLLM: the instance it is on, and its id. -/
abbrev Obj : Type := NamespacedName × String

instance : LawfulBEq Obj := inferInstance

structure World (Spec Status : Type) where
  store : Store Spec Status
  /-- How the last lookup of the namespace came out, since the instance was read. -/
  ns : Except Error Kube.Namespace := .error (errorf "not looked up")
  objects : List Obj := []
  /-- Those of them that this resource's own create made. -/
  own : List Obj := []
  /-- The objects this resource created after the instance had admitted it. -/
  created : List Obj := []
  /-- The objects this resource has sent a lookup or a create for. -/
  asked : List Obj := []
  /-- Objects that existed when they were first asked for, and ever since. -/
  alien : List Obj := []

/-- What decides how a call is answered. -/
inductive Reply (Api : Type) [Service Api] where
  /-- The call fails and had no effect. -/
  | fail (e : Error)
  /-- The cache returns the version this many writes back. -/
  | cached (age : Nat)
  /-- The write goes through, if it carries the current resource version. -/
  | done
  /-- The write goes through in the same way, but the caller gets an error. -/
  | lost (e : Error)
  /-- The object read. -/
  | found (obj : (r : Read) → Option r.Obj)
  | bytes (bs : List UInt8)
  /-- LiteLLM carries out the request; the answer may be lost on the way back. -/
  | served (result : (req : Api) → Option (Service.Result req)) (lost : Option Error)

/-- Whether the call takes effect although the caller gets an error. -/
def Reply.isLost {Api : Type} [Service Api] : Reply Api → Bool
  | .lost _ => true
  | .served _ (some _) => true
  | _ => false

inductive Env (Spec : Type) where
  /-- A tenant replaces the spec. -/
  | edit (spec : Spec)
  /-- A tenant deletes the resource. -/
  | remove
  /-- The config sync clears the id on a copy it has listed, because the object is missing. -/
  | clear (age : Nat)
  /-- The config sync takes the sync hash off a copy it has listed. -/
  | drift (age : Nat)
  /-- Someone else creates an object. -/
  | appear (o : Obj)
  /-- An object goes away. -/
  | vanish (o : Obj)

section

variable {Spec Status Api : Type} [Service Api] [DecidableEq Spec] [DecidableEq Status]

/-! ## How calls are answered -/

def Op.failed : (op : Op Spec Status Api) → Error → op.Resp
  | .get _, e => .error e
  | .update _, e => .error e
  | .statusUpdate _, e => .error e
  | .statusPatch _ _, e => .error e
  | .read _, e => .error e
  | .createSecret _, e => .error e
  | .updateSecret _, e => .error e
  | .random _, e => .error e
  | .api _ _, e => .error e

abbrev World.commit (w : World Spec Status)
    (out : Except StatusError (Resource Spec Status × Store Spec Status)) (lost : Option Error) :
    Except Error (Resource Spec Status) × World Spec Status :=
  committed (fun store => { w with store := store }) w out lost

/-- A read returns the instance asked for. -/
def Read.fits : (r : Read) → r.Obj → Bool
  | .getInstance key, inst => (show LiteLLMInstance from inst).metadata.key = key
  | _, _ => true

/-- The record of the namespace lookup after a read. -/
def World.noted (w : World Spec Status) : (r : Read) → Except Error r.Obj → World Spec Status
  | .getInstance _, .ok _ => { w with ns := .error (errorf "not looked up") }
  | .getNamespace _, out => { w with ns := out }
  | _, _ => w

variable (K : Kind Spec Status Api) (lib : Ext) (home : String)

/-- A request was sent to the instance `key`. -/
def World.request (w : World Spec Status) (key : NamespacedName) (req : Api) :
    World Spec Status :=
  match K.names req with
  | none => w
  | some x =>
    if (key, x) ∈ w.asked then w
    else { w with
      asked := (key, x) :: w.asked
      alien := if (key, x) ∈ w.objects then (key, x) :: w.alien else w.alien }

def World.without (w : World Spec Status) (o : Obj) : World Spec Status :=
  { w with
    objects := w.objects.filter (· ≠ o)
    own := w.own.filter (· ≠ o)
    alien := w.alien.filter (· ≠ o) }

/-- This resource has created `o`. -/
def World.having (w : World Spec Status) (o : Obj) (admitted : Bool) : World Spec Status :=
  { w with
    objects := o :: w.objects
    own := o :: w.own
    created := if admitted then o :: w.created else w.created
    asked := o :: w.asked }

/-- LiteLLM has carried out a request, with this result. -/
def World.serve (w : World Spec Status) (conn : ResolvedInstance) (req : Api)
    (a : Service.Result req) : World Spec Status :=
  let key := conn.inst.metadata.key
  if K.creates req then
    match K.takes req a with
    | some x => w.having (key, x) (admits lib conn.inst home K.kind w.ns)
    | none => w
  else
    match K.deletes req with
    | some x => w.without (key, x)
    | none => w

/-- How the world answers a call, directed by a reply. -/
def World.answer (w : World Spec Status) :
    (op : Op Spec Status Api) → Reply Api → Option (op.Resp × World Spec Status)
  | .get _, .cached age => w.store.versions[age]?.map (fun v => (.ok v, w))
  | .update obj, .done => some (w.commit (w.store.update obj) none)
  | .update obj, .lost e => some (w.commit (w.store.update obj) (some e))
  | .statusUpdate obj, .done => some (w.commit (w.store.statusUpdate obj) none)
  | .statusUpdate obj, .lost e => some (w.commit (w.store.statusUpdate obj) (some e))
  | .statusPatch base obj, .done =>
    some (w.commit (w.store.statusPatch (K.merge base.status obj.status)) none)
  | .statusPatch base obj, .lost e =>
    some (w.commit (w.store.statusPatch (K.merge base.status obj.status)) (some e))
  | .read r, .found obj =>
    (obj r).bind (fun o => if r.fits o then some (.ok o, w.noted r (.ok o)) else none)
  | .read r, .fail e => some (.error e, w.noted r (.error e))
  | .createSecret secret, .done => some (.ok secret, w)
  | .updateSecret secret, .done => some (.ok secret, w)
  | .random _, .bytes bs => some (.ok bs, w)
  | .api conn req, .served result lost =>
    (result req).map (fun a =>
      (match lost with
        | none => .ok a
        | some e => .error e,
      World.serve K lib home (World.request K w conn.inst.metadata.key req) conn req a))
  | .api conn req, .fail e => some (.error e, World.request K w conn.inst.metadata.key req)
  | op, .fail e => some (op.failed e, w)
  | _, _ => none

/-! ## What others do -/

/-- The copy with the sync hash taken off. -/
def withoutSyncHash (v : Resource Spec Status) : Resource Spec Status :=
  { v with metadata := { v.metadata with
      annotations := some ((v.metadata.annotations.getD []).delete annotationSyncHash) } }

/-- The store after a write of the config sync, if it goes through. -/
abbrev World.written (w : World Spec Status)
    (out : Except StatusError (Resource Spec Status × Store Spec Status)) :
    Option (World Spec Status) :=
  carriedOut (fun store => { w with store := store }) out

/-- One step of the environment. `cleared` is what the config sync writes over the status of a
resource whose object is missing; kinds it does not cover have none. -/
def World.env (cleared : Option (Status → Status)) (w : World Spec Status) :
    Env Spec → Option (World Spec Status)
  | .edit spec => (w.store.edit spec).map (fun store => { w with store := store })
  | .remove => w.store.markDeleted.map (fun store => { w with store := store })
  | .clear age =>
    match cleared, w.store.versions[age]? with
    | some f, some v => w.written (w.store.statusUpdate (v.withStatus (f v.status)))
    | _, _ => none
  | .drift age =>
    match cleared, w.store.versions[age]? with
    | some _, some v => w.written (w.store.update (withoutSyncHash v))
    | _, _ => none
  | .appear o => if o ∈ w.objects then none else some { w with objects := o :: w.objects }
  | .vanish o => some (w.without o)

/-- Reconciles of one resource, started again and again. -/
def lifecycle (cleared : Option (Status → Status)) (home : String)
    (reconcile : Ctl Spec Status Api (Result × Option Error)) :
    Machine (Op Spec Status Api) Op.Resp (World Spec Status) (Reply Api) (Env Spec) where
  answer := World.answer K lib home
  env := World.env cleared
  main := do
    let _ ← reconcile
    pure ()

/-- The object a reconcile is about to delete. -/
def pendingDelete (c : Conf (Op Spec Status Api) Op.Resp (World Spec Status)) : Option Obj :=
  match c.running with
  | some (.call (.api conn req) _) => (K.deletes req).map (fun x => (conn.inst.metadata.key, x))
  | _ => none

/-- The resource has just been created and nothing else happened. -/
def World.initial (cr : Resource Spec Status) : World Spec Status := { store := .created cr }

end

/-! ## What one step can do

Every call of a reconcile that keeps to the session protocol, and every step of the environment,
moves the world in one of a few ways. They are listed once, in `Moves` and `Shifts`; the invariants
of runs are proved by cases on these lists and do not look at operations or replies.
-/

section

variable {Spec Status Api : Type} [Service Api]

/-- The session holds versions of the stored resource, and its record of the namespace lookup is
the world's. -/
structure Tied (w : World Spec Status) (s : Session Spec Status) : Prop where
  copy : ∀ c, s.copy = some c → c ∈ w.store.versions
  subj : ∀ i c, s.inst = some (i, c) → c ∈ w.store.versions
  ns : ∀ i c, s.inst = some (i, c) → s.ns = w.ns

/-- The two worlds hold the same objects, with the same history. -/
structure Frame (w w' : World Spec Status) : Prop where
  objects : w'.objects = w.objects
  own : w'.own = w.own
  created : w'.created = w.created
  asked : w'.asked = w.asked
  alien : w'.alien = w.alien

theorem Frame.refl (w : World Spec Status) : Frame w w := ⟨rfl, rfl, rfl, rfl, rfl⟩

theorem Frame.of_rest {w w' : World Spec Status} (h : w' = { w with store := w'.store }) :
    Frame w w' := by
  rw [h]
  exact ⟨rfl, rfl, rfl, rfl, rfl⟩

/-- `w'` is `w` after `v` was stored over `cur`, with the answer `r`. -/
structure Stores (w : World Spec Status) (cur v r : Resource Spec Status)
    (w' : World Spec Status) : Prop where
  written : Store.Written w.store cur v r w'.store
  rest : w' = { w with store := w'.store }
  spec : v.spec = cur.spec
  ns : v.metadata.ns = cur.metadata.ns

variable (K : Kind Spec Status Api) (lib : Ext) (home : String)

/-- What a call of a reconcile does to the world and to its session. -/
inductive Moves (w : World Spec Status) (s : Session Spec Status) (op : Op Spec Status Api)
    (rep : Reply Api) (w' : World Spec Status) (s' : Session Spec Status) : Prop where
  /-- Nothing but what was seen changes. -/
  | quiet (hw : Frame w w') (store : w'.store = w.store) (copy : s'.copy = s.copy)
      (inst : s'.inst = s.inst) (fresh : s'.fresh = s.fresh) (dropped : s'.dropped = s.dropped)
  | reads (hw : Frame w w') (store : w'.store = w.store) (v : Resource Spec Status)
      (mem : v ∈ w.store.versions) (copy : s'.copy = some v) (pending : s.fresh = none)
      (fresh : s'.fresh = none) (dropped : s'.dropped = s.dropped)
  /-- The instance is read for the copy. -/
  | resolves (hw : Frame w w') (store : w'.store = w.store) (copy : s'.copy = s.copy)
      (pending : s.fresh = none) (fresh : s'.fresh = none) (dropped : s'.dropped = s.dropped)
  /-- The copy is written over itself. -/
  | writes (c v r : Resource Spec Status) (copy : s.copy = some c) (stores : Stores w c v r w')
      (may : K.MayWrite s c v) (mark : K.MayMark s c v) (inst : s'.inst = s.inst)
      (dropped : s'.dropped = s.dropped)
      (out : rep.isLost = false ∧ s'.copy = some r ∧
          s'.fresh = (if s.fresh = K.bound r then none else s.fresh) ∨
        rep.isLost = true ∧ s'.copy = s.copy ∧ s'.fresh = s.fresh)
  /-- A part of the status that does not bind is written over whatever is stored. -/
  | patches (cur v r : Resource Spec Status) (pending : s.fresh = none)
      (stores : Stores w cur v r w') (bound : K.bound v = K.bound cur)
      (adopted : K.adopted v = K.adopted cur) (fresh : s'.fresh = none)
      (dropped : s'.dropped = s.dropped)
  | refused (conn : ResolvedInstance) (req : Api) (e : Error) (hop : op = .api conn req)
      (hrep : rep = .fail e) (may : K.MayCall lib s conn req)
      (hw : w' = World.request K w conn.inst.metadata.key req) (copy : s'.copy = s.copy)
      (inst : s'.inst = s.inst) (fresh : s'.fresh = s.fresh)
      (dropped : s'.dropped = K.drops req ++ s.dropped)
  | served (conn : ResolvedInstance) (req : Api) (a : Service.Result req)
      (result : (req : Api) → Option (Service.Result req)) (lost : Option Error)
      (hop : op = .api conn req) (hrep : rep = .served result lost) (hres : result req = some a)
      (may : K.MayCall lib s conn req)
      (hw : w' = World.serve K lib home (World.request K w conn.inst.metadata.key req) conn req a)
      (copy : s'.copy = s.copy) (inst : s'.inst = s.inst)
      (out : lost = none ∧ s'.fresh = (K.takes req a).or s.fresh ∨
        lost.isSome = true ∧ s'.fresh = s.fresh)
      (dropped : s'.dropped = K.drops req ++ s.dropped)

variable {K lib home} {w w' : World Spec Status} {s : Session Spec Status}

/-! ## Writes -/

variable {out : Except StatusError (Resource Spec Status × Store Spec Status)}
variable {r : Except Error (Resource Spec Status)}

variable {s' : Session Spec Status}

theorem Tied.grow (h : Tied w s) (hgrow : ∀ v ∈ w.store.versions, v ∈ w'.store.versions)
    (hns : w'.ns = w.ns) (hcopy : ∀ c, s'.copy = some c → c ∈ w'.store.versions)
    (hinst : s'.inst = s.inst) (hsns : s'.ns = s.ns) : Tied w' s' where
  copy := hcopy
  subj i c hi := by
    rw [hinst] at hi
    exact hgrow c (h.subj i c hi)
  ns i c hi := by
    rw [hinst] at hi
    rw [hsns, hns]
    exact h.ns i c hi

theorem Tied.start (w : World Spec Status) : Tied w {} :=
  ⟨fun _ hc => (by cases hc), fun _ _ hi => (by cases hi), fun _ _ hi => (by cases hi)⟩

/-- A write carrying the resource version of the copy is made over the copy, or not at all. -/
theorem write_cases {c c' : Resource Spec Status} {lost : Option Error}
    (hout : ∀ v store, out = .ok (v, store) → Store.Written w.store c c' v store)
    (hspec : c'.spec = c.spec) (hns : c'.metadata.ns = c.metadata.ns)
    (h : w.commit out lost = (r, w')) :
    (∃ v, Stores w c c' v w' ∧ w'.ns = w.ns ∧
      (lost = none ∧ r = .ok v ∨ ∃ e, lost = some e ∧ r = .error e)) ∨
    (∃ e, r = .error e ∧ w' = w) := by
  rcases committed_cases h with ⟨v, store, hok, rfl, hr⟩ | hr
  · exact .inl ⟨v, ⟨hout v store hok, rfl, hspec, hns⟩, rfl, hr⟩
  · exact .inr hr

variable (K lib home) in
/-- A call was answered as the API server may answer it, and moved the world as listed. -/
def Answered (w : World Spec Status) (s : Session Spec Status) (op : Op Spec Status Api)
    (rep : Reply Api) (r : op.Resp) (w' : World Spec Status) : Prop :=
  s.expects op r ∧ Tied w' (K.next s op r) ∧ Moves K lib home w s op rep w' (K.next s op r)

variable {rep : Reply Api} {op : Op Spec Status Api}

theorem moves_of_stores {c v r : Resource Spec Status} (ht : Tied w s) (hc : s.copy = some c)
    (hst : Stores w c v r w') (hns : w'.ns = w.ns) (hmay : K.MayWrite s c v)
    (hmark : K.MayMark s c v) (hinst : s'.inst = s.inst) (hsns : s'.ns = s.ns)
    (hdropped : s'.dropped = s.dropped)
    (hout : rep.isLost = false ∧ s'.copy = some r ∧
        s'.fresh = (if s.fresh = K.bound r then none else s.fresh) ∨
      rep.isLost = true ∧ s'.copy = s.copy ∧ s'.fresh = s.fresh) :
    Tied w' s' ∧ Moves K lib home w s op rep w' s' := by
  refine ⟨ht.grow hst.written.grows hns (fun c' hc' => ?_) hinst hsns,
    .writes c v r hc hst hmay hmark hinst hdropped hout⟩
  rcases hout with ⟨-, hcopy, -⟩ | ⟨-, hcopy, -⟩
  · rw [hcopy] at hc'
    cases hc'
    exact hst.written.mem
  · rw [hcopy] at hc'
    exact hst.written.grows c' (ht.copy c' hc')

theorem answered_nothing {r : op.Resp} (ht : Tied w s) (hx : s.expects op r)
    (htrack : K.track s op r = s) : Answered K lib home w s op rep r w := by
  refine ⟨hx, ?_, ?_⟩
  · unfold Kind.next
    rw [htrack]
    exact ⟨ht.copy, ht.subj, ht.ns⟩
  · unfold Kind.next
    rw [htrack]
    exact .quiet (Frame.refl _) rfl rfl rfl rfl rfl

section

variable [DecidableEq Spec] [DecidableEq Status]

variable {r : Except Error (Resource Spec Status)} {lost : Option Error} {rep : Reply Api}

theorem answered_update {obj : Resource Spec Status} (ht : Tied w s)
    (hrep : rep.isLost = lost.isSome) (ha : K.allowed lib s (.update obj))
    (h : w.commit (w.store.update obj) lost = (r, w')) :
    Answered K lib home w s (.update obj) rep r w' := by
  obtain ⟨c, hc, hrv, hspec, hmark, hmay⟩ := ha
  rcases write_cases (fun _ _ hok => Store.written_of_update hok (ht.copy c hc) hrv) hspec rfl h
    with ⟨v, hst, hns, ⟨rfl, rfl⟩ | ⟨e, rfl, rfl⟩⟩ | ⟨e, rfl, rfl⟩
  · refine ⟨?_, moves_of_stores ht hc hst hns hmay hmark rfl rfl rfl (.inl ⟨hrep, rfl, rfl⟩)⟩
    intro c' hc'
    rw [hc] at hc'
    cases hc'
    exact hst.written.stored
  · exact ⟨trivial, moves_of_stores ht hc hst hns hmay hmark rfl rfl rfl (.inr ⟨hrep, rfl, rfl⟩)⟩
  · exact answered_nothing ht trivial rfl

theorem answered_statusUpdate {obj : Resource Spec Status} (ht : Tied w s)
    (hrep : rep.isLost = lost.isSome) (ha : K.allowed lib s (.statusUpdate obj))
    (h : w.commit (w.store.statusUpdate obj) lost = (r, w')) :
    Answered K lib home w s (.statusUpdate obj) rep r w' := by
  obtain ⟨c, hc, hrv, hmay⟩ := ha
  have hmark : K.MayMark s c (c.withStatus obj.status) := .inl (Kind.adopted_withStatus _ _)
  rcases write_cases (fun _ _ hok => Store.written_of_statusUpdate hok (ht.copy c hc) hrv) rfl rfl h
    with ⟨v, hst, hns, ⟨rfl, rfl⟩ | ⟨e, rfl, rfl⟩⟩ | ⟨e, rfl, rfl⟩
  · refine ⟨?_, moves_of_stores ht hc hst hns hmay hmark rfl rfl rfl (.inl ⟨hrep, rfl, rfl⟩)⟩
    intro c' hc'
    rw [hc] at hc'
    cases hc'
    exact hst.written.stored
  · exact ⟨trivial, moves_of_stores ht hc hst hns hmay hmark rfl rfl rfl (.inr ⟨hrep, rfl, rfl⟩)⟩
  · exact answered_nothing ht trivial rfl

theorem answered_statusPatch {base obj : Resource Spec Status} (ht : Tied w s)
    (ha : K.allowed lib s (.statusPatch base obj))
    (h : w.commit (w.store.statusPatch (K.merge base.status obj.status)) lost = (r, w')) :
    Answered K lib home w s (.statusPatch base obj) rep r w' := by
  obtain ⟨hf, c, hc, hbound⟩ := ha
  rcases committed_cases h with ⟨v, store, hok, rfl, hr⟩ | ⟨e, rfl, rfl⟩
  · obtain ⟨cur, hwritten⟩ := Store.statusPatch_ok hok
    have hst : Stores w cur (cur.withStatus (K.merge base.status obj.status cur.status)) v
        { w with store := store } := ⟨hwritten, rfl, rfl, rfl⟩
    have hgrow := hwritten.grows
    rcases hr with ⟨rfl, rfl⟩ | ⟨e, rfl, rfl⟩
    · refine ⟨trivial, ?_, .patches cur _ v hf hst (hbound cur) (Kind.adopted_withStatus _ _)
        (Kind.fresh_wrote (.inl hf)) rfl⟩
      refine ht.grow hgrow rfl (fun c' hc' => ?_) rfl rfl
      cases hc'
      exact hwritten.mem
    · refine ⟨trivial, ?_, .patches cur _ v hf hst (hbound cur) (Kind.adopted_withStatus _ _) hf rfl⟩
      exact ht.grow hgrow rfl (fun c' hc' => hgrow c' (ht.copy c' hc')) rfl rfl
  · exact answered_nothing ht trivial rfl

end

/-! ## Reads and requests -/

theorem answered_read {r : Read} {out : Except Error r.Obj} (ht : Tied w s)
    (ha : K.allowed lib s (.read r)) (hfits : ∀ o, out = .ok o → r.fits o = true) :
    Answered K lib home w s (.read r) rep out (w.noted r out) := by
  cases r with
  | getInstance key =>
    obtain ⟨hf, c, hc, -⟩ := ha
    rcases out with e | inst
    · exact answered_nothing ht trivial rfl
    have hkey : inst.metadata.key = key := of_decide_eq_true (hfits inst rfl)
    refine ⟨hkey, ⟨ht.copy, fun i c' hi => ?_, fun _ _ _ => rfl⟩,
      .resolves ⟨rfl, rfl, rfl, rfl, rfl⟩ rfl rfl hf hf rfl⟩
    have hi' : s.copy.map (fun c => (inst, c)) = some (i, c') := hi
    rw [hc] at hi'
    cases hi'
    exact ht.copy c hc
  | getNamespace name =>
    refine ⟨?_, ⟨ht.copy, ht.subj, fun _ _ _ => ?_⟩,
      .quiet ⟨rfl, rfl, rfl, rfl, rfl⟩ rfl rfl rfl rfl rfl⟩
    · cases out with
      | error e | ok n => trivial
    · cases out with
      | error e | ok n => rfl
  | _ =>
    cases out with
    | error e | ok o => exact answered_nothing ht trivial rfl

theorem request_store (key : NamespacedName) (req : Api) :
    (World.request K w key req).store = w.store ∧ (World.request K w key req).ns = w.ns := by
  unfold World.request
  split
  · exact ⟨rfl, rfl⟩
  · split <;> exact ⟨rfl, rfl⟩

theorem serve_store (conn : ResolvedInstance) (req : Api) (a : Service.Result req) :
    (World.serve K lib home w conn req a).store = w.store ∧
      (World.serve K lib home w conn req a).ns = w.ns := by
  unfold World.serve
  dsimp only
  split
  · split <;> exact ⟨rfl, rfl⟩
  · split <;> exact ⟨rfl, rfl⟩

theorem Tied.upstream (h : Tied w s) (hw : w'.store = w.store ∧ w'.ns = w.ns)
    (hcopy : s'.copy = s.copy) (hinst : s'.inst = s.inst) (hsns : s'.ns = s.ns) : Tied w' s' := by
  refine h.grow (fun v hv => ?_) hw.2 (fun c hc => ?_) hinst hsns
  · rw [hw.1]
    exact hv
  · rw [hw.1]
    rw [hcopy] at hc
    exact h.copy c hc

theorem answered_refused {conn : ResolvedInstance} {req : Api} (ht : Tied w s)
    (ha : K.MayCall lib s conn req) (e : Error) :
    Answered K lib home w s (.api conn req) (.fail e) (.error e)
      (World.request K w conn.inst.metadata.key req) :=
  ⟨trivial, ht.upstream (request_store _ _) rfl rfl rfl,
    .refused conn req e rfl rfl ha rfl rfl rfl rfl rfl⟩

theorem answered_served {conn : ResolvedInstance} {req : Api}
    {result : (req : Api) → Option (Service.Result req)} {a : Service.Result req} (ht : Tied w s)
    (ha : K.MayCall lib s conn req) (hres : result req = some a) (lost : Option Error) :
    Answered K lib home w s (.api conn req) (.served result lost) (match lost with
        | none => .ok a
        | some e => .error e)
      (World.serve K lib home (World.request K w conn.inst.metadata.key req) conn req a) := by
  have htied : ∀ s' : Session Spec Status, s'.copy = s.copy → s'.inst = s.inst → s'.ns = s.ns →
      Tied (World.serve K lib home (World.request K w conn.inst.metadata.key req) conn req a) s' := by
    intro s'
    refine ht.upstream ⟨?_, ?_⟩
    · rw [(serve_store conn req a).1, (request_store _ _).1]
    · rw [(serve_store conn req a).2, (request_store _ _).2]
  cases lost with
  | none =>
    exact ⟨trivial, htied _ rfl rfl rfl, .served conn req a result none rfl rfl hres ha rfl rfl rfl
      (.inl ⟨rfl, rfl⟩) rfl⟩
  | some e =>
    exact ⟨trivial, htied _ rfl rfl rfl, .served conn req a result (some e) rfl rfl hres ha rfl rfl
      rfl (.inr ⟨rfl, rfl⟩) rfl⟩

theorem pendingDelete_some {c : Conf (Op Spec Status Api) Op.Resp (World Spec Status)} {o : Obj}
    (h : pendingDelete K c = some o) :
    ∃ conn req k x, c.running = some (.call (.api conn req) k) ∧ K.deletes req = some x ∧
      o = (conn.inst.metadata.key, x) := by
  unfold pendingDelete at h
  split at h
  · rename_i conn req k hrun
    obtain ⟨x, hx, rfl⟩ := Option.map_eq_some_iff.mp h
    exact ⟨conn, req, k, x, hrun, hx, rfl⟩
  · cases h

/-! ## All calls -/

theorem answered_get {key : NamespacedName} {age : Nat} (ht : Tied w s)
    (ha : K.allowed lib s (.get key))
    (h : w.store.versions[age]?.map (fun v => (Except.ok v, w)) = some (r, w')) :
    Answered K lib home w s (.get key) rep r w' := by
  obtain ⟨v, hv, heq⟩ := Option.map_eq_some_iff.mp h
  cases heq
  have hmem : v ∈ w.store.versions := List.mem_of_getElem? hv
  refine ⟨trivial, ⟨fun c hc => ?_, ht.subj, ht.ns⟩,
    .reads (Frame.refl _) rfl v hmem rfl ha.2 ha.2 rfl⟩
  cases hc
  exact hmem

section

variable [DecidableEq Spec] [DecidableEq Status]

/-- **Every call of a reconcile moves the world in one of the listed ways.** -/
theorem answered {rep : Reply Api} {r : op.Resp} (ht : Tied w s) (ha : K.allowed lib s op)
    (h : World.answer K lib home w op rep = some (r, w')) :
    Answered K lib home w s op rep r w' := by
  cases op with
  | get key =>
    cases rep with
    | fail e => cases h; exact answered_nothing ht trivial rfl
    | cached age => exact answered_get ht ha h
    | _ => cases h
  | update obj =>
    cases rep with
    | fail e => cases h; exact answered_nothing ht trivial rfl
    | done | lost e => exact answered_update ht rfl ha (Option.some.inj h)
    | _ => cases h
  | statusUpdate obj =>
    cases rep with
    | fail e => cases h; exact answered_nothing ht trivial rfl
    | done | lost e => exact answered_statusUpdate ht rfl ha (Option.some.inj h)
    | _ => cases h
  | statusPatch base obj =>
    cases rep with
    | fail e => cases h; exact answered_nothing ht trivial rfl
    | done | lost e => exact answered_statusPatch ht ha (Option.some.inj h)
    | _ => cases h
  | read q =>
    cases rep with
    | fail e =>
      cases h
      exact answered_read ht ha (fun o ho => by cases ho)
    | found obj =>
      obtain ⟨o, -, ho⟩ := Option.bind_eq_some_iff.mp h
      by_cases hfits : q.fits o = true
      · rw [if_pos hfits] at ho
        cases ho
        exact answered_read ht ha (fun o' ho' => by cases ho'; exact hfits)
      · rw [if_neg hfits] at ho
        cases ho
    | _ => cases h
  | createSecret secret | updateSecret secret =>
    cases rep with
    | fail e => cases h; exact answered_nothing ht trivial rfl
    | done => cases h; exact answered_nothing ht trivial rfl
    | _ => cases h
  | random n =>
    cases rep with
    | fail e | bytes bs => cases h; exact answered_nothing ht trivial rfl
    | _ => cases h
  | api conn req =>
    cases rep with
    | fail e => cases h; exact answered_refused ht ha e
    | served result lost =>
      obtain ⟨a, hres, heq⟩ := Option.map_eq_some_iff.mp h
      cases heq
      cases lost with
      | none => exact answered_served ht ha hres none
      | some e => exact answered_served ht ha hres (some e)
    | _ => cases h

/-! ## The environment -/

/-- What the config sync writes over a status unbinds it, and the sync hash says nothing about the
object. -/
structure Clears (K : Kind Spec Status Api) (cleared : Option (Status → Status)) : Prop where
  bound : ∀ f, cleared = some f → ∀ v : Resource Spec Status,
    K.bound (v.withStatus (f v.status)) = none
  drift : cleared.isSome = true → ∀ v : Resource Spec Status, K.bound (withoutSyncHash v) = K.bound v ∧
    K.adopted (withoutSyncHash v) = K.adopted v

variable (K) in
/-- What a step of the environment does to the world. -/
inductive Shifts (w : World Spec Status) : Env Spec → World Spec Status → Prop where
  | edits (spec : Spec) (cur r : Resource Spec Status) (w' : World Spec Status)
      (written : Store.Written w.store cur { cur with spec := spec } r w'.store)
      (rest : w' = { w with store := w'.store }) : Shifts w (.edit spec) w'
  /-- A write that changes neither the spec nor what the resource is bound to. -/
  | keeps (e : Env Spec) (cur v r : Resource Spec Status) (w' : World Spec Status)
      (stores : Stores w cur v r w') (bound : K.bound v = K.bound cur)
      (adopted : K.adopted v = K.adopted cur) : Shifts w e w'
  | clears (age : Nat) (cur v r : Resource Spec Status) (w' : World Spec Status)
      (listed : w.store.versions[age]? = some cur) (stores : Stores w cur v r w')
      (bound : K.bound v = none) (adopted : K.adopted v = K.adopted cur) : Shifts w (.clear age) w'
  | appears (o : Obj) (new : o ∉ w.objects) :
      Shifts w (.appear o) { w with objects := o :: w.objects }
  | vanishes (o : Obj) : Shifts w (.vanish o) (w.without o)

/-- **Every step of the environment is one of the listed ones.** -/
theorem shifted {cleared : Option (Status → Status)} {e : Env Spec} (hc : Clears K cleared)
    (h : World.env cleared w e = some w') : Shifts K w e w' := by
  cases e with
  | edit spec =>
    obtain ⟨store, hst, rfl⟩ := Option.map_eq_some_iff.mp h
    obtain ⟨cur, r, hw⟩ := Store.edit_some hst
    exact .edits spec cur r _ hw rfl
  | remove =>
    obtain ⟨store, hst, rfl⟩ := Option.map_eq_some_iff.mp h
    obtain ⟨cur, r, hw⟩ := Store.markDeleted_some hst
    exact .keeps _ cur _ r _ ⟨hw, rfl, rfl, rfl⟩ (K.bound_congr _ _ rfl rfl rfl)
      (K.adopted_congr _ _ rfl)
  | clear age =>
    dsimp only [World.env] at h
    split at h
    · rename_i f v hv
      obtain ⟨r, store, hok, rfl⟩ := carriedOut_some h
      -- the listed copy is still the current one
      have hw := Store.written_of_statusUpdate hok (List.mem_of_getElem? hv) rfl
      exact .clears age v _ r _ hv ⟨hw, rfl, rfl, rfl⟩ (hc.bound f rfl v)
        (Kind.adopted_withStatus _ _)
    · cases h
  | drift age =>
    dsimp only [World.env] at h
    split at h
    · rename_i f v hv
      obtain ⟨r, store, hok, rfl⟩ := carriedOut_some h
      have hw := Store.written_of_update hok (List.mem_of_getElem? hv) rfl
      have hd := hc.drift rfl v
      exact .keeps _ v _ r _ ⟨hw, rfl, rfl, rfl⟩ hd.1 hd.2
    · cases h
  | appear o =>
    dsimp only [World.env] at h
    by_cases ho : o ∈ w.objects
    · simp only [if_pos ho] at h
      cases h
    · simp only [if_neg ho] at h
      cases h
      exact .appears o ho
  | vanish o =>
    cases h
    exact .vanishes o

omit [DecidableEq Spec] [DecidableEq Status] in
theorem Tied.shift {e : Env Spec} (h : Tied w s) (hx : Shifts K w e w') : Tied w' s := by
  have hwrite : ∀ {cur v r : Resource Spec Status}, Store.Written w.store cur v r w'.store →
      w' = { w with store := w'.store } → Tied w' s := by
    intro cur v r hw hrest
    exact h.grow hw.grows (by rw [hrest]) (fun c hc => hw.grows c (h.copy c hc)) rfl rfl
  cases hx with
  | edits spec cur r _ hw hrest => exact hwrite hw hrest
  | keeps _ cur v r _ hst _ _ | clears age cur v r _ _ hst _ _ => exact hwrite hst.written hst.rest
  | appears o _ | vanishes o => exact ⟨h.copy, h.subj, h.ns⟩

end

end

end LitellmOperator
