import LitellmOperator.Custody.Reconcile

/-! # A virtual key behind a stale cache

The world of one virtual key in which the cache of Secrets may be any amount behind: a cached read
may miss a Secret, or return any version it ever had. Only the read that goes straight to the API
server is exact. Everything else may fail at any time, with or without having taken effect, and
anyone may write and delete Secrets.

`began` and `missed` are history that no program reads: what the resource was when the last
reconcile got it, and whether the API server has reported since that the Secret named by its status
is absent.
-/

set_option autoImplicit false

namespace LitellmOperator

open Effect Go Kube Protocol Ctl

/-- A status with a token names a Secret. -/
structure Pinned (st : LiteLLMVirtualKeyStatus) : Prop where
  ref : st.litellmKeyToken ≠ "" → st.keySecretRef ≠ none
  name : ∀ ref, st.keySecretRef = some ref → ref.name ≠ "" ∧ ref.key = "api_key"

structure RotationWorld where
  store : KeyStore
  secrets : CachedSecrets
  began : Option LiteLLMVirtualKey := none
  missed : Bool := false

/-- What others do. -/
inductive RotationEnv where
  | edit (spec : LiteLLMVirtualKeySpec)
  | remove
  | clear (age : Nat)
  | drift (age : Nat)
  /-- Someone creates or replaces a Secret. -/
  | putSecret (x : Secret)
  | deleteSecret (key : NamespacedName)

namespace RotationWorld

variable (w : RotationWorld)

abbrev commit (out : Except StatusError (LiteLLMVirtualKey × KeyStore)) (lost : Option Error) :
    Except Error LiteLLMVirtualKey × RotationWorld :=
  committed (fun store => { w with store := store }) w out lost

abbrev commitSecret (x : Secret) (out : Except StatusError CachedSecrets) (lost : Option Error) :
    Except Error Secret × RotationWorld :=
  committed (fun secrets => { w with secrets := secrets }) w (out.map (x, ·)) lost

/-- The Secret that the status named when the reconcile began. -/
def named : Option NamespacedName :=
  w.began.bind (fun v => v.status.keySecretRef.map (fun ref => ⟨v.metadata.ns, ref.name⟩))

def readExactly (key : NamespacedName) : Except Error Secret × RotationWorld :=
  match w.secrets.now.find key with
  | some x => (.ok x, w)
  | none => (.error (.leaf (.kube Secrets.notFound)),
      { w with missed := w.missed || w.named = some key })

def answer : (op : KeyOp) → Reply KeyApi → Option (op.Resp × RotationWorld)
  | .get _, .cached age =>
    w.store.versions[age]?.map (fun v =>
      (.ok v, { w with began := w.store.current, missed := false }))
  | .update obj, .done => some (w.commit (w.store.update obj) none)
  | .update obj, .lost e => some (w.commit (w.store.update obj) (some e))
  | .statusUpdate obj, .done => some (w.commit (w.store.statusUpdate obj) none)
  | .statusUpdate obj, .lost e => some (w.commit (w.store.statusUpdate obj) (some e))
  -- the cache returns some version of the Secret; a miss is a failure like any other
  | .read (.getSecret key), .found obj =>
    (obj (.getSecret key)).bind (fun x =>
      let x : Secret := x
      if x ∈ w.secrets.past ∧ x.key = key then some (.ok x, w) else none)
  -- the API server may be out of reach, but what it says is right
  | .read (.getSecretUncached key), .done => some (w.readExactly key)
  | .read (.getSecretUncached _), .fail e => if isNotFound e then none else some (.error e, w)
  | .read (.getSecretUncached _), .found _ => none
  | .read r, .found obj => (obj r).map (fun o => (.ok o, w))
  | .createSecret x, .done => some (w.commitSecret x (w.secrets.create x) none)
  | .createSecret x, .lost e => some (w.commitSecret x (w.secrets.create x) (some e))
  | .updateSecret x, .done => some (w.commitSecret x (w.secrets.update x) none)
  | .updateSecret x, .lost e => some (w.commitSecret x (w.secrets.update x) (some e))
  | .random _, .bytes bs => some (.ok bs, w)
  | .api _ req, .served result lost => (result req).map (fun a => (KeyWorld.deliver a lost, w))
  | op, .fail e => some (op.failed e, w)
  | _, _ => none

abbrev written (out : Except StatusError (LiteLLMVirtualKey × KeyStore)) : Option RotationWorld :=
  carriedOut (fun store => { w with store := store }) out

def env : RotationEnv → Option RotationWorld
  | .edit spec => (w.store.edit spec).map (fun store => { w with store := store })
  | .remove => w.store.markDeleted.map (fun store => { w with store := store })
  | .clear age =>
    w.store.versions[age]?.bind (fun v =>
      w.written (w.store.statusUpdate (v.withStatus (SyncKind.keys.clearStatus v.status))))
  | .drift age =>
    w.store.versions[age]?.bind (fun v => w.written (w.store.update (withoutSyncHash v)))
  | .putSecret x => some { w with secrets := w.secrets.put x }
  | .deleteSecret key => some { w with secrets := w.secrets.delete key }

/-- The key a Secret holds. -/
def apiKey (key : NamespacedName) : Option String := (w.secrets.now.find key).bind apiKeyOf

/-- The resource had no token when the reconcile began, or the API server has since reported the
Secret named by its status as absent. -/
def Licensed : Prop := w.began.any (fun v => v.status.litellmKeyToken = "") = true ∨ w.missed = true

/-- The reconcile cleans up a resource that is being deleted. -/
def Deleting : Prop := w.began.any (fun v => v.metadata.deleting) = true

end RotationWorld

def rotationLifecycle (lib : Ext) (req : NamespacedName) :
    Machine KeyOp Op.Resp RotationWorld (Reply KeyApi) RotationEnv where
  answer := RotationWorld.answer
  env := RotationWorld.env
  main := do
    let _ ← VirtualKey.reconcile lib req
    pure ()

/-- Every reconcile starts from the resource as it is. -/
def fromCurrent : Guard KeyOp RotationWorld (Reply KeyApi) RotationEnv where
  env _ _ := True
  reply w op rep :=
    match op, rep with
    | .get _, .cached age => age = 0 ∧ w.store.live = true
    | _, _ => True
  crash _ := True

instance : fromCurrent.Decides where
  env _ _ := .isTrue trivial
  reply w op rep := by
    unfold fromCurrent
    rcases op with _ | _ <;> rcases rep with _ | _ <;> infer_instance
  crash _ := .isTrue trivial

abbrev RotationConf : Type := Conf KeyOp Op.Resp RotationWorld

/-! ## When a key may be replaced

The protocol of this file follows, through a reconcile of a virtual key, what entitles it to replace
the key: the copy it began with has no token, or the API server has reported the Secret that this
copy names as absent. A key is generated, deleted, or written to a Secret only with such a license.
A Secret is otherwise written back with the data it was read with, and a status keeps the Secret it
names unless that Secret was reported absent.
-/

namespace VirtualKey

/-! ## The protocol -/

structure Rotation where
  copy : Option LiteLLMVirtualKey := none
  /-- The resource as the reconcile got it. -/
  began : Option LiteLLMVirtualKey := none
  /-- The API server has reported the Secret it names as absent. -/
  missed : Bool := false
  seen : Option Secret := none

namespace Rotation

variable (s : Rotation)

def Licensed : Prop :=
  s.began.any (fun v => v.status.litellmKeyToken = "") = true ∨ s.missed = true

def Deleting : Prop := s.began.any (fun v => v.metadata.deleting) = true

/-- The Secret that the status named when the reconcile began. -/
def named : Option NamespacedName :=
  s.began.bind (fun v => v.status.keySecretRef.map (fun ref => ⟨v.metadata.ns, ref.name⟩))

/-- What may be stored over the status of `c`. -/
structure MayStore (s : Rotation) (c : LiteLLMVirtualKey) (st : LiteLLMVirtualKeyStatus) :
    Prop where
  pinned : Pinned st
  ref : st.keySecretRef = c.status.keySecretRef ∨ c.status.keySecretRef = none ∨ s.missed = true

theorem MayStore.congr {s : Rotation} {c : LiteLLMVirtualKey} {st st' : LiteLLMVirtualKeyStatus}
    (h : s.MayStore c st) (ht : st'.litellmKeyToken = st.litellmKeyToken)
    (hr : st'.keySecretRef = st.keySecretRef) : s.MayStore c st' := by
  obtain ⟨⟨hp, hn⟩, href⟩ := h
  rw [← ht, ← hr] at hp
  rw [← hr] at hn href
  exact ⟨⟨hp, hn⟩, href⟩

def allowed : KeyOp → Prop
  | .update obj => ∃ c, s.copy = some c ∧ obj.rv = c.rv
  | .statusUpdate obj => ∃ c, s.copy = some c ∧ obj.rv = c.rv ∧ s.MayStore c obj.status
  | .statusPatch _ _ => False
  | .createSecret _ => s.Licensed
  | .updateSecret x =>
    s.Licensed ∨ ∃ y, s.seen = some y ∧ x.rv = y.rv ∧ x.data = y.data ∧ x.stringData = []
  | .api _ (.generate _) => s.Licensed
  | .api _ (.delete _) => s.Licensed ∨ s.Deleting
  | _ => True

/-- A write returns what was written, and what is stored is pinned. -/
def expects : (op : KeyOp) → op.Resp → Prop
  | .get _, .ok r => Pinned (show LiteLLMVirtualKey from r).status
  | .update obj, .ok r => ∀ c, s.copy = some c → ∃ rv gen, r = (c.updated obj).stamp rv gen
  | .statusUpdate obj, .ok r =>
    ∀ c, s.copy = some c → ∃ rv gen, r = (c.withStatus obj.status).stamp rv gen
  | .read (.getSecret _), .ok x => (show Secret from x).stringData = []
  | _, _ => True

def next : (op : KeyOp) → op.Resp → Rotation
  | .get _, .ok r => { s with copy := some r, began := some r, missed := false }
  | .update _, .ok r => { s with copy := some r }
  | .statusUpdate _, .ok r => { s with copy := some r }
  | .read (.getSecret _), .ok x => { s with seen := some x }
  | .read (.getSecretUncached key), .error e =>
    { s with missed := s.missed || (isNotFound e && s.named = some key) }
  | _, _ => s

end Rotation

def rotation : Protocol KeyOp Op.Resp Rotation where
  allowed := Rotation.allowed
  expects := Rotation.expects
  next := Rotation.next

/-! ## Assertions about the copy

`vk` is the caller's copy of the resource. -/

/-- `vk` differs from what was last decoded in the status only, and may be stored. -/
structure Keeping (vk c : LiteLLMVirtualKey) (s : Rotation) : Prop where
  copy : s.copy = some c
  near : vk = c.withStatus vk.status
  store : s.MayStore c vk.status

/-- The same of a copy with the token and the Secret that were there when the reconcile began. -/
structure Untouched (vk : LiteLLMVirtualKey) (s : Rotation) : Prop where
  copy : s.copy = some vk
  pinned : Pinned vk.status
  began : ∃ v, s.began = some v ∧ v.status = vk.status ∧ v.metadata.ns = vk.metadata.ns

/-- The status of `vk` may be written. -/
def Writable (vk : LiteLLMVirtualKey) (s : Rotation) : Prop :=
  ∃ c, s.copy = some c ∧ vk.rv = c.rv ∧ s.MayStore c vk.status

/-- `s'` is `s` up to what was read of Secrets since. -/
structure Alike (s s' : Rotation) : Prop where
  copy : s'.copy = s.copy
  began : s'.began = s.began
  missed : s.missed = true → s'.missed = true

variable {vk c : LiteLLMVirtualKey} {s s' s'' : Rotation} {lib : Ext} {conn : ResolvedInstance}

theorem Alike.rfl : Alike s s := ⟨Eq.refl _, Eq.refl _, id⟩

theorem Alike.trans (h : Alike s s') (h' : Alike s' s'') : Alike s s'' where
  copy := h'.copy.trans h.copy
  began := h'.began.trans h.began
  missed hm := h'.missed (h.missed hm)

theorem Alike.licensed (h : Alike s s') (hl : s.Licensed) : s'.Licensed := by
  unfold Rotation.Licensed
  rw [h.began]
  exact hl.imp id h.missed

theorem Keeping.writable (h : Keeping vk c s) : Writable vk s := by
  refine ⟨c, h.copy, ?_, h.store⟩
  rw [h.near]
  exact Eq.refl _

theorem Keeping.alike (h : Keeping vk c s) (hs : Alike s s') : Keeping vk c s' := by
  exact ⟨hs.copy.trans h.copy, h.near, h.store.pinned, h.store.ref.imp id (Or.imp id hs.missed)⟩

theorem Untouched.keeping (h : Untouched vk s) : Keeping vk vk s :=
  ⟨h.copy, Eq.refl _, h.pinned, .inl (Eq.refl _)⟩

theorem Untouched.writable (h : Untouched vk s) : Writable vk s := h.keeping.writable

theorem Untouched.alike (h : Untouched vk s) (hs : Alike s s') : Untouched vk s' := by
  refine ⟨hs.copy.trans h.copy, h.pinned, ?_⟩
  rw [hs.began]
  exact h.began

theorem Keeping.withStatus (h : Keeping vk c s) {st : LiteLLMVirtualKeyStatus}
    (ht : st.litellmKeyToken = vk.status.litellmKeyToken)
    (hr : st.keySecretRef = vk.status.keySecretRef) : Keeping (vk.withStatus st) c s := by
  refine ⟨h.copy, ?_, h.store.congr ht hr⟩
  rw [h.near]
  exact Eq.refl _

/-! ## Calls that need no license -/

/-- Reads, and requests that update and look up a key. -/
def Harmless : KeyOp → Prop
  | .read _ => True
  | .api _ (.update _) => True
  | .api _ (.get _) => True
  | _ => False

theorem harmless_next {op : KeyOp} (h : Harmless op) (r : op.Resp) : Alike s (s.next op r) := by
  cases op with
  | read rd =>
    cases rd with
    | getSecret key =>
      cases r with
      | error e => exact .rfl
      | ok x => exact ⟨Eq.refl _, Eq.refl _, id⟩
    | getSecretUncached key =>
      cases r with
      | error e =>
        refine ⟨Eq.refl _, Eq.refl _, fun hm => ?_⟩
        show (s.missed || _) = true
        rw [hm]
        exact Bool.true_or _
      | ok x => exact .rfl
    | _ => exact .rfl
  | api conn req =>
    cases req with
    | update _ | get _ => exact .rfl
    | _ => exact h.elim
  | _ => exact h.elim

theorem harmless_allowed {op : KeyOp} (h : Harmless op) : s.allowed op := by
  cases op with
  | read rd => exact trivial
  | api conn req =>
    cases req with
    | update _ | get _ => exact trivial
    | _ => exact h.elim
  | _ => exact h.elim

theorem wp_harmless {α : Type} {p : KeyCtl α} (hp : p.Uses Harmless) {Q : α → Rotation → Prop}
    (hQ : ∀ a s', Alike s s' → Q a s') : rotation.wp p Q s := by
  refine wp_mono (wp_of_uses hp Alike.rfl ?_) hQ
  intro op s' hop hs'
  exact ⟨harmless_allowed hop, fun r _ => hs'.trans (harmless_next hop r)⟩

theorem wp_reading {α : Type} {p : KeyCtl α} (hp : p.Uses Op.IsRead) {Q : α → Rotation → Prop}
    (hQ : ∀ a s', Alike s s' → Q a s') : rotation.wp p Q s := by
  refine wp_harmless (hp.mono (fun op hop => ?_)) hQ
  cases op with
  | read r => exact trivial
  | _ => exact hop.elim

/-! ## Writing the resource -/

theorem wpE_keepHash {hash : String} (h : Keeping vk c s) (hself : s.MayStore c c.status) :
    rotation.wpE (storeSyncHash vk hash)
      (fun vk' s' => Alike { s with copy := some vk' } s' ∧ Keeping vk' vk' s' ∧
        vk'.status = c.status ∧ vk'.metadata.ns = c.metadata.ns)
      (fun f s' => Writable f.cr s') s := by
  have hrv : (annotate vk annotationSyncHash hash).rv = c.rv := by
    rw [h.near]
    rfl
  unfold storeSyncHash
  simp only [wpE_orFail]
  refine ⟨⟨c, h.copy, hrv⟩, fun r hr => ?_⟩
  cases r with
  | error e => exact ⟨c, h.copy, hrv, h.store⟩
  | ok r =>
    obtain ⟨rv, gen, rfl⟩ := hr c h.copy
    exact ⟨.rfl, ⟨rfl, rfl, hself.pinned, .inl rfl⟩, rfl, rfl⟩

theorem wp_keepStatus (h : Keeping vk c s) {Q : Except Error LiteLLMVirtualKey → Rotation → Prop}
    (hok : ∀ vk' s', Keeping vk' vk' s' → Q (.ok vk') s')
    (herr : ∀ e s', Writable vk s' → Q (.error e) s') : rotation.wp (statusUpdate vk) Q s := by
  refine ⟨h.writable, fun r hr => ?_⟩
  cases r with
  | error e => exact herr e _ h.writable
  | ok r =>
    obtain ⟨rv, gen, rfl⟩ := hr c h.copy
    exact hok _ _ ⟨rfl, rfl, h.store.pinned, .inl rfl⟩

theorem wpE_keepRecord {pre : String} {hash : LiteLLMVirtualKeySpec → String} (h : Keeping vk c s) :
    rotation.wpE (recordCreated pre hash vk) Writable (fun f s' => Writable f.cr s') s := by
  unfold recordCreated
  simp only [wpE_bind, wpE_orFail]
  refine wp_keepStatus h (fun vk' s' h' => ?_) (fun e s' h' => h')
  exact wpE_post (wpE_keepHash h' h'.store) (fun _ _ h'' => h''.2.1.writable)

/-! ## The key Secret -/

variable {Q : Except Error Secret → Rotation → Prop}

theorem wp_keepRead {key : NamespacedName}
    (hok : ∀ x s', Alike s s' → s'.seen = some x → x.stringData = [] → Q (.ok x) s')
    (herr : ∀ e, Q (.error e) s) : rotation.wp (Ctl.read (.getSecret key)) Q s := by
  refine ⟨trivial, fun r hr => ?_⟩
  cases r with
  | error e => exact herr e
  | ok x => exact hok x _ ⟨rfl, rfl, id⟩ rfl hr

theorem wpE_keepSecret {apiKey : String} (hkey : apiKey = "" ∨ s.Licensed) :
    rotation.wpE (reconcileKeySecret vk apiKey) (fun _ s' => Alike s s') (fun _ s' => Alike s s')
      s := by
  unfold reconcileKeySecret
  simp only [wpE_bind, wpE_lift]
  refine wp_keepRead (fun existing s₁ halike hseen hplain => ?_) (fun e => ?_)
  · dsimp only
    rcases hadj : adjustKeySecret vk existing apiKey with _ | adjusted
    · exact halike
    obtain ⟨secret, changed⟩ := adjusted
    obtain ⟨-, hrv, hdata, hstr, -⟩ := adjustKeySecret_some hadj
    cases changed with
    | false => exact halike
    | true =>
      simp only [if_true, wpE_bind, wpE_orFail, wpE_pure]
      refine ⟨?_, fun r _ => ?_⟩
      · -- without material the Secret is the one that was read
        rcases hkey with hne | hl
        · refine .inr ⟨existing, hseen, hrv, hdata, ?_⟩
          rw [hstr, if_neg (not_not.mpr hne)]
          exact hplain
        · exact .inl (halike.licensed hl)
      · cases r with
        | error e | ok x => exact halike
  · dsimp only
    split
    · split
      · exact Alike.rfl
      · rename_i hne
        obtain ⟨secret, hsecret⟩ := newKeySecret_isSome vk apiKey
        simp only [hsecret, wpE_bind, wpE_orFail, wpE_pure]
        refine ⟨hkey.resolve_left hne, fun r _ => ?_⟩
        cases r with
        | error e | ok x => exact Alike.rfl
    · exact Alike.rfl

/-! ## Minting, rotating and updating -/

theorem keySecretName_ne (vk : LiteLLMVirtualKey) : keySecretName vk ≠ "" := by
  unfold keySecretName
  split
  · rename_i ref href
    have hname := (Option.filter_eq_some_iff.mp href).2
    simpa using hname
  · split
    · assumption
    · intro h
      have hlen := congrArg String.length h
      rw [String.length_append] at hlen
      exact absurd hlen (by simp)

theorem keySecretName_of_ref {ref : SecretKeyRef} (h : vk.status.keySecretRef = some ref)
    (hne : ref.name ≠ "") : keySecretName vk = ref.name := by
  have hfilter : vk.status.keySecretRef.filter (·.name ≠ "") = some ref := by
    rw [h, Option.filter_some]
    exact if_pos (by simpa using hne)
  unfold keySecretName
  rw [hfilter]

theorem mayStore_minted {st : LiteLLMVirtualKeyStatus} (h : s.MayStore c vk.status)
    (hr : st.keySecretRef = some ⟨keySecretName vk, "api_key"⟩) : s.MayStore c st := by
  refine ⟨⟨fun _ hnone => ?_, fun ref href => ?_⟩, ?_⟩
  · rw [hr] at hnone
    cases hnone
  · rw [hr] at href
    cases href
    exact ⟨keySecretName_ne vk, rfl⟩
  · rcases h.ref with hsame | hrest
    · rcases hc : c.status.keySecretRef with _ | ref
      · exact .inr (.inl rfl)
      -- the name is pinned, and so is the key within the Secret
      obtain ⟨hname, hkey⟩ := h.pinned.name ref (hsame.trans hc)
      refine .inl ?_
      rw [hr, keySecretName_of_ref (hsame.trans hc) hname, ← hkey]
    · exact .inr hrest

theorem wp_keepGenerate {req : KeyGenerateRequest}
    {Q : Except Error KeyGenerateResponse → Rotation → Prop} (hl : s.Licensed)
    (hQ : ∀ r, Q r s) : rotation.wp (api conn (KeyApi.generate req)) Q s :=
  ⟨hl, fun r _ => hQ r⟩

theorem wpE_keepMint {teamID userID : String} (h : Keeping vk c s) (hl : s.Licensed) :
    rotation.wpE (mintKey lib conn teamID userID vk) Writable (fun f s' => Writable f.cr s') s := by
  unfold mintKey
  simp only [wpE_bind, wpE_orFail]
  refine wp_keepGenerate hl (fun r => ?_)
  rcases r with e | resp
  · exact h.writable
  refine wp_mono (wpE_keepSecret (.inr hl)) (fun r s₂ h₂ => ?_)
  rcases r with e | _
  · exact (h.alike h₂).writable
  have hk := h.alike h₂
  refine wpE_keepRecord (c := c) ⟨hk.copy, ?_, mayStore_minted hk.store rfl⟩
  rw [h.near]
  rfl

/-- What the check for a missing Secret leaves: a copy without a token and a license to mint, or the
copy as it was. -/
def Checked (vk : LiteLLMVirtualKey) (s : Rotation) : Prop :=
  (vk.status.litellmKeyToken = "" ∧ s.Licensed ∧ ∃ c, Keeping vk c s) ∨
  (vk.status.litellmKeyToken ≠ "" ∧ Untouched vk s)

theorem wp_askSecret {key : NamespacedName} (hok : ∀ x, Q (.ok x) s)
    (herr : ∀ e s', Alike s s' → (isNotFound e = true → s.named = some key → s'.missed = true) →
      Q (.error e) s') : rotation.wp (Ctl.read (.getSecretUncached key)) Q s := by
  refine ⟨trivial, fun r _ => ?_⟩
  cases r with
  | ok x => exact hok x
  | error e =>
    have halike : Alike s (s.next (.read (.getSecretUncached key)) (.error e)) := by
      exact harmless_next (show Harmless (.read (.getSecretUncached key)) from trivial) _
    refine herr e _ halike (fun hnf hnamed => ?_)
    show (s.missed || (isNotFound e && decide (s.named = some key))) = true
    rw [hnf, hnamed]
    simp

theorem wp_checkSecret (h : Untouched vk s) (hid : vk.status.litellmKeyToken ≠ "")
    {Q : Except Error Bool → Rotation → Prop}
    (hQ : ∀ r s', Alike s s' → (r = .ok false → s'.missed = true) → Q r s') :
    rotation.wp (keySecretExists vk) Q s := by
  obtain ⟨ref, href⟩ := Option.ne_none_iff_exists'.mp (h.pinned.ref hid)
  obtain ⟨v, hv, hst, hns⟩ := h.began
  have hnamed : s.named = some ⟨vk.metadata.ns, keySecretName vk⟩ := by
    rw [keySecretName_of_ref href (h.pinned.name ref href).1]
    unfold Rotation.named
    rw [hv, Option.bind_some, hst, href, hns]
    rfl
  unfold keySecretExists
  rw [wp_bind]
  refine wp_askSecret (fun x => hQ _ _ .rfl (fun hf => by cases hf)) (fun e s' halike hmiss => ?_)
  dsimp only
  split
  · rename_i hnf
    exact hQ _ _ halike (fun _ => hmiss hnf hnamed)
  · exact hQ _ _ halike (fun hf => by cases hf)

theorem wpE_keepDrop (h : Untouched vk s) :
    rotation.wpE (dropOrphanedKey conn vk) Checked (fun f s' => Writable f.cr s') s := by
  unfold dropOrphanedKey
  split
  · rename_i hid
    obtain ⟨v, hv, hst, -⟩ := h.began
    refine .inl ⟨hid, .inl ?_, vk, h.keeping⟩
    rw [hv, Option.any_some, hst, hid]
    rfl
  · rename_i hid
    simp only [wpE_bind, wpE_orFail]
    refine wp_checkSecret h hid (fun r s₁ hs₁ hmiss => ?_)
    have h₁ := h.alike hs₁
    rcases r with e | found
    · exact h₁.writable
    cases found with
    | true => exact .inr ⟨hid, h₁⟩
    | false =>
      have hm : s₁.missed = true := hmiss rfl
      simp only [if_neg Bool.false_ne_true, wpE_bind, wpE_lift]
      refine ⟨.inl (.inr hm), fun _ _ => .inl ⟨rfl, .inr hm, vk, h₁.copy, rfl, ?_⟩⟩
      exact ⟨⟨fun hne => absurd rfl hne, fun ref href => by cases href⟩, .inr (.inr hm)⟩

theorem wpE_keepPush (h : Untouched vk s) : rotation.wpE (pushKey lib conn vk) Untouched
      (fun f s' => Writable f.cr s') s := by
  unfold pushKey
  dsimp only
  split
  · exact h
  · simp only [wpE_bind, wpE_orFail]
    refine wp_harmless (.perform (by trivial)) (fun r s₁ hs₁ => ?_)
    have h₁ := h.alike hs₁
    rcases r with e | _
    · exact h₁.writable
    refine wpE_post (wpE_keepHash h₁.keeping h₁.keeping.store) (fun vk' s' h' => ?_)
    obtain ⟨ha, hk, hst, hns⟩ := h'
    obtain ⟨v, hv, hvst, hvns⟩ := h₁.began
    exact ⟨hk.copy, hk.store.pinned, v, ha.began.trans hv, hvst.trans hst.symm, hvns.trans hns.symm⟩

theorem wpE_keepUpdate (h : Untouched vk s) :
    rotation.wpE (updateKey lib conn vk) (fun r s' => Writable r.1 s')
      (fun f s' => Writable f.cr s') s := by
  unfold updateKey
  rw [wpE_bind]
  refine wpE_post (wpE_keepPush h) (fun vk₁ s₁ h₁ => ?_)
  simp only [wpE_bind, wpE_lift]
  refine wp_mono (wpE_keepSecret (.inl rfl)) (fun r s₂ h₂ => ?_)
  cases r with
  | error e =>
    dsimp only
    split <;> exact (h₁.alike h₂).writable
  | ok _ =>
    simp only [wpE_bind, wpE_lift, wpE_pure]
    refine wp_harmless (.perform (by trivial)) (fun info s₃ hs₃ => ?_)
    have h₃ := (h₁.alike h₂).alike hs₃
    cases info with
    | error e => exact h₃.writable
    | ok info =>
      have hk : Keeping (vk₁.withStatus (withInfo vk₁ (.ok info)).status) vk₁ s₃ :=
        h₃.keeping.withStatus rfl rfl
      exact hk.writable

theorem wpE_keepKey (h : Untouched vk s) :
    rotation.wpE (reconcileKey lib vk conn) (fun r s' => Writable r.1 s')
      (fun f s' => Writable f.cr s') s := by
  unfold reconcileKey
  simp only [wpE_bind, wpE_orFail]
  refine wp_reading (isRead_of_plain (uses_resolveTeamRef _)) (fun r s₁ hs₁ => ?_)
  have h₁ := h.alike hs₁
  rcases r with e | teamID
  · exact h₁.writable
  refine wp_reading (isRead_of_plain (uses_resolveUserRef _)) (fun r s₂ hs₂ => ?_)
  have h₂ := h₁.alike hs₂
  rcases r with e | userID
  · exact h₂.writable
  refine wpE_post (wpE_keepDrop h₂) (fun vk₃ s₃ h₃ => ?_)
  unfold mintOrUpdateKey
  rcases h₃ with ⟨hid, hl, c, hk⟩ | ⟨hid, h₃⟩
  · rw [if_pos hid, wpE_bind]
    exact wpE_post (wpE_keepMint hk hl) (fun _ _ h₄ => h₄)
  · rw [if_neg hid]
    exact wpE_keepUpdate h₃

/-! ## Reconcile -/

theorem reports_rotation : (controller lib).Reports rotation Writable (fun _ => True) := by
  rintro vk s status reason message observed ⟨c, hc, hrv, hm⟩
  exact ⟨⟨c, hc, hrv, hm.congr rfl rfl⟩, fun _ _ => trivial⟩

theorem wp_keepCleanup (hc : s.copy = some vk) (hd : s.Deleting) :
    rotation.wp (handleDeletion lib (controller lib).instanceRef (controller lib).target
      (controller lib).delete vk) (fun _ _ => True) s := by
  refine wp_handleDeletion_of (I := Alike s) (J := fun _ => Alike s) .rfl trivial ?_
    (fun _ _ s₁ _ hs₁ => ⟨.inr ?_, fun _ _ => hs₁⟩)
    (fun s₁ hs₁ => ⟨⟨vk, hs₁.copy.trans hc, rfl⟩, fun _ _ => trivial⟩)
  · exact wpE_same.mpr (wp_reading (isRead_resolveInstanceRef _ _ _ _ _) (fun _ _ hs₁ => hs₁))
  · unfold Rotation.Deleting
    rw [hs₁.began]
    exact hd

/-- **The virtual key controller keeps to the rotation protocol.** -/
theorem follows_rotation (lib : Ext) (req : NamespacedName) :
    rotation.wp (reconcile lib req) (fun _ _ => True) {} := by
  refine reports_rotation.wp_reconcile (B := Untouched) ⟨trivial, fun r hr => ?_⟩
    (fun vk s h => ⟨⟨vk, h.copy, rfl⟩, fun r hr => ?_⟩) (fun vk s h => ?_)
  · cases r with
    | error e => trivial
    | ok vk => exact ⟨fun hd => wp_keepCleanup rfl hd, fun _ => ⟨rfl, hr, vk, rfl, rfl, rfl⟩⟩
  · cases r with
    | error e => trivial
    | ok vk' =>
      -- the finalizer leaves the status alone
      obtain ⟨rv, gen, rfl⟩ := hr vk h.copy
      exact ⟨rfl, h.pinned, h.began⟩
  · refine wp_reading (isRead_resolveInstanceRef _ _ _ _ _) (fun r s₁ hs₁ => ?_)
    have h₁ := h.alike hs₁
    cases r with
    | error e => exact h₁.writable
    | ok conn => exact wpE_keepKey h₁

end VirtualKey

end LitellmOperator
