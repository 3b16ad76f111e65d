import LitellmOperator.Controller.ConfigSync
import LitellmOperator.Lifecycle.World
import LitellmOperator.Session.VirtualKey

/-! # Who holds the key material

Generating a key leaves three traces: the key in LiteLLM, its material in a Secret, its token in
the status. The protocol of this file follows the last two through a reconcile of a virtual key.
A Secret only ever receives the material of the key generated in the same reconcile, before any
status write; from then on every status write either records the token of that key together with
the Secret that holds it, or records no token at all. `Custody.Final` is what a reconcile comes to
in the end: it has generated no key, or it has written the status since, or could not.
-/

set_option autoImplicit false

namespace LitellmOperator

open Effect Protocol Go Kube Ctl

abbrev KeyOp : Type := Op LiteLLMVirtualKeySpec LiteLLMVirtualKeyStatus KeyApi

/-- The key a `data` map holds. -/
abbrev apiKeyOf (x : Secret) : Option String := x.data.get? "api_key"

namespace VirtualKey

/-! ## The protocol -/

structure Custody where
  /-- The resource as last decoded. -/
  copy : Option LiteLLMVirtualKey := none
  /-- The key and the token generated in this reconcile. -/
  minted : Option (String × String) := none
  /-- The Secret that key was written to. -/
  written : Option NamespacedName := none
  /-- The status was written since the key was generated. -/
  saved : Bool := false
  /-- A status write failed since the key was generated. -/
  hindered : Bool := false
  /-- The Secret as last read. -/
  seen : Option Secret := none

namespace Custody

variable (s : Custody)

/-- `key` was generated in this reconcile, and no status write was tried since. -/
def Fresh (key : String) : Prop :=
  (∃ token, s.minted = some (key, token)) ∧ s.saved = false ∧ s.hindered = false

/-- What may be stored over the status of `c`: no token; before a key is generated the token and
the Secret that are there; after it, the token generated and the Secret written. -/
def MayStore (c : LiteLLMVirtualKey) (st : LiteLLMVirtualKeyStatus) : Prop :=
  st.litellmKeyToken = "" ∨
  (s.minted = none ∧ st.litellmKeyToken = c.status.litellmKeyToken ∧
    st.keySecretRef = c.status.keySecretRef) ∨
  (∃ key ref, s.minted = some (key, st.litellmKeyToken) ∧ st.keySecretRef = some ref ∧
    s.written = some ⟨c.metadata.ns, ref.name⟩)

theorem MayStore.congr {s : Custody} {c : LiteLLMVirtualKey} {st st' : LiteLLMVirtualKeyStatus}
    (h : s.MayStore c st) (ht : st'.litellmKeyToken = st.litellmKeyToken)
    (hr : st'.keySecretRef = st.keySecretRef) : s.MayStore c st' := by
  unfold MayStore
  rw [ht, hr]
  exact h

/-- The write puts the material of the fresh key into a Secret, and nothing else. -/
def MayFill (secret : Secret) : Prop :=
  ∃ key, secret.stringData = [("api_key", key)] ∧ s.Fresh key

def allowed : KeyOp → Prop
  | .update obj => ∃ c, s.copy = some c ∧ obj.rv = c.rv
  | .statusUpdate obj => ∃ c, s.copy = some c ∧ obj.rv = c.rv ∧ s.MayStore c obj.status
  | .statusPatch _ _ => False
  | .createSecret secret => s.MayFill secret
  | .updateSecret secret =>
    ∃ x, s.seen = some x ∧ secret.key = x.key ∧ secret.rv = x.rv ∧ secret.data = x.data ∧
      (secret.stringData = [] ∨ s.MayFill secret)
  | .api _ (.generate _) => s.minted = none
  | _ => True

/-- A write returns what was written, a read of a Secret the one asked for, and a key generated has
material. -/
def expects : (op : KeyOp) → op.Resp → Prop
  | .update obj, .ok r => ∀ c, s.copy = some c → ∃ rv gen, r = (c.updated obj).stamp rv gen
  | .statusUpdate obj, .ok r =>
    ∀ c, s.copy = some c → ∃ rv gen, r = (c.withStatus obj.status).stamp rv gen
  | .read (.getSecret key), .ok x =>
    (show Secret from x).key = key ∧ (show Secret from x).stringData = []
  | .api _ (.generate _), .ok resp => (show KeyGenerateResponse from resp).key ≠ ""
  | _, _ => True

def next : (op : KeyOp) → op.Resp → Custody
  | .get _, .ok r => { s with copy := some r }
  | .update _, .ok r => { s with copy := some r }
  | .statusUpdate _, .ok r => { s with copy := some r, saved := true }
  | .statusUpdate _, .error _ => { s with hindered := true }
  | .read (.getSecret _), .ok x => { s with seen := some x }
  | .createSecret secret, .ok _ => { s with written := some secret.key }
  | .updateSecret secret, .ok _ =>
    if secret.stringData = [] then s else { s with written := some secret.key }
  | .api _ (.generate _), .ok resp =>
    let resp : KeyGenerateResponse := resp
    { s with
      minted := some (resp.key, resp.token), written := none, saved := false, hindered := false }
  | _, _ => s

def Final : Prop := s.minted = none ∨ s.saved = true ∨ s.hindered = true

end Custody

def custody : Protocol KeyOp Op.Resp Custody where
  allowed := Custody.allowed
  expects := Custody.expects
  next := Custody.next

/-! ## Assertions about the copy

`vk` is the caller's copy of the resource. -/

/-- `vk` differs from what was last decoded in the status only, and may be stored. -/
def Holding (vk c : LiteLLMVirtualKey) (s : Custody) : Prop :=
  s.copy = some c ∧ vk = c.withStatus vk.status ∧ s.MayStore c vk.status

/-- The same before a key is generated. -/
def Unminted (vk : LiteLLMVirtualKey) (s : Custody) : Prop := s.minted = none ∧ ∃ c, Holding vk c s

/-- The status of `vk` may be written as the last thing a reconcile does. -/
def Storable (vk : LiteLLMVirtualKey) (s : Custody) : Prop :=
  ∃ c, s.copy = some c ∧ vk.rv = c.rv ∧ s.MayStore c vk.status

/-- `s'` is `s` up to the Secrets read and written. -/
structure Same (s s' : Custody) : Prop where
  copy : s'.copy = s.copy
  minted : s'.minted = s.minted
  saved : s'.saved = s.saved
  hindered : s'.hindered = s.hindered

variable {vk c : LiteLLMVirtualKey} {s s' s'' : Custody} {lib : Ext} {conn : ResolvedInstance}

theorem Same.rfl : Same s s := ⟨Eq.refl _, Eq.refl _, Eq.refl _, Eq.refl _⟩

theorem Same.trans (h : Same s s') (h' : Same s' s'') : Same s s'' where
  copy := h'.copy.trans h.copy
  minted := h'.minted.trans h.minted
  saved := h'.saved.trans h.saved
  hindered := h'.hindered.trans h.hindered

theorem Same.fresh (h : Same s s') {key : String} (hf : s.Fresh key) : s'.Fresh key := by
  obtain ⟨hm, hs, hh⟩ := hf
  refine ⟨?_, h.saved.trans hs, h.hindered.trans hh⟩
  rw [h.minted]
  exact hm

theorem Holding.storable (h : Holding vk c s) : Storable vk s := by
  obtain ⟨hc, hnear, hm⟩ := h
  refine ⟨c, hc, ?_, hm⟩
  rw [hnear]
  exact Eq.refl _

theorem Unminted.storable (h : Unminted vk s) : Storable vk s := by
  obtain ⟨-, c, h⟩ := h
  exact h.storable

theorem Unminted.same (h : Unminted vk s) (hs : Same s s') : Unminted vk s' := by
  obtain ⟨hm, c, hc, hnear, hst⟩ := h
  refine ⟨hs.minted.trans hm, c, hs.copy.trans hc, hnear, ?_⟩
  rcases hst with h₀ | ⟨-, htok, href⟩ | ⟨key, ref, hmint, -, -⟩
  · exact .inl h₀
  · exact .inr (.inl ⟨hs.minted.trans hm, htok, href⟩)
  · rw [hm] at hmint
    cases hmint

theorem unminted_decoded (hc : s.copy = some vk) (hm : s.minted = none) : Unminted vk s :=
  ⟨hm, vk, hc, Eq.refl _, .inr (.inl ⟨hm, Eq.refl _, Eq.refl _⟩)⟩

theorem Unminted.withStatus (h : Unminted vk s) {st : LiteLLMVirtualKeyStatus}
    (ht : st.litellmKeyToken = vk.status.litellmKeyToken)
    (hr : st.keySecretRef = vk.status.keySecretRef) : Unminted (vk.withStatus st) s := by
  obtain ⟨hm, c, hc, hnear, hst⟩ := h
  refine ⟨hm, c, hc, ?_, ?_⟩
  · rw [hnear]
    exact Eq.refl _
  · exact hst.congr ht hr

/-! ## Calls that leave custody alone -/

/-- Reads, and requests that generate no key. -/
def Idle : KeyOp → Prop
  | .read _ => True
  | .api _ (.generate _) => False
  | .api _ _ => True
  | _ => False

theorem idle_next {op : KeyOp} (h : Idle op) (r : op.Resp) : Same s (s.next op r) := by
  cases op with
  | read rd =>
    cases rd with
    | getSecret key =>
      cases r with
      | error e => exact .rfl
      | ok x => exact ⟨Eq.refl _, Eq.refl _, Eq.refl _, Eq.refl _⟩
    | _ => exact .rfl
  | api conn req =>
    cases req with
    | generate _ => exact h.elim
    | _ => exact .rfl
  | _ => exact h.elim

theorem idle_allowed {op : KeyOp} (h : Idle op) : s.allowed op := by
  cases op with
  | read rd => exact trivial
  | api conn req =>
    cases req with
    | generate _ => exact h.elim
    | _ => exact trivial
  | _ => exact h.elim

theorem wp_idle {α : Type} {p : KeyCtl α} (hp : p.Uses Idle) {Q : α → Custody → Prop}
    (hQ : ∀ a s', Same s s' → Q a s') : custody.wp p Q s := by
  refine wp_mono (wp_of_uses hp Same.rfl ?_) hQ
  intro op s' hop hs'
  exact ⟨idle_allowed hop, fun r _ => hs'.trans (idle_next hop r)⟩

theorem idle_of_isRead {α : Type} {p : KeyCtl α} (hp : p.Uses Op.IsRead) : p.Uses Idle := by
  refine hp.mono (fun op hop => ?_)
  cases op with
  | read r => exact trivial
  | _ => exact hop.elim

theorem idle_of_plain {α : Type} {p : KeyCtl α} (hp : p.Uses Op.PlainRead) : p.Uses Idle :=
  idle_of_isRead (isRead_of_plain hp)

end VirtualKey

/-! ## A virtual key and its Secrets

The world of one virtual key in which the Secrets are real: they are written by the reconcile,
deleted by anyone, and read as they are. `minted` is the history of the keys LiteLLM has generated
for the resource, each with its token; no program reads it. Writes may fail, with or without having
taken effect, and reads of the resource may return any past version.
-/

abbrev KeyStore : Type := Store LiteLLMVirtualKeySpec LiteLLMVirtualKeyStatus

structure KeyWorld where
  store : KeyStore
  secrets : Secrets
  /-- Every key that was generated, with its token. -/
  minted : List (String × String) := []

namespace KeyWorld

variable (w : KeyWorld)

abbrev commit (out : Except StatusError (LiteLLMVirtualKey × KeyStore)) (lost : Option Error) :
    Except Error LiteLLMVirtualKey × KeyWorld :=
  committed (fun store => { w with store := store }) w out lost

abbrev commitSecret (x : Secret) (out : Except StatusError Secrets) (lost : Option Error) :
    Except Error Secret × KeyWorld :=
  committed (fun secrets => { w with secrets := secrets }) w (out.map (x, ·)) lost

def readSecret (key : NamespacedName) : Except Error Secret :=
  match w.secrets.find key with
  | some x => .ok x
  | none => .error (.leaf (.kube Secrets.notFound))

/-- LiteLLM has generated a key. Its material is not empty, and neither it nor its token was used
before. -/
def mint (resp : KeyGenerateResponse) : Option KeyWorld :=
  if resp.key ≠ "" ∧ ∀ p ∈ w.minted, p.1 ≠ resp.key ∧ p.2 ≠ resp.token
  then some { w with minted := (resp.key, resp.token) :: w.minted }
  else none

/-- What the caller gets of an answer of LiteLLM. -/
def deliver {α : Type} (a : α) : Option Error → Except Error α
  | none => .ok a
  | some e => .error e

def answer : (op : KeyOp) → Reply KeyApi → Option (op.Resp × KeyWorld)
  | .get _, .cached age => w.store.versions[age]?.map (fun v => (.ok v, w))
  | .update obj, .done => some (w.commit (w.store.update obj) none)
  | .update obj, .lost e => some (w.commit (w.store.update obj) (some e))
  | .statusUpdate obj, .done => some (w.commit (w.store.statusUpdate obj) none)
  | .statusUpdate obj, .lost e => some (w.commit (w.store.statusUpdate obj) (some e))
  | .read (.getSecret key), .done => some (w.readSecret key, w)
  | .read (.getSecretUncached key), .done => some (w.readSecret key, w)
  | .read (.getSecret _), .found _ => none
  | .read (.getSecretUncached _), .found _ => none
  | .read r, .found obj => (obj r).map (fun o => (.ok o, w))
  | .createSecret x, .done => some (w.commitSecret x (w.secrets.create x) none)
  | .createSecret x, .lost e => some (w.commitSecret x (w.secrets.create x) (some e))
  | .updateSecret x, .done => some (w.commitSecret x (w.secrets.update x) none)
  | .updateSecret x, .lost e => some (w.commitSecret x (w.secrets.update x) (some e))
  | .random _, .bytes bs => some (.ok bs, w)
  | .api _ (.generate req), .served result lost =>
    (result (.generate req)).bind (fun resp =>
      (w.mint resp).map (fun w' => (deliver resp lost, w')))
  | .api _ req, .served result lost => (result req).map (fun a => (deliver a lost, w))
  | op, .fail e => some (op.failed e, w)
  | _, _ => none

/-! ## What others do -/

end KeyWorld

inductive KeyEnv where
  | edit (spec : LiteLLMVirtualKeySpec)
  | remove
  | clear (age : Nat)
  | drift (age : Nat)
  /-- Someone deletes a Secret. -/
  | deleteSecret (key : NamespacedName)

namespace KeyWorld

variable (w : KeyWorld)

abbrev written (out : Except StatusError (LiteLLMVirtualKey × KeyStore)) : Option KeyWorld :=
  carriedOut (fun store => { w with store := store }) out

def env : KeyEnv → Option KeyWorld
  | .edit spec => (w.store.edit spec).map (fun store => { w with store := store })
  | .remove => w.store.markDeleted.map (fun store => { w with store := store })
  | .clear age =>
    w.store.versions[age]?.bind (fun v =>
      w.written (w.store.statusUpdate (v.withStatus (SyncKind.keys.clearStatus v.status))))
  | .drift age =>
    w.store.versions[age]?.bind (fun v => w.written (w.store.update (withoutSyncHash v)))
  | .deleteSecret key => some { w with secrets := w.secrets.delete key }

/-! ## Agreement -/

/-- The Secret the status refers to, if it exists, holds the key generated together with the token
in the status. -/
def Pairs (ns : String) (st : LiteLLMVirtualKeyStatus) : Prop :=
  st.litellmKeyToken ≠ "" → ∀ ref ∈ st.keySecretRef, ∀ x ∈ w.secrets.find ⟨ns, ref.name⟩,
    ∃ key ∈ apiKeyOf x, (key, st.litellmKeyToken) ∈ w.minted

/-- The stored status and its Secret agree. -/
def Agrees : Prop := ∀ cur ∈ w.store.current, w.Pairs cur.metadata.ns cur.status

instance (w : KeyWorld) (ns : String) (st : LiteLLMVirtualKeyStatus) :
    Decidable (w.Pairs ns st) := by
  unfold Pairs
  infer_instance

instance (w : KeyWorld) : Decidable w.Agrees := by
  unfold Agrees
  infer_instance

end KeyWorld

def keyLifecycle (lib : Ext) (req : NamespacedName) :
    Machine KeyOp Op.Resp KeyWorld (Reply KeyApi) KeyEnv where
  answer := KeyWorld.answer
  env := KeyWorld.env
  main := do
    let _ ← VirtualKey.reconcile lib req
    pure ()

abbrev KeyConf : Type := Conf KeyOp Op.Resp KeyWorld

abbrev KeyAction : Type := Action (Reply KeyApi) KeyEnv

/-! ## The virtual key controller keeps to the custody protocol

The proof follows the reconcile: what is written to the Secret, what minting a key and rotating one
leave in the caller's copy, and that whatever is reported in the end may be stored.
-/

namespace VirtualKey

variable {vk c : LiteLLMVirtualKey} {s : Custody} {lib : Ext} {conn : ResolvedInstance}

/-! ## Writing the resource -/

theorem wp_store (h : Storable vk s) : custody.wp (statusUpdate vk) (fun _ s' => s'.Final) s := by
  obtain ⟨c, hc, hrv, hm⟩ := h
  refine ⟨⟨c, hc, hrv, hm⟩, fun r _ => ?_⟩
  cases r with
  | error e => exact .inr (.inr rfl)
  | ok r => exact .inr (.inl rfl)

theorem wpE_hash {hash : String} (h : Holding vk c s) (hself : s.MayStore c c.status) :
    custody.wpE (storeSyncHash vk hash) (fun vk' s' => s'.minted = s.minted ∧ Holding vk' vk' s')
      (fun f s' => Storable f.cr s') s := by
  obtain ⟨hc, hnear, hm⟩ := id h
  have hrv : (annotate vk annotationSyncHash hash).rv = c.rv := by
    rw [hnear]
    rfl
  unfold storeSyncHash
  simp only [wpE_orFail]
  refine ⟨⟨c, hc, hrv⟩, fun r hr => ?_⟩
  cases r with
  | error e => exact ⟨c, hc, hrv, hm⟩
  | ok r =>
    obtain ⟨rv, gen, rfl⟩ := hr c hc
    exact ⟨rfl, rfl, rfl, hself⟩

theorem mayStore_again {st : LiteLLMVirtualKeyStatus} {s' : Custody} (h : s.MayStore c st)
    (hm : s'.minted = s.minted) (hw : s'.written = s.written) (rv gen : Nat) :
    s'.MayStore ((c.withStatus st).stamp rv gen) st := by
  rcases h with h₀ | ⟨hnone, -, -⟩ | ⟨key, ref, hmint, href, hwrote⟩
  · exact .inl h₀
  · exact .inr (.inl ⟨hm.trans hnone, rfl, rfl⟩)
  · exact .inr (.inr ⟨key, ref, hm.trans hmint, href, hw.trans hwrote⟩)

theorem wp_storeStatus (h : Holding vk c s) {Q : Except Error LiteLLMVirtualKey → Custody → Prop}
    (hok : ∀ vk' s', Holding vk' vk' s' → Q (.ok vk') s')
    (herr : ∀ e s', Storable vk s' → Q (.error e) s') : custody.wp (statusUpdate vk) Q s := by
  obtain ⟨hc, hnear, hm⟩ := id h
  refine ⟨h.storable, fun r hr => ?_⟩
  cases r with
  | error e => exact herr e _ h.storable
  | ok r =>
    obtain ⟨rv, gen, rfl⟩ := hr c hc
    exact hok _ _ ⟨rfl, rfl, mayStore_again hm rfl rfl rv gen⟩

theorem wpE_record {pre : String} {hash : LiteLLMVirtualKeySpec → String} (h : Holding vk c s) :
    custody.wpE (recordCreated pre hash vk) Storable (fun f s' => Storable f.cr s') s := by
  unfold recordCreated
  simp only [wpE_bind, wpE_orFail]
  refine wp_storeStatus h (fun vk' s' h' => ?_) (fun e s' h' => h')
  exact wpE_post (wpE_hash h' h'.2.2) (fun _ _ h'' => h''.2.storable)

/-! ## The key Secret -/

theorem setControllerReference_key {kind : String} {owner m m' : ObjectMeta}
    (h : setControllerReference kind owner m = some m') :
    m'.key = m.key ∧ m'.resourceVersion = m.resourceVersion := by
  unfold setControllerReference at h
  dsimp only at h
  split at h
  · split at h
    · cases h
      exact ⟨rfl, rfl⟩
    · cases h
  · cases h
    exact ⟨rfl, rfl⟩

variable {apiKey : String}

/-- What the adjusted Secret keeps of the existing one, and what it receives. -/
theorem adjustKeySecret_some {existing secret : Secret} {changed : Bool}
    (h : adjustKeySecret vk existing apiKey = some (secret, changed)) :
    secret.key = existing.key ∧ secret.rv = existing.rv ∧ secret.data = existing.data ∧
      secret.stringData = (if apiKey ≠ "" then [("api_key", apiKey)] else existing.stringData) ∧
      (apiKey ≠ "" → changed = true) := by
  unfold adjustKeySecret at h
  obtain ⟨m, hm, heq⟩ := Option.map_eq_some_iff.mp h
  have hkey : m.key = existing.metadata.key ∧
      m.resourceVersion = existing.metadata.resourceVersion := by
    split at hm
    · cases hm
      exact ⟨rfl, rfl⟩
    · exact setControllerReference_key hm
  obtain ⟨hs, hch⟩ := Prod.mk.inj heq
  subst hs hch
  refine ⟨hkey.1, hkey.2, rfl, rfl, fun hne => ?_⟩
  simp [hne]

theorem newKeySecret_some {secret : Secret} (h : newKeySecret vk apiKey = some secret) :
    secret.key = ⟨vk.metadata.ns, keySecretName vk⟩ ∧ secret.stringData = [("api_key", apiKey)] := by
  unfold newKeySecret at h
  obtain ⟨m, hm, rfl⟩ := Option.map_eq_some_iff.mp h
  exact ⟨(setControllerReference_key hm).1, rfl⟩

variable {Q : Except Error Secret → Custody → Prop}

theorem wp_readSecret {key : NamespacedName}
    (hok : ∀ x s', Same s s' → s'.seen = some x → x.key = key → x.stringData = [] → Q (.ok x) s')
    (herr : ∀ e, Q (.error e) s) : custody.wp (Ctl.read (.getSecret key)) Q s := by
  refine ⟨trivial, fun r hr => ?_⟩
  cases r with
  | error e => exact herr e
  | ok x => exact hok x _ ⟨rfl, rfl, rfl, rfl⟩ rfl hr.1 hr.2

theorem wp_fillNew {secret : Secret} (hfill : s.MayFill secret)
    (hok : ∀ x s', Same s s' → s'.written = some secret.key → Q (.ok x) s')
    (herr : ∀ e, Q (.error e) s) : custody.wp (createSecret secret) Q s := by
  refine ⟨hfill, fun r _ => ?_⟩
  cases r with
  | error e => exact herr e
  | ok x => exact hok x _ ⟨rfl, rfl, rfl, rfl⟩ rfl

theorem wp_fill {secret x : Secret} (hseen : s.seen = some x) (hkey : secret.key = x.key)
    (hrv : secret.rv = x.rv) (hdata : secret.data = x.data)
    (hfill : secret.stringData = [] ∨ s.MayFill secret)
    (hok : ∀ y s', Same s s' → (secret.stringData ≠ [] → s'.written = some secret.key) →
      Q (.ok y) s')
    (herr : ∀ e, Q (.error e) s) : custody.wp (updateSecret secret) Q s := by
  refine ⟨⟨x, hseen, hkey, hrv, hdata, hfill⟩, fun r _ => ?_⟩
  rcases r with e | y
  · exact herr e
  have hnext : custody.next s (.updateSecret secret) (.ok y) =
      if secret.stringData = [] then s else { s with written := some secret.key } := rfl
  by_cases hempty : secret.stringData = []
  · rw [if_pos hempty] at hnext
    rw [hnext]
    exact hok y s .rfl (absurd hempty)
  · rw [if_neg hempty] at hnext
    rw [hnext]
    exact hok y _ ⟨rfl, rfl, rfl, rfl⟩ (fun _ => rfl)

/-- The Secret is written only with fresh material, or back as it was read. With material the
Secret of the resource holds it afterwards. -/
theorem wpE_secret (hkey : apiKey = "" ∨ s.Fresh apiKey) :
    custody.wpE (reconcileKeySecret vk apiKey) (fun _ s' => Same s s' ∧
        (apiKey ≠ "" → s'.written = some ⟨vk.metadata.ns, keySecretName vk⟩))
      (fun _ s' => Same s s') s := by
  unfold reconcileKeySecret
  simp only [wpE_bind, wpE_lift]
  refine wp_readSecret (fun existing s₁ hs₁ hseen hexk hexs => ?_) (fun e => ?_)
  · dsimp only
    rcases hadj : adjustKeySecret vk existing apiKey with _ | adjusted
    · exact hs₁
    obtain ⟨secret, changed⟩ := adjusted
    obtain ⟨hk, hrv, hdata, hstr, hch⟩ := adjustKeySecret_some hadj
    cases changed with
    | false =>
      -- nothing to write, so there was no material
      refine ⟨hs₁, fun hne => ?_⟩
      cases hch hne
    | true =>
      simp only [if_true, wpE_bind, wpE_orFail, wpE_pure]
      by_cases hne : apiKey = ""
      · have hplain : secret.stringData = [] := by
          rw [hstr, if_neg (not_not.mpr hne)]
          exact hexs
        exact wp_fill hseen hk hrv hdata (.inl hplain)
          (fun _ s₂ hs₂ _ => ⟨hs₁.trans hs₂, fun h => absurd hne h⟩) (fun _ => hs₁)
      · have hmat : secret.stringData = [("api_key", apiKey)] := by
          rw [hstr, if_pos hne]
        have hfresh := hs₁.fresh (hkey.resolve_left hne)
        refine wp_fill hseen hk hrv hdata (.inr ⟨apiKey, hmat, hfresh⟩)
          (fun _ s₂ hs₂ hw => ⟨hs₁.trans hs₂, fun _ => ?_⟩) (fun _ => hs₁)
        rw [hw (by rw [hmat]; exact List.cons_ne_nil _ _), hk, hexk]
  · dsimp only
    split
    · split
      · exact Same.rfl
      · rename_i hne
        have hfresh : s.Fresh apiKey := hkey.resolve_left hne
        obtain ⟨secret, hsecret⟩ := newKeySecret_isSome vk apiKey
        obtain ⟨hk, hdata⟩ := newKeySecret_some hsecret
        simp only [hsecret, wpE_bind, wpE_orFail, wpE_pure]
        refine wp_fillNew ⟨apiKey, hdata, hfresh⟩ (fun _ s₂ hs₂ hw => ⟨hs₂, fun _ => ?_⟩)
          (fun _ => Same.rfl)
        rw [hw, hk]
    · exact Same.rfl

/-! ## Minting, rotating and updating -/

theorem wp_mint {req : KeyGenerateRequest} {Q : Except Error KeyGenerateResponse → Custody → Prop}
    (hm : s.minted = none)
    (hok : ∀ resp s', s'.copy = s.copy → s'.minted = some (resp.key, resp.token) →
      s'.Fresh resp.key → resp.key ≠ "" → Q (.ok resp) s')
    (herr : ∀ e, Q (.error e) s) : custody.wp (api conn (KeyApi.generate req)) Q s := by
  refine ⟨hm, fun r hr => ?_⟩
  cases r with
  | error e => exact herr e
  | ok resp => exact hok resp _ rfl rfl ⟨⟨_, rfl⟩, rfl, rfl⟩ hr

/-- A key is minted only for a copy without a token. If its Secret cannot be written, no token is
stored. -/
theorem wpE_mint {teamID userID : String} (h : Unminted vk s) (hid : vk.status.litellmKeyToken = "") :
    custody.wpE (mintKey lib conn teamID userID vk) Storable (fun f s' => Storable f.cr s') s := by
  obtain ⟨hm, c, hc, hnear, -⟩ := id h
  have hmeta : vk.metadata = c.metadata := by
    rw [hnear]
    rfl
  have hrv : vk.rv = c.rv := congrArg ObjectMeta.resourceVersion hmeta
  unfold mintKey
  simp only [wpE_bind, wpE_orFail]
  refine wp_mint hm (fun resp s₁ hc₁ hm₁ hfresh hne => ?_) (fun e => h.storable)
  refine wp_mono (wpE_secret (.inr hfresh)) (fun r s₂ h₂ => ?_)
  rcases r with e | _
  · exact ⟨c, (h₂.copy.trans hc₁).trans hc, hrv, .inl hid⟩
  obtain ⟨hs₂, hw⟩ := h₂
  refine wpE_record (c := c) ⟨(hs₂.copy.trans hc₁).trans hc, ?_, ?_⟩
  · rw [hnear]
    rfl
  · -- the token goes with the Secret that was just written
    refine .inr (.inr ⟨resp.key, ⟨keySecretName vk, "api_key"⟩, hs₂.minted.trans hm₁, rfl, ?_⟩)
    rw [hw hne, hmeta]

theorem wpE_drop (h : Unminted vk s) : custody.wpE (dropOrphanedKey conn vk) Unminted
      (fun f s' => Storable f.cr s') s := by
  unfold dropOrphanedKey
  split
  · exact h
  · simp only [wpE_bind, wpE_orFail]
    refine wp_idle (idle_of_plain (uses_keySecretExists _)) (fun r s₁ hs₁ => ?_)
    have h₁ := h.same hs₁
    rcases r with e | found
    · exact h₁.storable
    cases found with
    | true => exact h₁
    | false =>
      simp only [if_neg Bool.false_ne_true, wpE_bind, wpE_lift]
      obtain ⟨hm, c, hc, hnear, -⟩ := h₁
      refine ⟨trivial, fun _ _ => ⟨hm, c, hc, ?_, .inl rfl⟩⟩
      rw [hnear]
      rfl

theorem uses_api {req : KeyApi} (hreq : ∀ r, req ≠ .generate r) :
    (api conn req : KeyCtl _).Uses Idle := by
  cases req with
  | generate r => exact absurd rfl (hreq r)
  | _ => exact .perform trivial

theorem wpE_push (h : Unminted vk s) : custody.wpE (pushKey lib conn vk) Unminted
      (fun f s' => Storable f.cr s') s := by
  unfold pushKey
  dsimp only
  split
  · exact h
  · simp only [wpE_bind, wpE_orFail]
    refine wp_idle (uses_api (fun _ h => by cases h)) (fun r s₁ hs₁ => ?_)
    have h₁ := h.same hs₁
    cases r with
    | error e => exact h₁.storable
    | ok _ =>
      obtain ⟨hm, c, hh⟩ := h₁
      refine wpE_post (wpE_hash hh (.inr (.inl ⟨hm, rfl, rfl⟩)))
        (fun vk' s' h' => ⟨h'.1.trans hm, vk', h'.2⟩)

theorem wpE_update (h : Unminted vk s) :
    custody.wpE (updateKey lib conn vk) (fun r s' => Storable r.1 s')
      (fun f s' => Storable f.cr s') s := by
  unfold updateKey
  rw [wpE_bind]
  refine wpE_post (wpE_push h) (fun vk₁ s₁ h₁ => ?_)
  simp only [wpE_bind, wpE_lift]
  refine wp_mono (wpE_secret (.inl rfl)) (fun r s₂ h₂ => ?_)
  cases r with
  | error e =>
    dsimp only
    split <;> exact (h₁.same h₂).storable
  | ok _ =>
    simp only [wpE_bind, wpE_lift, wpE_pure]
    refine wp_idle (uses_api (fun _ h => by cases h)) (fun info s₃ hs₃ => ?_)
    have h₃ := (h₁.same h₂.1).same hs₃
    cases info with
    | error e => exact h₃.storable
    | ok info => exact (h₃.withStatus rfl rfl).storable

theorem wpE_key (h : Unminted vk s) :
    custody.wpE (reconcileKey lib vk conn) (fun r s' => Storable r.1 s')
      (fun f s' => Storable f.cr s') s := by
  unfold reconcileKey
  simp only [wpE_bind, wpE_orFail]
  refine wp_idle (idle_of_plain (uses_resolveTeamRef _)) (fun r s₁ hs₁ => ?_)
  have h₁ := h.same hs₁
  rcases r with e | teamID
  · exact h₁.storable
  refine wp_idle (idle_of_plain (uses_resolveUserRef _)) (fun r s₂ hs₂ => ?_)
  have h₂ := h₁.same hs₂
  rcases r with e | userID
  · exact h₂.storable
  refine wpE_post (wpE_drop h₂) (fun vk₃ s₃ h₃ => ?_)
  unfold mintOrUpdateKey
  split
  · rename_i hid
    rw [wpE_bind]
    exact wpE_post (wpE_mint h₃ hid) (fun _ _ h₄ => h₄)
  · exact wpE_update h₃

/-! ## Reconcile -/

theorem reports_custody : (controller lib).Reports custody Storable Custody.Final := by
  rintro vk s status reason message observed ⟨c, hc, hrv, hm⟩
  exact wp_store ⟨c, hc, hrv, hm.congr rfl rfl⟩

theorem wp_cleanup (hc : s.copy = some vk) (hm : s.minted = none) :
    custody.wp (handleDeletion lib (controller lib).instanceRef (controller lib).target
      (controller lib).delete vk) (fun _ s' => s'.Final) s := by
  refine wp_handleDeletion_of (I := Same s) (J := fun _ => Same s) .rfl (.inl hm) ?_
    (fun _ _ s₁ _ hs₁ => ⟨trivial, fun _ _ => hs₁⟩) (fun s₁ hs₁ => ?_)
  · exact wpE_same.mpr
      (wp_idle (idle_of_isRead (isRead_resolveInstanceRef _ _ _ _ _)) (fun _ _ hs₁ => hs₁))
  · refine ⟨⟨vk, hs₁.copy.trans hc, rfl⟩, fun r _ => ?_⟩
    cases r with
    | error e | ok r => exact .inl (hs₁.minted.trans hm)

/-- **The virtual key controller keeps to the custody protocol.** -/
theorem follows_custody (lib : Ext) (req : NamespacedName) :
    custody.wp (reconcile lib req) (fun _ s => s.Final) {} := by
  refine reports_custody.wp_reconcile
    (B := fun vk s => s.copy = some vk ∧ s.minted = none) ⟨trivial, fun r _ => ?_⟩
    (fun vk s h => ⟨⟨vk, h.1, rfl⟩, fun r _ => ?_⟩) (fun vk s h => ?_)
  · cases r with
    | error e => exact .inl rfl
    | ok vk => exact ⟨fun _ => wp_cleanup rfl rfl, fun _ => ⟨rfl, rfl⟩⟩
  · cases r with
    | error e => exact .inl h.2
    | ok vk' => exact ⟨rfl, h.2⟩
  · have hu := unminted_decoded h.1 h.2
    refine wp_idle (idle_of_isRead (isRead_resolveInstanceRef _ _ _ _ _)) (fun r s₁ hs₁ => ?_)
    have hu₁ := hu.same hs₁
    cases r with
    | error e => exact hu₁.storable
    | ok conn => exact wpE_key hu₁

end VirtualKey

end LitellmOperator
