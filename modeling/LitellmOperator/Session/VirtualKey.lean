import LitellmOperator.Controller.VirtualKey
import LitellmOperator.Session.Reconcile

/-! # The virtual key controller keeps to the session protocol

A generated key is recorded only after its Secret was written. So here a reconcile may also give
up on recording when the Secret cannot be read or written, belongs to another owner, or LiteLLM
returned no key material.
-/

set_option autoImplicit false

namespace LitellmOperator

open Effect Protocol Go Kube Ctl Kind

namespace VirtualKey

/-- The answers that keep a reconcile from recording the key it has generated. -/
def hinders (vk : LiteLLMVirtualKey) :
    (op : Op LiteLLMVirtualKeySpec LiteLLMVirtualKeyStatus KeyApi) → op.Resp → Bool
  | .update _, .error _ => true
  | .statusUpdate _, .error _ => true
  | .read (.getSecret _), .error e => !isNotFound e
  | .read (.getSecret _), .ok existing => (adjustKeySecret vk existing "").isNone
  | .createSecret _, .error _ => true
  | .updateSecret _, .error _ => true
  | .api _ (.generate _), .ok r => (show KeyGenerateResponse from r).key = ""
  | _, _ => false

def kind : Kind LiteLLMVirtualKeySpec LiteLLMVirtualKeyStatus KeyApi where
  kind := kindVirtualKey
  instanceRef := (·.instanceRef)
  bound v := idOf v.status.litellmKeyToken
  adopted _ := false
  byName := false
  replaces := true
  creates
    | .generate _ => true
    | _ => false
  names
    | .get token => some token
    | _ => none
  takes
    | .generate _, r => idOf (show KeyGenerateResponse from r).token
    | _, _ => none
  deletes
    | .delete token => some token
    | _ => none
  finds _ := none
  hinders := hinders
  merge _ modified _ := modified
  bound_congr := by
    intro v v' _ hst _
    rw [hst]
  takes_deletes req _ _ h := by
    cases req with
    | delete _ => cases h
    | _ => rfl

theorem annotates_syncHash : kind.Annotates annotationSyncHash := ⟨fun _ _ => rfl, fun _ _ => rfl⟩

theorem fits (lib : Ext) : (controller lib).Fits kind where
  cleans := ⟨rfl, fun _ _ h => ⟨h, rfl⟩, fun _ => rfl, fun _ => rfl, fun _ _ => rfl⟩

abbrev KeySession : Type := Session LiteLLMVirtualKeySpec LiteLLMVirtualKeyStatus

variable {lib : Ext} {conn : ResolvedInstance} {vk c : LiteLLMVirtualKey}
variable {s : KeySession}

/-! ## The key Secret -/

theorem newKeySecret_isSome (vk : LiteLLMVirtualKey) (apiKey : String) :
    ∃ secret, newKeySecret vk apiKey = some secret := ⟨_, rfl⟩

theorem adjustKeySecret_none {existing : Secret} {apiKey : String} (hm : vk.metadata = c.metadata)
    (h : adjustKeySecret vk existing apiKey = none) : adjustKeySecret c existing "" = none := by
  unfold adjustKeySecret at h ⊢
  rw [hm] at h
  simp only [Option.map_eq_none_iff] at h ⊢
  exact h

/-- `s'` is `s` up to what was seen, and a failure is not forgotten. -/
structure Keeps (s s' : KeySession) : Prop where
  same : Same s s'
  hindered : s.hindered = true → s'.hindered = true

theorem Keeps.trans {s s' s'' : KeySession} (h : Keeps s s') (h' : Keeps s' s'') : Keeps s s'' :=
  ⟨h.same.trans h'.same, fun hh => h'.hindered (h.hindered hh)⟩

variable {op : Op LiteLLMVirtualKeySpec LiteLLMVirtualKeyStatus KeyApi}

theorem keeps_next {r : op.Resp} (ht : kind.track s op r = s) : Keeps s (kind.next s op r) := by
  unfold Kind.next
  rw [ht]
  refine ⟨⟨rfl, rfl, rfl, rfl, rfl⟩, fun hh => ?_⟩
  simp [hh]

theorem hindered_next {r : op.Resp} (hc : s.copy = some c) (hh : hinders c op r = true) :
    (kind.next s op r).hindered = true := by
  unfold Kind.next
  rw [hc]
  simp [show kind.hinders c op r = true from hh]

variable {Q : Except Error Secret → KeySession → Prop}

theorem wp_getSecret {key : NamespacedName} (hc : s.copy = some c)
    (hok : ∀ existing s', Keeps s s' → (adjustKeySecret c existing "" = none →
      s'.hindered = true) → Q (.ok existing) s')
    (herr : ∀ e s', Keeps s s' → (isNotFound e = false → s'.hindered = true) → Q (.error e) s') :
    (kind.session lib).wp (Ctl.read (.getSecret key)) Q s := by
  refine ⟨trivial, fun r _ => ?_⟩
  cases r with
  | error e =>
    refine herr e _ (keeps_next rfl) (fun hnf => hindered_next hc ?_)
    show (!isNotFound e) = true
    rw [hnf]
    rfl
  | ok existing =>
    refine hok existing _ (keeps_next rfl) (fun hn => hindered_next hc ?_)
    show (adjustKeySecret c existing "").isNone = true
    rw [hn]
    rfl

theorem wp_createSecret {secret : Secret} (hc : s.copy = some c)
    (hok : ∀ r s', Keeps s s' → Q (.ok r) s')
    (herr : ∀ e s', Keeps s s' → s'.hindered = true → Q (.error e) s') :
    (kind.session lib).wp (createSecret secret) Q s := by
  refine ⟨trivial, fun r _ => ?_⟩
  cases r with
  | error e => exact herr e _ (keeps_next rfl) (hindered_next hc rfl)
  | ok r => exact hok r _ (keeps_next rfl)

theorem wp_updateSecret {secret : Secret} (hc : s.copy = some c)
    (hok : ∀ r s', Keeps s s' → Q (.ok r) s')
    (herr : ∀ e s', Keeps s s' → s'.hindered = true → Q (.error e) s') :
    (kind.session lib).wp (updateSecret secret) Q s := by
  refine ⟨trivial, fun r _ => ?_⟩
  cases r with
  | error e => exact herr e _ (keeps_next rfl) (hindered_next hc rfl)
  | ok r => exact hok r _ (keeps_next rfl)

theorem uses_reconcileKeySecret {P : Op LiteLLMVirtualKeySpec LiteLLMVirtualKeyStatus KeyApi → Prop}
    (hread : ∀ r, P (.read r))
    (hcreate : ∀ x, P (.createSecret x)) (hupdate : ∀ x, P (.updateSecret x)) (apiKey : String) :
    (reconcileKeySecret vk apiKey).run.Uses P := by
  unfold reconcileKeySecret
  refine uses_run_bind (uses_lift (.perform (hread _))) (fun r => ?_)
  cases r with
  | error e =>
    dsimp only
    split
    · split
      · exact .pure
      · split
        · exact .pure
        · exact uses_run_bind (uses_orFail (.perform (hcreate _))) (fun _ => .pure)
    · exact .pure
  | ok existing =>
    dsimp only
    split
    · exact .pure
    · split
      · exact uses_run_bind (uses_orFail (.perform (hupdate _))) (fun _ => .pure)
      · exact .pure

/-- The Secret of a key is read and written on the side. If that fails with key material at hand,
the session knows. -/
theorem wpE_reconcileKeySecret {apiKey : String} (hc : s.copy = some c)
    (hm : vk.metadata = c.metadata) :
    (kind.session lib).wpE (reconcileKeySecret vk apiKey) (fun _ s' => Keeps s s')
      (fun _ s' => Keeps s s' ∧ (apiKey = "" ∨ s'.hindered = true)) s := by
  unfold reconcileKeySecret
  simp only [wpE_bind, wpE_lift]
  refine wp_getSecret hc (fun existing s₁ hk hn => ?_) (fun e s₁ hk hnf => ?_)
  · have hc₁ : s₁.copy = some c := hk.same.copy.trans hc
    dsimp only
    rcases hadj : adjustKeySecret vk existing apiKey with _ | adjusted
    · exact ⟨hk, .inr (hn (adjustKeySecret_none hm hadj))⟩
    obtain ⟨secret, changed⟩ := adjusted
    cases changed with
    | false => exact hk
    | true =>
      simp only [if_true, wpE_bind, wpE_orFail, wpE_pure]
      exact wp_updateSecret hc₁ (fun _ _ hk' => hk.trans hk')
        (fun _ _ hk' hh => ⟨hk.trans hk', .inr hh⟩)
  · have hc₁ : s₁.copy = some c := hk.same.copy.trans hc
    dsimp only
    cases hfound : isNotFound e with
    | false => exact ⟨hk, .inr (hnf hfound)⟩
    | true =>
      by_cases hkey : apiKey = ""
      · simp only [if_true, if_pos hkey]
        exact ⟨hk, .inl hkey⟩
      · obtain ⟨secret, hsecret⟩ := newKeySecret_isSome vk apiKey
        simp only [if_true, if_neg hkey, hsecret, wpE_bind, wpE_orFail, wpE_pure]
        exact wp_createSecret hc₁ (fun _ _ hk' => hk.trans hk')
          (fun _ _ hk' hh => ⟨hk.trans hk', .inr hh⟩)

/-! ## Minting -/

/-- `resp` was returned by a generate for a copy without a key, and is not yet recorded. If no key
material came with it, the session knows. -/
structure Minted (lib : Ext) (conn : ResolvedInstance) (vk : LiteLLMVirtualKey)
    (resp : KeyGenerateResponse) (subj c : LiteLLMVirtualKey)
    (s : KeySession) : Prop where
  held : OpenAt kind lib conn subj c vk s
  vacant : kind.bound c = none ∨ ∃ x ∈ s.dropped, kind.bound c = some x
  fresh : s.fresh = idOf resp.token
  material : resp.key = "" → s.hindered = true

theorem Minted.keeps {resp : KeyGenerateResponse} {subj c : LiteLLMVirtualKey} {s' : KeySession}
    (h : Minted lib conn vk resp subj c s) (hk : Keeps s s') :
    Minted lib conn vk resp subj c s' where
  held := h.held.same hk.same
  vacant := by
    rw [hk.same.dropped]
    exact h.vacant
  fresh := hk.same.fresh.trans h.fresh
  material hkey := hk.hindered (h.material hkey)

theorem wp_generate {req : KeyGenerateRequest} (h : Vacant kind lib conn vk s)
    {Q : Except Error KeyGenerateResponse →
      KeySession → Prop}
    (hok : ∀ resp s' subj c, Minted lib conn vk resp subj c s' → Q (.ok resp) s')
    (herr : ∀ e s', Vacant kind lib conn vk s' → Q (.error e) s') :
    (kind.session lib).wp (api conn (KeyApi.generate req)) Q s := by
  obtain ⟨subj, c, ho, hf, hb⟩ := h
  have hcall : kind.MayCall lib s conn (KeyApi.generate req) := by
    refine ⟨subj, c, ho.connected, ho.copy, ?_, fun _ => ⟨hf, ho.key, .inr hb⟩, ?_⟩
    · intro hd
      rw [ho.live] at hd
      cases hd
    · intro x hx
      cases hx
  refine ⟨hcall, fun r _ => ?_⟩
  have hopen : OpenAt kind lib conn subj c vk (kind.next s (.api conn (KeyApi.generate req)) r) :=
    ⟨⟨ho.connected.inst, ho.connected.key, ho.connected.admitted⟩, ho.live, ho.key, ho.copy,
      ho.near⟩
  rcases r with e | resp
  · exact herr e _ ⟨subj, c, hopen, hf, hb⟩
  refine hok resp _ subj c ⟨hopen, hb, ?_, fun hkey => hindered_next ho.copy ?_⟩
  · show (idOf (show KeyGenerateResponse from resp).token).or s.fresh = idOf _
    rw [hf, Option.or_none]
  · show decide ((show KeyGenerateResponse from resp).key = "") = true
    exact decide_eq_true hkey

theorem wpE_mintKey {teamID userID : String} (h : Vacant kind lib conn vk s)
    (hid : vk.status.litellmKeyToken = "") :
    (kind.session lib).wpE (mintKey lib conn teamID userID vk)
      (Live kind lib conn) (Stops kind) s := by
  have hn : kind.bound vk = none := idOf_eq_none.mpr hid
  unfold mintKey
  simp only [wpE_bind, wpE_orFail]
  refine wp_generate h (fun resp s₁ subj c hmint => ?_) (fun e s₁ h₁ => (h₁.writable hn).reportable)
  have hm : vk.metadata = c.metadata := by
    rw [hmint.held.near]
    rfl
  refine wp_mono (wpE_reconcileKeySecret hmint.held.copy hm) (fun r s₂ h₂ => ?_)
  cases r with
  | error e =>
    -- the Secret was not written: the session is excused from recording
    have hmint₂ := hmint.keeps h₂.1
    have hh : s₂.hindered = true := h₂.2.elim hmint₂.material id
    have hw : kind.MayWrite s₂ c vk := .inr ⟨.inr hh, stores_unbound hmint₂.vacant hn⟩
    refine ⟨c, hmint₂.held.copy, ?_, ?_⟩
    · rw [hmint₂.held.near]
      rfl
    · rw [← hmint₂.held.near]
      exact hw
  | ok _ =>
    have hmint₂ := hmint.keeps h₂
    refine wpE_recordCreated annotates_syncHash ?_ (fun _ _ h' _ _ => h')
    refine ⟨subj, c, hmint₂.held.withStatus _, ?_, .inr hmint₂.fresh⟩
    show kind.MayWrite s₂ c _
    cases htoken : idOf resp.token with
    | some x => exact .inl ⟨x, hmint₂.fresh.trans htoken, htoken⟩
    | none => exact .inr ⟨.inl (hmint₂.fresh.trans htoken), stores_unbound hmint₂.vacant htoken⟩

/-! ## The controller -/

theorem uses_resolveTeamRef (vk : LiteLLMVirtualKey) :
    (resolveTeamRef vk).run.Uses Op.PlainRead := by
  unfold resolveTeamRef
  split
  · exact .pure
  · refine uses_run_bind (uses_orFail (uses_read trivial)) (fun team => ?_)
    exact uses_run_bind (uses_failIf _ _) (fun _ => .pure)

theorem uses_resolveUserRef (vk : LiteLLMVirtualKey) :
    (resolveUserRef vk).run.Uses Op.PlainRead := by
  unfold resolveUserRef
  split
  · exact .pure
  · refine uses_run_bind (uses_orFail (uses_read trivial)) (fun user => ?_)
    exact uses_run_bind (uses_failIf _ _) (fun _ => .pure)

theorem uses_keySecretExists (vk : LiteLLMVirtualKey) : (keySecretExists vk).Uses Op.PlainRead := by
  refine .bind (uses_read trivial) (fun r => ?_)
  cases r with
  | ok _ => exact .pure
  | error e =>
    dsimp only
    split <;> exact .pure

theorem wpE_dropOrphanedKey (h : Live kind lib conn vk s) :
    (kind.session lib).wpE (dropOrphanedKey conn vk)
      (fun vk' s' => (vk'.status.litellmKeyToken = "" ∧ Vacant kind lib conn vk' s') ∨
        (vk'.status.litellmKeyToken ≠ "" ∧ Live kind lib conn vk' s')) (Stops kind) s := by
  unfold dropOrphanedKey
  split
  · rename_i hid
    exact .inl ⟨hid, h.vacant (idOf_eq_none.mpr hid)⟩
  · rename_i hid
    simp only [wpE_bind, wpE_orFail]
    refine wp_plain (uses_keySecretExists _) (fun r s₁ hs₁ => ?_)
    have h₁ := h.same hs₁
    rcases r with e | found
    · exact h₁.reportable
    cases found with
    | true => exact .inr ⟨hid, h₁⟩
    | false =>
      simp only [if_neg Bool.false_ne_true, wpE_bind, wpE_lift]
      exact wp_deleteBound rfl rfl rfl (fun _ => rfl) h₁ (idOf_of_ne hid) rfl
        (fun _ _ _ hv => .inl ⟨rfl, hv.withStatus _⟩)

theorem wpE_updateKey (h : Live kind lib conn vk s) :
    (kind.session lib).wpE (updateKey lib conn vk) (fun r s' => Reportable kind r.1 s')
      (Stops kind) s := by
  unfold updateKey
  rw [wpE_bind]
  refine wpE_post (?_ : (kind.session lib).wpE (pushKey lib conn vk)
    (Live kind lib conn) (Stops kind) s) (fun vk₁ s₁ h₁ => ?_)
  · unfold pushKey
    dsimp only
    split
    · exact h
    · simp only [wpE_bind, wpE_orFail]
      refine wp_apiOr ⟨rfl, rfl, fun _ => rfl⟩ h (fun _ s' h' => ?_) (fun _ _ hf => hf)
      exact wpE_storeSyncHash annotates_syncHash h' (fun _ _ h'' _ _ => h'')
  · simp only [wpE_bind, wpE_lift]
    obtain ⟨subj, c, ho, -⟩ := id h₁
    have hm : vk₁.metadata = c.metadata := by
      rw [ho.near]
      rfl
    refine wp_mono (wpE_reconcileKeySecret ho.copy hm) (fun r s₂ hr => ?_)
    cases r with
    | error e =>
      have h₂ := h₁.same hr.1.same
      dsimp only
      split <;> exact h₂.reportable
    | ok _ =>
      simp only [wpE_bind, wpE_lift, wpE_pure]
      exact wp_apiOr ⟨rfl, rfl, fun _ => rfl⟩ (h₁.same hr.same)
        (fun _ _ h₃ => (h₃.withStatus rfl).reportable) (fun _ _ hf => hf)

theorem wpE_reconcileKey (h : Live kind lib conn vk s) :
    (kind.session lib).wpE (reconcileKey lib vk conn) (fun r s' => Reportable kind r.1 s')
      (Stops kind) s := by
  unfold reconcileKey
  simp only [wpE_bind, wpE_orFail]
  refine wp_plain (uses_resolveTeamRef _) (fun r s₁ hs₁ => ?_)
  have h₁ := h.same hs₁
  rcases r with e | teamID
  · exact h₁.reportable
  refine wp_plain (uses_resolveUserRef _) (fun r s₂ hs₂ => ?_)
  have h₂ := h₁.same hs₂
  rcases r with e | userID
  · exact h₂.reportable
  refine wpE_post (wpE_dropOrphanedKey h₂) (fun vk₃ s₃ h₃ => ?_)
  unfold mintOrUpdateKey
  rcases h₃ with ⟨hid, hv⟩ | ⟨hid, h₃⟩
  · rw [if_pos hid, wpE_bind]
    exact wpE_post (wpE_mintKey hv hid) (fun _ _ h₄ => h₄.reportable)
  · rw [if_neg hid]
    exact wpE_updateKey h₃

/-- **The virtual key controller keeps to the session protocol.** -/
theorem follows (lib : Ext) (req : NamespacedName) :
    (kind.session lib).wp (reconcile lib req) (fun _ s => Final s) {} :=
  (controller lib).follows (fits lib) (fun _ _ _ h => wpE_reconcileKey h) req

end VirtualKey

end LitellmOperator
