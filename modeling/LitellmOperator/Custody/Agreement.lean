import LitellmOperator.Custody.Reconcile
import LitellmOperator.Lifecycle.Reconcilers

/-! # The key Secret and the token agree

A reconcile that generates a key first writes the key to the Secret and then its token to the
status. Over a status that already has a token, the two disagree in between. `Entrusted` says that
they disagree only then: while a reconcile has generated a key and has tried no status write since.
So if the next status write goes through, they agree whenever no reconcile is running. If it does
not, the stored token and the Secret belong to different keys.
-/

set_option autoImplicit false

namespace LitellmOperator

open Effect Go Kube

namespace VirtualKey

open KeyWorld

/-! ## The side condition -/

/-- The status write is refused, or its answer is lost. -/
def statusRefused (w : KeyWorld) : KeyOp → Reply KeyApi → Bool
  | .statusUpdate obj, rep =>
    match w.answer (.statusUpdate obj) rep with
    | some (.error _, _) => true
    | _ => false
  | _, _ => false

/-- While the stored status and its Secret disagree, status writes go through and the operator does
not crash. -/
def settling : Guard KeyOp KeyWorld (Reply KeyApi) KeyEnv where
  env _ _ := True
  reply w op rep := w.Agrees ∨ statusRefused w op rep = false
  crash w := w.Agrees

instance : settling.Decides where
  env _ _ := .isTrue trivial
  reply w op rep := inferInstanceAs (Decidable (w.Agrees ∨ statusRefused w op rep = false))
  crash w := inferInstanceAs (Decidable w.Agrees)

/-! ## The invariant -/

structure Entrusted (w : KeyWorld) (s? : Option Custody) : Prop where
  copy : ∀ s c, s? = some s → s.copy = some c → c ∈ w.store.versions
  minted : ∀ s p, s? = some s → s.minted = some p → p ∈ w.minted
  /-- The Secret written holds the key generated. -/
  written : ∀ s key, s? = some s → s.written = some key →
    ∃ p, s.minted = some p ∧ ∀ x, w.secrets.find key = some x → apiKeyOf x = some p.1
  /-- A Secret that still has the resource version seen still has the data seen. -/
  seen : ∀ s x, s? = some s → s.seen = some x → x.rv < w.secrets.nextVersion ∧
    ∀ y, w.secrets.find x.key = some y → y.rv = x.rv → y.data = x.data
  agree : w.Agrees ∨
    ∃ s, s? = some s ∧ s.minted.isSome = true ∧ s.saved = false ∧ s.hindered = false

variable {w w' : KeyWorld} {s s' : Custody} {s? : Option Custody}

theorem entrusted_idle (h : w.Agrees) : Entrusted w none :=
  ⟨fun _ _ hs => (by cases hs), fun _ _ hs => (by cases hs), fun _ _ hs => (by cases hs),
    fun _ _ hs => (by cases hs), .inl h⟩

/-! ### Writes of the resource -/

theorem pairs_congr {ns : String} {st st' : LiteLLMVirtualKeyStatus} (h : w.Pairs ns st)
    (ht : st'.litellmKeyToken = st.litellmKeyToken) (hr : st'.keySecretRef = st.keySecretRef) :
    w.Pairs ns st' := by
  unfold Pairs
  rw [ht, hr]
  exact h

variable {store : KeyStore}

theorem agrees_of_written {cur v r : LiteLLMVirtualKey} (hw : Store.Written w.store cur v r store)
    (hp : w.Pairs v.metadata.ns v.status) : Agrees { w with store := store } := by
  intro cur' hcur'
  obtain ⟨rv, gen, rfl⟩ := hw.stored
  rcases hw.now with hnow | hnow
  · rw [hnow] at hcur'
    cases hcur'
    exact hp
  · rw [hnow] at hcur'
    cases hcur'

theorem agrees_of_kept {cur v r : LiteLLMVirtualKey} (hw : Store.Written w.store cur v r store)
    (hns : v.metadata.ns = cur.metadata.ns) (hst : v.status = cur.status) (h : w.Agrees) :
    Agrees { w with store := store } := by
  refine agrees_of_written hw ?_
  rw [hns, hst]
  exact h cur hw.was

variable {lost : Option Error} {r : Except Error LiteLLMVirtualKey}

theorem Entrusted.restore (h : Entrusted w (some s))
    (hcopy : ∀ c, s'.copy = some c → c ∈ store.versions) (hm : s'.minted = s.minted)
    (hw : s'.written = s.written) (hseen : s'.seen = s.seen)
    (hagree : Agrees { w with store := store } ∨
      s'.minted.isSome = true ∧ s'.saved = false ∧ s'.hindered = false) :
    Entrusted { w with store := store } (some s') where
  copy t c ht hc := by
    cases ht
    exact hcopy c hc
  minted t p ht hp := by
    cases ht
    rw [hm] at hp
    exact h.minted s p rfl hp
  written t key ht hkey := by
    cases ht
    rw [hw] at hkey
    rw [hm]
    exact h.written s key rfl hkey
  seen t x ht hx := by
    cases ht
    rw [hseen] at hx
    exact h.seen s x rfl hx
  agree := hagree.imp id (fun hs => ⟨s', rfl, hs⟩)

theorem Entrusted.pending (h : Entrusted w (some s)) :
    w.Agrees ∨ s.minted.isSome = true ∧ s.saved = false ∧ s.hindered = false := by
  rcases h.agree with ha | ⟨t, ht, hs⟩
  · exact .inl ha
  · cases ht
    exact .inr hs

theorem Entrusted.agrees_of_unminted (h : Entrusted w (some s)) (hm : s.minted = none) :
    w.Agrees := by
  rcases h.pending with ha | ⟨hs, -⟩
  · exact ha
  · rw [hm] at hs
    cases hs

/-- What may be stored over the current object agrees with the Secrets. -/
theorem Entrusted.pairs_of_mayStore {c : LiteLLMVirtualKey} {st : LiteLLMVirtualKeyStatus}
    (h : Entrusted w (some s)) (hc : w.store.current = some c) (hm : s.MayStore c st) :
    w.Pairs c.metadata.ns st := by
  rcases hm with h₀ | ⟨hnone, htok, href⟩ | ⟨key, ref, hmint, href, hwrote⟩
  · exact fun hne => absurd h₀ hne
  · exact pairs_congr (h.agrees_of_unminted hnone c hc) htok href
  · intro _ ref' href' x hx
    rw [href] at href'
    cases href'
    obtain ⟨p, hp, hheld⟩ := h.written s _ rfl hwrote
    rw [hmint] at hp
    cases hp
    exact ⟨key, hheld x hx, h.minted s _ rfl hmint⟩

/-! ### Writes of Secrets -/

/-- Every Secret there is holds a key it held before. -/
def SecretsKept (w : KeyWorld) (secrets : Secrets) : Prop :=
  ∀ key x', secrets.find key = some x' → ∃ x, w.secrets.find key = some x ∧ apiKeyOf x' = apiKeyOf x

theorem agrees_of_secretsKept {secrets : Secrets} (hk : SecretsKept w secrets) (h : w.Agrees) :
    Agrees { w with secrets := secrets } := by
  intro cur hcur hne ref href x' hx'
  obtain ⟨x, hx, heq⟩ := hk _ x' hx'
  obtain ⟨key, hkey, hmem⟩ := h cur hcur hne ref href x hx
  exact ⟨key, heq.trans hkey, hmem⟩

theorem secretsKept_delete (w : KeyWorld) (key : NamespacedName) :
    SecretsKept w (w.secrets.delete key) :=
  fun _ x' hx' => ⟨x', Secrets.find_of_delete hx', rfl⟩

theorem secretsKept_put {x cur : Secret} (hcur : w.secrets.find x.key = some cur)
    (hdata : x.data = cur.data) (hplain : x.stringData = []) :
    SecretsKept w (w.secrets.put x) := by
  intro key x' hx'
  by_cases hk : key = x.key
  · subst hk
    rw [Secrets.find_put_self] at hx'
    cases hx'
    refine ⟨cur, hcur, ?_⟩
    unfold Secret.stored
    rw [hplain, hdata]
    rfl
  · rw [Secrets.find_put_ne _ _ hk] at hx'
    exact ⟨x', hx', rfl⟩

/-- What was seen of a Secret stays true of it when Secrets are written: a new version has a new
resource version. -/
theorem seen_put {x y : Secret} (h : y.rv < w.secrets.nextVersion ∧
      ∀ z, w.secrets.find y.key = some z → z.rv = y.rv → z.data = y.data) :
    y.rv < (w.secrets.put x).nextVersion ∧
      ∀ z, (w.secrets.put x).find y.key = some z → z.rv = y.rv → z.data = y.data := by
  refine ⟨Nat.lt_succ_of_lt h.1, fun z hz hrv => ?_⟩
  by_cases hk : y.key = x.key
  · rw [hk, Secrets.find_put_self] at hz
    cases hz
    rw [Secret.stored_rv] at hrv
    exact absurd h.1 (by rw [hrv]; exact Nat.lt_irrefl _)
  · rw [Secrets.find_put_ne _ _ hk] at hz
    exact h.2 z hz hrv

variable {x : Secret}

theorem Entrusted.fill (h : Entrusted w (some s)) (hfill : s.MayFill x) (hcopy : s'.copy = s.copy)
    (hm : s'.minted = s.minted) (hseen : s'.seen = s.seen) (hsaved : s'.saved = s.saved)
    (hhind : s'.hindered = s.hindered)
    (hw : ∀ key, s'.written = some key → key = x.key ∨ s.written = some key) :
    Entrusted { w with secrets := w.secrets.put x } (some s') := by
  obtain ⟨key, hstr, ⟨token, hmint⟩, hs, hh⟩ := hfill
  have hheld : apiKeyOf (x.stored w.secrets.nextVersion) = some key := by
    unfold apiKeyOf Secret.stored
    rw [hstr]
    exact StrMap.get?_set_self _ _ _
  refine ⟨?_, ?_, ?_, ?_, ?_⟩
  · intro t c ht hc
    cases ht
    rw [hcopy] at hc
    exact h.copy s c rfl hc
  · intro t p ht hp
    cases ht
    rw [hm] at hp
    exact h.minted s p rfl hp
  · intro t key' ht hkey'
    cases ht
    refine ⟨(key, token), hm.trans hmint, fun y hy => ?_⟩
    by_cases hk : key' = x.key
    · subst hk
      rw [show Secrets.find _ x.key = _ from Secrets.find_put_self _ _] at hy
      cases hy
      exact hheld
    · rw [show Secrets.find _ key' = _ from Secrets.find_put_ne _ _ hk] at hy
      obtain ⟨p, hp, hx⟩ := h.written s key' rfl ((hw key' hkey').resolve_left hk)
      rw [hmint] at hp
      cases hp
      exact hx y hy
  · intro t y ht hy
    cases ht
    rw [hseen] at hy
    exact seen_put (h.seen s y rfl hy)
  · refine .inr ⟨s', rfl, ?_, hsaved.trans hs, hhind.trans hh⟩
    rw [hm, hmint]
    rfl

theorem Entrusted.keep {secrets : Secrets} (h : Entrusted w s?) (hk : SecretsKept w secrets)
    (hseen : ∀ s y, s? = some s → s.seen = some y → y.rv < secrets.nextVersion ∧
      ∀ z, secrets.find y.key = some z → z.rv = y.rv → z.data = y.data) :
    Entrusted { w with secrets := secrets } s? where
  copy := h.copy
  minted := h.minted
  written t key ht hkey := by
    obtain ⟨p, hp, hheld⟩ := h.written t key ht hkey
    refine ⟨p, hp, fun x' hx' => ?_⟩
    obtain ⟨x, hx, heq⟩ := hk key x' hx'
    exact heq.trans (hheld x hx)
  seen := hseen
  agree := h.agree.imp (agrees_of_secretsKept hk) id

/-! ### Calls -/

/-- The call was answered as expected, and the invariant holds after it. -/
def Answers (s : Custody) (op : KeyOp) (r : op.Resp) (w' : KeyWorld) : Prop :=
  s.expects op r ∧ Entrusted w' (some (s.next op r))

theorem answers_update {obj : LiteLLMVirtualKey} (h : Entrusted w (some s))
    (ha : s.allowed (.update obj)) (hx : w.commit (w.store.update obj) lost = (r, w')) :
    Answers s (.update obj) r w' := by
  obtain ⟨c, hc, hrv⟩ := ha
  rcases committed_cases hx with ⟨v, store, hok, rfl, hr⟩ | ⟨e, rfl, rfl⟩
  · have hw := Store.written_of_update hok (h.copy s c rfl hc) hrv
    -- the status is not touched
    have hagree : Agrees { w with store := store } ∨
        s.minted.isSome = true ∧ s.saved = false ∧ s.hindered = false :=
      h.pending.imp (agrees_of_kept hw rfl rfl) id
    rcases hr with ⟨-, rfl⟩ | ⟨e, -, rfl⟩
    · refine ⟨fun c' hc' => ?_, h.restore (fun c' hc' => ?_) rfl rfl rfl hagree⟩
      · rw [hc] at hc'
        cases hc'
        exact hw.stored
      · cases hc'
        exact hw.mem
    · exact ⟨trivial, h.restore (fun c' hc' => hw.grows c' (h.copy s c' rfl hc')) rfl rfl rfl hagree⟩
  · exact ⟨trivial, h⟩

theorem answers_statusUpdate {obj : LiteLLMVirtualKey} (h : Entrusted w (some s))
    (ha : s.allowed (.statusUpdate obj)) (hG : w.Agrees ∨ ∀ e, r ≠ .error e)
    (hx : w.commit (w.store.statusUpdate obj) lost = (r, w')) :
    Answers s (.statusUpdate obj) r w' := by
  obtain ⟨c, hc, hrv, hmay⟩ := ha
  rcases committed_cases hx with ⟨v, store, hok, rfl, hr⟩ | ⟨e, rfl, rfl⟩
  · have hw := Store.written_of_statusUpdate hok (h.copy s c rfl hc) hrv
    have hpairs : w.Pairs c.metadata.ns obj.status := h.pairs_of_mayStore hw.was hmay
    have hagree : Agrees { w with store := store } := agrees_of_written hw hpairs
    rcases hr with ⟨-, rfl⟩ | ⟨e, -, rfl⟩
    · refine ⟨fun c' hc' => ?_, h.restore (fun c' hc' => ?_) rfl rfl rfl (.inl hagree)⟩
      · rw [hc] at hc'
        cases hc'
        exact hw.stored
      · cases hc'
        exact hw.mem
    · exact ⟨trivial, h.restore (fun c' hc' => hw.grows c' (h.copy s c' rfl hc')) rfl rfl rfl
        (.inl hagree)⟩
  · have hagree : w'.Agrees := hG.resolve_right (fun hne => hne e rfl)
    exact ⟨trivial, h.restore (fun c' hc' => h.copy s c' rfl hc') rfl rfl rfl (.inl hagree)⟩

theorem answers_createSecret {r : Except Error Secret} (h : Entrusted w (some s))
    (ha : s.allowed (.createSecret x)) (hx : w.commitSecret x (w.secrets.create x) lost = (r, w')) :
    Answers s (.createSecret x) r w' := by
  rcases committed_cases hx with ⟨_, secrets, hmap, rfl, hr⟩ | ⟨e, rfl, rfl⟩
  · obtain ⟨_, hok, ⟨⟩⟩ := ok_of_map hmap
    rw [Secrets.create_ok hok]
    rcases hr with ⟨-, rfl⟩ | ⟨e, -, rfl⟩
    · exact ⟨trivial, h.fill ha rfl rfl rfl rfl rfl (fun key hkey => by cases hkey; exact .inl rfl)⟩
    · exact ⟨trivial, h.fill ha rfl rfl rfl rfl rfl (fun key hkey => .inr hkey)⟩
  · exact ⟨trivial, h⟩

theorem answers_updateSecret {r : Except Error Secret} (h : Entrusted w (some s))
    (ha : s.allowed (.updateSecret x)) (hx : w.commitSecret x (w.secrets.update x) lost = (r, w')) :
    Answers s (.updateSecret x) r w' := by
  obtain ⟨y, hseen, hkey, hrv, hdata, hfill⟩ := ha
  rcases committed_cases hx with ⟨_, secrets, hmap, rfl, hr⟩ | ⟨e, rfl, rfl⟩
  · obtain ⟨_, hok, ⟨⟩⟩ := ok_of_map hmap
    obtain ⟨cur, hcur, hcurrv, rfl⟩ := Secrets.update_ok hok
    have hsame : cur.data = y.data := by
      refine (h.seen s y rfl hseen).2 cur ?_ (hcurrv.symm.trans hrv)
      rw [← hkey]
      exact hcur
    by_cases hplain : x.stringData = []
    · -- the Secret keeps its data, and the protocol state does not move
      have hkept : Entrusted { w with secrets := w.secrets.put x } (some s) :=
        h.keep (secretsKept_put hcur (hdata.trans hsame.symm) hplain)
          (fun t z ht hz => seen_put (h.seen t z ht hz))
      rcases hr with ⟨-, rfl⟩ | ⟨e, -, rfl⟩
      · refine ⟨trivial, ?_⟩
        show Entrusted _ (some (if x.stringData = [] then s else _))
        rw [if_pos hplain]
        exact hkept
      · exact ⟨trivial, hkept⟩
    · have hfill' := hfill.resolve_left hplain
      rcases hr with ⟨-, rfl⟩ | ⟨e, -, rfl⟩
      · refine ⟨trivial, ?_⟩
        show Entrusted _ (some (if x.stringData = [] then s else _))
        rw [if_neg hplain]
        exact h.fill hfill' rfl rfl rfl rfl rfl (fun key hkey => by cases hkey; exact .inl rfl)
      · exact ⟨trivial, h.fill hfill' rfl rfl rfl rfl rfl (fun key hkey => .inr hkey)⟩
  · exact ⟨trivial, h⟩

theorem answers_getSecret {key : NamespacedName} (h : Entrusted w (some s)) :
    Answers s (.read (.getSecret key)) (w.readSecret key) w := by
  cases hfind : w.secrets.find key with
  | none =>
    have hr : w.readSecret key = .error (.leaf (.kube Secrets.notFound)) := by
      unfold readSecret
      rw [hfind]
    rw [hr]
    exact ⟨trivial, h⟩
  | some x =>
    have hr : w.readSecret key = .ok x := by
      unfold readSecret
      rw [hfind]
    have hmem := Secrets.mem_of_find hfind
    rw [hr]
    refine ⟨⟨Secrets.key_of_find hfind, w.secrets.plain x hmem⟩, ?_⟩
    refine ⟨fun t c ht hc => ?_, fun t p ht hp => ?_, fun t k ht hk => ?_, fun t y ht hy => ?_, ?_⟩
    · cases ht
      exact h.copy s c rfl hc
    · cases ht
      exact h.minted s p rfl hp
    · cases ht
      exact h.written s k rfl hk
    · cases ht
      cases hy
      refine ⟨w.secrets.below x hmem, fun z hz _ => ?_⟩
      rw [Secrets.key_of_find hfind, hfind] at hz
      cases hz
      rfl
    · exact h.pending.imp id (fun hs => ⟨_, rfl, hs⟩)

theorem answers_generate {conn : ResolvedInstance} {req : KeyGenerateRequest}
    {resp : KeyGenerateResponse} (h : Entrusted w (some s)) (ha : s.minted = none)
    (hx : w.mint resp = some w') :
    Answers s (.api conn (.generate req)) (deliver resp lost) w' := by
  unfold KeyWorld.mint at hx
  split at hx
  · rename_i hfresh
    cases hx
    have hagree : Agrees { w with minted := (resp.key, resp.token) :: w.minted } := by
      intro cur hcur hne ref href x hx
      obtain ⟨key, hkey, hmem⟩ := h.agrees_of_unminted ha cur hcur hne ref href x hx
      exact ⟨key, hkey, List.mem_cons_of_mem _ hmem⟩
    cases lost with
    | some e =>
      exact ⟨trivial, h.copy, fun t p ht hp => List.mem_cons_of_mem _ (h.minted t p ht hp),
        h.written, h.seen, .inl hagree⟩
    | none =>
      refine ⟨hfresh.1, fun t c ht hc => ?_, fun t p ht hp => ?_, fun t k ht hk => ?_,
        fun t y ht hy => ?_, .inl hagree⟩
      · cases ht
        exact h.copy s c rfl hc
      · cases ht
        cases hp
        exact List.mem_cons_self
      · cases ht
        cases hk
      · cases ht
        exact h.seen s y rfl hy
  · cases hx

theorem answers_failed {op : KeyOp} {e : Error} (h : Entrusted w (some s))
    (hG : w.Agrees ∨ statusRefused w op (.fail e) = false) : Answers s op (op.failed e) w := by
  cases op with
  | statusUpdate obj =>
    have hagree : w.Agrees := hG.resolve_right (by unfold statusRefused; exact Bool.noConfusion)
    exact ⟨trivial, h.restore (fun c hc => h.copy s c rfl hc) rfl rfl rfl (.inl hagree)⟩
  | read r => cases r <;> exact ⟨trivial, h⟩
  | api conn req => cases req <;> exact ⟨trivial, h⟩
  | _ => exact ⟨trivial, h⟩

theorem answer_fail (w : KeyWorld) (op : KeyOp) (e : Error) :
    w.answer op (.fail e) = some (op.failed e, w) := by
  cases op with
  | read r => cases r <;> rfl
  | api conn req => cases req <;> rfl
  | _ => rfl

variable {rep : Reply KeyApi}

theorem answers_read {rd : Read} {r : (Op.read rd : KeyOp).Resp} (h : Entrusted w (some s))
    (hG : settling.reply w (.read rd) rep) (hx : w.answer (.read rd) rep = some (r, w')) :
    Answers s (.read rd) r w' := by
  cases rep with
  | fail e =>
    rw [answer_fail] at hx
    cases hx
    exact answers_failed h hG
  | done =>
    cases rd with
    | getSecret key =>
      cases hx
      exact answers_getSecret h
    | getSecretUncached key =>
      cases hx
      exact ⟨trivial, h⟩
    | _ => cases hx
  | found obj =>
    cases rd with
    | getSecret key | getSecretUncached key => cases hx
    | _ =>
      obtain ⟨o, -, heq⟩ := Option.map_eq_some_iff.mp hx
      cases heq
      exact ⟨trivial, h⟩
  | _ => cases rd <;> cases hx

theorem answers_api {conn : ResolvedInstance} {req : KeyApi} {r : (Op.api conn req : KeyOp).Resp}
    (h : Entrusted w (some s)) (ha : s.allowed (.api conn req))
    (hG : settling.reply w (.api conn req) rep) (hx : w.answer (.api conn req) rep = some (r, w')) :
    Answers s (.api conn req) r w' := by
  cases rep with
  | fail e =>
    rw [answer_fail] at hx
    cases hx
    exact answers_failed h hG
  | served result lost =>
    cases req with
    | generate req =>
      obtain ⟨resp, -, hresp⟩ := Option.bind_eq_some_iff.mp hx
      obtain ⟨w₁, hmint, heq⟩ := Option.map_eq_some_iff.mp hresp
      cases heq
      exact answers_generate h ha hmint
    | _ =>
      obtain ⟨a, -, heq⟩ := Option.map_eq_some_iff.mp hx
      cases heq
      exact ⟨trivial, h⟩
  | _ => cases req <;> cases hx

/-- **One call.** Whatever the call is answered, the invariant holds after it. -/
theorem answers {op : KeyOp} {r : op.Resp} (h : Entrusted w (some s)) (ha : s.allowed op)
    (hG : settling.reply w op rep) (hx : w.answer op rep = some (r, w')) : Answers s op r w' := by
  cases op with
  | read rd => exact answers_read h hG hx
  | api conn req => exact answers_api h ha hG hx
  | get key =>
    cases rep with
    | cached age =>
      obtain ⟨v, hv, heq⟩ := Option.map_eq_some_iff.mp hx
      cases heq
      refine ⟨trivial, h.restore (fun c hc => ?_) rfl rfl rfl h.pending⟩
      cases hc
      exact List.mem_of_getElem? hv
    | fail e =>
      cases hx
      exact answers_failed h hG
    | _ => cases hx
  | update obj =>
    cases rep with
    | done | lost e => exact answers_update h ha (Option.some.inj hx)
    | fail e =>
      cases hx
      exact answers_failed h hG
    | _ => cases hx
  | statusUpdate obj =>
    have hok : w.Agrees ∨ ∀ e, r ≠ .error e := by
      refine hG.imp id (fun href e he => ?_)
      unfold statusRefused at href
      dsimp only at href
      rw [hx, he] at href
      cases href
    cases rep with
    | done | lost e => exact answers_statusUpdate h ha hok (Option.some.inj hx)
    | fail e =>
      cases hx
      exact answers_failed h hG
    | _ => cases hx
  | createSecret x =>
    cases rep with
    | done | lost e => exact answers_createSecret h ha (Option.some.inj hx)
    | fail e =>
      cases hx
      exact answers_failed h hG
    | _ => cases hx
  | updateSecret x =>
    cases rep with
    | done | lost e => exact answers_updateSecret h ha (Option.some.inj hx)
    | fail e =>
      cases hx
      exact answers_failed h hG
    | _ => cases hx
  | statusPatch base obj => exact ha.elim
  | random n =>
    cases rep with
    | bytes bs =>
      cases hx
      exact ⟨trivial, h⟩
    | fail e =>
      cases hx
      exact answers_failed h hG
    | _ => cases hx

/-! ### The environment -/

/-- Others write to the resource: the status is kept, or its token cleared. -/
theorem Entrusted.shift {cur v r : LiteLLMVirtualKey} (h : Entrusted w s?)
    (hw : Store.Written w.store cur v r store) (hp : w.Agrees → w.Pairs v.metadata.ns v.status) :
    Entrusted { w with store := store } s? where
  copy s c hs hc := hw.grows c (h.copy s c hs hc)
  minted := h.minted
  written := h.written
  seen := h.seen
  agree := h.agree.imp (fun ha => agrees_of_written hw (hp ha)) id

/-- **One step of the environment.** -/
theorem entrusted_env {e : KeyEnv} (h : Entrusted w s?) (hx : w.env e = some w') :
    Entrusted w' s? := by
  cases e with
  | edit spec =>
    obtain ⟨store, hstore, rfl⟩ := Option.map_eq_some_iff.mp hx
    obtain ⟨cur, r, hw⟩ := Store.edit_some hstore
    exact h.shift hw (fun ha => ha cur hw.was)
  | remove =>
    obtain ⟨store, hstore, rfl⟩ := Option.map_eq_some_iff.mp hx
    obtain ⟨cur, r, hw⟩ := Store.markDeleted_some hstore
    exact h.shift hw (fun ha => ha cur hw.was)
  | clear age =>
    obtain ⟨v, -, hv⟩ := Option.bind_eq_some_iff.mp hx
    obtain ⟨r, store, hok, rfl⟩ := carriedOut_some hv
    obtain ⟨cur, -, hw⟩ := Store.statusUpdate_ok hok
    exact h.shift hw (fun _ hne => absurd rfl hne)
  | drift age =>
    obtain ⟨v, -, hv⟩ := Option.bind_eq_some_iff.mp hx
    obtain ⟨r, store, hok, rfl⟩ := carriedOut_some hv
    obtain ⟨cur, -, hw⟩ := Store.update_ok hok
    exact h.shift hw (fun ha => ha cur hw.was)
  | deleteSecret key =>
    cases hx
    refine h.keep (secretsKept_delete w key) (fun s y hs hy => ?_)
    obtain ⟨hlt, hsame⟩ := h.seen s y hs hy
    exact ⟨hlt, fun z hz => hsame z (Secrets.find_of_delete hz)⟩

/-! ## Runs -/

/-- **Along settling runs the stored status and its Secret disagree only while a reconcile still has
to write the status.** -/
theorem entrusted_invariant (lib : Ext) (req : NamespacedName) :
    Invariant (keyLifecycle lib req) custody settling {} Custody.Final Entrusted where
  main := by
    show custody.wp (reconcile lib req >>= fun _ => pure ()) _ _
    rw [Protocol.wp_bind]
    exact follows_custody lib req
  env w w' e s? h _ hx := entrusted_env h hx
  start w h := by
    refine ⟨fun s c hs hc => ?_, fun s p hs hp => ?_, fun s k hs hk => ?_, fun s y hs hy => ?_, ?_⟩
    · cases hs
      cases hc
    · cases hs
      cases hp
    · cases hs
      cases hk
    · cases hs
      cases hy
    · rcases h.agree with ha | ⟨s, hs, -⟩
      · exact .inl ha
      · cases hs
  step w w' s op rep r h ha hG hx := answers h ha hG hx
  finish w s h hf := by
    have hagree : w.Agrees := by
      rcases h.pending with ha | ⟨hm, hs, hh⟩
      · exact ha
      · rcases hf with hnone | hsaved | hhind
        · rw [hnone] at hm
          cases hm
        · rw [hs] at hsaved
          cases hsaved
        · rw [hh] at hhind
          cases hhind
    exact entrusted_idle hagree
  crash w s h hc := entrusted_idle hc

/-- **The key Secret and the token agree, along settling runs.** Start between two reconciles with
a status and a Secret that agree, and run reconciles, failures, deletions and the config sync in any
order, so that status writes go through while the two disagree. Then they agree again whenever no
reconcile is running. -/
theorem key_secret_agrees (lib : Ext) (req : NamespacedName) (w₀ : KeyWorld) (h₀ : w₀.Agrees)
    (c : KeyConf) (hr : (keyLifecycle lib req).Reaches settling ⟨w₀, none⟩ c)
    (hidle : c.running = none) : c.world.Agrees := by
  have h := (entrusted_invariant lib req).reach_idle (c := ⟨w₀, none⟩) (entrusted_idle h₀) hr hidle
  rcases h.agree with ha | ⟨s, hs, -⟩
  · exact ha
  · cases hs

end VirtualKey

/-! ## A rotation -/

namespace Sample

def masterKey : Secret where
  metadata := { name := "a-master-key", ns := "apps" }
  data := [("master-key", "sk-master")]

/-- A virtual key has just been created; there is no Secret but that of the instance. -/
def keyWorld : KeyWorld where
  store := .created
    { metadata := { name := "key", ns := "apps", uid := "uid" }
      spec := { instanceRef := { name := "a" }, keyAlias := "key" }
      status := {} }
  secrets :=
    { objs := [masterKey]
      nextVersion := 1
      below := fun x hx => by
        rw [List.mem_singleton.mp hx]
        decide
      plain := fun x hx => by
        rw [List.mem_singleton.mp hx]
        rfl }

/-- LiteLLM carries out the request; a new key is the given one. -/
def keyServed (key token : String) : (req : KeyApi) → Option (Service.Result req)
  | .generate _ => some (show KeyGenerateResponse from ⟨key, token⟩)
  | .get _ => none
  | .update _ => some ()
  | .delete _ => some ()

def keyMinted : List KeyAction :=
  [.start, .step (.cached 0), .step .done, .step (.found found), .step .done,
    .step (.served (keyServed "sk-1" "token-1") none), .step .done, .step .done, .step .done,
    .step .done, .step .done]

/-- The Secret is deleted. The next reconcile generates a new key and writes it to a new Secret. -/
def keyRotating : List KeyAction :=
  [.env (.deleteSecret ⟨"apps", "key-key"⟩), .start, .step (.cached 0), .step (.found found),
    .step .done, .step .done, .step (.served (keyServed "sk-1" "token-1") none),
    .step (.served (keyServed "sk-2" "token-2") none), .step .done, .step .done]

end Sample

namespace VirtualKey

/-- A rotation without failures. -/
theorem key_secret_agrees_rotated :
    Sample.keyWorld.Agrees ∧ ∃ c, (keyLifecycle Sample.lib ⟨"apps", "key"⟩).Reaches settling
      ⟨Sample.keyWorld, none⟩ c ∧ c.running = none ∧
      c.world.store.current.map (·.status.litellmKeyToken) = some "token-2" ∧ c.world.Agrees := by
  have h₀ : Sample.keyWorld.Agrees := by decide
  have hrun : ((keyLifecycle Sample.lib ⟨"apps", "key"⟩).run settling ⟨Sample.keyWorld, none⟩
      (Sample.keyMinted ++ Sample.keyRotating ++ [.step .done, .step .done, .step .done])).map
        (fun c => (c.running.isNone, c.world.store.current.map (·.status.litellmKeyToken))) =
      some (true, some "token-2") := by
    rfl
  obtain ⟨c, hc, hdata⟩ := Option.map_eq_some_iff.mp hrun
  obtain ⟨hnone, htoken⟩ := Prod.mk.inj hdata
  have hr := Machine.reaches_of_run _ _ (.refl _) hc
  have hidle : c.running = none := Option.isNone_iff_eq_none.mp hnone
  exact ⟨h₀, c, hr, hidle, htoken, key_secret_agrees Sample.lib ⟨"apps", "key"⟩ _ h₀ c hr hidle⟩

/-- Reconciles, deletions of Secrets and the config sync clearing a token; LiteLLM answers every
request, and the operator does not crash. -/
def kubernetesFails : Guard KeyOp KeyWorld (Reply KeyApi) KeyEnv where
  env _ e :=
    match e with
    | .deleteSecret _ => True
    | .clear _ => True
    | _ => False
  reply _ op rep :=
    match op, rep with
    | .api _ _, .served _ lost => lost = none
    | .api _ _, _ => False
    | _, _ => True
  crash _ := False

instance : kubernetesFails.Decides where
  env _ e := by
    unfold kubernetesFails
    rcases e with _ | _ <;> infer_instance
  reply _ op rep := by
    unfold kubernetesFails
    rcases op with _ | _ <;> rcases rep with _ | _ <;> infer_instance
  crash _ := .isFalse id

/-- **After a failed status write the Secret holds another key than the token's.** The Secret of a
minted key is deleted and the key rotated, and both status writes of that reconcile fail. The new
Secret is then taken for the one of the old token. -/
theorem key_secret_disagrees : ¬ ∀ (lib : Ext) (req : NamespacedName) (w₀ : KeyWorld), w₀.Agrees →
      ∀ c, (keyLifecycle lib req).Reaches kubernetesFails ⟨w₀, none⟩ c → c.running = none →
      c.world.Agrees := by
  intro hall
  have hrun : ((keyLifecycle Sample.lib ⟨"apps", "key"⟩).run kubernetesFails
      ⟨Sample.keyWorld, none⟩ (Sample.keyMinted ++ Sample.keyRotating ++
        [.step (.fail (errorf "timeout")), .step (.fail (errorf "timeout"))])).map
        (fun c => (c.running.isNone, decide c.world.Agrees)) = some (true, false) := by
    rfl
  obtain ⟨c, hc, hdata⟩ := Option.map_eq_some_iff.mp hrun
  obtain ⟨hnone, hdis⟩ := Prod.mk.inj hdata
  have hr := Machine.reaches_of_run _ _ (.refl _) hc
  exact of_decide_eq_false hdis
    (hall Sample.lib ⟨"apps", "key"⟩ _ (by decide) c hr (Option.isNone_iff_eq_none.mp hnone))

end VirtualKey

end LitellmOperator
