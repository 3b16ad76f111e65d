import LitellmOperator.Custody.Agreement
import LitellmOperator.Rotation.World

/-! # A working key is never rotated

`Guarded` relates the world of a virtual key to the state of the rotation protocol: they agree on
what entitles the running reconcile to replace the key, what it has read are versions that were
stored, and the stored status is pinned. Every call keeps it, whatever the cache of Secrets returns,
and changes keys and pinned names only under the license (`call_kept`). So does every step of every
run (`working_key_kept`). No write is assumed to go through.
-/

set_option autoImplicit false

namespace LitellmOperator

open Effect Go Kube

namespace VirtualKey

open RotationWorld

/-! ## The invariant -/

structure Guarded (w : RotationWorld) (s? : Option Rotation) : Prop where
  copy : ∀ s c, s? = some s → s.copy = some c → c ∈ w.store.versions
  seen : ∀ s x, s? = some s → s.seen = some x → x ∈ w.secrets.past
  /-- The protocol state knows how the reconcile began, once it has. -/
  history : ∀ s, s? = some s →
    (s.began = w.began ∧ s.missed = w.missed) ∨ (s.began = none ∧ s.missed = false)
  pinned : ∀ v, w.store.current = some v → Pinned v.status

/-- What one call of a reconcile does to the keys in Secrets and to the Secret the status names. -/
structure Spares (w w' : RotationWorld) : Prop where
  apiKey : ∀ key, w'.apiKey key ≠ w.apiKey key → w.Licensed
  secretRef : ∀ v v' ref, w.store.current = some v → v.status.keySecretRef = some ref →
    w'.store.current = some v' → v'.status.keySecretRef ≠ some ref → w.missed = true

variable {w w' : RotationWorld} {s s' : Rotation} {s? : Option Rotation}

theorem Guarded.licensed (h : Guarded w (some s)) (hl : s.Licensed) : w.Licensed := by
  rcases h.history s rfl with ⟨hb, hm⟩ | ⟨hb, hm⟩
  · unfold RotationWorld.Licensed
    rw [← hb, ← hm]
    exact hl
  · -- before the resource was read there is no license
    rcases hl with hl | hl
    · rw [hb] at hl
      cases hl
    · rw [hm] at hl
      cases hl

theorem Guarded.deleting (h : Guarded w (some s)) (hd : s.Deleting) : w.Deleting := by
  rcases h.history s rfl with ⟨hb, -⟩ | ⟨hb, -⟩
  · unfold RotationWorld.Deleting
    rw [← hb]
    exact hd
  · unfold Rotation.Deleting at hd
    rw [hb] at hd
    cases hd

theorem Guarded.missed (h : Guarded w (some s)) (hm : s.missed = true) : w.missed = true := by
  rcases h.history s rfl with ⟨-, heq⟩ | ⟨-, hnone⟩
  · exact heq.symm.trans hm
  · rw [hnone] at hm
    cases hm

theorem Spares.same (hstore : w'.store = w.store) (hsecrets : w'.secrets = w.secrets) :
    Spares w w' where
  apiKey key hne := absurd (by unfold RotationWorld.apiKey; rw [hsecrets]) hne
  secretRef v v' ref hv href hv' hne := by
    rw [hstore, hv] at hv'
    cases hv'
    exact absurd href hne

theorem Spares.rfl : Spares w w := .same (Eq.refl _) (Eq.refl _)

theorem guarded_idle (h : ∀ v, w.store.current = some v → Pinned v.status) : Guarded w none :=
  ⟨fun _ _ hs => (by cases hs), fun _ _ hs => (by cases hs), fun _ hs => (by cases hs), h⟩

/-! ### Writes of the resource -/

variable {lost : Option Error}

theorem status_of_written {st st' : KeyStore}
    {cur v r x : LiteLLMVirtualKey} (hw : Store.Written st cur v r st')
    (hx : st'.current = some x) : x.status = v.status := by
  obtain ⟨rv, gen, hr⟩ := hw.stored
  rcases hw.now with hnow | hgone
  · rw [hnow] at hx
    cases hx
    rw [hr]
    rfl
  · rw [hgone] at hx
    cases hx

variable {cur v r : LiteLLMVirtualKey}

/-- The store has moved on by a write. The protocol state has the answer as its copy, or the copy it
had. -/
theorem Guarded.restore {store : KeyStore} {t? : Option Rotation} (h : Guarded w s?)
    (hw : Store.Written w.store cur v r store) (hp : Pinned v.status)
    (ht : ∀ t, t? = some t → ∃ s, s? = some s ∧ (t.copy = some r ∨ t.copy = s.copy) ∧
      t.seen = s.seen ∧ t.began = s.began ∧ t.missed = s.missed) :
    Guarded { w with store := store } t? where
  copy t c htq hc := by
    obtain ⟨s, hs, hr | hcopy, -⟩ := ht t htq
    · rw [hr] at hc
      cases hc
      exact hw.mem
    · exact hw.grows c (h.copy s c hs (hcopy.symm.trans hc))
  seen t x htq hx := by
    obtain ⟨s, hs, -, hseen, -⟩ := ht t htq
    exact h.seen s x hs (hseen.symm.trans hx)
  history t htq := by
    obtain ⟨s, hs, -, -, hb, hm⟩ := ht t htq
    rw [hb, hm]
    exact h.history s hs
  pinned x hx := by
    rw [status_of_written hw hx]
    exact hp

theorem Guarded.was_pinned (h : Guarded w s?) {store : KeyStore}
    (hw : Store.Written w.store cur v r store) : Pinned cur.status := h.pinned cur hw.was

theorem Spares.store {store : KeyStore} (hw : Store.Written w.store cur v r store)
    (hv : v.status.keySecretRef = cur.status.keySecretRef ∨ cur.status.keySecretRef = none ∨
      w.missed = true) : Spares w { w with store := store } where
  apiKey key hne := absurd (Eq.refl _) hne
  secretRef x x' ref hx href hx' hne := by
    rw [hw.was] at hx
    cases hx
    rw [status_of_written hw hx'] at hne
    rcases hv with hsame | hnone | hm
    · exact absurd (hsame.trans href) hne
    · rw [hnone] at href
      cases href
    · exact hm

/-! ### Calls -/

/-- The call was answered as expected, the invariant holds after it, and nothing was replaced
without a license. -/
structure Answered (w : RotationWorld) (s : Rotation) (op : KeyOp) (r : op.Resp)
    (w' : RotationWorld) : Prop where
  expected : s.expects op r
  guarded : Guarded w' (some (s.next op r))
  spares : Spares w w'

theorem answered_update {obj : LiteLLMVirtualKey} {r : Except Error LiteLLMVirtualKey}
    (h : Guarded w (some s)) (ha : s.allowed (.update obj))
    (hx : w.commit (w.store.update obj) lost = (r, w')) : Answered w s (.update obj) r w' := by
  obtain ⟨c, hc, hrv⟩ := ha
  rcases committed_cases hx with ⟨v, store, hok, rfl, hr⟩ | ⟨e, rfl, rfl⟩
  · have hw := Store.written_of_update hok (h.copy s c rfl hc) hrv
    -- the status is not touched
    have hp : Pinned c.status := h.was_pinned hw
    have hspares := Spares.store hw (.inl rfl)
    rcases hr with ⟨-, rfl⟩ | ⟨e, -, rfl⟩
    · refine ⟨fun c' hc' => ?_, h.restore hw hp (fun t ht => ?_), hspares⟩
      · rw [hc] at hc'
        cases hc'
        exact hw.stored
      · cases ht
        exact ⟨s, rfl, .inl rfl, rfl, rfl, rfl⟩
    · refine ⟨trivial, h.restore hw hp (fun t ht => ?_), hspares⟩
      cases ht
      exact ⟨s, rfl, .inr rfl, rfl, rfl, rfl⟩
  · exact ⟨trivial, h, .rfl⟩

theorem answered_statusUpdate {obj : LiteLLMVirtualKey} {r : Except Error LiteLLMVirtualKey}
    (h : Guarded w (some s)) (ha : s.allowed (.statusUpdate obj))
    (hx : w.commit (w.store.statusUpdate obj) lost = (r, w')) :
    Answered w s (.statusUpdate obj) r w' := by
  obtain ⟨c, hc, hrv, hmay⟩ := ha
  rcases committed_cases hx with ⟨v, store, hok, rfl, hr⟩ | ⟨e, rfl, rfl⟩
  · have hw := Store.written_of_statusUpdate hok (h.copy s c rfl hc) hrv
    have hspares := Spares.store hw (hmay.ref.imp id (Or.imp id h.missed))
    rcases hr with ⟨-, rfl⟩ | ⟨e, -, rfl⟩
    · refine ⟨fun c' hc' => ?_, h.restore hw hmay.pinned (fun t ht => ?_), hspares⟩
      · rw [hc] at hc'
        cases hc'
        exact hw.stored
      · cases ht
        exact ⟨s, rfl, .inl rfl, rfl, rfl, rfl⟩
    · refine ⟨trivial, h.restore hw hmay.pinned (fun t ht => ?_), hspares⟩
      cases ht
      exact ⟨s, rfl, .inr rfl, rfl, rfl, rfl⟩
  · exact ⟨trivial, h, .rfl⟩

theorem Guarded.put (h : Guarded w s?) (x : Secret) :
    Guarded { w with secrets := w.secrets.put x } s? :=
  ⟨h.copy, fun t y ht hy => List.mem_cons_of_mem _ (h.seen t y ht hy), h.history, h.pinned⟩

theorem answered_createSecret {x : Secret} {r : Except Error Secret} (h : Guarded w (some s))
    (ha : s.Licensed) (hx : w.commitSecret x (w.secrets.create x) lost = (r, w')) :
    Answered w s (.createSecret x) r w' := by
  rcases committed_cases hx with ⟨_, secrets, hmap, rfl, -⟩ | ⟨e, rfl, rfl⟩
  · obtain ⟨_, hok, ⟨⟩⟩ := ok_of_map hmap
    rw [CachedSecrets.create_ok hok]
    refine ⟨trivial, h.put x, fun _ _ => h.licensed ha, fun v v' ref hv href hv' hne => ?_⟩
    cases hv.symm.trans hv'
    exact absurd href hne
  · exact ⟨trivial, h, .rfl⟩

theorem answered_updateSecret {x : Secret} {r : Except Error Secret} (h : Guarded w (some s))
    (ha : s.allowed (.updateSecret x)) (hx : w.commitSecret x (w.secrets.update x) lost = (r, w')) :
    Answered w s (.updateSecret x) r w' := by
  rcases committed_cases hx with ⟨_, secrets, hmap, rfl, -⟩ | ⟨e, rfl, rfl⟩
  · obtain ⟨_, hok, ⟨⟩⟩ := ok_of_map hmap
    have hguard : Guarded { w with secrets := secrets } (some s) := by
      obtain ⟨cur, -, -, rfl⟩ := CachedSecrets.update_ok hok
      exact h.put x
    refine ⟨trivial, hguard, fun key hne => ?_, fun v v' ref hv href hv' hne => ?_⟩
    · rcases ha with hl | ⟨y, hseen, hrv, hdata, hplain⟩
      · exact h.licensed hl
      · have hkept := CachedSecrets.data_of_update hok (h.seen s y rfl hseen) hrv hdata hplain key
        have hsame : ∀ o : Option Secret, o.bind apiKeyOf =
            (o.map Secret.data).bind (fun d => d.get? "api_key") := fun o => by cases o <;> rfl
        refine absurd ?_ hne
        show (secrets.now.find key).bind apiKeyOf = (w.secrets.now.find key).bind apiKeyOf
        rw [hsame, hsame, hkept]
    · cases hv.symm.trans hv'
      exact absurd href hne
  · exact ⟨trivial, h, .rfl⟩

theorem answered_get {key : NamespacedName} {age : Nat} {v : LiteLLMVirtualKey}
    (h : Guarded w (some s)) (hage : age = 0 ∧ w.store.live = true)
    (hv : w.store.versions[age]? = some v) :
    Answered w s (.get key) (.ok v) { w with began := w.store.current, missed := false } := by
  obtain ⟨rfl, hlive⟩ := hage
  have hcur : w.store.current = some v := by
    unfold Store.current
    rw [if_pos hlive, List.head?_eq_getElem?, hv]
  refine ⟨h.pinned v hcur, ⟨fun t c ht hc => ?_, fun t x ht hx => ?_, fun t ht => ?_, h.pinned⟩,
    .same rfl rfl⟩
  · cases ht
    cases hc
    exact Store.mem_of_current hcur
  · cases ht
    exact h.seen s x rfl hx
  · cases ht
    exact .inl ⟨hcur.symm, rfl⟩

theorem answered_getSecret {key : NamespacedName} {x : Secret} (h : Guarded w (some s))
    (hx : x ∈ w.secrets.past) : Answered w s (.read (.getSecret key)) (.ok x) w := by
  refine ⟨w.secrets.plain x hx, ⟨fun t c ht hc => ?_, fun t y ht hy => ?_, fun t ht => ?_,
    h.pinned⟩, .rfl⟩
  · cases ht
    exact h.copy s c rfl hc
  · cases ht
    cases hy
    exact hx
  · cases ht
    exact h.history s rfl

theorem answered_readExactly (key : NamespacedName) (h : Guarded w (some s)) :
    Answered w s (.read (.getSecretUncached key)) (w.readExactly key).1 (w.readExactly key).2 := by
  unfold RotationWorld.readExactly
  cases w.secrets.now.find key with
  | some x => exact ⟨trivial, h, .rfl⟩
  | none =>
    refine ⟨trivial, ⟨fun t c ht hc => ?_, fun t y ht hy => ?_, fun t ht => ?_, h.pinned⟩,
      .same rfl rfl⟩
    · cases ht
      exact h.copy s c rfl hc
    · cases ht
      exact h.seen s y rfl hy
    · cases ht
      rcases h.history s rfl with ⟨hb, hm⟩ | ⟨hb, hm⟩
      · have hnamed : s.named = w.named := by
          unfold Rotation.named RotationWorld.named
          rw [hb]
        refine .inl ⟨hb, ?_⟩
        show (s.missed || (true && decide (s.named = some key))) = _
        rw [hm, hnamed, Bool.true_and]
      · refine .inr ⟨hb, ?_⟩
        show (s.missed || (true && decide (s.named = some key))) = false
        unfold Rotation.named
        rw [hm, hb]
        rfl

theorem answered_failed {op : KeyOp} {e : Error} (h : Guarded w (some s))
    (hread : ∀ key, op = .read (.getSecretUncached key) → isNotFound e = false) :
    Answered w s op (op.failed e) w := by
  cases op with
  | read r =>
    cases r with
    | getSecretUncached key =>
      have hnext : s.next (.read (.getSecretUncached key)) (.error e) = s := by
        show { s with missed := s.missed || (isNotFound e && _) } = s
        rw [hread key rfl, Bool.false_and, Bool.or_false]
      refine ⟨trivial, ?_, .rfl⟩
      show Guarded w (some (s.next (.read (.getSecretUncached key)) (.error e)))
      rw [hnext]
      exact h
    | _ => exact ⟨trivial, h, .rfl⟩
  | api conn req => cases req <;> exact ⟨trivial, h, .rfl⟩
  | _ => exact ⟨trivial, h, .rfl⟩

variable {rep : Reply KeyApi}

theorem answered_read {rd : Read} {r : (Op.read rd : KeyOp).Resp} (h : Guarded w (some s))
    (hx : w.answer (.read rd) rep = some (r, w')) : Answered w s (.read rd) r w' := by
  cases rep with
  | fail e =>
    cases rd with
    | getSecretUncached key =>
      change (if isNotFound e then none else some (Except.error e, w)) = _ at hx
      split at hx
      · cases hx
      · rename_i hnf
        cases hx
        exact answered_failed h (fun _ _ => by simpa using hnf)
    | _ =>
      cases hx
      exact answered_failed h (fun _ hop => by cases hop)
  | done =>
    cases rd with
    | getSecretUncached key =>
      have hans := answered_readExactly key h
      rw [Option.some.inj hx] at hans
      exact hans
    | _ => cases hx
  | found obj =>
    cases rd with
    | getSecretUncached key => cases hx
    | getSecret key =>
      obtain ⟨x, -, hin⟩ := Option.bind_eq_some_iff.mp hx
      dsimp only at hin
      split at hin
      · rename_i hpast
        cases hin
        exact answered_getSecret h hpast.1
      · cases hin
    | _ =>
      obtain ⟨o, -, heq⟩ := Option.map_eq_some_iff.mp hx
      cases heq
      exact ⟨trivial, h, .rfl⟩
  | _ => cases rd <;> cases hx

theorem answered_api {conn : ResolvedInstance} {req : KeyApi} {r : (Op.api conn req : KeyOp).Resp}
    (h : Guarded w (some s)) (hx : w.answer (.api conn req) rep = some (r, w')) :
    Answered w s (.api conn req) r w' := by
  cases rep with
  | fail e =>
    cases hx
    exact answered_failed h (fun _ hop => by cases hop)
  | served result lost =>
    obtain ⟨a, -, heq⟩ := Option.map_eq_some_iff.mp hx
    cases heq
    cases req <;> cases lost <;> exact ⟨trivial, h, .rfl⟩
  | _ => cases hx

/-- **One call.** Whatever the call is answered, the invariant holds after it, and it has replaced
nothing without a license. -/
theorem call_kept {op : KeyOp} {r : op.Resp} (h : Guarded w (some s)) (ha : s.allowed op)
    (hG : fromCurrent.reply w op rep) (hx : w.answer op rep = some (r, w')) :
    Answered w s op r w' := by
  cases op with
  | read rd => exact answered_read h hx
  | api conn req => exact answered_api h hx
  | get key =>
    cases rep with
    | cached age =>
      obtain ⟨v, hv, heq⟩ := Option.map_eq_some_iff.mp hx
      cases heq
      exact answered_get h hG hv
    | fail e =>
      cases hx
      exact answered_failed h (fun _ hop => by cases hop)
    | _ => cases hx
  | update obj =>
    cases rep with
    | done | lost e => exact answered_update h ha (Option.some.inj hx)
    | fail e =>
      cases hx
      exact answered_failed h (fun _ hop => by cases hop)
    | _ => cases hx
  | statusUpdate obj =>
    cases rep with
    | done | lost e => exact answered_statusUpdate h ha (Option.some.inj hx)
    | fail e =>
      cases hx
      exact answered_failed h (fun _ hop => by cases hop)
    | _ => cases hx
  | statusPatch base obj => exact ha.elim
  | createSecret x =>
    cases rep with
    | done | lost e => exact answered_createSecret h ha (Option.some.inj hx)
    | fail e =>
      cases hx
      exact answered_failed h (fun _ hop => by cases hop)
    | _ => cases hx
  | updateSecret x =>
    cases rep with
    | done | lost e => exact answered_updateSecret h ha (Option.some.inj hx)
    | fail e =>
      cases hx
      exact answered_failed h (fun _ hop => by cases hop)
    | _ => cases hx
  | random n =>
    cases rep with
    | bytes bs =>
      cases hx
      exact ⟨trivial, h, .rfl⟩
    | fail e =>
      cases hx
      exact answered_failed h (fun _ hop => by cases hop)
    | _ => cases hx

/-! ### What others do -/

/-- Others write to the resource, and keep the token and the Secret or drop the token. -/
theorem Guarded.shift {store : KeyStore} (h : Guarded w s?)
    (hw : Store.Written w.store cur v r store) (hp : Pinned cur.status → Pinned v.status) :
    Guarded { w with store := store } s? :=
  h.restore hw (hp (h.was_pinned hw)) (fun t ht => ⟨t, ht, .inr rfl, rfl, rfl, rfl⟩)

/-- **One step of the environment.** -/
theorem guarded_env {e : RotationEnv} (h : Guarded w s?) (hx : w.env e = some w') :
    Guarded w' s? := by
  cases e with
  | edit spec =>
    obtain ⟨store, hstore, rfl⟩ := Option.map_eq_some_iff.mp hx
    obtain ⟨cur, r, hw⟩ := Store.edit_some hstore
    exact h.shift hw id
  | remove =>
    obtain ⟨store, hstore, rfl⟩ := Option.map_eq_some_iff.mp hx
    obtain ⟨cur, r, hw⟩ := Store.markDeleted_some hstore
    exact h.shift hw id
  | clear age =>
    obtain ⟨v, hmem, hv⟩ := Option.bind_eq_some_iff.mp hx
    obtain ⟨r, store, hok, rfl⟩ := carriedOut_some hv
    have hw := Store.written_of_statusUpdate hok (List.mem_of_getElem? hmem) rfl
    -- the token goes, the Secret stays named
    exact h.shift hw (fun hp => ⟨fun hne => absurd rfl hne, hp.name⟩)
  | drift age =>
    obtain ⟨v, -, hv⟩ := Option.bind_eq_some_iff.mp hx
    obtain ⟨r, store, hok, rfl⟩ := carriedOut_some hv
    obtain ⟨cur, -, hw⟩ := Store.update_ok hok
    exact h.shift hw id
  | putSecret x =>
    cases hx
    exact h.put x
  | deleteSecret key =>
    cases hx
    exact ⟨h.copy, h.seen, h.history, h.pinned⟩

/-! ## Runs -/

theorem guarded_invariant (lib : Ext) (req : NamespacedName) :
    Invariant (rotationLifecycle lib req) rotation fromCurrent {} (fun _ => True) Guarded where
  main := by
    show rotation.wp (reconcile lib req >>= fun _ => pure ()) _ _
    rw [Protocol.wp_bind]
    exact follows_rotation lib req
  env w w' e s? h _ hx := guarded_env h hx
  start w h := by
    refine ⟨fun s c hs hc => ?_, fun s x hs hx => ?_, fun s hs => ?_, h.pinned⟩
    · cases hs
      cases hc
    · cases hs
      cases hx
    · cases hs
      exact .inr ⟨rfl, rfl⟩
  step w w' s op rep r h ha hG hx :=
    ⟨(call_kept h ha hG hx).expected, (call_kept h ha hG hx).guarded⟩
  finish w s h _ := guarded_idle h.pinned
  crash w s h _ := guarded_idle h.pinned

/-- What an action of a run does to the key. -/
structure KeepsKey (c : RotationConf) (a : Action (Reply KeyApi) RotationEnv)
    (c' : RotationConf) : Prop where
  /-- A key is generated, or deleted other than in a cleanup, only with a license. -/
  generate : ∀ conn req k, c.running = some (.call (.api conn (.generate req)) k) → c.world.Licensed
  delete : ∀ conn token k, c.running = some (.call (.api conn (.delete token)) k) →
    c.world.Licensed ∨ c.world.Deleting
  /-- A call of a reconcile changes a key in a Secret only with a license, and the Secret that is
  named only if it was reported absent. -/
  call : ∀ rep, a = .step rep → Spares c.world c'.world

/-- **A working key is never rotated.** Start from a status that names a Secret if it has a token,
and run reconciles, each from the current resource, with edits, any failures, and any amount of
staleness in the cache of Secrets. Then a reconcile generates a key, deletes the old one or changes
the key in a Secret only if it began without a token, or after the API server has reported the
Secret as absent; and it changes the name of the Secret only after the latter. -/
theorem working_key_kept (lib : Ext) (req : NamespacedName) (w₀ : RotationWorld)
    (h₀ : ∀ v, w₀.store.current = some v → Pinned v.status) (c c' : RotationConf)
    (a : Action (Reply KeyApi) RotationEnv)
    (hr : (rotationLifecycle lib req).Reaches fromCurrent ⟨w₀, none⟩ c)
    (ha : Machine.Meets fromCurrent c a) (hx : (rotationLifecycle lib req).exec c a = some c') :
    KeepsKey c a c' := by
  have hidle : Invariant.Holds rotation (fun _ => True) Guarded
      (⟨w₀, none⟩ : RotationConf) := guarded_idle h₀
  have hreach := guarded_invariant lib req
  refine ⟨fun conn body k hop => ?_, fun conn token k hop => ?_, fun rep hrep => ?_⟩
  · obtain ⟨s, hs, hallowed⟩ := hreach.reach_issued hidle hr hop
    exact hs.licensed hallowed
  · obtain ⟨s, hs, hallowed⟩ := hreach.reach_issued hidle hr hop
    exact hallowed.imp hs.licensed hs.deleting
  · subst hrep
    obtain ⟨w, running⟩ := c
    rcases running with _ | p
    · cases hx
    cases p with
    | ret a => cases hx
    | call op k =>
      obtain ⟨s, hs, hallowed⟩ := hreach.reach_issued hidle hr rfl
      obtain ⟨⟨r, w'⟩, hans, rfl⟩ := Option.map_eq_some_iff.mp hx
      exact (call_kept hs hallowed (ha op k rfl) hans).spares

end VirtualKey

/-! ## A stale cache -/

namespace Sample

/-- A virtual key has just been created; the only Secret is that of the instance. -/
def rotationWorld : RotationWorld where
  store := keyWorld.store
  secrets :=
    { now := keyWorld.secrets
      past := [masterKey]
      held := fun x hx => hx
      below := fun x hx => by
        rw [List.mem_singleton.mp hx]
        decide
      plain := keyWorld.secrets.plain
      unique := fun x hx y hy _ => by
        rw [List.mem_singleton.mp hx, List.mem_singleton.mp hy] }

def missing : Error := .leaf (.kube Secrets.notFound)

/-- A key is minted, and the name of its Secret edited. The cache still misses the Secret when the
next reconcile has asked the API server for it. -/
def staleRun : List (Action (Reply KeyApi) RotationEnv) :=
  [.start, .step (.cached 0), .step .done, .step (.found found), .step (.found found),
    .step (.served (keyServed "sk-1" "token-1") none), .step (.fail missing), .step .done,
    .step .done, .step .done, .step .done,
    .env (.edit { instanceRef := { name := "a" }, keyAlias := "key", keySecretName := "other" }),
    .start, .step (.cached 0), .step (.found found), .step (.found found), .step .done]

end Sample

namespace VirtualKey

/-- The key is not minted anew although the cache misses its Secret. -/
theorem working_key_kept_stale :
    ∃ c c', (rotationLifecycle Sample.lib ⟨"apps", "key"⟩).Reaches fromCurrent
        ⟨Sample.rotationWorld, none⟩ c ∧
      (rotationLifecycle Sample.lib ⟨"apps", "key"⟩).exec c (.step (.fail Sample.missing)) =
        some c' ∧
      c'.world.apiKey ⟨"apps", "key-key"⟩ = some "sk-1" ∧
      KeepsKey c (.step (.fail Sample.missing)) c' := by
  have h₀ : ∀ v, Sample.rotationWorld.store.current = some v → Pinned v.status := by
    intro v hv
    cases hv
    exact ⟨fun hne => absurd rfl hne, fun ref href => by cases href⟩
  have hrun : ((rotationLifecycle Sample.lib ⟨"apps", "key"⟩).run fromCurrent
      ⟨Sample.rotationWorld, none⟩ Sample.staleRun).any (fun c =>
        ((rotationLifecycle Sample.lib ⟨"apps", "key"⟩).exec c (.step (.fail Sample.missing))).any
            (fun c' => c'.world.apiKey ⟨"apps", "key-key"⟩ = some "sk-1")) = true := by
    decide +kernel
  obtain ⟨c, hc, hnext⟩ := (Option.any_eq_true _ _).mp hrun
  obtain ⟨c', hc', hkey⟩ := (Option.any_eq_true _ _).mp hnext
  have hr := Machine.reaches_of_run _ _ (.refl _) hc
  refine ⟨c, c', hr, hc', of_decide_eq_true hkey, ?_⟩
  refine working_key_kept Sample.lib ⟨"apps", "key"⟩ _ h₀ c c' _ hr (fun op k _ => ?_) hc'
  cases op <;> exact trivial

end VirtualKey

end LitellmOperator
