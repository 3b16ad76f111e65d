import LitellmOperator.Lifecycle.World

/-! # What a resource is bound to

Two of the properties of runs have the same shape: every version of a resource that is bound to an
object, and not marked as having adopted it, has *grounds* for that. What counts as grounds
differs (the resource created the object after it was admitted; the object is not an alien one),
but both last once they are there, and both are established when a create succeeds. For any such
notion of grounds this module shows that they are there in every run, and so that what a
reconcile deletes is never without them.
-/

set_option autoImplicit false

namespace LitellmOperator

open Effect Go Kube

section

variable {Spec Status Api : Type} [Service Api]

/-- The side condition of a run of reconciles. -/
abbrev Side (Spec Status Api : Type) [Service Api] : Type :=
  Guard (Op Spec Status Api) (World Spec Status) (Reply Api) (Env Spec)

variable (K : Kind Spec Status Api) (lib : Ext) (home : String) (G : Side Spec Status Api)

/-- `P w k x`, grounds for being bound to the object `x` on the instance `k`, last from step to
step, as `W` does, and come with what binds. -/
structure Grounds (W : World Spec Status → Prop)
    (P : World Spec Status → NamespacedName → String → Prop) : Prop where
  frame : ∀ w w', Frame w w' → W w → W w' ∧ ∀ k x, P w k x → P w' k x
  request : ∀ w key req, W w → W (World.request K w key req) ∧
    ∀ k x, P w k x → P (World.request K w key req) k x
  serve : ∀ w conn req a result lost, W w → G.reply w (.api conn req) (.served result lost) →
    result req = some a →
    W (World.serve K lib home (World.request K w conn.inst.metadata.key req) conn req a) ∧
    ∀ k x, P w k x →
      P (World.serve K lib home (World.request K w conn.inst.metadata.key req) conn req a) k x
  /-- Whatever a request that succeeds lets an admitted resource record has grounds. -/
  take : ∀ w conn req a result lost x, W w → G.reply w (.api conn req) (.served result lost) →
    result req = some a → K.takes req a = some x →
    admits lib conn.inst home K.kind w.ns = true →
    P (World.serve K lib home (World.request K w conn.inst.metadata.key req) conn req a)
      conn.inst.metadata.key x
  appear : ∀ w o, W w → o ∉ w.objects → W { w with objects := o :: w.objects } ∧
    ∀ k x, P w k x → P { w with objects := o :: w.objects } k x
  vanish : ∀ w o, W w → W (w.without o) ∧ ∀ k x, P w k x → P (w.without o) k x
  /-- An edit leaves the resource unbound or adopted, or bound as it was. -/
  edit : ∀ w spec cur, G.env w (.edit spec) → w.store.current = some cur →
    K.bound { cur with spec := spec } = none ∨ K.adopted cur = true ∨
      (K.bound { cur with spec := spec } = K.bound cur ∧
        K.refKey { cur with spec := spec } = K.refKey cur)

variable {K lib home G}

/-- A version is unbound, or adopted, or has grounds. -/
def Grounded (K : Kind Spec Status Api) (P : NamespacedName → String → Prop)
    (v : Resource Spec Status) : Prop :=
  ∀ x, K.bound v = some x → K.adopted v = true ∨ P (K.refKey v) x

/-- The assertion kept along runs. -/
structure Kept (K : Kind Spec Status Api) (home : String) (W : World Spec Status → Prop)
    (P : World Spec Status → NamespacedName → String → Prop) (w : World Spec Status)
    (s? : Option (Session Spec Status)) : Prop where
  world : W w
  home : ∀ v ∈ w.store.versions, v.metadata.ns = home
  grounded : ∀ v ∈ w.store.versions, Grounded K (P w) v
  tied : ∀ s, s? = some s → Tied w s
  fresh : ∀ s x, s? = some s → s.fresh = some x → ∃ c, s.copy = some c ∧ P w (K.refKey c) x

variable {W : World Spec Status → Prop} {P : World Spec Status → NamespacedName → String → Prop}
variable {w w' : World Spec Status} {s s' : Session Spec Status}

theorem Grounded.mono {P P' : NamespacedName → String → Prop} {v : Resource Spec Status}
    (h : Grounded K P v) (hP : ∀ k x, P k x → P' k x) : Grounded K P' v :=
  fun x hx => (h x hx).imp id (hP _ x)

theorem Grounded.stamp {P : NamespacedName → String → Prop} {v : Resource Spec Status}
    (h : Grounded K P v) (rv gen : Nat) : Grounded K P (v.stamp rv gen) := by
  intro x hx
  rw [Kind.bound_stamp] at hx
  rw [Kind.adopted_stamp]
  exact h x hx

/-! ## Writes -/

theorem grounded_of_mayWrite {P : NamespacedName → String → Prop} {c v : Resource Spec Status}
    (hc : Grounded K P c) (hfresh : ∀ x, s.fresh = some x → P (K.refKey c) x)
    (hkey : K.refKey v = K.refKey c) (hmay : K.MayWrite s c v) (hmark : K.MayMark s c v) :
    Grounded K P v := by
  -- an adopted copy stays adopted
  have hadopted : K.adopted c = true → K.adopted v = true := by
    intro ha
    rcases hmark with h | ⟨h, -⟩
    · rw [h, ha]
    · exact h
  intro x hx
  rw [hkey]
  rcases hmay with ⟨y, hy, hvy⟩ | ⟨-, hsame | ⟨hnone, -⟩ | ⟨-, ha, -⟩⟩
  · rw [hvy] at hx
    cases hx
    exact .inr (hfresh x hy)
  · exact (hc x (hsame.symm.trans hx)).imp hadopted id
  · rw [hnone] at hx
    cases hx
  · exact .inl (hadopted ha)

theorem refKey_of_stores {cur v r : Resource Spec Status} (h : Stores w cur v r w') :
    K.refKey v = K.refKey cur := by
  unfold Kind.refKey
  rw [h.spec, h.ns]

theorem refKey_stamp (v : Resource Spec Status) (rv gen : Nat) :
    K.refKey (v.stamp rv gen) = K.refKey v := rfl

variable {t? : Option (Session Spec Status)}

theorem kept_of_written {cur v r : Resource Spec Status} (hg : Grounds K lib home G W P)
    (h : Kept K home W P w t?) (hw : Store.Written w.store cur v r w'.store)
    (hrest : w' = { w with store := w'.store }) (hns : v.metadata.ns = cur.metadata.ns)
    (hv : Grounded K (P w) v) (htied : ∀ s, t? = some s → Tied w' s) : Kept K home W P w' t? := by
  obtain ⟨hW, hP⟩ := hg.frame w w' (Frame.of_rest hrest) h.world
  obtain ⟨rv, gen, hr⟩ := hw.stored
  refine ⟨hW, fun u hu => ?_, fun u hu => ?_, htied, fun s x hs hx => ?_⟩
  · rcases hw.only u hu with rfl | hu
    · rw [hr]
      exact hns.trans (h.home cur (Store.mem_of_current hw.was))
    · exact h.home u hu
  · rcases hw.only u hu with rfl | hu
    · rw [hr]
      exact (hv.mono hP).stamp rv gen
    · exact (h.grounded u hu).mono hP
  · obtain ⟨c, hc, hp⟩ := h.fresh s x hs hx
    exact ⟨c, hc, hP _ _ hp⟩

theorem kept_of_upstream (h : Kept K home W P w t?) (hstore : w'.store = w.store) (hW : W w')
    (hP : ∀ k x, P w k x → P w' k x) (htied : ∀ s, t? = some s → Tied w' s) :
    Kept K home W P w' t? := by
  refine ⟨hW, ?_, ?_, htied, fun s x hs hx => ?_⟩
  · rw [hstore]
    exact h.home
  · rw [hstore]
    exact fun u hu => (h.grounded u hu).mono hP
  · obtain ⟨c, hc, hp⟩ := h.fresh s x hs hx
    exact ⟨c, hc, hP _ _ hp⟩

theorem Kept.run (h : Kept K home W P w none) (htied : Tied w s')
    (hfresh : ∀ x, s'.fresh = some x → ∃ c, s'.copy = some c ∧ P w (K.refKey c) x) :
    Kept K home W P w (some s') where
  world := h.world
  home := h.home
  grounded := h.grounded
  tied t ht := by
    cases ht
    exact htied
  fresh t x ht hx := by
    cases ht
    exact hfresh x hx

theorem Kept.idle (h : Kept K home W P w t?) : Kept K home W P w none :=
  ⟨h.world, h.home, h.grounded, fun _ hs => (by cases hs), fun _ _ hs => (by cases hs)⟩

/-! ## Steps -/

theorem kept_of_shift {e : Env Spec} (hg : Grounds K lib home G W P) (h : Kept K home W P w t?)
    (he : G.env w e) (hx : Shifts K w e w') : Kept K home W P w' t? := by
  have hgrow : ∀ {cur v r : Resource Spec Status}, Store.Written w.store cur v r w'.store →
      w' = { w with store := w'.store } → ∀ s, t? = some s → Tied w' s := by
    intro cur v r hw hrest s hs
    have ht := h.tied s hs
    exact ht.grow hw.grows (by rw [hrest]) (fun c hc => hw.grows c (ht.copy c hc)) rfl rfl
  cases hx with
  | edits spec cur r _ hw hrest =>
    have hcur := h.grounded cur (Store.mem_of_current hw.was)
    have hadopted : K.adopted { cur with spec := spec } = K.adopted cur := K.adopted_congr cur _ rfl
    refine kept_of_written hg h hw hrest rfl (fun x hx => ?_) (hgrow hw hrest)
    rw [hadopted]
    rcases hg.edit w spec cur he hw.was with hn | ha | ⟨hb, hk⟩
    · rw [hn] at hx
      cases hx
    · exact .inl ha
    · rw [hb] at hx
      rw [hk]
      exact hcur x hx
  | keeps _ cur v r _ hst hb ha =>
    have hcur := h.grounded cur (Store.mem_of_current hst.written.was)
    refine kept_of_written hg h hst.written hst.rest hst.ns (fun x hx => ?_)
      (hgrow hst.written hst.rest)
    rw [ha, refKey_of_stores hst]
    exact hcur x (hb.symm.trans hx)
  | clears age cur v r _ _ hst hb ha =>
    refine kept_of_written hg h hst.written hst.rest hst.ns (fun x hx => ?_)
      (hgrow hst.written hst.rest)
    rw [hb] at hx
    cases hx
  | appears o hnew =>
    obtain ⟨hW, hP⟩ := hg.appear w o h.world hnew
    exact kept_of_upstream h rfl hW hP (fun s hs => ⟨(h.tied s hs).copy, (h.tied s hs).subj,
      (h.tied s hs).ns⟩)
  | vanishes o =>
    obtain ⟨hW, hP⟩ := hg.vanish w o h.world
    exact kept_of_upstream h rfl hW hP (fun s hs => ⟨(h.tied s hs).copy, (h.tied s hs).subj,
      (h.tied s hs).ns⟩)

/-- A request after which an object may be recorded goes to the instance of the copy, and that
instance has admitted the resource. -/
theorem Kept.admitted {conn : ResolvedInstance} {req : Api} {a : Service.Result req} {x : String}
    (h : Kept K home W P w (some s)) (hmay : K.MayCall lib s conn req)
    (htake : K.takes req a = some x) :
    ∃ c, s.copy = some c ∧ conn.inst.metadata.key = K.refKey c ∧
      admits lib conn.inst home K.kind w.ns = true := by
  obtain ⟨subj, c, hconn, hc, hdel, hcre, -⟩ := hmay
  have ht := h.tied s rfl
  refine ⟨c, hc, ?_, ?_⟩
  · rw [hconn.key, (hcre (.inr ⟨a, x, htake⟩)).key]
  · -- a resource that is being deleted only deletes
    have hlive : subj.metadata.deleting = false := by
      cases hd : subj.metadata.deleting with
      | false => rfl
      | true =>
        have hsome := hdel hd
        rw [K.takes_deletes req a x htake] at hsome
        cases hsome
    rw [← h.home subj (ht.subj _ _ hconn.inst), ← ht.ns _ _ hconn.inst]
    exact hconn.admitted hlive

/-- What is pending after a call that writes nothing was pending before, or the call made it so. -/
theorem kept_of_unwritten (h : Kept K home W P w (some s)) (hstore : w'.store = w.store)
    (hWP : W w' ∧ ∀ k x, P w k x → P w' k x) (ht : Tied w' s')
    (hfresh : ∀ x, s'.fresh = some x → (s.fresh = some x ∧ s'.copy = s.copy) ∨
      ∃ c, s'.copy = some c ∧ P w' (K.refKey c) x) : Kept K home W P w' (some s') := by
  obtain ⟨hW, hP⟩ := hWP
  refine (kept_of_upstream h.idle hstore hW hP (fun _ hs => by cases hs)).run ht (fun x hx => ?_)
  rcases hfresh x hx with ⟨hx', hcopy⟩ | hc
  · obtain ⟨c, hc, hp⟩ := h.fresh s x rfl hx'
    exact ⟨c, hcopy.trans hc, hP _ _ hp⟩
  · exact hc

theorem kept_of_move {op : Op Spec Status Api} {rep : Reply Api} (hg : Grounds K lib home G W P)
    (h : Kept K home W P w (some s)) (hG : G.reply w op rep) (ht : Tied w' s')
    (hm : Moves K lib home w s op rep w' s') : Kept K home W P w' (some s') := by
  cases hm with
  | quiet hw hstore hcopy hinst hf hd =>
    exact kept_of_unwritten h hstore (hg.frame w w' hw h.world) ht
      (fun _ hx => .inl ⟨hf.symm.trans hx, hcopy⟩)
  | reads hw hstore v hv hcopy hpend hf hd | resolves hw hstore hcopy hpend hf hd =>
    exact kept_of_unwritten h hstore (hg.frame w w' hw h.world) ht
      (fun _ hx => nomatch hf.symm.trans hx)
  | writes c v r hc hst hmay hmark hinst hd hout =>
    have hpend : ∀ x, s.fresh = some x → P w (K.refKey c) x := by
      intro x hx
      obtain ⟨c', hc', hp⟩ := h.fresh s x rfl hx
      rw [hc] at hc'
      cases hc'
      exact hp
    have hv := grounded_of_mayWrite (h.grounded c ((h.tied s rfl).copy c hc)) hpend
      (refKey_of_stores hst) hmay hmark
    have hP := (hg.frame w w' (Frame.of_rest hst.rest) h.world).2
    refine (kept_of_written hg h.idle hst.written hst.rest hst.ns hv
      (fun _ hs => by cases hs)).run ht (fun x hx => ?_)
    rcases hout with ⟨-, hcopy, hf⟩ | ⟨-, hcopy, hf⟩
    · -- what is still pending was pending before
      have hx' : s.fresh = some x := by
        rw [hf] at hx
        split at hx
        · cases hx
        · exact hx
      obtain ⟨rv, gen, hr⟩ := hst.written.stored
      refine ⟨r, hcopy, hP _ _ ?_⟩
      rw [hr, refKey_stamp, refKey_of_stores hst]
      exact hpend x hx'
    · rw [hf] at hx
      exact ⟨c, hcopy.trans hc, hP _ _ (hpend x hx)⟩
  | patches cur v r hpend hst hb ha hf hd =>
    have hcur := h.grounded cur (Store.mem_of_current hst.written.was)
    refine (kept_of_written hg h.idle hst.written hst.rest hst.ns (fun x hx => ?_)
      (fun _ hs => by cases hs)).run ht (fun x hx => ?_)
    · rw [ha, refKey_of_stores hst]
      exact hcur x (hb.symm.trans hx)
    · rw [hf] at hx
      cases hx
  | refused conn req e hop hrep hmay hw hcopy hinst hf hd =>
    subst hw
    exact kept_of_unwritten h (request_store _ _).1
      (hg.request w conn.inst.metadata.key req h.world) ht
      (fun _ hx => .inl ⟨hf.symm.trans hx, hcopy⟩)
  | served conn req a result lost hop hrep hres hmay hw hcopy hinst hout hd =>
    subst hop hrep hw
    refine kept_of_unwritten h ((serve_store _ _ _).1.trans (request_store _ _).1)
      (hg.serve w conn req a result lost h.world hG hres) ht (fun x hx => ?_)
    -- either it was pending before, or the request has just made it so
    rcases hout with ⟨-, hf⟩ | ⟨-, hf⟩
    · rcases Option.or_eq_some_iff.mp (hf.symm.trans hx) with htake | ⟨-, hx'⟩
      · obtain ⟨c, hc, hkey, hadm⟩ := h.admitted hmay htake
        refine .inr ⟨c, hcopy.trans hc, ?_⟩
        rw [← hkey]
        exact hg.take w conn req a result lost x h.world hG hres htake hadm
      · exact .inl ⟨hx', hcopy⟩
    · exact .inl ⟨hf.symm.trans hx, hcopy⟩

section

variable [DecidableEq Spec] [DecidableEq Status]

variable {reconcile : Ctl Spec Status Api (Result × Option Error)}

/-- **Grounds are there in every run** of a reconcile that keeps to the session protocol. -/
theorem Grounds.invariant {cleared : Option (Status → Status)} (hg : Grounds K lib home G W P)
    (hc : Clears K cleared) (hf : (K.session lib).wp reconcile (fun _ s => Kind.Final s) {}) :
    Invariant (lifecycle K lib cleared home reconcile) (K.session lib) G {} Kind.Final
      (Kept K home W P) where
  main := by
    show (K.session lib).wp (reconcile >>= fun _ => pure ()) _ _
    rw [Protocol.wp_bind]
    exact hf
  env w w' e t? h he hx := kept_of_shift hg h he (shifted hc hx)
  start w h := h.run ⟨fun _ hc => (by cases hc), fun _ _ hi => (by cases hi),
    fun _ _ hi => (by cases hi)⟩ (fun _ hx => (by cases hx))
  step w w' s op rep r h ha hG hx := by
    obtain ⟨hexp, ht, hm⟩ := answered (h.tied s rfl) ha hx
    exact ⟨hexp, kept_of_move hg h hG ht hm⟩
  finish w s h _ := h.idle
  crash w s h _ := h.idle

theorem Grounds.of_delete {cleared : Option (Status → Status)} (hg : Grounds K lib home G W P)
    (hc : Clears K cleared) (hf : (K.session lib).wp reconcile (fun _ s => Kind.Final s) {})
    {w₀ : World Spec Status} (h₀ : Kept K home W P w₀ none)
    {c : Conf (Op Spec Status Api) Op.Resp (World Spec Status)}
    (hr : (lifecycle K lib cleared home reconcile).Reaches G ⟨w₀, none⟩ c) {o : Obj}
    (ho : pendingDelete K c = some o) : W c.world ∧ P c.world o.1 o.2 := by
  obtain ⟨conn, req, k, x, hop, hx, rfl⟩ := pendingDelete_some ho
  obtain ⟨s, h, subj, v, hconn, hv, -, -, hdel⟩ :=
    (hg.invariant hc hf).reach_issued (c := ⟨w₀, none⟩) h₀ hr hop
  obtain ⟨hkey, hbound, hnot⟩ := hdel x hx
  refine ⟨h.world, ?_⟩
  rcases h.grounded v ((h.tied s rfl).copy v hv) x hbound with ha | hp
  · rw [hnot] at ha
    cases ha
  · show P c.world conn.inst.metadata.key x
    rw [hconn.key, ← hkey]
    exact hp

end

end

end LitellmOperator
