import LitellmOperator.Lifecycle.Ownership

/-! # Objects a resource has created are cleaned up

`handleDeletion` leaves an adopted object alone. So the adopted mark must not be on a resource that
is bound to an object it has created itself. The mark is set when an unbound resource finds
the object it asks for to exist. That object may be its own, if it was created and not recorded.
And the mark stays when an adopted object goes away and the resource creates it anew. In
recording runs, in which nothing is created while the mark is on, neither happens.
-/

set_option autoImplicit false

namespace LitellmOperator

open Effect Go Kube

section

variable {Spec Status Api : Type} [Service Api] {K : Kind Spec Status Api} {lib : Ext}
variable {home : String} {k₀ : NamespacedName} {w w' : World Spec Status}
variable {s s' : Session Spec Status} {s? : Option (Session Spec Status)}

/-! ## The side condition -/

variable (K) in
/-- A recording run in which nothing is created while the stored resource carries the adopted
mark. -/
def recordingUnmarked [DecidableEq Spec] [DecidableEq Status] (lib : Ext) (home : String) :
    Side Spec Status Api where
  env := (recording K lib home).env
  reply w op rep := (recording K lib home).reply w op rep ∧
    (op.creates K = true → ∀ v ∈ w.store.versions.head?, K.adopted v = false)
  crash := (recording K lib home).crash

instance [DecidableEq Spec] [DecidableEq Status] : (recordingUnmarked K lib home).Decides where
  env w e := Guard.Decides.env (G := recording K lib home) w e
  reply w op rep := by
    have := Guard.Decides.reply (G := recording K lib home) w op rep
    unfold recordingUnmarked
    infer_instance
  crash w := Guard.Decides.crash (G := recording K lib home) w

theorem recordingUnmarked_implies [DecidableEq Spec] [DecidableEq Status] :
    (recordingUnmarked K lib home).Implies (recording K lib home) :=
  ⟨fun _ _ h => h, fun _ _ _ h => h.1, fun _ h => h⟩

/-! ## The invariant -/

variable (K k₀) in
/-- The mark is not on a resource bound to its own object, nor while one is pending. -/
structure Unmarked (w : World Spec Status) (s? : Option (Session Spec Status)) : Prop where
  bound : ∀ v, w.store.versions.head? = some v → K.adopted v = true → ∀ x, K.bound v = some x →
    (k₀, x) ∉ w.own
  pending : ∀ s x, s? = some s → s.fresh = some x → (k₀, x) ∈ w.own →
    ∀ v, w.store.versions.head? = some v → K.adopted v = false

theorem Unmarked.shrink {t? : Option (Session Spec Status)} (h : Unmarked K k₀ w s?)
    (hstore : w'.store = w.store) (hsub : ∀ o ∈ w'.own, o ∈ w.own)
    (hf : ∀ t x, t? = some t → t.fresh = some x → ∃ s, s? = some s ∧ s.fresh = some x) :
    Unmarked K k₀ w' t? := by
  refine ⟨fun v hv ha x hx ho => ?_, fun t x ht hx ho v hv => ?_⟩
  · rw [hstore] at hv
    exact h.bound v hv ha x hx (hsub _ ho)
  · rw [hstore] at hv
    obtain ⟨s, hs, hx'⟩ := hf t x ht hx
    exact h.pending s x hs hx' (hsub _ ho) v hv

theorem Unmarked.rebind {cur v r : Resource Spec Status} {t? : Option (Session Spec Status)}
    (h : Unmarked K k₀ w s?) (hw : Store.Written w.store cur v r w'.store)
    (hrest : w' = { w with store := w'.store })
    (hb : K.bound v = K.bound cur ∨ K.bound v = none) (ha : K.adopted v = K.adopted cur)
    (hf : ∀ t x, t? = some t → t.fresh = some x → ∃ s, s? = some s ∧ s.fresh = some x) :
    Unmarked K k₀ w' t? := by
  obtain ⟨rv, gen, hr⟩ := hw.stored
  have hown := (Frame.of_rest hrest).own
  have hcur := Store.head_of_current hw.was
  refine ⟨fun u hu hadopted x hx ho => ?_, fun t x ht hx ho u hu => ?_⟩
  · rw [hw.head] at hu
    cases hu
    rw [hr, Kind.adopted_stamp, ha] at hadopted
    rw [hr, Kind.bound_stamp] at hx
    rw [hown] at ho
    rcases hb with hb | hb
    · exact h.bound cur hcur hadopted x (hb.symm.trans hx) ho
    · rw [hb] at hx
      cases hx
  · rw [hw.head] at hu
    cases hu
    rw [hr, Kind.adopted_stamp, ha]
    rw [hown] at ho
    obtain ⟨s, hs, hx'⟩ := hf t x ht hx
    exact h.pending s x hs hx' ho cur hcur

theorem unmarked_of_shift {e : Env Spec} (hK : K.ByStatus) (h : Unmarked K k₀ w s?)
    (hx : Shifts K w e w') : Unmarked K k₀ w' s? := by
  have hsame : ∀ t x, s? = some t → t.fresh = some x → ∃ s, s? = some s ∧ s.fresh = some x :=
    fun t x ht hx => ⟨t, ht, hx⟩
  cases hx with
  | edits spec cur r _ hw hrest =>
    exact h.rebind hw hrest (.inl (hK.bound cur spec)) (K.adopted_congr cur _ rfl) hsame
  | keeps _ cur v r _ hst hb ha => exact h.rebind hst.written hst.rest (.inl hb) ha hsame
  | clears age cur v r _ _ hst hb ha => exact h.rebind hst.written hst.rest (.inr hb) ha hsame
  | appears o _ => exact h.shrink rfl (fun _ ho => ho) hsame
  | vanishes o => exact h.shrink rfl (fun _ ho => List.mem_of_mem_filter ho) hsame

theorem Unmarked.written {c v : Resource Spec Status} {x : String} (h : Unmarked K k₀ w (some s))
    (hO : Owned K k₀ w (some s)) (hcur : w.store.versions.head? = some c)
    (hmay : K.MayWrite s c v) (hmark : K.MayMark s c v) (ha : K.adopted v = true)
    (hx : K.bound v = some x) : (k₀, x) ∉ w.own := by
  intro ho
  have hhead : K.headBound w = K.bound c := by
    unfold Kind.headBound
    rw [hcur]
    rfl
  rcases hmay with ⟨y, hy, hv⟩ | ⟨hfree, -⟩
  · rw [hv] at hx
    cases hx
    have hclean := h.pending s x rfl hy ho c hcur
    rcases hmark with hsame | ⟨-, -, hnone, -⟩
    · rw [← hsame, ha] at hclean
      cases hclean
    · rw [hnone] at hy
      cases hy
  · -- the object is the one of the copy, which then was marked already
    have hbc := hO.bound_copy hhead hfree _ ho
    rcases hmark with hsame | ⟨-, hnone, -⟩
    · exact h.bound c hcur (hsame.symm.trans ha) x hbc ho
    · rw [hnone] at hbc
      cases hbc

theorem Unmarked.write {c v r : Resource Spec Status} (hK : K.ByStatus)
    (h : Unmarked K k₀ w (some s)) (hO : Owned K k₀ w (some s)) (hc : s.copy = some c)
    (hst : Stores w c v r w') (hmay : K.MayWrite s c v) (hmark : K.MayMark s c v) :
    Unmarked K k₀ w' (some s') := by
  obtain ⟨rv, gen, hr⟩ := hst.written.stored
  have hown := (Frame.of_rest hst.rest).own
  have hcur := Store.head_of_current hst.written.was
  have hhead := (headBound_of_written (K := K) hst.written).1
  refine ⟨fun u hu ha x hx ho => ?_, fun t x ht _ ho u hu => ?_⟩
  · rw [hst.written.head] at hu
    cases hu
    rw [hr, Kind.adopted_stamp] at ha
    rw [hr, Kind.bound_stamp] at hx
    rw [hown] at ho
    exact h.written hO hcur hmay hmark ha hx ho
  · rw [hst.written.head] at hu
    cases hu
    rw [hown] at ho
    have hx := hO.all_written hK hc hhead hmay _ ho
    rw [hr, Kind.adopted_stamp]
    cases ha : K.adopted v with
    | false => rfl
    | true => exact absurd ho (h.written hO hcur hmay hmark ha hx)

theorem own_serve_subset {conn : ResolvedInstance} {req : Api} {a : Service.Result req}
    (hcr : K.creates req = false) :
    ∀ o ∈ (World.serve K lib home w conn req a).own, o ∈ w.own := by
  intro o ho
  unfold World.serve World.without at ho
  dsimp only at ho
  rw [if_neg (by rw [hcr]; exact Bool.false_ne_true)] at ho
  split at ho
  · exact List.mem_of_mem_filter ho
  · exact ho

theorem unmarked_of_move {op : Op Spec Status Api} {rep : Reply Api} (hK : K.ByStatus)
    (h : Unmarked K k₀ w (some s)) (hO : Owned K k₀ w (some s))
    (hG : op.creates K = true → ∀ v ∈ w.store.versions.head?, K.adopted v = false)
    (hm : Moves K lib home w s op rep w' s') : Unmarked K k₀ w' (some s') := by
  have hsame : s'.fresh = s.fresh → ∀ t x, some s' = some t → t.fresh = some x →
      ∃ u, some s = some u ∧ u.fresh = some x := by
    intro hf t x ht hx
    cases ht
    exact ⟨s, rfl, hf.symm.trans hx⟩
  cases hm with
  | quiet hw hstore hcopy hinst hf hd =>
    exact h.shrink hstore (fun o ho => by rw [hw.own] at ho; exact ho) (hsame hf)
  | reads hw hstore v hv hcopy hpend hf hd | resolves hw hstore hcopy hpend hf hd =>
    exact h.shrink hstore (fun o ho => by rw [hw.own] at ho; exact ho) (hsame (hf.trans hpend.symm))
  | writes c v r hc hst hmay hmark hinst hd hout => exact h.write hK hO hc hst hmay hmark
  | patches cur v r hpend hst hb ha hf hd =>
    exact h.rebind hst.written hst.rest (.inl hb) ha (hsame (hf.trans hpend.symm))
  | refused conn req e hop hrep hmay hw hcopy hinst hf hd =>
    subst hw
    exact h.shrink (request_store _ _).1 (fun o ho => by rw [(request_own _ _).1] at ho; exact ho)
      (hsame hf)
  | served conn req a result lost hop hrep hres hmay hw hcopy hinst hout hd =>
    subst hop hw
    have hstore : (World.serve K lib home (World.request K w conn.inst.metadata.key req)
        conn req a).store = w.store :=
      (serve_store conn req a).1.trans (request_store _ _).1
    cases hcr : K.creates req with
    | true =>
      have hclean := hG hcr
      refine ⟨fun v hv ha => ?_, fun t x _ _ _ v hv => ?_⟩
      · rw [hstore] at hv
        rw [hclean v hv] at ha
        cases ha
      · rw [hstore] at hv
        exact hclean v hv
    | false =>
      refine h.shrink hstore (fun o ho => ?_) (hsame ?_)
      · have ho' := own_serve_subset hcr o ho
        rw [(request_own _ _).1] at ho'
        exact ho'
      · rcases hout with ⟨-, hf⟩ | ⟨-, hf⟩
        · cases htake : K.takes req a with
          | none =>
            rw [hf, htake]
            rfl
          | some x =>
            rw [hK.takes req a x htake] at hcr
            cases hcr
        · exact hf

variable (home k₀) in
/-- **Along recording runs that create nothing while the mark is on, no resource bound to its own
object carries the mark.** -/
theorem unmarked_invariant [DecidableEq Spec] [DecidableEq Status]
    {cleared : Option (Status → Status)}
    {reconcile : Ctl Spec Status Api (Result × Option Error)} (hK : K.ByStatus)
    (hc : Clears K cleared) (hf : (K.session lib).wp reconcile (fun _ s => Kind.Final s) {}) :
    Invariant (lifecycle K lib cleared home reconcile) (K.session lib)
      (recordingUnmarked K lib home) {} Kind.Final
      (fun w s? => (Owned K k₀ w s? ∧ ∀ s, s? = some s → Tied w s) ∧ Unmarked K k₀ w s?) := by
  refine (owned_invariant home k₀ hK hc hf).and recordingUnmarked_implies ?_ ?_ ?_ ?_
  · intro w w' e s? _ h _ hx
    exact unmarked_of_shift hK h (shifted hc hx)
  · intro w h
    refine h.shrink rfl (fun _ ho => ho) (fun t x ht hx => ?_)
    cases ht
    cases hx
  · intro w w' s op rep r hO h ha hG hx
    obtain ⟨-, -, hm⟩ := answered (hO.2 s rfl) ha hx
    exact unmarked_of_move hK h hO.1 hG.2 hm
  · intro w s h
    exact h.shrink rfl (fun _ ho => ho) (fun t x ht => (by cases ht))

end

/-! ## What the cleanup sends -/

/-- The cleanup of a resource with something to delete looks for the instance, and if it finds it,
sends the delete. -/
theorem trace_handleDeletion {Spec Status Api : Type} [Service Api] {lib : Ext}
    {instanceRef : Spec → InstanceRef} {target : Resource Spec Status → Option String}
    {delete : String → Api} {cr : Resource Spec Status} {x : String}
    (hfin : containsFinalizer cr.metadata finalizerName = true) (ht : target cr = some x)
    {t : List (Prog.Event (Op Spec Status Api) Op.Resp)} {out : Result × Option Error}
    (h : Prog.Trace (handleDeletion lib instanceRef target delete cr) t out) :
    ∃ t₁ t₂ res, t = t₁ ++ t₂ ∧ Prog.Trace (resolveInstanceForCleanup lib Ctl.client cr.metadata.ns
        (instanceRef cr.spec)).run t₁ res ∧
      ∀ resolved, res = .ok resolved → ∃ r, ⟨.api resolved (delete x), r⟩ ∈ t₂ := by
  unfold handleDeletion at h
  rw [if_pos hfin] at h
  obtain ⟨t', t₃, _, rfl, hup, -⟩ := Prog.trace_bind_iff.mp h
  unfold deleteUpstream at hup
  rw [ht] at hup
  obtain ⟨t₁, t₂, res, rfl, hres, hdel⟩ := Prog.trace_bind_iff.mp hup
  refine ⟨t₁, t₂ ++ t₃, res, List.append_assoc _ _ _, hres, fun resolved hok => ?_⟩
  subst hok
  obtain ⟨r, t₄, rfl, -⟩ := Prog.trace_perform_bind_iff.mp hdel
  exact ⟨r, by simp⟩

theorem target_of_unmarked (n : ApiKind) (hn : n = .team ∨ n = .user) (cr : n.reconciler.CR)
    (h : n.reconciler.kind.adopted cr = false) :
    n.reconciler.target cr = n.reconciler.kind.bound cr := by
  rcases hn with rfl | rfl
  · show Team.target cr = idOf _
    unfold Team.target
    rw [if_neg (by rw [show isAdopted _ = false from h]; exact Bool.false_ne_true)]
    rfl
  · show User.target cr = idOf _
    unfold User.target
    rw [if_neg (by rw [show isAdopted _ = false from h]; exact Bool.false_ne_true)]
    rfl

/-- What the stored resource is bound to, and where. -/
def boundObj {Spec Status Api : Type} [Service Api] (K : Kind Spec Status Api)
    (v : Resource Spec Status) : Option Obj :=
  (K.bound v).map (fun x => (K.refKey v, x))

/-- **Own objects are cleaned up, along recording runs that create nothing while the mark is on.** If
the stored team or user is bound to an object it has created itself, it is not marked as adopted.
So its cleanup, if it has the finalizer and the instance resolves, sends the delete. -/
theorem own_object_cleaned_up (n : ApiKind) (hn : n = .team ∨ n = .user) (lib : Ext)
    (req : NamespacedName) (cr : n.reconciler.CR) (c : n.reconciler.RConf)
    (hr : (n.reconciler.machine lib req).Reaches
      (recordingUnmarked n.reconciler.kind lib req.ns) (n.reconciler.initial cr) c)
    (cur : n.reconciler.CR) (hcur : c.world.store.current = some cur) (o : Obj)
    (ho : boundObj n.reconciler.kind cur = some o) (hown : o ∈ c.world.own) :
    n.reconciler.kind.adopted cur = false ∧
    (containsFinalizer cur.metadata finalizerName = true → ∀ t out,
      Prog.Trace (n.reconciler.cleanup lib cur) t out → ∃ t₁ t₂ res, t = t₁ ++ t₂ ∧
        Prog.Trace (resolveInstanceForCleanup lib Ctl.client cur.metadata.ns
          (n.reconciler.kind.instanceRef cur.spec)).run t₁ res ∧
        ∀ resolved, res = .ok resolved →
          ∃ r, ⟨.api resolved (n.reconciler.delete o.2), r⟩ ∈ t₂) := by
  have hK : n.reconciler.kind.ByStatus := by
    refine n.byStatus ?_ ?_
    · rintro rfl
      simp at hn
    · rintro rfl
      simp at hn
  have hinv := unmarked_invariant req.ns (n.reconciler.kind.refKey cr) hK n.reconciler.clears
    (n.reconciler.follows lib req)
  have hinit : Unmarked n.reconciler.kind (n.reconciler.kind.refKey cr) (World.initial cr) none :=
    ⟨fun v _ _ x _ ho => (by cases ho), fun s x hs => (by cases hs)⟩
  have hholds := hinv.reach (c := n.reconciler.initial cr)
    ⟨⟨owned_initial n.reconciler cr, fun s hs => (by cases hs)⟩, hinit⟩ hr
  obtain ⟨s?, ⟨hO, -⟩, hU⟩ : ∃ s?, (Owned n.reconciler.kind (n.reconciler.kind.refKey cr) c.world s?
      ∧ ∀ s, s? = some s → Tied c.world s) ∧
      Unmarked n.reconciler.kind (n.reconciler.kind.refKey cr) c.world s? := by
    unfold Invariant.Holds at hholds
    split at hholds
    · exact ⟨none, hholds⟩
    · obtain ⟨s, hs, -⟩ := hholds
      exact ⟨some s, hs⟩
  obtain ⟨x, hx, rfl⟩ := Option.map_eq_some_iff.mp ho
  rw [hO.key cur (Store.mem_of_current hcur)] at hown
  have hclean : n.reconciler.kind.adopted cur = false := by
    cases ha : n.reconciler.kind.adopted cur with
    | false => rfl
    | true => exact absurd hown (hU.bound cur (Store.head_of_current hcur) ha x hx)
  refine ⟨hclean, fun hfin t out htrace => trace_handleDeletion hfin ?_ htrace⟩
  exact (target_of_unmarked n hn cur hclean).trans hx

theorem own_object_cleaned_up_team : ∃ (c : Reconciler.team.RConf) (cur : Reconciler.team.CR),
      (Reconciler.team.machine Sample.lib ⟨"apps", "team"⟩).Reaches
        (recordingUnmarked Reconciler.team.kind Sample.lib "apps")
        (Reconciler.team.initial Sample.team) c ∧
      c.world.store.current = some cur ∧
      boundObj Reconciler.team.kind cur = some (⟨"apps", "a"⟩, "team-1") ∧
      (⟨"apps", "a"⟩, "team-1") ∈ c.world.own ∧ Reconciler.team.kind.adopted cur = false := by
  have hrun : ((Reconciler.team.machine Sample.lib ⟨"apps", "team"⟩).run
      (recordingUnmarked Reconciler.team.kind Sample.lib "apps")
      (Reconciler.team.initial Sample.team)
      (Sample.teamToCreate ++ Sample.teamRecorded)).map (fun c =>
        (c.world.store.current.bind (boundObj Reconciler.team.kind), c.world.own)) =
      some (some (⟨"apps", "a"⟩, "team-1"), [(⟨"apps", "a"⟩, "team-1")]) := by
    rfl
  obtain ⟨c, hc, hdata⟩ := Option.map_eq_some_iff.mp hrun
  obtain ⟨hbound, hown⟩ := Prod.mk.inj hdata
  obtain ⟨cur, hcur, ho⟩ := Option.bind_eq_some_iff.mp hbound
  have hr := Machine.reaches_of_run _ _ (.refl _) hc
  have hmem : (⟨"apps", "a"⟩, "team-1") ∈ c.world.own := by
    rw [hown]
    exact List.mem_singleton_self _
  exact ⟨c, cur, hr, hcur, ho, hmem, (own_object_cleaned_up .team (.inl rfl) Sample.lib
    ⟨"apps", "team"⟩ Sample.team c hr cur hcur _ ho hmem).1⟩

/-! ## Failed writes -/

/-- Only reconciles, in which only Kubernetes calls fail. LiteLLM answers every request, and
truthfully: it creates what does not exist, and finds what exists. -/
def truthful {Spec Status Api : Type} [Service Api] (K : Kind Spec Status Api) :
    Side Spec Status Api where
  env _ _ := False
  reply w op rep :=
    match op, rep with
    | .api conn req, .served result lost => lost = none ∧
        (∀ a ∈ result req, ∀ x ∈ K.takes req a, (conn.inst.metadata.key, x) ∉ w.objects) ∧
        ∀ x ∈ K.finds req, (conn.inst.metadata.key, x) ∈ w.objects
    | .api conn req, .fail _ => (K.finds req).isSome = true ∧
        ∀ x ∈ K.finds req, (conn.inst.metadata.key, x) ∉ w.objects
    | _, _ => True
  crash _ := False

instance {Spec Status Api : Type} [Service Api] (K : Kind Spec Status Api) :
    (truthful K).Decides where
  env _ _ := .isFalse id
  reply w op rep := by
    unfold truthful
    rcases op with _ | _ <;> rcases rep with _ | _ <;> infer_instance
  crash _ := .isFalse id

/-- A team is created and both writes that would record its id fail. The next reconcile finds the
team and adopts it. -/
def Sample.teamAdoptsItsOwn : List Reconciler.team.RAction := teamToCreate ++
  [.step (.fail (errorf "timeout")), .step (.fail (errorf "timeout")),
    .start, .step (.cached 0), .step (.found found), .step (.found found),
    .step (.served teamServed none), .step .done, .step .done,
    .step (.served teamServed none), .step .done,
    .step (.served teamServed none), .step (.served teamServed none), .step .done]

/-- **A resource can adopt its own object.** After failed writes of its status, a team is bound to
the team it has created itself and carries the adopted mark, so its cleanup leaves the team
behind. -/
theorem own_object_adopted : ¬ ∀ (n : ApiKind), n = .team ∨ n = .user →
      ∀ (lib : Ext) (req : NamespacedName) (cr : n.reconciler.CR) (c : n.reconciler.RConf),
      (n.reconciler.machine lib req).Reaches (truthful n.reconciler.kind)
        (n.reconciler.initial cr) c → ∀ cur, c.world.store.current = some cur → ∀ o,
      boundObj n.reconciler.kind cur = some o → o ∈ c.world.own →
      n.reconciler.kind.adopted cur = false := by
  intro hall
  have hrun : ((Reconciler.team.machine Sample.lib ⟨"apps", "team"⟩).run
      (truthful Reconciler.team.kind) (Reconciler.team.initial Sample.team)
      Sample.teamAdoptsItsOwn).map (fun c =>
        (c.world.store.current.map (fun v =>
          (boundObj Reconciler.team.kind v, Reconciler.team.kind.adopted v)), c.world.own)) =
      some (some (some (⟨"apps", "a"⟩, "team-1"), true), [(⟨"apps", "a"⟩, "team-1")]) := by
    rfl
  obtain ⟨c, hc, hdata⟩ := Option.map_eq_some_iff.mp hrun
  obtain ⟨hcurrent, hown⟩ := Prod.mk.inj hdata
  obtain ⟨cur, hcur, hv⟩ := Option.map_eq_some_iff.mp hcurrent
  obtain ⟨ho, hmarked⟩ := Prod.mk.inj hv
  have hclean := hall .team (.inl rfl) Sample.lib ⟨"apps", "team"⟩ Sample.team c
    (Machine.reaches_of_run _ _ (.refl _) hc) cur hcur _ ho
    (by rw [hown]; exact List.mem_singleton_self _)
  rw [show ApiKind.team.reconciler.kind.adopted cur = true from hmarked] at hclean
  cases hclean

end LitellmOperator
