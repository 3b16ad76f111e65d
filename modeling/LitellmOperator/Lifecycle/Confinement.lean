import LitellmOperator.Lifecycle.Grounds
import LitellmOperator.Lifecycle.Reconcilers

/-! # Which objects are deleted

Teams and users can be bound to an object that was there before them. Such an object must survive
the resource. `World.alien` holds the objects that existed when the resource first asked for
them, and ever since; a version of the resource that is bound to one of these carries the adopted
mark, in every run, because the mark is persisted before the id and is never taken off.
-/

set_option autoImplicit false

namespace LitellmOperator

open Effect Go Kube

section

variable {Spec Status Api : Type} [Service Api] {K : Kind Spec Status Api} {lib : Ext}
variable {home : String} {w : World Spec Status}

variable (K) in
/-- The reference to the instance is never edited, and LiteLLM does not create an object that
exists. -/
def exclusive : Side Spec Status Api where
  env w e :=
    match e with
    | .edit spec => ∀ cur ∈ w.store.current, K.refKey { cur with spec := spec } = K.refKey cur
    | _ => True
  reply w op rep :=
    match op, rep with
    | .api conn req, .served result _ =>
      ∀ a ∈ result req, ∀ x ∈ K.takes req a, (conn.inst.metadata.key, x) ∉ w.objects
    | _, _ => True
  crash _ := True

instance : (exclusive K).Decides where
  env w e := by
    unfold exclusive
    rcases e with _ | _ <;> infer_instance
  reply w op rep := by
    unfold exclusive
    rcases op with _ | _ <;> rcases rep with _ | _ <;> infer_instance
  crash _ := .isTrue trivial

/-! ## Aliens -/

/-- Only existing objects are aliens. -/
def AliensExist (w : World Spec Status) : Prop := ∀ o ∈ w.alien, o ∈ w.objects

/-- The object was asked for, and did not exist then or has gone away since. -/
def NotAlien (w : World Spec Status) (k : NamespacedName) (x : String) : Prop :=
  (k, x) ∈ w.asked ∧ (k, x) ∉ w.alien

/-- A first request for an existing object makes it an alien, and none that was asked for
before. -/
theorem request_aliens (key : NamespacedName) (req : Api) (hw : AliensExist w) :
    AliensExist (World.request K w key req) ∧
      (∀ k x, NotAlien w k x → NotAlien (World.request K w key req) k x) ∧
      (World.request K w key req).objects = w.objects := by
  unfold World.request
  split
  · exact ⟨hw, fun _ _ h => h, rfl⟩
  · rename_i x hx
    split
    · exact ⟨hw, fun _ _ h => h, rfl⟩
    · rename_i hnew
      refine ⟨fun o ho => ?_, fun k y h => ⟨List.mem_cons_of_mem _ h.1, fun ha => ?_⟩, rfl⟩
      · dsimp only at ho ⊢
        split at ho
        · rename_i hex
          rcases List.mem_cons.mp ho with rfl | ho
          · exact hex
          · exact hw o ho
        · exact hw o ho
      · -- what was asked for before is not the new one
        dsimp only at ha
        split at ha
        · rcases List.mem_cons.mp ha with heq | ha
          · rw [← heq] at hnew
            exact hnew h.1
          · exact h.2 ha
        · exact h.2 ha

theorem without_aliens (o : Obj) (hw : AliensExist w) :
    AliensExist (w.without o) ∧ ∀ k x, NotAlien w k x → NotAlien (w.without o) k x := by
  refine ⟨fun p hp => ?_, fun k x h => ⟨h.1, fun ha => h.2 (List.mem_of_mem_filter ha)⟩⟩
  obtain ⟨hp, hne⟩ := List.mem_filter.mp hp
  exact List.mem_filter.mpr ⟨hw p hp, hne⟩

theorem having_aliens (o : Obj) (admitted : Bool) (hw : AliensExist w) :
    AliensExist (w.having o admitted) ∧
      ∀ k x, NotAlien w k x → NotAlien (w.having o admitted) k x :=
  ⟨fun p hp => List.mem_cons_of_mem _ (hw p hp), fun _ _ h => ⟨List.mem_cons_of_mem _ h.1, h.2⟩⟩

variable (K lib home) in
theorem serve_aliens (conn : ResolvedInstance) (req : Api) (a : Service.Result req)
    (hw : AliensExist w) :
    AliensExist (World.serve K lib home w conn req a) ∧
      ∀ k x, NotAlien w k x → NotAlien (World.serve K lib home w conn req a) k x := by
  unfold World.serve
  dsimp only
  split
  · split
    · exact having_aliens _ _ hw
    · exact ⟨hw, fun _ _ h => h⟩
  · split
    · exact without_aliens _ hw
    · exact ⟨hw, fun _ _ h => h⟩

theorem notAlien_serve {conn : ResolvedInstance} {req : Api} {a : Service.Result req} {x : String}
    (hcreates : K.creates req = true) (htakes : K.takes req a = some x) (hw : AliensExist w)
    (hnew : (conn.inst.metadata.key, x) ∉ w.objects) :
    NotAlien (World.serve K lib home w conn req a) conn.inst.metadata.key x := by
  unfold World.serve
  simp only [hcreates, htakes, if_true]
  exact ⟨List.mem_cons_self, fun ha => hnew (hw _ ha)⟩

/-- Not being an alien is grounds for being bound, for a kind that only records what it creates and
is bound by its status. -/
theorem grounds_notAlien (htakes : ∀ req a x, K.takes req a = some x → K.creates req = true)
    (hbound : ∀ (cur : Resource Spec Status) (spec : Spec),
      K.bound { cur with spec := spec } = K.bound cur) :
    Grounds K lib home (exclusive K) AliensExist NotAlien where
  frame w w' hf hw := by
    refine ⟨fun o ho => ?_, fun k x h => ?_⟩
    · rw [hf.alien] at ho
      rw [hf.objects]
      exact hw o ho
    · unfold NotAlien
      rw [hf.asked, hf.alien]
      exact h
  request w key req hw := ⟨(request_aliens key req hw).1, (request_aliens key req hw).2.1⟩
  serve w conn req a result lost hw _ _ := by
    obtain ⟨hw₁, hP₁, -⟩ := request_aliens (K := K) conn.inst.metadata.key req hw
    obtain ⟨hw₂, hP₂⟩ := serve_aliens K lib home conn req a hw₁
    exact ⟨hw₂, fun k x h => hP₂ k x (hP₁ k x h)⟩
  take w conn req a result lost x hw hG hres htake _ := by
    obtain ⟨hw₁, -, hobj⟩ := request_aliens (K := K) conn.inst.metadata.key req hw
    refine notAlien_serve (htakes req a x htake) htake hw₁ ?_
    rw [hobj]
    exact hG a hres x htake
  appear w o hw _ := ⟨fun p hp => List.mem_cons_of_mem _ (hw p hp), fun _ _ h => h⟩
  vanish w o hw := without_aliens o hw
  edit w spec cur hG hcur := .inr (.inr ⟨hbound cur spec, hG cur hcur⟩)

end

/-! ## Teams and users -/

theorem takes_creates_of_adopting (n : ApiKind) (hn : n = .team ∨ n = .user)
    (req : n.reconciler.Api) (a : Service.Result req) (x : String)
    (h : n.reconciler.kind.takes req a = some x) : n.reconciler.kind.creates req = true := by
  rcases hn with rfl | rfl
  all_goals rcases req <;> first
    | rfl
    | cases h

/-- **Adopted objects are never deleted.** For teams and users, whatever fails and whatever the
config sync clears: an object about to be deleted was asked for by the resource, and it is not one
that has existed ever since before the first such request. -/
theorem alien_never_deleted (n : ApiKind) (hn : n = .team ∨ n = .user) (lib : Ext)
    (req : NamespacedName) (cr : n.reconciler.CR) (hns : cr.metadata.ns = req.ns)
    (hnew : n.reconciler.kind.bound cr = none) (c : n.reconciler.RConf)
    (hr : (n.reconciler.machine lib req).Reaches (exclusive n.reconciler.kind)
      (n.reconciler.initial cr) c)
    (o : Obj) (ho : pendingDelete n.reconciler.kind c = some o) :
    o ∈ c.world.asked ∧ o ∉ c.world.alien := by
  have hg : Grounds n.reconciler.kind lib req.ns (exclusive n.reconciler.kind) AliensExist
      NotAlien := by
    refine grounds_notAlien (takes_creates_of_adopting n hn) ?_
    rcases hn with rfl | rfl <;> exact fun _ _ => rfl
  refine (hg.of_delete n.reconciler.clears (n.reconciler.follows lib req) ?_ hr ho).2
  refine ⟨fun o ho => (by cases ho), fun v hv => ?_, fun v hv x hx => ?_,
    fun _ hs => (by cases hs), fun _ _ hs => (by cases hs)⟩
  · rw [List.mem_singleton.mp hv]
    exact hns
  · rw [List.mem_singleton.mp hv, hnew] at hx
    cases hx

/-- A team that is created, and deleted later on. -/
theorem alien_never_deleted_team : ∃ c : Reconciler.team.RConf,
      (Reconciler.team.machine Sample.lib ⟨"apps", "team"⟩).Reaches
        (exclusive Reconciler.team.kind) (Reconciler.team.initial Sample.team) c ∧
      pendingDelete Reconciler.team.kind c = some (⟨"apps", "a"⟩, "team-1") ∧
      (⟨"apps", "a"⟩, "team-1") ∈ c.world.asked ∧ (⟨"apps", "a"⟩, "team-1") ∉ c.world.alien := by
  have hrun : ((Reconciler.team.machine Sample.lib ⟨"apps", "team"⟩).run
      (exclusive Reconciler.team.kind) (Reconciler.team.initial Sample.team)
      (Sample.teamToCreate ++ Sample.teamRecorded ++ Sample.teamRemoved)).map
        (pendingDelete Reconciler.team.kind) = some (some (⟨"apps", "a"⟩, "team-1")) := by
    rfl
  obtain ⟨c, hc, ho⟩ := Option.map_eq_some_iff.mp hrun
  have hr := Machine.reaches_of_run _ _ (.refl _) hc
  exact ⟨c, hr, ho, alien_never_deleted .team (.inl rfl) Sample.lib ⟨"apps", "team"⟩
    Sample.team rfl rfl c hr _ ho⟩

/-! ## What a finalizer deletes

A resource that is being deleted has its object deleted on the instance its spec refers to *then*,
without the allowedNamespaces check. Nothing keeps a tenant from editing the reference, or the
name by which a customer or a credential goes, after the object was created. So the object
deleted need not be one the resource has created. It is one, if every edit keeps what the
resource is bound to and where, and if credentials are not taken over from others.
-/

section

variable {Spec Status Api : Type} [Service Api] {K : Kind Spec Status Api} {lib : Ext}
variable {home : String} {w : World Spec Status}

/-! ## The side condition -/

/-- With the new spec the resource is unbound or has adopted its object, or it is bound to the same
object on the same instance as before. -/
def Kind.Steady (K : Kind Spec Status Api) (cur : Resource Spec Status) (spec : Spec) : Prop :=
  K.bound { cur with spec := spec } = none ∨ K.adopted cur = true ∨
    (K.bound { cur with spec := spec } = K.bound cur ∧
      K.refKey { cur with spec := spec } = K.refKey cur)

instance (cur : Resource Spec Status) (spec : Spec) : Decidable (K.Steady cur spec) :=
  inferInstanceAs (Decidable (_ ∨ _ ∨ _ ∧ _))

/-- What the request lets the resource record is created by it, or was before. -/
def Kind.Produces (K : Kind Spec Status Api) (w : World Spec Status) (key : NamespacedName)
    (req : Api) (a : Service.Result req) : Prop :=
  K.creates req = true ∨ ∀ x ∈ K.takes req a, (key, x) ∈ w.created

instance (key : NamespacedName) (req : Api) (a : Service.Result req) :
    Decidable (K.Produces w key req a) :=
  inferInstanceAs (Decidable (_ ∨ ∀ x ∈ K.takes req a, _))

variable (K) in
/-- Every edit is steady, and only what the resource creates is bound. -/
def confined : Side Spec Status Api where
  env w e :=
    match e with
    | .edit spec => ∀ cur ∈ w.store.current, K.Steady cur spec
    | _ => True
  reply w op rep :=
    match op, rep with
    | .api conn req, .served result _ =>
      ∀ a ∈ result req, K.Produces w conn.inst.metadata.key req a
    | _, _ => True
  crash _ := True

instance : (confined K).Decides where
  env w e := by
    unfold confined
    rcases e with _ | _ <;> infer_instance
  reply w op rep := by
    unfold confined
    rcases op with _ | _ <;> rcases rep with _ | _ <;> infer_instance
  crash _ := .isTrue trivial

/-! ## Created objects are remembered -/

theorem request_created (key : NamespacedName) (req : Api) :
    (World.request K w key req).created = w.created := by
  unfold World.request
  split
  · rfl
  · split <;> rfl

theorem created_serve (conn : ResolvedInstance) (req : Api) (a : Service.Result req) {o : Obj}
    (h : o ∈ w.created) : o ∈ (World.serve K lib home w conn req a).created := by
  unfold World.serve World.having World.without
  dsimp only
  split
  · split
    · dsimp only
      split
      · exact List.mem_cons_of_mem _ h
      · exact h
    · exact h
  · split <;> exact h

theorem mem_created_serve {conn : ResolvedInstance} {req : Api} {a : Service.Result req}
    {x : String} (hcreates : K.creates req = true) (htakes : K.takes req a = some x)
    (hadm : admits lib conn.inst home K.kind w.ns = true) :
    (conn.inst.metadata.key, x) ∈ (World.serve K lib home w conn req a).created := by
  unfold World.serve World.having
  simp [hcreates, htakes, hadm]

/-- Having been created by the admitted resource is grounds for being bound. -/
theorem grounds_created : Grounds K lib home (confined K) (fun _ => True)
    (fun w k x => (k, x) ∈ w.created) where
  frame w w' hf _ := ⟨trivial, fun k x h => by rw [hf.created]; exact h⟩
  request w key req _ := ⟨trivial, fun k x h => by rw [request_created]; exact h⟩
  serve w conn req a result lost _ _ _ :=
    ⟨trivial, fun k x h => created_serve conn req a (by rw [request_created]; exact h)⟩
  take w conn req a result lost x _ hG hres htake hadm := by
    rcases hG a hres with hcreates | hold
    · refine mem_created_serve hcreates htake ?_
      rw [(request_store _ _).2]
      exact hadm
    · refine created_serve conn req a ?_
      rw [request_created]
      exact hold x htake
  appear w o _ _ := ⟨trivial, fun k x h => h⟩
  vanish w o _ := ⟨trivial, fun k x h => h⟩
  edit w spec cur hG hcur := hG cur hcur

end

/-! ## Confinement -/

/-- **Finalizer confinement, under steady edits.** For each kind with an object in LiteLLM, whatever
fails, and whatever happens to the instances: if edits are steady and only what the resource
creates is bound, an object about to be deleted was created by this resource, after the instance it
is on had admitted the resource. -/
theorem delete_confined (n : ApiKind) (lib : Ext) (req : NamespacedName) (cr : n.reconciler.CR)
    (hns : cr.metadata.ns = req.ns) (hnew : n.reconciler.kind.bound cr = none)
    (c : n.reconciler.RConf)
    (hr : (n.reconciler.machine lib req).Reaches (confined n.reconciler.kind)
      (n.reconciler.initial cr) c)
    (o : Obj) (ho : pendingDelete n.reconciler.kind c = some o) : o ∈ c.world.created := by
  refine (grounds_created.of_delete n.reconciler.clears (n.reconciler.follows lib req) ?_ hr ho).2
  refine ⟨trivial, fun v hv => ?_, fun v hv x hx => ?_, fun _ hs => (by cases hs),
    fun _ _ hs => (by cases hs)⟩
  · rw [List.mem_singleton.mp hv]
    exact hns
  · rw [List.mem_singleton.mp hv, hnew] at hx
    cases hx

/-- An organization that is created, and deleted without an edit in between. -/
theorem delete_confined_organization : ∃ c : Reconciler.organization.RConf,
      (Reconciler.organization.machine Sample.lib ⟨"apps", "org"⟩).Reaches
        (confined Reconciler.organization.kind)
        (Reconciler.organization.initial (Sample.organization "a")) c ∧
      pendingDelete Reconciler.organization.kind c = some (⟨"apps", "a"⟩, "org-1") ∧
      (⟨"apps", "a"⟩, "org-1") ∈ c.world.created := by
  have hrun : ((Reconciler.organization.machine Sample.lib ⟨"apps", "org"⟩).run
      (confined Reconciler.organization.kind)
      (Reconciler.organization.initial (Sample.organization "a"))
      (Sample.organizationCreated ++ Sample.organizationRemoved)).map
        (pendingDelete Reconciler.organization.kind) = some (some (⟨"apps", "a"⟩, "org-1")) := by
    rfl
  obtain ⟨c, hc, ho⟩ := Option.map_eq_some_iff.mp hrun
  have hr := Machine.reaches_of_run _ _ (.refl _) hc
  exact ⟨c, hr, ho, delete_confined .organization Sample.lib ⟨"apps", "org"⟩
    (Sample.organization "a") rfl rfl c hr _ ho⟩

/-- Tenants edit and delete the resource, and nothing else happens but reconciles. -/
def tenantsOnly {Spec Status Api : Type} [Service Api] : Side Spec Status Api where
  env _ e :=
    match e with
    | .edit _ | .remove => True
    | _ => False
  reply _ _ _ := True
  crash _ := True

instance {Spec Status Api : Type} [Service Api] : (tenantsOnly : Side Spec Status Api).Decides where
  env w e := by
    unfold tenantsOnly
    rcases e with _ | _ <;> infer_instance
  reply _ _ _ := .isTrue trivial
  crash _ := .isTrue trivial

/-- **Finalizers are not confined.** An organization is created on one instance; its reference is
edited to another instance, and it is deleted. The reconcile sends the delete to the second
instance, where the resource has created nothing. -/
theorem delete_not_confined :
    ¬ ∀ (n : ApiKind) (lib : Ext) (req : NamespacedName) (cr : n.reconciler.CR),
      cr.metadata.ns = req.ns → n.reconciler.kind.bound cr = none → ∀ c : n.reconciler.RConf,
      (n.reconciler.machine lib req).Reaches tenantsOnly (n.reconciler.initial cr) c →
      ∀ o, pendingDelete n.reconciler.kind c = some o → o ∈ c.world.created := by
  intro hall
  have hrun : ((Reconciler.organization.machine Sample.lib ⟨"apps", "org"⟩).run
      tenantsOnly (Reconciler.organization.initial (Sample.organization "a"))
      (Sample.organizationCreated ++ .env (.edit (Sample.organization "b").spec) ::
        Sample.organizationRemoved)).map
        (fun c => (pendingDelete Reconciler.organization.kind c, c.world.created)) =
      some (some (⟨"apps", "b"⟩, "org-1"), [(⟨"apps", "a"⟩, "org-1")]) := by
    rfl
  obtain ⟨c, hc, hdata⟩ := Option.map_eq_some_iff.mp hrun
  obtain ⟨ho, hcreated⟩ := Prod.mk.inj hdata
  have hmem := hall .organization Sample.lib ⟨"apps", "org"⟩ (Sample.organization "a") rfl rfl c
    (Machine.reaches_of_run _ _ (.refl _) hc) _ ho
  rw [hcreated] at hmem
  exact absurd hmem (by decide)

/-! ## Requests and specs in every run

In every run of the eight reconciles, whatever fails and whoever writes in between: a request goes
to the instance that the resource refers to, after that instance has admitted it, or it deletes the
object of a resource that is being deleted; no write is blind, and none changes a spec. Nor does a
reconcile send a request before the finalizer is stored.
-/

section

variable {Spec Status Api : Type} [Service Api] {K : Kind Spec Status Api} {lib : Ext}
variable {home : String} {S : Spec → Prop} {w w' : World Spec Status} {s s' : Session Spec Status}
variable {cur v r : Resource Spec Status}

/-- Every version is in the namespace `home` and has a spec in `S`. -/
def Enrolled (home : String) (S : Spec → Prop) (w : World Spec Status) : Prop :=
  ∀ v ∈ w.store.versions, v.metadata.ns = home ∧ S v.spec

theorem Enrolled.of_written (h : Enrolled home S w)
    (hw : Store.Written w.store cur v r w'.store) (hns : v.metadata.ns = cur.metadata.ns)
    (hS : S v.spec) : Enrolled home S w' := by
  intro u hu
  rcases hw.only u hu with rfl | hu
  · obtain ⟨rv, gen, rfl⟩ := hw.stored
    exact ⟨hns.trans (h cur (Store.mem_of_current hw.was)).1, hS⟩
  · exact h u hu

theorem Enrolled.of_stores (h : Enrolled home S w) (hst : Stores w cur v r w') :
    Enrolled home S w' := by
  refine h.of_written hst.written hst.ns ?_
  rw [hst.spec]
  exact (h cur (Store.mem_of_current hst.written.was)).2

theorem Enrolled.of_store (h : Enrolled home S w) (hstore : w'.store = w.store) :
    Enrolled home S w' := by
  unfold Enrolled
  rw [hstore]
  exact h

theorem Enrolled.of_move {op : Op Spec Status Api} {rep : Reply Api} (h : Enrolled home S w)
    (hm : Moves K lib home w s op rep w' s') : Enrolled home S w' := by
  cases hm with
  | quiet _ hstore | reads _ hstore | resolves _ hstore => exact h.of_store hstore
  | writes c v r _ hst | patches cur v r _ hst => exact h.of_stores hst
  | refused conn req e _ _ _ hw => exact h.of_store (hw ▸ (request_store _ _).1)
  | served conn req a _ _ _ _ _ _ hw =>
    exact h.of_store (hw ▸ (serve_store _ _ _).1.trans (request_store _ _).1)

theorem Enrolled.of_shift {e : Env Spec} (h : Enrolled home S w) (hx : Shifts K w e w')
    (hedit : ∀ spec, e = .edit spec → S spec) : Enrolled home S w' := by
  cases hx with
  | edits spec cur r _ hw => exact h.of_written hw rfl (hedit spec rfl)
  | keeps _ cur v r _ hst | clears _ cur v r _ _ hst => exact h.of_stores hst
  | appears o | vanishes o => exact h.of_store rfl

variable (home) in
theorem enrolled_invariant [DecidableEq Spec] [DecidableEq Status]
    {reconcile : Ctl Spec Status Api (Result × Option Error)} {cleared : Option (Status → Status)}
    {G : Side Spec Status Api} (hc : Clears K cleared)
    (hf : (K.session lib).wp reconcile (fun _ s => Kind.Final s) {})
    (hG : ∀ w spec, G.env w (.edit spec) → S spec) :
    Invariant (lifecycle K lib cleared home reconcile) (K.session lib) G {} Kind.Final
      (fun w s? => Enrolled home S w ∧ ∀ s, s? = some s → Tied w s) where
  main := by
    show (K.session lib).wp (reconcile >>= fun _ => pure ()) _ _
    rw [Protocol.wp_bind]
    exact hf
  env w w' e s? h he hx := by
    have hshift := shifted hc hx
    exact ⟨h.1.of_shift hshift (fun spec hspec => hG w spec (hspec ▸ he)),
      fun s hs => (h.2 s hs).shift hshift⟩
  start w h := by
    refine ⟨h.1, fun s hs => ?_⟩
    cases hs
    exact Tied.start w
  step w w' s op rep r h ha _ hx := by
    obtain ⟨hexp, ht, hm⟩ := answered (h.2 s rfl) ha hx
    refine ⟨hexp, h.1.of_move hm, fun t hs => ?_⟩
    cases hs
    exact ht
  finish w s h _ := ⟨h.1, fun _ hs => (by cases hs)⟩
  crash w s h _ := ⟨h.1, fun _ hs => (by cases hs)⟩

end

/-- A state of a run of one of the eight reconciles, from the creation of the resource on. -/
structure RunState (n : ApiKind) (lib : Ext) (req : NamespacedName)
    (G : Side n.reconciler.Spec n.reconciler.Status n.reconciler.Api) where
  cr : n.reconciler.CR
  ns : cr.metadata.ns = req.ns
  conf : n.reconciler.RConf
  reached : (n.reconciler.machine lib req).Reaches G (n.reconciler.initial cr) conf

theorem RunState.enrolled {n : ApiKind} {lib : Ext} {req : NamespacedName}
    {G : Side n.reconciler.Spec n.reconciler.Status n.reconciler.Api} (σ : RunState n lib req G)
    (S : n.reconciler.Spec → Prop) (hS : S σ.cr.spec)
    (hG : ∀ w spec, G.env w (.edit spec) → S spec) :
    Invariant.Holds (n.reconciler.kind.session lib) Kind.Final
      (fun w s? => Enrolled req.ns S w ∧ ∀ s, s? = some s → Tied w s) σ.conf := by
  have hinv := enrolled_invariant req.ns n.reconciler.clears (n.reconciler.follows lib req) hG
  refine hinv.reach (c := n.reconciler.initial σ.cr) ⟨fun v hv => ?_, fun _ hs => (by cases hs)⟩
    σ.reached
  rw [List.mem_singleton.mp hv]
  exact ⟨σ.ns, hS⟩

theorem RunState.issued {n : ApiKind} {lib : Ext} {req : NamespacedName}
    (σ : RunState n lib req .free) {op : Op _ _ _} {k : op.Resp → Ctl _ _ _ Unit}
    (hop : σ.conf.running = some (.call op k)) :
    ∃ s, Enrolled req.ns (fun _ => True) σ.conf.world ∧ Tied σ.conf.world s ∧
      n.reconciler.kind.allowed lib s op := by
  have h := σ.enrolled (fun _ => True) trivial (fun _ _ _ => trivial)
  unfold Invariant.Holds at h
  rw [hop] at h
  obtain ⟨s, ⟨hhome, ht⟩, hop, -⟩ := h
  exact ⟨s, hhome, ht s rfl, hop⟩

def Sample.renamedOrganization : LiteLLMOrganizationSpec :=
  { (organization "a").spec with organizationAlias := "renamed" }

/-- The state that a run of the reconcile of the sample organization ends in. -/
def Sample.stateAfter (G : Side LiteLLMOrganizationSpec LiteLLMOrganizationStatus OrganizationApi)
    [G.Decides] (acts : List Reconciler.organization.RAction)
    (h : ((Reconciler.organization.machine lib ⟨"apps", "org"⟩).run G
      (Reconciler.organization.initial (organization "a")) acts).isSome = true) :
    RunState .organization lib ⟨"apps", "org"⟩ G :=
  ⟨organization "a", rfl, _, Machine.reaches_of_run (G := G)
    (Reconciler.organization.machine lib ⟨"apps", "org"⟩) acts (.refl _) (Option.some_get h).symm⟩

/-- The request about to be sent, if there is one, goes to the instance that a version of the
resource refers to. That version is admitted there; or it is being deleted, and the request deletes
an object that a version is bound to and that was not adopted. -/
def Reconciler.Warranted (R : Reconciler) (lib : Ext) (home : String) (c : R.RConf) : Prop :=
  match c.running with
  | some (.call (.api conn call) _) => ∃ v ∈ c.world.store.versions,
      conn.inst.metadata.key = R.kind.refKey v ∧
      if v.metadata.deleting then ∃ x, R.kind.deletes call = some x ∧
        ∃ u ∈ c.world.store.versions, R.kind.bound u = some x ∧ R.kind.adopted u = false
      else admits lib conn.inst home R.kind.kind c.world.ns = true
  | _ => True

/-- **No request without admission.** -/
theorem request_warranted (n : ApiKind) (lib : Ext) (req : NamespacedName)
    (σ : RunState n lib req .free) : n.reconciler.Warranted lib req.ns σ.conf := by
  unfold Reconciler.Warranted
  split
  · rename_i conn call k hop
    obtain ⟨s, hhome, ht, v, c, hconn, hc, hdel, -, hmay⟩ := σ.issued hop
    have hv := ht.subj _ _ hconn.inst
    refine ⟨v, hv, hconn.key, ?_⟩
    split
    · rename_i hdeleting
      obtain ⟨x, hx⟩ := Option.isSome_iff_exists.mp (hdel hdeleting)
      exact ⟨x, hx, c, ht.copy c hc, (hmay x hx).bound, (hmay x hx).notAdopted⟩
    · rename_i hlive
      rw [← (hhome v hv).1, ← ht.ns _ _ hconn.inst]
      exact hconn.admitted (Bool.eq_false_iff.mpr hlive)
  · trivial

/-- The request that creates the organization is about to be sent. -/
theorem request_warranted_creation : ∃ σ : RunState .organization Sample.lib ⟨"apps", "org"⟩ .free,
    σ.conf.running.any (· matches .call (.api _ (OrganizationApi.create _)) _) = true ∧
      Reconciler.organization.Warranted Sample.lib "apps" σ.conf :=
  ⟨Sample.stateAfter .free (Sample.organizationCreated.take 5) (by decide +kernel), by decide +kernel,
    request_warranted .organization _ ⟨"apps", "org"⟩ _⟩

/-- The write about to be made, if there is one, carries the resource version of a version. An
update keeps the spec of that version, and marks it as having adopted an object only if it had none.
A patch carries no resource version, and never changes what a resource is bound to. -/
def Reconciler.Careful (R : Reconciler) (c : R.RConf) : Prop :=
  match c.running with
  | some (.call (.update obj) _) => ∃ v ∈ c.world.store.versions, obj.rv = v.rv ∧
      obj.spec = v.spec ∧ (R.kind.adopted (v.updated obj) = R.kind.adopted v ∨ R.kind.bound v = none)
  | some (.call (.statusUpdate obj) _) => ∃ v ∈ c.world.store.versions, obj.rv = v.rv
  | some (.call (.statusPatch base obj) _) => ∀ v,
      R.kind.bound (v.withStatus (R.kind.merge base.status obj.status v.status)) = R.kind.bound v
  | _ => True

/-- **No blind write.** -/
theorem write_careful (n : ApiKind) (lib : Ext) (req : NamespacedName)
    (σ : RunState n lib req .free) : n.reconciler.Careful σ.conf := by
  unfold Reconciler.Careful
  split
  · rename_i hop
    obtain ⟨s, -, ht, c, hc, hrv, hspec, hmark, -⟩ := σ.issued hop
    exact ⟨c, ht.copy c hc, hrv, hspec, hmark.imp_right (fun h => h.2.1)⟩
  · rename_i hop
    obtain ⟨s, -, ht, c, hc, hrv, -⟩ := σ.issued hop
    exact ⟨c, ht.copy c hc, hrv⟩
  · rename_i hop
    obtain ⟨s, -, -, -, c, -, hbound⟩ := σ.issued hop
    exact hbound
  · trivial

/-- The id of the new organization is about to be stored. -/
theorem write_careful_creation : ∃ σ : RunState .organization Sample.lib ⟨"apps", "org"⟩ .free,
    σ.conf.running.any (· matches .call (.statusUpdate _) _) = true ∧
      Reconciler.organization.Careful σ.conf :=
  ⟨Sample.stateAfter .free (Sample.organizationCreated.take 6) (by decide +kernel), by decide +kernel,
    write_careful .organization _ _ _⟩

/-- Tenants edit the resource to these specs only. -/
def editing {Spec Status Api : Type} [Service Api] (specs : List Spec) : Side Spec Status Api :=
  ⟨fun _ e => ∀ spec, e = .edit spec → spec ∈ specs, fun _ _ _ => True, fun _ => True⟩

instance {Spec Status Api : Type} [Service Api] [DecidableEq Spec] (specs : List Spec) :
    (editing specs : Side Spec Status Api).Decides where
  env _ e :=
    match e with
    | .edit spec => decidable_of_iff (spec ∈ specs)
        ⟨fun h _ he => by cases he; exact h, fun h => h spec rfl⟩
    | .remove | .clear _ | .drift _ | .appear _ | .vanish _ => .isTrue (fun _ he => by cases he)
  reply _ _ _ := .isTrue trivial
  crash _ := .isTrue trivial

/-- **No reconcile writes a spec.** -/
theorem specs_by_tenants (n : ApiKind) (lib : Ext) (req : NamespacedName)
    (specs : List n.reconciler.Spec) (σ : RunState n lib req (editing specs)) :
    σ.conf.world.store.versions.map (·.spec) ⊆ σ.cr.spec :: specs := by
  have h := σ.enrolled (· ∈ σ.cr.spec :: specs) List.mem_cons_self
    (fun _ spec hspec => List.mem_cons_of_mem _ (hspec spec rfl))
  intro spec hspec
  obtain ⟨v, hv, rfl⟩ := List.mem_map.mp hspec
  unfold Invariant.Holds at h
  split at h
  · exact (h.1 v hv).2
  · obtain ⟨s, hs, -⟩ := h
    exact (hs.1 v hv).2

/-- The organization is created, renamed by a tenant and reconciled again. -/
theorem specs_by_tenants_renamed :
    ∃ σ : RunState .organization Sample.lib ⟨"apps", "org"⟩ (editing [Sample.renamedOrganization]),
      Sample.renamedOrganization ∈ σ.conf.world.store.versions.map (·.spec) ∧
      σ.conf.world.store.versions.map (·.spec) ⊆
        [(Sample.organization "a").spec, Sample.renamedOrganization] :=
  ⟨Sample.stateAfter (editing [Sample.renamedOrganization]) (Sample.organizationCreated ++
      .env (.edit Sample.renamedOrganization) :: Sample.organizationCreated.take 2)
      (by decide +kernel), by decide +kernel,
    specs_by_tenants .organization _ _ _ _⟩

/-! ## The finalizer first -/

section

variable {Spec Status Api : Type} [Service Api]

/-- A request needs a version with the finalizer to have been read or stored. -/
def finalizerFirst : Protocol (Op Spec Status Api) Op.Resp Bool where
  allowed b op :=
    match op with
    | .api _ _ => b = true
    | _ => True
  expects _ _ _ := True
  next b op r :=
    match op, r with
    | .get _, .ok cr => b || containsFinalizer cr.metadata finalizerName
    | .update obj, .ok _ => b || containsFinalizer obj.metadata finalizerName
    | _, _ => b

/-- With the finalizer in place nothing is asked of a program. -/
theorem wp_finalized {α : Type} (p : Ctl Spec Status Api α) :
    finalizerFirst.wp p (fun _ _ => True) true := by
  refine Protocol.wp_mono (Protocol.wp_of_uses (I := (· = true)) (Prog.uses_true p) rfl ?_)
    (fun _ _ _ => trivial)
  rintro op b - rfl
  refine ⟨?_, fun r _ => ?_⟩
  · cases op <;> trivial
  · unfold finalizerFirst
    dsimp only
    split <;> rfl

theorem wp_finalizerFirst {lib : Ext} {instanceRef : Spec → InstanceRef} {delete : String → Api}
    {target : Resource Spec Status → Option String} {req : NamespacedName}
    {found stored : Except Error (Resource Spec Status) → Ctl Spec Status Api (Result × Option Error)}
    (hfound : ∀ e s, finalizerFirst.wp (found (.error e)) (fun _ _ => True) s)
    (hcr : ∀ cr, found (.ok cr) =
      if cr.metadata.deleting then handleDeletion lib instanceRef target delete cr
      else ensureFinalizer cr >>= stored)
    (hstored : ∀ e s, finalizerFirst.wp (stored (.error e)) (fun _ _ => True) s) :
    finalizerFirst.wp (Ctl.get req >>= found) (fun _ _ => True) false := by
  refine ⟨trivial, fun r _ => ?_⟩
  rcases r with e | cr
  · exact hfound e _
  show finalizerFirst.wp (found (.ok cr)) _ (containsFinalizer cr.metadata finalizerName)
  rw [hcr]
  cases hf : containsFinalizer cr.metadata finalizerName with
  | true => exact wp_finalized _
  | false =>
    split
    · simp [handleDeletion, hf]
    · simp only [ensureFinalizer, hf]
      refine ⟨trivial, fun r _ => ?_⟩
      rcases r with e | cr'
      · exact hstored e _
      · have hadd : containsFinalizer (addFinalizer cr.metadata finalizerName) finalizerName := by
          grind [addFinalizer, containsFinalizer]
        simp only [finalizerFirst, hadd]
        exact wp_finalized _

end

/-- **The finalizer first.** No reconcile sends a request unless it has read or stored a version of
the resource with the finalizer. -/
theorem finalizer_before_requests (n : ApiKind) (lib : Ext) (req : NamespacedName) :
    finalizerFirst.wp (n.reconciler.reconcile lib req) (fun _ _ => True) false := by
  cases n <;> exact wp_finalizerFirst (fun _ _ => trivial) (fun _ => rfl) (fun _ _ => trivial)

end LitellmOperator
