import LitellmOperator.Workload.World

/-! # The migration Job and the rollout

A pass looks at the migration Job only to report on it. The Deployment is rolled out all the same,
so a new image goes out before the database is migrated for it, unless the Job had succeeded when the
pass began. And that a migration is done is remembered by its Job alone: when the Job has expired,
the next pass starts another one and takes the condition back.
-/

set_option autoImplicit false

namespace LitellmOperator.Workload

open Effect Go Kube

/-! ## The Job comes before the image -/

/-- The Job that is built from the spec has succeeded. -/
def Migrated (lib : InstanceExt) (w : WorkloadWorld) (v : LiteLLMInstance) : Prop :=
  ∃ j ∈ w.migrated, j.metadata.key = (migrationJob lib v).metadata.key ∧
    j.spec = (migrationJob lib v).spec

instance (lib : InstanceExt) (w : WorkloadWorld) (v : LiteLLMInstance) :
    Decidable (Migrated lib w v) :=
  inferInstanceAs (Decidable (∃ j ∈ w.migrated, _ ∧ _))

/-- The Deployment is created, or its image changes. -/
def ChangesImage (w w' : WorkloadWorld) : Prop := ∃ d', w'.deployment.current = some d' ∧
    ∀ d, w.deployment.current = some d → containerImage d ≠ containerImage d'

/-- If the image changes, the Job of the spec that the reconcile has read had succeeded. -/
def GatesImage (lib : InstanceExt) (w w' : WorkloadWorld) : Prop :=
  ChangesImage w w' → ∃ v, w.read = some v ∧
    (workloadManaged v = true → migrationEnabled v = true → Migrated lib w v)

/-- What the last call of the pass has found, if it has looked up the Deployment. -/
def lastFound (sights : List Sight) : Option (Except Error Deployment) :=
  sights.head?.join.map Prod.fst

/-- The call creates or replaces the Deployment. -/
def WritesDeployment : InstanceOp → Prop
  | .createChild .deployment _ => True
  | .updateChild .deployment _ => True
  | _ => False

/-- A lookup has found no Deployment where there is none, or the stored one with another image than
the spec asks for. -/
def FoundOther (found : Option (Except Error Deployment)) (w : WorkloadWorld) (v : LiteLLMInstance) :
    Prop :=
  match found with
  | some (.error e) => isNotFound e = true ∧ w.deployment.current = none
  | some (.ok d) => w.deployment.current = some d ∧ containerImage d ≠ some (gatewayImage v)
  | none => False

/-- A pass that has read `v` goes ahead of the migration: the Job of `v` has not succeeded, the pass
has just found another image or no Deployment, and its write of the Deployment is carried out. -/
structure Overtakes (lib : InstanceExt) (c : RecordedConf) (rep : WorkloadReply)
    (v : LiteLLMInstance) : Prop where
  read : c.world.1.read = some v
  managed : workloadManaged v = true
  enabled : migrationEnabled v = true
  waiting : ¬ Migrated lib c.world.1 v
  found : FoundOther (lastFound c.world.2) c.world.1 v
  writes : ∃ op k, c.running = some (.call op k) ∧ WritesDeployment op
  carried : rep.Carried

variable {s : WorkloadState}

section

variable {lib : InstanceExt} {w w' : WorkloadWorld} {v : LiteLLMInstance}

/-! ### Images -/

theorem changesImage_created (hnone : w.deployment.current = none) {d : Deployment}
    (hlive : d.metadata.deleting = false) :
    ChangesImage w { w with deployment := w.deployment.push d 1 } := by
  refine ⟨d.stamp w.deployment.nextVersion 1, ?_, fun d' hd' => ?_⟩
  · simp [Store.current, Store.push, hlive]
  · rw [hnone] at hd'
    cases hd'

/-- The image changes if it is another one that is written. -/
theorem changesImage_written (hstays : Stays w)
    {deployment : Store Kube.DeploymentSpec DeploymentStatus} {cur d x : Deployment}
    (hw : w.deployment.Written cur (cur.updated d) x deployment) :
    ChangesImage w { w with deployment := deployment } ↔ containerImage cur ≠ containerImage d := by
  have himage : containerImage x = containerImage d := by
    obtain ⟨rv, gen, rfl⟩ := hw.stored
    rfl
  constructor
  · rintro ⟨d', hd', hne⟩
    obtain rfl := Option.some.inj (hd'.symm.trans (hstays.current_written hw rfl))
    exact himage ▸ hne cur hw.was
  · intro hne
    refine ⟨x, hstays.current_written hw rfl, fun d' hd' => ?_⟩
    obtain rfl := Option.some.inj (hd'.symm.trans hw.was)
    exact himage ▸ hne

theorem not_changesImage (h : w'.deployment = w.deployment) : ¬ ChangesImage w w' := by
  rintro ⟨d, hd, hne⟩
  exact hne d (h ▸ hd) rfl

section

variable {op : InstanceOp} {rep : WorkloadReply} {out : op.Resp}

/-- A step that changes the image is a write of the Deployment after such a lookup. -/
theorem foundOther_of_changesImage (hg : Grounded w (some s))
    (ha : (workloadProtocol lib).allowed s op) (hx : Answered w op rep out w')
    (hchange : ChangesImage w w') : ∃ v, s.inst = some v ∧ FoundOther s.found w v ∧
      WritesDeployment op ∧ rep.Carried := by
  cases hx with
  | createdDeployment hrep hnone =>
    obtain ⟨v, e, hv, -, hfound, hmissing, -, -⟩ := ha
    refine ⟨v, hv, ?_, trivial, hrep⟩
    rw [hfound]
    exact ⟨hmissing, hnone⟩
  | updatedDeployment hrep hrv hw =>
    obtain ⟨v, e, hv, -, he, hrv', hcontent⟩ := ha
    -- the copy that was read carries the current resource version, so it is the current one
    obtain rfl := Store.eq_current hw.was ((hg.2 s rfl).dep e he) (hrv'.symm.trans hrv)
    have hne := (changesImage_written hg.1 hw).mp hchange
    rcases hcontent with ⟨hfound, hrenders⟩ | ⟨-, hkeeps⟩
    · refine ⟨v, hv, ?_, trivial, hrep⟩
      rw [hfound]
      exact ⟨hw.was, hrenders.image ▸ hne⟩
    · exact absurd hkeeps.image.symm hne
  | _ => exact absurd hchange (not_changesImage rfl)

theorem written_of_ok {stored : Except StatusError (Deployment × Store _ _)} {lost : Option Error}
    {r : Except Error Unit} {d : Deployment} {deployment : Store _ _}
    (h : w.writeDeployment stored lost = (r, w')) (hok : stored = .ok (d, deployment)) :
    w' = { w with deployment := deployment } := by
  rw [hok] at h
  cases lost with
  | none | some e => exact (Prod.mk.inj h).2.symm

theorem inst_of_writes (ha : (workloadProtocol lib).allowed s op) (h : WritesDeployment op) :
    ∃ v, s.inst = some v := by
  cases op with
  | createChild k d | updateChild k d =>
    cases k with
    | deployment => exact ha.imp (fun v ⟨e, hv, _⟩ => hv)
    | _ => exact h.elim
  | _ => exact h.elim

/-- After such a lookup a write of the Deployment changes the image. -/
theorem changesImage_of_foundOther (hg : Grounded w (some s))
    (ha : (workloadProtocol lib).allowed s op) (hx : w.answer op rep = some (out, w'))
    (hwrites : WritesDeployment op) (hrep : rep.Carried) (hv : s.inst = some v)
    (hfound : FoundOther s.found w v) : ChangesImage w w' := by
  cases op with
  | createChild k d =>
    cases k with
    | deployment =>
      obtain ⟨v', e, -, -, hf, -, -, hlive⟩ := ha
      rw [hf] at hfound
      have hcreate : w.deployment.create d =
          .ok (Resource.stamp d w.deployment.nextVersion 1, w.deployment.push d 1) := by
        unfold Store.create
        rw [hfound.2]
      have hw' : w' = { w with deployment := w.deployment.push d 1 } := by
        cases rep with
        | done | lost e => exact written_of_ok (Option.some.inj hx) hcreate
        | _ => exact hrep.elim
      rw [hw']
      exact changesImage_created hfound.2 hlive
    | _ => exact hwrites.elim
  | updateChild k d =>
    cases k with
    | deployment =>
      obtain ⟨v', e, hv', -, -, hrv, ⟨hf, hrenders⟩ | ⟨hf, -⟩⟩ := ha
      · rw [hf] at hfound
        obtain rfl := Option.some.inj (hv'.symm.trans hv)
        have hupdate := Store.update_of_current hfound.1 hrv
        have hw' : w' = { w with deployment := (w.deployment.put e (Resource.updated e d)).2 } := by
          cases rep with
          | done | lost e => exact written_of_ok (Option.some.inj hx) hupdate
          | _ => exact hrep.elim
        rw [hw']
        refine (changesImage_written hg.1 (Store.written_put hfound.1 _)).mpr ?_
        rw [hrenders.image]
        exact hfound.2
      · rw [hf] at hfound
        exact hfound.elim
    | _ => exact hwrites.elim
  | _ => exact hwrites.elim

end

/-! ### What the pass has found -/

/-- The protocol state has what the record says, once the instance is read. -/
def Sighted (sights : List Sight) (s : Option WorkloadState) : Prop :=
  ∀ t v, s = some t → t.inst = some v → t.found = lastFound sights

theorem found_next {op : InstanceOp} {out : op.Resp} (sights : List Sight) :
    ((workloadProtocol lib).next s op out).found = lastFound (noteSight w op out sights) := by
  cases op with
  | get key => cases out <;> rfl
  | getChild k key =>
    cases k with
    | deployment => cases out <;> rfl
    | _ => rfl
  | _ => rfl

end

variable (r : LiteLLMInstanceReconciler)

variable (req : NamespacedName)

theorem workload_sighted :
    Invariant (recordedLifecycle r req) (workloadProtocol r.lib) Guard.free {} (fun _ => True)
      (fun w s => Grounded w.1 s ∧ Sighted w.2 s) := by
  refine (workload_grounded r req).recording.and
    ⟨fun _ _ h => h, fun _ _ _ h => h, fun _ h => h⟩ ?_ ?_ ?_ ?_
  · intro w w' e s _ h _ hx
    obtain ⟨w₁, -, rfl⟩ := Option.map_eq_some_iff.mp hx
    exact h
  · intro w _ t v ht hv
    cases ht
    cases hv
  · intro w w' s op rep out _ _ _ _ hx t v ht _
    obtain ⟨⟨_, w₁⟩, -, heq⟩ := Option.map_eq_some_iff.mp hx
    cases heq
    cases ht
    exact found_next w.2
  · intro w s _ t v ht
    cases ht

namespace Sample

/-- An instance that migrates its database by a Job. -/
def migrating : LiteLLMInstance where
  metadata := { name := "proxy", ns := "apps", resourceVersion := 1, finalizers := [finalizerName] }
  spec := { database := { migration := some { enabled := true } } }
  status := {}

def migratingWorld : WorkloadWorld where
  store := .created migrating
  deployment := .empty

def jobKey : NamespacedName := ⟨"apps", "proxy-migrate-digest"⟩

/-- The first pass, up to where the Deployment is created: the Job was created just before. -/
def upToRollout : List (Action WorkloadReply WorkloadEnv) :=
  [.start, .step (.cached 0)] ++ calmly 3 ++ [.step .done, .step .done] ++ calmly 5 ++
    [.step (.fail missing)]

end Sample

namespace Sample

/-- The first pass stops before it creates the Deployment, the Job succeeds, and a second pass is about
to create it. -/
def awaitingRun : List (Action WorkloadReply WorkloadEnv) :=
  upToRollout ++ [.crash, .env (.runJob jobKey { succeeded := 1 }), .start, .step (.cached 0)] ++
    calmly 3 ++ [.step .done] ++ calmly 5 ++ [.step (.fail missing)]

end Sample

/-- The migration of the instance is done, and known to be: its Job has succeeded, and the stored
condition says so. -/
structure Finished (lib : InstanceExt) (inst : LiteLLMInstance) (w : WorkloadWorld) : Prop where
  same : ∀ v ∈ w.store.versions, v.metadata.key = inst.metadata.key ∧ v.spec = inst.spec
  job : ∃ j, w.findJob (migrationJob lib inst).metadata.key = some j ∧ 0 < j.status.succeeded
  ready : ∀ v, w.store.current = some v →
    isStatusConditionTrue v.status.conditions conditionDatabaseReady = true

/-- The spec is not edited, the Job of the instance does not expire, and Jobs can be read. -/
def unexpired (lib : InstanceExt) (inst : LiteLLMInstance) : WorkloadGuard where
  env _ e :=
    match e with
    | .edit _ => False
    | .expireJob key => key ≠ (migrationJob lib inst).metadata.key
    | _ => True
  reply _ op rep :=
    match op, rep with
    | .getChild .job _, .fail _ => False
    | _, _ => True
  crash _ := True

instance (lib : InstanceExt) (inst : LiteLLMInstance) : (unexpired lib inst).Decides where
  env _ e := by
    unfold unexpired
    rcases e with _ | _ <;> infer_instance
  reply _ op rep := by
    unfold unexpired
    cases op with
    | getChild k key => rcases k with _ | _ <;> rcases rep with _ | _ <;> infer_instance
    | _ => exact .isTrue trivial
  crash _ := .isTrue trivial

/-- A Job that the pass has read has succeeded. -/
def SawSuccess (s : Option WorkloadState) : Prop :=
  ∀ t out, s = some t → t.job = some out → ∃ j : Job, out = .ok j ∧ 0 < j.status.succeeded

section

variable {lib : InstanceExt} {inst : LiteLLMInstance} {w w' : WorkloadWorld}

theorem migrationJob_key {v : LiteLLMInstance} (hkey : v.metadata.key = inst.metadata.key)
    (hspec : v.spec = inst.spec) :
    (migrationJob lib v).metadata.key = (migrationJob lib inst).metadata.key := by
  have howned : ∀ x : LiteLLMInstance,
      (migrationJob lib x).metadata.key = ⟨x.metadata.ns, migrationJobName lib x⟩ :=
    fun x => key_owned x .job _
  have hns : v.metadata.ns = inst.metadata.ns := congrArg NamespacedName.ns hkey
  have hname : v.metadata.name = inst.metadata.name := congrArg NamespacedName.name hkey
  have hseed : jobHashSeed lib v = jobHashSeed lib inst := by
    unfold jobHashSeed usesDatabaseImage databaseImage gatewayImage runsAsNonRoot
    rw [hspec]
  have hjob : migrationJobName lib v = migrationJobName lib inst := by
    unfold migrationJobName
    rw [hname, hseed]
  rw [howned, howned, hns, hjob]

theorem Finished.written (h : Finished lib inst w)
    {store : InstanceStore} {cur x v : LiteLLMInstance}
    (hw : w.store.Written cur x v store) (hkey : x.metadata.key = cur.metadata.key)
    (hspec : x.spec = inst.spec)
    (hready : isStatusConditionTrue x.status.conditions conditionDatabaseReady = true) :
    Finished lib inst { w with store := store } where
  same y hy := by
    rcases hw.only y hy with rfl | hy
    · obtain ⟨rv, gen, rfl⟩ := hw.stored
      exact ⟨hkey.trans (h.same cur (Store.mem_of_current hw.was)).1, hspec⟩
    · exact h.same y hy
  job := h.job
  ready y hy := by
    rcases hw.now with hnow | hgone
    · obtain rfl := Option.some.inj (hnow.symm.trans hy)
      obtain ⟨rv, gen, rfl⟩ := hw.stored
      exact hready
    · rw [hgone] at hy
      cases hy

theorem findJob_reportJob {key key' : NamespacedName} (status : JobStatus) (hne : key' ≠ key) :
    (w.reportJob key status).findJob key' = w.findJob key' := by
  unfold WorkloadWorld.findJob WorkloadWorld.reportJob
  induction w.jobs with
  | nil => rfl
  | cons j jobs ih =>
    dsimp only at ih ⊢
    by_cases hj : j.metadata.key = key
    · have hj' : j.metadata.key ≠ key' := fun h => hne (h.symm.trans hj)
      simp [hj, Ne.symm hne] at ih ⊢
      exact ih
    · by_cases hj' : j.metadata.key = key'
      · simp [hj', hne]
      · simp [hj, hj'] at ih ⊢
        exact ih

theorem findJob_expired {key key' : NamespacedName} (hne : key' ≠ key) :
    ({ w with jobs := w.jobs.filter (fun j => j.metadata.key ≠ key) }).findJob key' =
      w.findJob key' := by
  unfold WorkloadWorld.findJob
  dsimp only
  rw [List.find?_filter]
  congr 1
  funext j
  by_cases hj : j.metadata.key = key'
  · simp [hj, hne]
  · simp [hj]

theorem finished_env (h : Finished lib inst w) {e : WorkloadEnv}
    (hG : (unexpired lib inst).env w e) (he : Disturbed w e w') : Finished lib inst w' := by
  obtain ⟨j, hj, hsucc⟩ := h.job
  cases he with
  | edited _ => exact hG.elim
  | scaled _ _ _ | rolledOut _ => exact ⟨h.same, h.job, h.ready⟩
  | ranJob hfound hnot =>
    -- only a Job that has not succeeded is reported on
    refine ⟨h.same, ⟨j, ?_, hsucc⟩, h.ready⟩
    refine (findJob_reportJob _ (fun heq => ?_)).trans hj
    subst heq
    obtain rfl := Option.some.inj (hfound.symm.trans hj)
    omega
  | expiredJob hfound hdone =>
    exact ⟨h.same, ⟨j, (findJob_expired (Ne.symm hG)).trans hj, hsucc⟩, h.ready⟩

theorem finished_step (hmanaged : workloadManaged inst = true)
    (henabled : migrationEnabled inst = true) {op : InstanceOp} {rep : WorkloadReply}
    {out : op.Resp} (hg : Grounded w (some s)) (h : Finished lib inst w)
    (hsaw : SawSuccess (some s)) (ha : (workloadProtocol lib).allowed s op)
    (hG : (unexpired lib inst).reply w op rep) (hx : Answered w op rep out w') :
    Finished lib inst w' ∧ SawSuccess (some ((workloadProtocol lib).next s op out)) := by
  have hs := hg.2 s rfl
  have hsame : ∀ t : WorkloadState, t.job = s.job → SawSuccess (some t) := by
    intro t ht t' out ht' hout
    cases ht'
    exact hsaw s out rfl (ht ▸ hout)
  cases hx with
  | got hv => exact ⟨⟨h.same, h.job, h.ready⟩, hsame _ rfl⟩
  | updated hrv hw =>
    obtain ⟨v, hv, -, -, hspec⟩ := ha
    have hv' := h.same v (hs.inst v hv).1
    have hready := h.ready _ hw.was
    exact ⟨h.written hw rfl (hspec.trans hv'.2) hready, hsame _ rfl⟩
  | reported hrv hw =>
    obtain ⟨v, hv, -, -, htruth⟩ := ha
    have hv' := (h.same v (hs.inst v hv).1).2
    have hcur := (h.same _ (Store.mem_of_current hw.was)).2
    -- the status reports the Job as it was read, and it was read as succeeded
    obtain ⟨out, hout, hreport⟩ := htruth ((workloadManaged_congr hv').trans hmanaged)
      ((migrationEnabled_congr hv').trans henabled)
    obtain ⟨j, hj, hsucc⟩ := hsaw s out rfl hout
    exact ⟨h.written hw rfl hcur (hreport j hj hsucc), hsame _ rfl⟩
  | sawDeployment _ => exact ⟨h, hsame _ rfl⟩
  | createdDeployment _ _ | updatedDeployment _ _ _ => exact ⟨⟨h.same, h.job, h.ready⟩, hsame _ rfl⟩
  | sawJob =>
    refine ⟨h, fun t out ht hout => ?_⟩
    cases ht
    obtain ⟨v, hv, rfl⟩ := ha
    obtain ⟨hkey, hspec⟩ := h.same v (hs.inst v hv).1
    obtain ⟨j, hj, hsucc⟩ := h.job
    obtain rfl := Option.some.inj hout
    refine ⟨j, ?_, hsucc⟩
    unfold WorkloadWorld.readJob
    rw [migrationJob_key hkey hspec, hj]
  | createdJob _ =>
    -- a Job is created after it was not found, but it is there
    obtain ⟨v, e, -, hjob, -, -⟩ := ha
    obtain ⟨j, hj, -⟩ := hsaw s _ rfl hjob
    cases hj
  | failed hf =>
    refine ⟨h, hsame _ ?_⟩
    cases op with
    | get key => cases hf; rfl
    | getChild k key =>
      cases hf
      cases k with
      | job => exact hG.elim
      | _ => rfl
    | _ => rfl
  | refused hget hchild => exact ⟨h, hsame _ (next_job (hchild _))⟩
  | other huntracked =>
    refine ⟨h, hsame _ (next_job ?_)⟩
    rintro key rfl
    cases huntracked

end

theorem workload_finished {inst : LiteLLMInstance} (hmanaged : workloadManaged inst = true)
    (henabled : migrationEnabled inst = true) :
    Invariant (workloadLifecycle r req) (workloadProtocol r.lib) (unexpired r.lib inst) {}
      (fun _ => True) (fun w s => Grounded w s ∧ Finished r.lib inst w ∧ SawSuccess s) :=
  (workload_grounded r req).and ⟨fun _ _ _ => trivial, fun _ _ _ _ => trivial, fun _ _ => trivial⟩
    (fun _ _ _ _ _ h hG he => ⟨finished_env h.1 hG (disturbed_of_env he), h.2⟩)
    (fun _ h => ⟨h.1, fun t out ht hout => by cases ht; cases hout⟩)
    (fun _ _ _ _ _ _ hg h ha hG hx =>
      finished_step hmanaged henabled hg h.1 h.2 ha hG (answered_of_answer hx))
    (fun _ _ h => ⟨h.1, fun t out ht => by cases ht⟩)

/-- **A finished migration stays finished, as long as its Job is kept.** From a state in which the
migration Job of the instance has succeeded and the stored condition says so, in every run with an
unchanging spec in which that Job does not expire and the reads of Jobs are answered, no pass
creates another migration Job, and the condition stays true. -/
theorem migration_stays_finished (inst : LiteLLMInstance) (hmanaged : workloadManaged inst = true)
    (henabled : migrationEnabled inst = true) (w₀ : WorkloadWorld) (hstays : Stays w₀)
    (h₀ : Finished r.lib inst w₀) {c : WorkloadConf}
    (hc : (workloadLifecycle r req).Reaches (unexpired r.lib inst) ⟨w₀, none⟩ c) :
    (∀ v, c.world.store.current = some v →
      isStatusConditionTrue v.status.conditions conditionDatabaseReady = true) ∧
    ∀ j k, c.running ≠ some (.call (.createChild .job j) k) := by
  have hstart : Invariant.Holds (workloadProtocol r.lib) (fun _ => True)
      (fun w s => Grounded w s ∧ Finished r.lib inst w ∧ SawSuccess s)
      (⟨w₀, none⟩ : WorkloadConf) :=
    ⟨⟨hstays, fun t ht => by cases ht⟩, h₀, fun t out ht => by cases ht⟩
  have hinv := workload_finished r req hmanaged henabled
  refine ⟨?_, ?_⟩
  · have hholds := hinv.reach hstart hc
    unfold Invariant.Holds at hholds
    split at hholds
    · exact hholds.2.1.ready
    · obtain ⟨s, hs, -⟩ := hholds
      exact hs.2.1.ready
  · intro j k hrunning
    obtain ⟨s, ⟨-, -, hsaw⟩, v, e, -, hjob, -, -⟩ := hinv.reach_issued hstart hc hrunning
    obtain ⟨j', hj', -⟩ := hsaw s _ rfl hjob
    cases hj'

/-! ### A Job that expires -/

namespace Sample

/-- A pass that finds the Job as it is, and leaves the Deployment alone. -/
def reportingPass (job : List (Action WorkloadReply WorkloadEnv)) :
    List (Action WorkloadReply WorkloadEnv) :=
  [.start, .step (.cached 0)] ++ calmly 3 ++ job ++ calmly 5 ++ [.step (.cached 0)] ++ calmly 2 ++
    [.step (.cached 0)] ++ calmly 1 ++ [.step .done]

def migratingRun : List (Action WorkloadReply WorkloadEnv) :=
  upToRollout ++ [.step .done] ++ calmly 2 ++ [.step (.cached 0)] ++ calmly 1 ++ [.step .done] ++
    [.env (.runJob jobKey { succeeded := 1 })] ++ reportingPass [.step .done]

def expiringRun : List (Action WorkloadReply WorkloadEnv) :=
  [.env (.expireJob jobKey)] ++ reportingPass [.step .done, .step .done]

/-- Whether the stored condition says that the database is ready. -/
def databaseReady (w : WorkloadWorld) : Option Bool :=
  w.store.current.map (fun v => isStatusConditionTrue v.status.conditions conditionDatabaseReady)

end Sample

/-- When the Job that has succeeded expires, the next pass runs another one and takes the condition
back. -/
theorem migration_starts_over :
    ∃ c c', (workloadLifecycle Sample.instanceReconciler ⟨"apps", "proxy"⟩).Reaches unedited
        ⟨Sample.migratingWorld, none⟩ c ∧
      (c.world.jobs.map (·.status.succeeded) = [1] ∧ Sample.databaseReady c.world = some true) ∧
      (workloadLifecycle Sample.instanceReconciler ⟨"apps", "proxy"⟩).Reaches unedited c c' ∧
      c'.world.jobs.map (·.status.succeeded) = [0] ∧
      Sample.databaseReady c'.world = some false := by
  have hrun : ((workloadLifecycle Sample.instanceReconciler ⟨"apps", "proxy"⟩).run unedited
      ⟨Sample.migratingWorld, none⟩ Sample.migratingRun).any (fun c =>
        (c.world.jobs.map (·.status.succeeded) = [1] && Sample.databaseReady c.world = some true) &&
        ((workloadLifecycle Sample.instanceReconciler ⟨"apps", "proxy"⟩).run unedited c
          Sample.expiringRun).any (fun c' =>
            c'.world.jobs.map (·.status.succeeded) = [0] &&
            Sample.databaseReady c'.world = some false)) = true := by
    decide +kernel
  obtain ⟨c, hc, hfacts⟩ := (Option.any_eq_true _ _).mp hrun
  rw [Bool.and_eq_true] at hfacts
  obtain ⟨c', hc', hfacts'⟩ := (Option.any_eq_true _ _).mp hfacts.2
  simp only [Bool.and_eq_true, decide_eq_true_eq] at hfacts hfacts'
  exact ⟨c, c', Machine.reaches_of_run _ _ (.refl _) hc, hfacts.1,
    Machine.reaches_of_run _ _ (.refl _) hc', hfacts'⟩

namespace Sample

/-- The instance reports what its Job has done. -/
def migratedInstance : LiteLLMInstance := migrationCondition migrating (.ok true)

def finishedWorld : WorkloadWorld where
  store := .created migratedInstance
  deployment := .empty
  jobs := [{ migrationJob Sample.instanceLib migrating with status := { succeeded := 1 } }]

end Sample

/-- A pass over an instance whose migration is done. -/
theorem migration_stays_finished_pass :
    ∃ c, (workloadLifecycle Sample.instanceReconciler ⟨"apps", "proxy"⟩).Reaches
        (unexpired Sample.instanceReconciler.lib Sample.migratedInstance)
        ⟨Sample.finishedWorld, none⟩ c ∧ c.world.deployment.current.isSome = true ∧
      ∀ v, c.world.store.current = some v →
        isStatusConditionTrue v.status.conditions conditionDatabaseReady = true := by
  have h₀ : Finished Sample.instanceReconciler.lib Sample.migratedInstance
      Sample.finishedWorld := by
    refine ⟨fun v hv => ?_, ⟨{ migrationJob Sample.instanceLib Sample.migrating with
      status := { succeeded := 1 } }, ?_, by decide⟩, fun v hv => ?_⟩
    · rw [List.mem_singleton.mp hv]
      exact ⟨rfl, rfl⟩
    · decide +kernel
    · obtain rfl := Option.some.inj hv
      exact databaseReady_migrationCondition
  have hstays : Stays Sample.finishedWorld := by
    intro d hd
    cases hd
  have hrun : ((workloadLifecycle Sample.instanceReconciler ⟨"apps", "proxy"⟩).run
      (unexpired Sample.instanceReconciler.lib Sample.migratedInstance)
      ⟨Sample.finishedWorld, none⟩
      ([.start, .step (.cached 0)] ++ Sample.calmly 3 ++ [.step .done] ++ Sample.calmly 5 ++
        [.step (.fail Sample.missing), .step .done] ++ Sample.calmly 2 ++ [.step (.cached 0)] ++
        Sample.calmly 1 ++ [.step .done])).any (fun c => c.world.deployment.current.isSome) =
        true := by
    decide +kernel
  obtain ⟨c, hc, hsome⟩ := (Option.any_eq_true _ _).mp hrun
  have hreach := Machine.reaches_of_run _ _ (.refl _) hc
  exact ⟨c, hreach, hsome, (migration_stays_finished Sample.instanceReconciler ⟨"apps", "proxy"⟩
    Sample.migratedInstance rfl rfl Sample.finishedWorld hstays h₀ hreach).1⟩

end LitellmOperator.Workload
