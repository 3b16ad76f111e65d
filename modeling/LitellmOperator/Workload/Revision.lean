import LitellmOperator.Instance.Health
import LitellmOperator.Workload.World

/-! # The last successful revision

`reconcileAutoRollback` takes the revision of the Deployment for a good one when as many replicas are
available as there are. In the middle of a rollout the available replicas may all be of the revision
before, so what is recorded need not be good.

The record of the running pass has each lookup of the Deployment. The last but one before the status is
written is that of `reconcileAutoRollback`; the last is for the readiness.
-/

set_option autoImplicit false

namespace LitellmOperator.Workload

open Effect Protocol Go Kube InstanceCtl

/-! ## What the controller reads -/

/-- The instance and the Deployments a pass has read, the last one first. -/
structure RevisionState where
  inst : Option LiteLLMInstance := none
  reads : List (Except Error Deployment) := []

/-- The workload is managed, and a rollout that fails is to be rolled back. -/
def rollsBack (v : LiteLLMInstance) : Bool :=
  workloadManaged v && v.spec.upgrade.any (·.autoRollback)

/-- The revision that is recorded, given what `reconcileAutoRollback` has found if it has looked. -/
def recordedRevision (v : LiteLLMInstance) : Option (Except Error Deployment) → String
  | some (.ok d) =>
    if rollsBack v && deploymentHealthy d then currentRevision d
    else v.status.lastSuccessfulRevision
  | _ => v.status.lastSuccessfulRevision

def revisionProtocol : Protocol InstanceOp InstanceOp.Resp RevisionState where
  allowed s op :=
    match op with
    | .statusUpdate obj => ∃ v, s.inst = some v ∧
        obj.status.lastSuccessfulRevision = recordedRevision v s.reads[1]?
    | _ => True
  expects _ _ _ := True
  next s op out :=
    match op, out with
    | .get _, out => { inst := out.toOption }
    | .getChild .deployment _, out => { s with reads := out :: s.reads }
    | _, _ => s

section

variable {α : Type} {R : α → Prop} {p : InstanceCtl α} {s : RevisionState}

theorem wp_applies (hp : p.Yields InstanceOp.Applies R) {v : Option LiteLLMInstance}
    (hs : s.inst = v) : revisionProtocol.wp p (fun a s' => R a ∧ s'.inst = v) s := by
  refine wp_of_yields hp hs (fun op s' hop hs' => ?_)
  cases op with
  | get _ | statusUpdate _ => exact hop.elim
  | getChild k key =>
    cases k with
    | _ => exact ⟨trivial, fun _ _ => hs'⟩
  | _ => exact ⟨trivial, fun _ _ => hs'⟩

theorem wp_reports (hp : p.Yields InstanceOp.Quiet R) :
    revisionProtocol.wp p (fun a s' => R a ∧ s' = s) s := by
  refine wp_of_yields hp rfl (fun op s' hop hs' => ?_)
  cases op with
  | get _ | statusUpdate _ => exact hop.elim
  | getChild k key =>
    cases k with
    | deployment => exact absurd (by decide) hop
    | _ => exact ⟨trivial, fun _ _ => hs'⟩
  | _ => exact ⟨trivial, fun _ _ => hs'⟩

end

section

variable {inst v : LiteLLMInstance} {s : RevisionState}

/-- The copy that is reported on has the revision that is to be recorded, given the last lookup. -/
structure Recorded (v inst : LiteLLMInstance) (s : RevisionState) : Prop where
  read : s.inst = some v
  spec : inst.spec = v.spec
  revision : inst.status.lastSuccessfulRevision = recordedRevision v s.reads[0]?

theorem recordedRevision_same (h : rollsBack v = false) (out : Option (Except Error Deployment)) :
    recordedRevision v out = v.status.lastSuccessfulRevision := by
  unfold recordedRevision
  split
  · rw [h]
    rfl
  · rfl

theorem rollsBack_of_unmanaged (hspec : inst.spec = v.spec) (h : workloadManaged inst = false) :
    rollsBack v = false := by
  unfold rollsBack
  rw [← workloadManaged_congr hspec, h]
  rfl

theorem wp_rollbackDeployment (hv : rollsBack v = true) (hspec : inst.spec = v.spec)
    (hrevision : inst.status.lastSuccessfulRevision = v.status.lastSuccessfulRevision)
    {dep : Deployment} {rest : List (Except Error Deployment)} (hs : s.inst = some v)
    (hreads : s.reads = .ok dep :: rest) :
    revisionProtocol.wp (rollbackDeployment inst dep) (Recorded v) s := by
  have hrecorded : recordedRevision v s.reads[0]? =
      if deploymentHealthy dep then currentRevision dep else v.status.lastSuccessfulRevision := by
    rw [hreads]
    simp [recordedRevision, hv]
  unfold rollbackDeployment
  split
  · rename_i hhealthy
    exact ⟨hs, hspec, by rw [hrecorded, if_pos hhealthy]⟩
  · rename_i hunhealthy
    rw [if_neg hunhealthy, ← hrevision] at hrecorded
    split
    · refine ⟨trivial, fun time _ => ⟨trivial, fun out _ => ?_⟩⟩
      cases out with
      | error e | ok _ => exact ⟨hs, hspec, hrecorded.symm⟩
    · exact ⟨hs, hspec, hrecorded.symm⟩

theorem wp_recordRevision (hv : workloadManaged v = true) (hspec : inst.spec = v.spec)
    (hrevision : inst.status.lastSuccessfulRevision = v.status.lastSuccessfulRevision)
    (hs : s.inst = some v) :
    revisionProtocol.wp (reconcileAutoRollback inst) (Recorded v) s := by
  unfold reconcileAutoRollback
  rw [hspec]
  split
  · rename_i hoff
    have hnot : rollsBack v = false := by
      unfold rollsBack
      rw [hv]
      simpa using hoff
    exact ⟨hs, hspec, hrevision.trans (recordedRevision_same hnot _).symm⟩
  · rename_i hon
    have hrolls : rollsBack v = true := by
      unfold rollsBack
      rw [hv]
      simpa using hon
    refine wp_getChild.mpr ⟨trivial, fun out _ => ?_⟩
    cases out with
    | error e => exact ⟨hs, hspec, hrevision⟩
    | ok dep => exact wp_rollbackDeployment hrolls hspec hrevision hs rfl

theorem wp_applyWorkload (lib : InstanceExt) (hspec : inst.spec = v.spec)
    (hrevision : inst.status.lastSuccessfulRevision = v.status.lastSuccessfulRevision)
    (hs : s.inst = some v) (labels : StrMap String) (licenseSecretName : String)
    (guardrails : List LiteLLMGuardrail) :
    revisionProtocol.wp (reconcileWorkload lib inst labels licenseSecretName guardrails)
      (fun out s' => Recorded v out.1 s') s := by
  unfold reconcileWorkload
  split
  · rename_i hunmanaged
    have hnot := rollsBack_of_unmanaged hspec (by simpa using hunmanaged)
    exact ⟨hs, hspec, hrevision.trans (recordedRevision_same hnot _).symm⟩
  · rename_i hmanaged
    have hv : workloadManaged v = true := by
      rw [← workloadManaged_congr hspec]
      simpa using hmanaged
    rw [wp_bind]
    refine wp_mono
      (wp_applies (applies_reconcileResources lib inst labels [] licenseSecretName guardrails) hs) ?_
    rintro out s₁ ⟨hout, hs₁⟩
    rw [wp_bind]
    exact wp_recordRevision hv (hout.spec.trans hspec) (hout.revision.trans hrevision) hs₁

variable (r : LiteLLMInstanceReconciler)

theorem wp_applyInstance (hs : s.inst = some v) :
    revisionProtocol.wp (applyInstance r v) (fun out s' => Recorded v out.1 s') s := by
  have hlicense := (yields_reconcileLicense [] v).mono applies_of_within (fun _ h => h)
  unfold applyInstance
  dsimp only
  rw [wp_bind]
  refine wp_mono (wp_applies hlicense hs) ?_
  rintro license s₁ ⟨hl, hs₁⟩
  have hlist := (silent_listGuardrailsForInstance license.1).mono applies_of_within
  rw [wp_bind]
  refine wp_mono (wp_applies hlist.yields hs₁) ?_
  rintro listed s₂ ⟨-, hs₂⟩
  rw [wp_bind]
  refine wp_mono
    (wp_applies (applies_reconcileMigrationStatus r.lib license.1 _ List.not_mem_nil) hs₂) ?_
  rintro inst₁ s₃ ⟨hinst₁, hs₃⟩
  exact wp_applyWorkload r.lib (hinst₁.spec.trans hl.spec) (hinst₁.revision.trans hl.revision) hs₃
    _ _ _

/-! ## Reporting -/

theorem wp_writeRevision (h : Recorded v inst s) (reconcileErr : Option Error) :
    revisionProtocol.wp (updateInstanceStatus r inst reconcileErr) (fun _ _ => True) s := by
  -- a workload that is managed has its Deployment read once more, for the readiness
  have hreadied : revisionProtocol.wp
      (workloadReadiness r { inst with status.endpoint := instanceEndpoint inst })
      (fun inst' s' => inst'.status.lastSuccessfulRevision = inst.status.lastSuccessfulRevision ∧
        s'.inst = some v ∧ recordedRevision v s'.reads[1]? = recordedRevision v s.reads[0]?) s := by
    unfold workloadReadiness
    split
    · refine wp_getChild.mpr ⟨trivial, fun dep _ => ?_⟩
      refine wp_mono (wp_reports (reports_setPodsHealthyCondition _)) ?_
      rintro inst' s' ⟨hinst', rfl⟩
      have hreplicas : (withReplicas { inst with status.endpoint := instanceEndpoint inst }
          dep).status.lastSuccessfulRevision = inst.status.lastSuccessfulRevision := by
        cases dep with
        | error e | ok dep => rfl
      exact ⟨hinst'.revision.trans hreplicas, h.read, rfl⟩
    · rename_i hunmanaged
      unfold unmanagedReadiness
      rw [wp_bind]
      refine wp_mono (wp_reports (quiet_proxyReachable _ r).yields) ?_
      rintro ready s' ⟨-, rfl⟩
      have hnot := rollsBack_of_unmanaged h.spec (eq_false_of_ne_true hunmanaged)
      exact ⟨rfl, h.read, by rw [recordedRevision_same hnot, recordedRevision_same hnot]⟩
  unfold updateInstanceStatus
  rw [wp_bind, describeInstance_eq, wp_bind]
  refine wp_mono hreadied ?_
  rintro inst₁ s₁ ⟨hrevision, hread, hreads⟩
  refine wp_mono (wp_reports (reports_describeReadied inst₁ r reconcileErr)) ?_
  rintro inst₂ s₂ ⟨hinst₂, rfl⟩
  refine ⟨⟨v, hread, ?_⟩, fun _ _ => trivial⟩
  rw [hreads, ← h.revision]
  exact hinst₂.revision.trans hrevision

theorem follows_revision (req : NamespacedName) :
    revisionProtocol.wp (r.reconcile req) (fun _ _ => True) {} := by
  unfold LiteLLMInstanceReconciler.reconcile
  refine wp_get.mpr ⟨trivial, fun out _ => ?_⟩
  rcases out with e | v
  · trivial
  dsimp only
  split
  · unfold handleInstanceDeletion
    split
    · exact ⟨trivial, fun _ _ => trivial⟩
    · trivial
  · split
    · exact ⟨trivial, fun _ _ => trivial⟩
    · rw [reconcileInstance_eq, wp_bind]
      refine wp_mono (wp_applyInstance r rfl) (fun out s h => ?_)
      rw [wp_bind]
      exact wp_mono (wp_writeRevision r h out.2) (fun _ _ _ => trivial)

end

/-! ## Runs -/

/-- The lookups of the Deployment, with what was stored then. -/
abbrev looks (sights : List Sight) : List (Except Error Deployment × Option Deployment) :=
  sights.reduceOption

/-- The rollout of the Deployment is complete: its controller has seen the newest template, and all
desired replicas are of that template and available. -/
def rolloutComplete (d : Deployment) : Bool :=
  d.status.observedGeneration = d.metadata.generation &&
  d.status.replicas = d.spec.replicas.getD 1 &&
  d.status.updatedReplicas = d.status.replicas &&
  d.status.availableReplicas = d.status.replicas

/-- All desired replicas are of this revision and available. -/
def goodRevision (d : Option Deployment) (revision : String) : Bool :=
  d.any (fun d => currentRevision d = revision && rolloutComplete d)

/-- The pass has read the instance that the world says, and its lookups are in the record. -/
def Recalls (w : RecordedWorld) (s : RevisionState) : Prop :=
  ∀ v, s.inst = some v → w.1.read = some v ∧ s.reads = (looks w.2).map Prod.fst

theorem read_of_disturbed {w w' : WorkloadWorld} {e : WorkloadEnv} (h : Disturbed w e w') :
    w'.read = w.read := by
  cases h with
  | _ => rfl

section

variable {w : RecordedWorld} {w' : WorkloadWorld} {s : RevisionState} (h : Recalls w s)
include h

theorem recalls_look {key : NamespacedName} (out : Except Error Deployment) :
    Recalls (w.1, noteSight w.1 (.getChild .deployment key) out w.2)
      (revisionProtocol.next s (.getChild .deployment key) out) :=
  fun v hv => ⟨(h v hv).1, congrArg (List.cons out) (h v hv).2⟩

variable {op : InstanceOp} {out : op.Resp}

theorem recalls_other (hread : w'.read = w.1.read) (hget : ∀ key, op ≠ .get key)
    (hdep : ∀ key, op ≠ .getChild .deployment key) :
    Recalls (w', noteSight w.1 op out w.2) (revisionProtocol.next s op out) := by
  have hsame : Recalls (w', none :: w.2) s :=
    fun v hv => ⟨hread.trans (h v hv).1, (h v hv).2⟩
  cases op with
  | get key => exact absurd rfl (hget key)
  | getChild k key =>
    cases k with
    | deployment => exact absurd rfl (hdep key)
    | _ => exact hsame
  | _ => exact hsame

theorem recalls_step {rep : WorkloadReply} (hx : Answered w.1 op rep out w') :
    Recalls (w', noteSight w.1 op out w.2) (revisionProtocol.next s op out) := by
  cases hx with
  | got hv =>
    intro v hv'
    exact ⟨hv', rfl⟩
  | sawDeployment hd => exact recalls_look h _
  | @failed op e out hout =>
    by_cases hdep : ∃ key, op = .getChild .deployment key
    · obtain ⟨key, rfl⟩ := hdep
      exact recalls_look h out
    · by_cases hget : ∃ key, op = .get key
      · obtain ⟨key, rfl⟩ := hget
        cases hout
        exact fun v hv => by cases hv
      · exact recalls_other h rfl (fun key heq => hget ⟨key, heq⟩) (fun key heq => hdep ⟨key, heq⟩)
  | refused hget hchild => exact recalls_other h rfl hget (hchild _)
  | other hop =>
    refine recalls_other h rfl (fun key heq => ?_) (fun key heq => ?_)
    · subst heq
      cases hop
    · subst heq
      cases hop
  | _ => exact recalls_other h rfl (fun _ heq => by cases heq) (fun _ heq => by cases heq)

end

variable (r : LiteLLMInstanceReconciler) (req : NamespacedName)

theorem recorded_recalls :
    Invariant (recordedLifecycle r req) revisionProtocol Guard.free {} (fun _ => True)
      (fun w s => ∀ t, s = some t → Recalls w t) where
  main := by
    show Protocol.wp _ (r.reconcile req >>= fun _ => pure ()) _ _
    rw [wp_bind]
    exact wp_mono (follows_revision r req) (fun _ _ _ => trivial)
  env w w' e s h _ hx := by
    obtain ⟨w₁, hw₁, rfl⟩ := Option.map_eq_some_iff.mp hx
    intro t ht v hv
    obtain ⟨hread, hreads⟩ := h t ht v hv
    exact ⟨(read_of_disturbed (disturbed_of_env hw₁)).trans hread, hreads⟩
  start w _ := by
    intro t ht v hv
    cases ht
    cases hv
  step w w' s op rep out h _ _ hx := by
    obtain ⟨⟨out', w₁⟩, hw₁, heq⟩ := Option.map_eq_some_iff.mp hx
    cases heq
    refine ⟨trivial, fun t ht => ?_⟩
    cases ht
    exact recalls_step (h s rfl) (answered_of_answer hw₁)
  finish w s _ _ := fun t ht => by cases ht
  crash w s _ _ := fun t ht => by cases ht

/-! ## The revision that is recorded -/

variable (c : RecordedConf)

/-- The status that is about to be written names another revision than the instance as it was read
only if all desired replicas were of that revision and available when `reconcileAutoRollback` read the
Deployment. -/
def NamesGood : Prop :=
  ∀ obj k v, c.running = some (.call (.statusUpdate obj) k) → c.world.1.read = some v →
    obj.status.lastSuccessfulRevision ≠ v.status.lastSuccessfulRevision →
    ∃ look, (looks c.world.2)[1]? = some look ∧
      goodRevision look.2 obj.status.lastSuccessfulRevision = true

/-- If the pass has looked up, possibly in a cache, a Deployment with a new revision and as many
replicas available as there are, then the cache was not behind a change of the revision, and the
controller of the Deployment had observed and scaled it, and replaced every pod. -/
def Steady (w : RecordedWorld) : Prop :=
  ∀ v d stored, w.1.read = some v → (looks w.2)[1]? = some (.ok d, stored) →
    rollsBack v = true → d.status.availableReplicas = d.status.replicas → 0 < d.status.replicas →
    currentRevision d ≠ v.status.lastSuccessfulRevision →
    ∃ d' ∈ stored, currentRevision d' = currentRevision d ∧
      d'.status.observedGeneration = d'.metadata.generation ∧
      d'.status.replicas = d'.spec.replicas.getD 1 ∧
      d'.status.updatedReplicas = d'.status.replicas ∧
      d'.status.availableReplicas = d'.status.replicas

/-- **When the recorded revision is good.** In every run, from any state between two reconciles,
a status about to be written names a good revision, or no other than before, exactly if the lookup of
`reconcileAutoRollback` has not shown a new revision whose replicas are all available before its
rollout was complete. -/
theorem recorded_revision_good (w₀ : RecordedWorld) {c : RecordedConf} {obj : LiteLLMInstance}
    {k : Except Error LiteLLMInstance → Prog InstanceOp InstanceOp.Resp Unit}
    (hc : (recordedLifecycle r req).Reaches Guard.free ⟨w₀, none⟩ c)
    (hop : c.running = some (.call (.statusUpdate obj) k)) : NamesGood c ↔ Steady c.world := by
  have h₀ : Invariant.Holds revisionProtocol (fun _ => True)
      (fun w s => ∀ t, s = some t → Recalls w t) (⟨w₀, none⟩ : RecordedConf) :=
    fun t ht => by cases ht
  obtain ⟨s, hs, v, hv, hobj⟩ := (recorded_recalls r req).reach_issued h₀ hc hop
  obtain ⟨hread, hreads⟩ := hs s rfl v hv
  rw [hreads, List.getElem?_map] at hobj
  constructor
  · intro h v' d stored hv' hlook hrolls havailable hreplicas hnew
    obtain rfl := Option.some.inj (hread.symm.trans hv')
    have hhealthy : deploymentHealthy d = true := by simp [deploymentHealthy, havailable, hreplicas]
    rw [hlook] at hobj
    have hnamed : obj.status.lastSuccessfulRevision = currentRevision d := by
      simpa [recordedRevision, hrolls, hhealthy] using hobj
    obtain ⟨look, hlook', hgood⟩ := h obj k v hop hread (hnamed ▸ hnew)
    obtain rfl := Option.some.inj (hlook'.symm.trans hlook)
    rw [hnamed] at hgood
    simpa [goodRevision, rolloutComplete, Option.any_eq_true, and_assoc] using hgood
  · intro h obj' k' v' hop' hv' hne
    obtain rfl := Option.some.inj (hread.symm.trans hv')
    cases Option.some.inj (hop.symm.trans hop')
    -- a revision that is another than before is the one that was looked up
    rcases hlook : (looks c.world.2)[1]? with _ | ⟨_ | d, stored⟩ <;> rw [hlook] at hobj
    · exact absurd hobj hne
    · exact absurd hobj hne
    · by_cases hcond : (rollsBack v && deploymentHealthy d) = true
      · have hnamed : obj.status.lastSuccessfulRevision = currentRevision d := by
          simpa [recordedRevision, hcond] using hobj
        obtain ⟨hrolls, hhealthy⟩ := Bool.and_eq_true_iff.mp hcond
        unfold deploymentHealthy at hhealthy
        simp only [Bool.and_eq_true, decide_eq_true_eq] at hhealthy
        refine ⟨_, rfl, ?_⟩
        rw [hnamed]
        simpa [goodRevision, rolloutComplete, Option.any_eq_true, and_assoc] using
          h v d stored hread hlook hrolls hhealthy.1 hhealthy.2 (hnamed ▸ hne)
      · refine absurd (hobj.trans ?_) hne
        simp [recordedRevision, hcond]

/-! ## A revision of which nothing runs -/

namespace Sample

def guarded : LiteLLMInstance where
  metadata := { name := "proxy", ns := "apps", resourceVersion := 1, finalizers := [finalizerName] }
  spec := { upgrade := some { autoRollback := true } }
  status := {}

def guardedWorld : RecordedWorld := (⟨.created guarded, .empty, [], [], none⟩, [])

/-- The calls of a pass from where it has looked up the Deployment, and written it perhaps, to where
it writes the status. -/
def upToStatus : List (Action WorkloadReply WorkloadEnv) :=
  calmly 2 ++ [.step (.cached 0), .step (.cached 0)]

def creation : List (Action WorkloadReply WorkloadEnv) :=
  upToDeployment ++ [.step (.fail missing), .step .done] ++ upToStatus ++ calmly 1 ++ [.step .done]

/-- The Deployment controller reports one replica, which is available, on the generation it has
seen. -/
def rollingOut (generation : Nat) (updated : Int) (revision : String) :
    Action WorkloadReply WorkloadEnv :=
  .env (.rollout
    { observedGeneration := generation, replicas := 1, updatedReplicas := updated,
      readyReplicas := 1, availableReplicas := 1 } revision)

/-- The first revision is rolled out. Then a tenant changes the image, a pass writes it to the
Deployment, and the Deployment controller makes a second revision of it; when so many replicas of it
are started, a pass is about to write the status. -/
def secondRevision (updated : Int) : List (Action WorkloadReply WorkloadEnv) :=
  creation ++ [rollingOut 1 1 "1"] ++ [.env (.edit { guarded.spec with image.tag := "v2" })] ++
    upToDeployment ++ [.step (.cached 0), .step .done] ++ upToStatus ++ [.step .done] ++
    [rollingOut 2 updated "2"] ++ upToDeployment ++ [.step (.cached 0)] ++ upToStatus

end Sample

/-- The status about to be written names this revision, another one than before, and so was the
Deployment when it was looked at. -/
def namesRevision (revision : String) (good : Bool) : Bool :=
  match c.running, c.world.1.read, (looks c.world.2)[1]? with
  | some (.call (.statusUpdate obj) _), some v, some look =>
    obj.status.lastSuccessfulRevision = revision && v.status.lastSuccessfulRevision ≠ revision &&
      goodRevision look.2 revision == good
  | _, _, _ => false

theorem exists_of_namesRevision {c : RecordedConf} {revision : String} {good : Bool}
    (h : namesRevision c revision good = true) :
    ∃ obj k v look, c.running = some (.call (.statusUpdate obj) k) ∧
      c.world.1.read = some v ∧ (looks c.world.2)[1]? = some look ∧
      obj.status.lastSuccessfulRevision = revision ∧
      obj.status.lastSuccessfulRevision ≠ v.status.lastSuccessfulRevision ∧
      goodRevision look.2 revision = good := by
  unfold namesRevision at h
  split at h
  · rename_i obj k v look hrunning hread hlook
    simp only [Bool.and_eq_true, decide_eq_true_eq, beq_iff_eq] at h
    obtain ⟨⟨hobj, hv⟩, hgood⟩ := h
    exact ⟨obj, k, v, look, hrunning, hread, hlook, hobj,
      fun heq => hv (heq.symm.trans hobj), hgood⟩
  · cases h

/-- The second revision is recorded while the one replica there is belongs to the first. -/
theorem revision_recorded_early :
    ∃ c, (recordedLifecycle Sample.instanceReconciler ⟨"apps", "proxy"⟩).Reaches Guard.free
        ⟨Sample.guardedWorld, none⟩ c ∧ ¬ NamesGood c := by
  have hrun : ((recordedLifecycle Sample.instanceReconciler ⟨"apps", "proxy"⟩).run Guard.free
      ⟨Sample.guardedWorld, none⟩ (Sample.secondRevision 0)).any
        (fun c => namesRevision c "2" false) = true := by
    decide +kernel
  obtain ⟨c, hc, hnames⟩ := (Option.any_eq_true _ _).mp hrun
  refine ⟨c, Machine.reaches_of_run _ _ (.refl _) hc, fun h => ?_⟩
  obtain ⟨obj, k, v, look, hrunning, hread, hlook, hobj, hne, hbad⟩ :=
    exists_of_namesRevision hnames
  obtain ⟨look', hlook', hgood⟩ := h obj k v hrunning hread hne
  obtain rfl := Option.some.inj (hlook'.symm.trans hlook)
  rw [hobj, hbad] at hgood
  cases hgood

/-- Once its replica is available the second revision is recorded, and good. -/
theorem recorded_revision_good_second :
    ∃ c, (recordedLifecycle Sample.instanceReconciler ⟨"apps", "proxy"⟩).Reaches Guard.free
        ⟨Sample.guardedWorld, none⟩ c ∧ namesRevision c "2" true = true ∧ Steady c.world := by
  have hrun : ((recordedLifecycle Sample.instanceReconciler ⟨"apps", "proxy"⟩).run Guard.free
      ⟨Sample.guardedWorld, none⟩ (Sample.secondRevision 1)).any
        (fun c => namesRevision c "2" true) = true := by
    decide +kernel
  obtain ⟨c, hc, hnames⟩ := (Option.any_eq_true _ _).mp hrun
  have hreach := Machine.reaches_of_run _ _ (.refl _) hc
  obtain ⟨obj, k, v, look, hop, hread, hlook, hobj, hne, hgood⟩ := exists_of_namesRevision hnames
  refine ⟨c, hreach, hnames, (recorded_revision_good Sample.instanceReconciler ⟨"apps", "proxy"⟩
    Sample.guardedWorld hreach hop).mp ?_⟩
  intro obj' k' v' hop' _ _
  cases Option.some.inj (hop.symm.trans hop')
  exact ⟨look, hlook, hobj ▸ hgood⟩

end LitellmOperator.Workload
