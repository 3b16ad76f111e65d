import LitellmOperator.Instance.Frame
import LitellmOperator.Kube.Store

/-! # What a pass does to the Deployment and to the migration Job

The instance controller seen by its calls on the instance, its Deployment and its migration Job. The
state is what the pass has read of them. A Deployment that is created, or replaced right after it was
looked up, has the replicas and the image of the instance that was read; another write keeps those
of the Deployment that was read. A Job is created if the Job of the instance was not found; the
status that is written says of the migration what the Job said. `follows_reconcile` shows that the
controller keeps to this.
-/

set_option autoImplicit false

namespace LitellmOperator.Workload

open Effect Protocol Go Kube InstanceCtl

/-! ## The protocol -/

/-- What a pass has read: the instance, how the read of its Job came out, and the Deployment. -/
structure WorkloadState where
  inst : Option LiteLLMInstance := none
  job : Option (Except Error Job) := none
  dep : Option Deployment := none
  /-- What the last call has found, if it has looked up the Deployment. -/
  found : Option (Except Error Deployment) := none

/-- The image of the first container, the proxy. -/
def containerImage (d : Deployment) : Option String :=
  d.spec.template.spec.containers.head?.map (·.image)

/-- The replicas and the image are those the spec asks for. -/
structure Renders (inst : LiteLLMInstance) (d : Deployment) : Prop where
  replicas : d.spec.replicas = some (specReplicas inst)
  image : containerImage d = some (gatewayImage inst)

/-- The replicas and the image are those of the other Deployment. -/
structure Keeps (e d : Deployment) : Prop where
  replicas : d.spec.replicas = e.spec.replicas
  image : containerImage d = containerImage e

/-- The Job that migrates the database for an instance. -/
def migrationJob (lib : InstanceExt) (inst : LiteLLMInstance) : Job :=
  owned inst .job (buildMigrationJob lib inst (labelsForInstance inst.metadata.name))

/-- A Job that was read as succeeded is reported as such. -/
def WorkloadState.Truthful (s : WorkloadState) (inst : LiteLLMInstance) : Prop :=
  ∃ out, s.job = some out ∧ ∀ j : Job, out = .ok j → 0 < j.status.succeeded →
    isStatusConditionTrue inst.status.conditions conditionDatabaseReady = true

def workloadProtocol (lib : InstanceExt) : Protocol InstanceOp InstanceOp.Resp WorkloadState where
  allowed s op :=
    match op with
    | .update obj => ∃ v, s.inst = some v ∧ obj.metadata.key = v.metadata.key ∧ obj.rv = v.rv ∧
        obj.spec = v.spec
    | .statusUpdate obj => ∃ v, s.inst = some v ∧ obj.metadata = v.metadata ∧ obj.spec = v.spec ∧
        (workloadManaged v = true → migrationEnabled v = true → s.Truthful obj)
    | .getChild .job key => ∃ v, s.inst = some v ∧ key = (migrationJob lib v).metadata.key
    | .createChild .deployment d => ∃ v e, s.inst = some v ∧ workloadManaged v = true ∧
        s.found = some (.error e) ∧ isNotFound e = true ∧ Renders v d ∧
        (ChildKind.metadata .deployment d).deleting = false
    | .updateChild .deployment d => ∃ v e, s.inst = some v ∧ workloadManaged v = true ∧
        s.dep = some e ∧ Resource.rv d = e.rv ∧
        (s.found = some (.ok e) ∧ Renders v d ∨ s.found = none ∧ Keeps e d)
    | .createChild .job j => ∃ v e, s.inst = some v ∧ s.job = some (.error e) ∧
        isNotFound e = true ∧ j = migrationJob lib v
    | .updateChild .job _ => False
    | _ => True
  expects _ _ _ := True
  next s op r :=
    match op, r with
    | .get _, .ok v => { s with inst := some v, found := none }
    | .getChild .job _, r => { s with job := some r, found := none }
    | .getChild .deployment _, .ok d => { s with dep := some d, found := some (.ok d) }
    | .getChild .deployment _, .error e => { s with found := some (.error e) }
    | _, _ => { s with found := none }

/-! ## Calls -/

section

variable {State β : Type} {P : Protocol InstanceOp InstanceOp.Resp State}
variable {Q : β → State → Prop} {s : State}

theorem wp_getChild {k : ChildKind} {key : NamespacedName}
    {f : Except Error k.Obj → InstanceCtl β} :
    P.wp (getChild k key >>= f) Q s ↔ P.allowed s (.getChild k key) ∧
      ∀ r : Except Error k.Obj, P.expects s (.getChild k key) r →
        P.wp (f r) Q (P.next s (.getChild k key) r) := Iff.rfl

theorem wp_get {key : NamespacedName} {f : Except Error LiteLLMInstance → InstanceCtl β} :
    P.wp (InstanceCtl.get key >>= f) Q s ↔ P.allowed s (.get key) ∧
      ∀ r : Except Error LiteLLMInstance, P.expects s (.get key) r →
        P.wp (f r) Q (P.next s (.get key) r) := Iff.rfl

end

/-! ## Calls beside the Deployment and the Job -/

section

variable {lib : InstanceExt} {α : Type}

/-- What is known of the instance and the Job in the state. -/
def WorkloadState.Knows (s : WorkloadState) (v : LiteLLMInstance)
    (job : Option (Except Error Job)) : Prop :=
  s.inst = some v ∧ s.job = job

theorem knows_looks {v : LiteLLMInstance} {job : Option (Except Error Job)} (op : InstanceOp)
    (s : WorkloadState) (hop : op.Looks) (hs : s.Knows v job) :
    (workloadProtocol lib).allowed s op ∧ ∀ r, (workloadProtocol lib).expects s op r →
      ((workloadProtocol lib).next s op r).Knows v job := by
  cases op with
  | get _ | update _ | statusUpdate _ | createChild _ _ | updateChild _ _ => exact hop.elim
  | getChild k key =>
    cases k with
    | job => exact absurd rfl hop
    | deployment =>
      refine ⟨trivial, fun r _ => ?_⟩
      cases r with
      | error e | ok d => exact hs
    | _ => exact ⟨trivial, fun _ _ => hs⟩
  | _ => exact ⟨trivial, fun _ _ => hs⟩

theorem knows_within {kinds : List ChildKind} (hdep : .deployment ∉ kinds) (hjob : .job ∉ kinds)
    {v : LiteLLMInstance} {job : Option (Except Error Job)} (op : InstanceOp) (s : WorkloadState)
    (hop : op.Within kinds) (hs : s.Knows v job) :
    (workloadProtocol lib).allowed s op ∧ ∀ r, (workloadProtocol lib).expects s op r →
      ((workloadProtocol lib).next s op r).Knows v job := by
  cases op with
  | createChild k x | updateChild k x =>
    cases k with
    | job => exact absurd hop hjob
    | deployment => exact absurd hop hdep
    | _ => exact ⟨trivial, fun _ _ => hs⟩
  | get _ | update _ | statusUpdate _ => exact hop.elim
  | getChild k key =>
    have hlooks : k ≠ .job := by
      rintro rfl
      exact hop (by decide)
    exact knows_looks (.getChild k key) s hlooks hs
  | _ => exact ⟨trivial, fun _ _ => hs⟩

variable {v : LiteLLMInstance} {job : Option (Except Error Job)} {s : WorkloadState}

variable {p : InstanceCtl α} {R : α → Prop}

theorem wp_aside (hp : p.Yields (InstanceOp.Within sideKinds) R) (hs : s.Knows v job) :
    (workloadProtocol lib).wp p (fun a s' => R a ∧ s'.Knows v job) s :=
  wp_of_yields hp hs (knows_within (by decide) (by decide))

theorem wp_looks (hp : p.Yields InstanceOp.Looks R) (hs : s.Knows v job) :
    (workloadProtocol lib).wp p (fun a s' => R a ∧ s'.Knows v job) s :=
  wp_of_yields hp hs knows_looks

theorem wp_silent (hp : p.Yields InstanceOp.Silent R) (hs : s.Knows v job) :
    (workloadProtocol lib).wp p (fun a s' => R a ∧ s'.Knows v job) s :=
  wp_looks (hp.mono (fun op h => looks_of_quiet op (quiet_of_silent op h)) (fun _ h => h)) hs

/-- All steps of a sequence run, so each has to keep the assertion. -/
theorem wp_lastError {State : Type} {P : Protocol InstanceOp InstanceOp.Resp State}
    {I : State → Prop} {steps : List (InstanceCtl (Option Error))} {s : State}
    (h : ∀ step ∈ steps, ∀ s, I s → P.wp step (fun _ s' => I s') s) (hs : I s) :
    P.wp (lastError steps) (fun _ s' => I s') s := by
  induction steps generalizing s with
  | nil => exact hs
  | cons step steps ih =>
    unfold lastError
    rw [wp_bind]
    refine wp_mono (h step (by simp) s hs) (fun err s' hs' => ?_)
    rw [wp_bind]
    exact wp_mono (ih (fun x hx => h x (by simp [hx])) hs') (fun _ _ h => h)

end

/-! ## The Deployment -/

/-- A later copy of the instance in the same pass: its metadata, its spec and what it says about the
migration are as before. -/
structure SameMigration (inst inst' : LiteLLMInstance) : Prop where
  metadata : inst'.metadata = inst.metadata
  spec : inst'.spec = inst.spec
  databaseReady : findStatusCondition inst'.status.conditions conditionDatabaseReady =
    findStatusCondition inst.status.conditions conditionDatabaseReady

theorem sameMigration_of_retains {inst inst' : LiteLLMInstance}
    (h : Retains [conditionDatabaseReady] inst inst') : SameMigration inst inst' :=
  ⟨h.metadata, h.spec, h.conditions _ (by decide)⟩

namespace SameMigration

variable {inst inst' inst'' : LiteLLMInstance}

theorem refl (inst : LiteLLMInstance) : SameMigration inst inst := ⟨rfl, rfl, rfl⟩

theorem trans (h : SameMigration inst inst') (h' : SameMigration inst' inst'') :
    SameMigration inst inst'' :=
  ⟨h'.metadata.trans h.metadata, h'.spec.trans h.spec, h'.databaseReady.trans h.databaseReady⟩

end SameMigration

section

variable {lib : InstanceExt} {inst v : LiteLLMInstance} {job : Option (Except Error Job)}
variable {s : WorkloadState}

@[simp] theorem stampDigest_spec (key hash : String) (t : PodTemplateSpec) :
    (stampDigest key hash t).spec = t.spec := by
  unfold stampDigest
  split <;> rfl

theorem renders_stamped (labels : StrMap String) (licenseSecretName : String)
    (guardrails : List LiteLLMGuardrail) (secretHash configHash : String) :
    Renders inst
      (stampedDeployment inst labels licenseSecretName guardrails secretHash configHash) := by
  refine ⟨rfl, ?_⟩
  unfold containerImage stampedDeployment
  simp only [stampDigest_spec]
  rfl

theorem deleting_stamped (labels : StrMap String) (licenseSecretName : String)
    (guardrails : List LiteLLMGuardrail) (secretHash configHash : String) :
    (stampedDeployment inst labels licenseSecretName guardrails secretHash
      configHash).metadata.deleting = false := by
  obtain ⟨refs, h⟩ := metadata_owned inst .deployment
    (buildDeployment inst labels licenseSecretName guardrails)
  exact congrArg ObjectMeta.deleting h

theorem Renders.retained {d : Deployment} (h : Renders inst d) (hspec : inst.spec = v.spec) :
    Renders v d := by
  have hreplicas : specReplicas inst = specReplicas v := by unfold specReplicas; rw [hspec]
  have himage : gatewayImage inst = gatewayImage v := by
    unfold gatewayImage runsAsNonRoot
    rw [hspec]
  exact ⟨h.replicas.trans (by rw [hreplicas]), h.image.trans (by rw [himage])⟩

theorem Renders.updated {desired : Deployment} (h : Renders inst desired) (existing : Deployment) :
    Renders inst (updatedDeployment existing desired) :=
  ⟨h.replicas, h.image⟩

theorem wp_applyDeployment {desired : Deployment} (hv : workloadManaged v = true)
    (hr : Renders v desired) (hlive : desired.metadata.deleting = false) (hs : s.Knows v job) :
    (workloadProtocol lib).wp (applyDeployment desired) (fun _ s' => s'.Knows v job) s := by
  unfold applyDeployment
  refine wp_getChild.mpr ⟨trivial, fun r _ => ?_⟩
  cases r with
  | error e =>
    dsimp only
    split
    · rename_i hmissing
      exact ⟨⟨v, e, hs.1, hv, rfl, hmissing, hr, hlive⟩, fun _ _ => hs⟩
    · exact hs
  | ok existing =>
    dsimp only
    split
    · exact hs
    · exact ⟨⟨v, existing, hs.1, hv, rfl, rfl, .inl ⟨rfl, hr.updated existing⟩⟩, fun _ _ => hs⟩

theorem wp_reconcileDeployment (hv : workloadManaged v = true) (hspec : inst.spec = v.spec)
    (labels : StrMap String) (licenseSecretName : String) (guardrails : List LiteLLMGuardrail)
    (hs : s.Knows v job) :
    (workloadProtocol lib).wp (reconcileDeployment lib inst labels licenseSecretName guardrails)
      (fun _ s' => s'.Knows v job) s := by
  unfold reconcileDeployment
  rw [wp_bind]
  refine wp_mono
    (wp_silent (yields_desiredDeployment lib inst labels licenseSecretName guardrails) hs) ?_
  rintro (e | d) s' ⟨hd, hs'⟩
  · exact hs'
  · obtain ⟨secretHash, configHash, rfl⟩ := hd d rfl
    exact wp_applyDeployment hv ((renders_stamped _ _ _ _ _).retained hspec)
      (deleting_stamped _ _ _ _ _) hs'

theorem wp_reconcileCoreResources (hv : workloadManaged v = true) (hspec : inst.spec = v.spec)
    (labels : StrMap String) (licenseSecretName : String) (guardrails : List LiteLLMGuardrail)
    (hs : s.Knows v job) :
    (workloadProtocol lib).wp (reconcileCoreResources lib inst labels licenseSecretName guardrails)
      (fun _ s' => s'.Knows v job) s := by
  -- every step but the one about the Deployment stays aside
  have haside : ∀ {step : InstanceCtl (Option Error)}, step.Uses (InstanceOp.Within sideKinds) →
      ∀ s : WorkloadState, s.Knows v job →
        (workloadProtocol lib).wp step (fun _ s' => s'.Knows v job) s :=
    fun hstep s hs => wp_mono (wp_aside hstep.yields hs) (fun _ _ h => h.2)
  refine wp_lastError (fun step hstep => ?_) hs
  simp only [List.mem_cons, List.not_mem_nil, or_false] at hstep
  rcases hstep with rfl | rfl | rfl | rfl | rfl
  · exact haside (Uses.widen (uses_reconcileSecrets inst) (by decide))
  · exact haside (Uses.widen (uses_reconcileConfigMap lib inst labels guardrails) (by decide))
  · exact haside (Uses.widen (uses_reconcileServiceAccount inst labels) (by decide))
  · exact fun s hs => wp_reconcileDeployment hv hspec labels licenseSecretName guardrails hs
  · exact haside (Uses.widen (uses_reconcileService inst labels) (by decide))

theorem keeps_annotateRollback (dep : Deployment) (time : String) :
    Keeps dep (annotateRollback dep time) :=
  ⟨rfl, rfl⟩

theorem wp_reconcileAutoRollback (hv : workloadManaged v = true) (hs : s.Knows v job) :
    (workloadProtocol lib).wp (reconcileAutoRollback inst)
      (fun inst' s' => SameMigration inst inst' ∧ s'.Knows v job) s := by
  unfold reconcileAutoRollback
  split
  · exact ⟨.refl inst, hs⟩
  · refine wp_getChild.mpr ⟨trivial, fun r _ => ?_⟩
    rcases r with e | dep
    · exact ⟨.refl inst, hs⟩
    dsimp only
    unfold rollbackDeployment
    split
    · exact ⟨⟨rfl, rfl, rfl⟩, hs⟩
    · split
      · -- the rollback keeps the Deployment that was read, but for an annotation
        refine ⟨trivial, fun time _ => ?_⟩
        refine ⟨⟨v, dep, hs.1, hv, rfl, rfl, .inr ⟨rfl, keeps_annotateRollback dep time⟩⟩,
          fun out _ => ?_⟩
        rcases out with e | _
        · exact ⟨.refl inst, hs⟩
        have hset := (Retains.refl [conditionDatabaseReady] inst).setCondition .false
          "AutoRollback" ("Auto-rollback triggered from revision " ++ currentRevision dep ++
            " (last successful: " ++ inst.status.lastSuccessfulRevision ++ ")")
          (show conditionReady ∉ _ by decide)
        exact ⟨sameMigration_of_retains hset, hs⟩
      · exact ⟨.refl inst, hs⟩

theorem wp_reconcileWorkload (hspec : inst.spec = v.spec) (labels : StrMap String)
    (licenseSecretName : String) (guardrails : List LiteLLMGuardrail) (hs : s.Knows v job) :
    (workloadProtocol lib).wp (reconcileWorkload lib inst labels licenseSecretName guardrails)
      (fun out s' => SameMigration inst out.1 ∧ s'.Knows v job) s := by
  unfold reconcileWorkload
  split
  · exact ⟨.refl inst, hs⟩
  · rename_i hmanaged
    have hv : workloadManaged v = true := by
      rw [← workloadManaged_congr hspec]
      simpa using hmanaged
    unfold reconcileResources
    rw [wp_bind, wp_bind]
    refine wp_mono (wp_reconcileCoreResources hv hspec labels licenseSecretName guardrails hs)
      (fun core s₁ hs₁ => ?_)
    rw [wp_bind]
    refine wp_mono
      (wp_aside (yields_reconcileOptionalResources [conditionDatabaseReady] lib inst labels) hs₁) ?_
    rintro optional s₂ ⟨hoptional, hs₂⟩
    rw [wp_pure, wp_bind]
    refine wp_mono (wp_reconcileAutoRollback hv hs₂) ?_
    rintro inst' s₃ ⟨hinst', hs₃⟩
    exact ⟨(sameMigration_of_retains hoptional).trans hinst', hs₃⟩

end

/-! ## The migration -/

section

variable {lib : InstanceExt} {inst v : LiteLLMInstance} {s : WorkloadState}

theorem migrationJob_retains (h : SameMigration v inst) :
    migrationJob lib inst = migrationJob lib v := by
  obtain ⟨m, sp, st⟩ := inst
  obtain ⟨m', sp', st'⟩ := v
  obtain rfl : m = m' := h.metadata
  obtain rfl : sp = sp' := h.spec
  rfl

theorem migrationEnabled_congr (h : inst.spec = v.spec) :
    migrationEnabled inst = migrationEnabled v := by
  unfold migrationEnabled
  rw [h]

/-- The pass is over the migration: the copy reports the Job as it was read. -/
def Migrates (v inst : LiteLLMInstance) (s : WorkloadState) : Prop :=
  inst.metadata = v.metadata ∧ inst.spec = v.spec ∧ s.inst = some v ∧
    (workloadManaged v = true → migrationEnabled v = true → s.Truthful inst)

theorem databaseReady_migrationCondition :
    isStatusConditionTrue (migrationCondition inst (.ok true)).status.conditions
      conditionDatabaseReady = true :=
  isStatusConditionTrue_set_self _ _

theorem wp_reconcileMigrationJob (h : SameMigration v inst) (hs : s.inst = some v) :
    (workloadProtocol lib).wp
      (reconcileMigrationJob lib inst (labelsForInstance inst.metadata.name))
      (fun out s' => s'.inst = some v ∧ ∃ read, s'.job = some read ∧
        ∀ j : Job, read = .ok j → 0 < j.status.succeeded → out = .ok true) s := by
  have hjob : migrationJob lib inst = migrationJob lib v := migrationJob_retains h
  unfold reconcileMigrationJob
  refine wp_getChild.mpr ⟨⟨v, hs, congrArg (fun j : Job => j.metadata.key) hjob⟩, fun r _ => ?_⟩
  cases r with
  | error e =>
    dsimp only
    split
    · rename_i hmissing
      refine ⟨⟨v, e, hs, rfl, hmissing, hjob⟩, fun out _ => ?_⟩
      cases out with
      | error e' | ok _ => exact ⟨hs, _, rfl, fun j hj => by cases hj⟩
    · exact ⟨hs, _, rfl, fun j hj => by cases hj⟩
  | ok existing =>
    dsimp only
    split
    · exact ⟨hs, _, rfl, fun _ _ _ => rfl⟩
    · rename_i hnot
      -- a Job that has not succeeded says nothing here
      have hvacuous : ∀ j : Job, (Except.ok existing : Except Error Job) = .ok j →
          ¬ 0 < j.status.succeeded := by
        rintro j hj
        obtain rfl := Except.ok.inj hj
        exact hnot
      split <;> exact ⟨hs, _, rfl, fun j hj hsucc => absurd hsucc (hvacuous j hj)⟩

theorem wp_reconcileMigrationStatus (h : SameMigration v inst) (hs : s.inst = some v) :
    (workloadProtocol lib).wp
      (reconcileMigrationStatus lib inst (labelsForInstance inst.metadata.name))
      (Migrates v) s := by
  have hset : ∀ reason message,
      (setCondition inst conditionDatabaseReady .true reason message).metadata = v.metadata ∧
      (setCondition inst conditionDatabaseReady .true reason message).spec = v.spec :=
    fun _ _ => ⟨h.metadata, h.spec⟩
  have hmanaged : workloadManaged inst = workloadManaged v := workloadManaged_congr h.spec
  unfold reconcileMigrationStatus
  split
  · rename_i hunmanaged
    refine ⟨(hset _ _).1, (hset _ _).2, hs, fun hv => ?_⟩
    rw [hmanaged, hv] at hunmanaged
    cases hunmanaged
  · split
    · rename_i hdisabled
      refine ⟨(hset _ _).1, (hset _ _).2, hs, fun _ hv => ?_⟩
      rw [migrationEnabled_congr h.spec, hv] at hdisabled
      cases hdisabled
    · rw [wp_bind]
      refine wp_mono (wp_reconcileMigrationJob h hs) ?_
      rintro out s' ⟨hs', read, hread, hout⟩
      have hcopy : (migrationCondition inst out).metadata = v.metadata ∧
          (migrationCondition inst out).spec = v.spec := by
        unfold migrationCondition
        split <;> exact ⟨h.metadata, h.spec⟩
      refine ⟨hcopy.1, hcopy.2, hs', fun _ _ => ⟨read, hread, fun j hj hsucc => ?_⟩⟩
      rw [hout j hj hsucc]
      exact databaseReady_migrationCondition

end

/-! ## A whole pass -/

section

variable (r : LiteLLMInstanceReconciler) {v inst : LiteLLMInstance} {s : WorkloadState}

theorem wp_updateInstanceStatus (h : Migrates v inst s) (reconcileErr : Option Error) :
    (workloadProtocol r.lib).wp (updateInstanceStatus r inst reconcileErr) (fun _ _ => True) s := by
  obtain ⟨hmeta, hspec, hs, htruth⟩ := h
  unfold updateInstanceStatus
  rw [wp_bind]
  refine wp_mono (wp_looks (looks_describeInstance inst r reconcileErr) ⟨hs, rfl⟩) ?_
  rintro inst' s' ⟨hinst', hs', hjob⟩
  refine ⟨⟨v, hs', hinst'.metadata.trans hmeta, hinst'.spec.trans hspec, ?_⟩, fun _ _ => trivial⟩
  intro hmanaged henabled
  obtain ⟨out, hout, hsucc⟩ := htruth hmanaged henabled
  refine ⟨out, hjob.trans hout, fun j hj hj' => ?_⟩
  rw [hinst'.isStatusConditionTrue (by decide)]
  exact hsucc j hj hj'

theorem wp_reconcileInstance (hs : s.inst = some v) :
    (workloadProtocol r.lib).wp (reconcileInstance r v) (fun _ _ => True) s := by
  unfold reconcileInstance
  dsimp only
  rw [wp_bind]
  refine wp_mono (wp_silent (yields_reconcileLicense [conditionDatabaseReady] v) ⟨hs, rfl⟩) ?_
  rintro license s₁ ⟨hlicense, hs₁⟩
  rw [wp_bind]
  refine wp_mono (wp_silent (silent_listGuardrailsForInstance license.1).yields hs₁) ?_
  rintro listed s₂ ⟨-, hs₂⟩
  rw [wp_bind, ← congrArg ObjectMeta.name hlicense.metadata]
  refine wp_mono (wp_reconcileMigrationStatus (sameMigration_of_retains hlicense) hs₂.1) ?_
  rintro inst₁ s₃ ⟨hmeta, hspec, hs₃, htruth⟩
  rw [wp_bind]
  refine wp_mono (wp_reconcileWorkload hspec _ _ _ ⟨hs₃, rfl⟩) ?_
  rintro out s₄ ⟨hout, hs₄, hjob⟩
  rw [wp_bind]
  refine wp_mono (wp_updateInstanceStatus r (v := v) ?_ _) (fun _ _ _ => trivial)
  -- what the copy says about the migration has not changed since
  refine ⟨hout.metadata.trans hmeta, hout.spec.trans hspec, hs₄, fun hmanaged henabled => ?_⟩
  obtain ⟨read, hread, hsucc⟩ := htruth hmanaged henabled
  refine ⟨read, hjob.trans hread, fun j hj hj' => ?_⟩
  unfold isStatusConditionTrue
  rw [hout.databaseReady]
  exact hsucc j hj hj'

/-- **The controller keeps to the protocol**, from reading the instance to writing its status. -/
theorem follows_reconcile (req : NamespacedName) :
    (workloadProtocol r.lib).wp (r.reconcile req) (fun _ _ => True) {} := by
  unfold LiteLLMInstanceReconciler.reconcile
  refine wp_get.mpr ⟨trivial, fun out _ => ?_⟩
  rcases out with e | v
  · trivial
  dsimp only
  split
  · unfold handleInstanceDeletion
    split
    · exact ⟨⟨v, rfl, rfl, rfl, rfl⟩, fun _ _ => trivial⟩
    · trivial
  · split
    · refine ⟨⟨v, rfl, ?_, ?_, rfl⟩, fun _ _ => trivial⟩
      · unfold addFinalizer
        split <;> rfl
      · unfold addFinalizer Resource.rv
        split <;> rfl
    · exact wp_reconcileInstance r rfl

end

end LitellmOperator.Workload
