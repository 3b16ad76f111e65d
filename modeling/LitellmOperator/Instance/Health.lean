import LitellmOperator.Instance.Frame

/-! # What a reconcile does before it reports

`reconcileInstance` first applies the resources, then reports on the instance (`reconcileInstance_eq`).
The calls of the first part, `Applies`, are about children and guardrails only; they keep the spec, the
last good revision and all conditions of the copy but the one about the database, up to the rollback,
which is the last of them and may change the revision and the `Ready` condition.
-/

set_option autoImplicit false

namespace LitellmOperator

open Effect Go Kube InstanceCtl Protocol

/-- What `reconcileInstance` does before it reports: the license, the guardrails, the migration and the
workload, with the error that comes out last. -/
def applyInstance (r : LiteLLMInstanceReconciler) (inst : LiteLLMInstance) :
    InstanceCtl (LiteLLMInstance × Option Error) := do
  let labels := labelsForInstance inst.metadata.name
  let license ← reconcileLicense inst
  let listed ← listGuardrailsForInstance license.1
  let guardrails := match listed with
    | .ok guardrails => guardrails
    | .error _ => []
  let inst ← reconcileMigrationStatus r.lib license.1 labels
  reconcileWorkload r.lib inst labels license.2 guardrails

theorem reconcileInstance_eq (r : LiteLLMInstanceReconciler) (inst : LiteLLMInstance) :
    reconcileInstance r inst = (do
      let out ← applyInstance r inst
      updateInstanceStatus r out.1 out.2
      return (after (if out.2.isSome then 30 else 60), none)) := by
  unfold applyInstance
  simp only [bind_assoc]
  rfl

/-! ## Calls -/

/-- The call is about children or guardrails. -/
def InstanceOp.Applies : InstanceOp → Prop
  | .get _ => False
  | .update _ => False
  | .statusUpdate _ => False
  | .listPods _ _ => False
  | .health _ req => req = .cachePing
  | .event _ reason _ => reason ∉ healthReasons
  | _ => True

theorem applies_of_within {kinds : List ChildKind} (op : InstanceOp) (h : op.Within kinds) :
    op.Applies := by
  cases op with
  | getChild _ _ | createChild _ _ | updateChild _ _ => trivial
  | _ => exact h

/-! ## The migration -/

section

variable (lib : InstanceExt) (inst : LiteLLMInstance) (labels : StrMap String)

theorem applies_reconcileMigrationJob :
    (reconcileMigrationJob lib inst labels).Uses InstanceOp.Applies := by
  refine .bind (.perform trivial) (fun r => ?_)
  cases r with
  | error e =>
    dsimp only
    split
    · refine .bind (.perform trivial) (fun out => ?_)
      cases out with
      | error e' | ok _ => exact .pure
    · exact .pure
  | ok existing =>
    dsimp only
    split
    · exact .pure
    · split <;> exact .pure

theorem applies_reconcileMigrationStatus {types : List String}
    (h : conditionDatabaseReady ∉ types) :
    (reconcileMigrationStatus lib inst labels).Yields InstanceOp.Applies (Retains types inst) := by
  have hset : ∀ status reason message,
      Retains types inst (setCondition inst conditionDatabaseReady status reason message) :=
    fun _ _ _ => (Retains.refl types inst).setCondition _ _ _ h
  unfold reconcileMigrationStatus
  split
  · exact .pure (hset _ _ _)
  · split
    · exact .pure (hset _ _ _)
    · refine (applies_reconcileMigrationJob lib inst labels).bind_yields (fun out => ?_)
      refine .pure ?_
      unfold migrationCondition
      split <;> exact hset _ _ _

/-! ## The resources -/

theorem applies_applyDeployment (desired : Deployment) :
    (applyDeployment desired).Uses InstanceOp.Applies := by
  refine .bind (.perform trivial) (fun r => ?_)
  cases r with
  | error e =>
    dsimp only
    split
    · exact .bind (.perform trivial) (fun _ => .pure)
    · exact .pure
  | ok existing =>
    dsimp only
    split
    · exact .pure
    · exact .bind (.perform trivial) (fun _ => .pure)

theorem applies_reconcileDeployment (licenseSecretName : String)
    (guardrails : List LiteLLMGuardrail) :
    (reconcileDeployment lib inst labels licenseSecretName guardrails).Uses InstanceOp.Applies := by
  refine ((yields_desiredDeployment lib inst labels licenseSecretName guardrails).uses.mono
    applies_of_within).bind (fun r => ?_)
  cases r with
  | error e => exact .pure
  | ok desired => exact applies_applyDeployment desired

theorem applies_reconcileCoreResources (licenseSecretName : String)
    (guardrails : List LiteLLMGuardrail) :
    (reconcileCoreResources lib inst labels licenseSecretName guardrails).Uses
      InstanceOp.Applies := by
  refine uses_lastError (fun step hstep => ?_)
  simp only [List.mem_cons, List.not_mem_nil, or_false] at hstep
  rcases hstep with rfl | rfl | rfl | rfl | rfl
  · exact (uses_reconcileSecrets inst).mono applies_of_within
  · exact (uses_reconcileConfigMap lib inst labels guardrails).mono applies_of_within
  · exact (uses_reconcileServiceAccount inst labels).mono applies_of_within
  · exact applies_reconcileDeployment lib inst labels licenseSecretName guardrails
  · exact (uses_reconcileService inst labels).mono applies_of_within

theorem applies_reconcileResources (types : List String) (licenseSecretName : String)
    (guardrails : List LiteLLMGuardrail) :
    (reconcileResources lib inst labels licenseSecretName guardrails).Yields InstanceOp.Applies
      (fun out => Retains types inst out.1) := by
  refine (applies_reconcileCoreResources lib inst labels licenseSecretName guardrails).bind_yields
    (fun core => ?_)
  have hoptional := yields_reconcileOptionalResources types lib inst labels
  refine (hoptional.mono applies_of_within (fun _ h => h)).bind (fun optional h => ?_)
  exact .pure h

/-! ## The rollback -/

/-- A copy after the rollback: metadata, spec and conditions other than `Ready` are as before. -/
structure RolledBack (inst inst' : LiteLLMInstance) : Prop where
  metadata : inst'.metadata = inst.metadata
  spec : inst'.spec = inst.spec
  conditions : ∀ type, type ≠ conditionReady → findStatusCondition inst'.status.conditions type =
      findStatusCondition inst.status.conditions type

theorem RolledBack.refl (inst : LiteLLMInstance) : RolledBack inst inst :=
  ⟨rfl, rfl, fun _ _ => rfl⟩

theorem applies_rollbackDeployment (dep : Deployment) :
    (rollbackDeployment inst dep).Yields InstanceOp.Applies (RolledBack inst) := by
  unfold rollbackDeployment
  split
  · exact .pure ⟨rfl, rfl, fun _ _ => rfl⟩
  · split
    · refine Prog.Uses.bind_yields (.perform trivial) (fun time => ?_)
      refine Prog.Uses.bind_yields (.perform trivial) (fun out => ?_)
      cases out with
      | error e => exact .pure (.refl inst)
      | ok _ =>
        refine .pure ⟨rfl, rfl, fun type hne => ?_⟩
        exact findStatusCondition_set_ne _ (Ne.symm hne)
    · exact .pure (.refl inst)

theorem applies_reconcileAutoRollback :
    (reconcileAutoRollback inst).Yields InstanceOp.Applies (RolledBack inst) := by
  unfold reconcileAutoRollback
  split
  · exact .pure (.refl inst)
  · refine Prog.Uses.bind_yields (.perform trivial) (fun r => ?_)
    cases r with
    | error e => exact .pure (.refl inst)
    | ok dep => exact applies_rollbackDeployment inst dep

end

/-! ## What a reconcile says about health

Three functions look at the health of an instance and speak of it in events: `setPodsHealthyCondition`
lists the pods of a Deployment that is not ready, `setReadyCondition` sets the `Ready` condition, and
`probeInstanceHealth` asks the proxy of an instance that is. `Sighting` is what an onlooker sees of
their calls, and `sees_describeInstance` says how the events seen follow from the answers and the
outcome of the resources.
-/

/-- What is seen of the calls of a reconcile. -/
structure Sighting where
  /-- Liveness calls are probes from here on. The first one for a workload that is not managed is none:
  it finds out whether the proxy can be reached. -/
  probing : Bool := true
  pods : Option (List Pod) := none
  failed : Bool := false
  succeeded : Bool := false
  /-- The event `HealthDegraded` of a probe. -/
  degraded : Bool := false
  restored : Bool := false
  /-- The event about a pod at fault, which has the reason `HealthDegraded` too. -/
  podFault : Bool := false
  written : Option LiteLLMInstance := none

/-- The event is about a pod: its message begins with that. -/
def aboutPod (message : String) : Bool := message.toList.take 10 = "Proxy pod ".toList

def Sighting.next (s : Sighting) : (op : InstanceOp) → op.Resp → Sighting
  | .listPods _ _, .ok pods => { s with pods := some pods }
  | .health _ .checkLiveness, .error _ => { s with failed := s.failed || s.probing }
  | .health _ .checkLiveness, .ok _ => { s with probing := true }
  | .health _ .readiness, .error _ => { s with failed := true }
  | .health _ .readiness, .ok _ => { s with succeeded := true }
  | .event _ reason message, _ =>
    if reason = eventReasonHealthRestored then { s with restored := true }
    else if reason = eventReasonHealthDegraded then
      if aboutPod message then { s with podFault := true } else { s with degraded := true }
    else s
  | .statusUpdate obj, _ => { s with written := some obj }
  | _, _ => s

def onlooker : Protocol InstanceOp InstanceOp.Resp Sighting := Protocol.watching Sighting.next

/-! ## Calls that show nothing -/

section

variable {s : Sighting} {α : Type}

theorem next_applies (op : InstanceOp) (h : op.Applies) (r : op.Resp) : s.next op r = s := by
  cases op with
  | statusUpdate _ | listPods _ _ => exact h.elim
  | health conn req =>
    obtain rfl : req = .cachePing := h
    rfl
  | event type reason message =>
    have hrestored : reason ≠ eventReasonHealthRestored := fun heq =>
      h (heq ▸ (by decide : eventReasonHealthRestored ∈ healthReasons))
    have hdegraded : reason ≠ eventReasonHealthDegraded := fun heq =>
      h (heq ▸ (by decide : eventReasonHealthDegraded ∈ healthReasons))
    unfold Sighting.next
    dsimp only
    rw [if_neg hrestored, if_neg hdegraded]
  | _ => rfl

variable {p : InstanceCtl α} {R : α → Prop}

theorem sees_applies (hp : p.Yields InstanceOp.Applies R) :
    onlooker.wp p (fun a s' => R a ∧ s' = s) s := by
  refine wp_of_yields hp rfl (fun op s' hop hs' => ⟨trivial, fun r _ => ?_⟩)
  exact (next_applies op hop r).trans hs'

theorem sees_silent (hp : p.Yields InstanceOp.Silent R) :
    onlooker.wp p (fun a s' => R a ∧ s' = s) s :=
  sees_applies (hp.mono applies_of_within (fun _ h => h))

theorem sees_silent_bind {β : Type} {f : α → InstanceCtl β} {Q : β → Sighting → Prop}
    (hp : p.Yields InstanceOp.Silent R) (hf : ∀ a, R a → onlooker.wp (f a) Q s) :
    onlooker.wp (p >>= f) Q s := by
  rw [wp_bind]
  refine wp_mono (sees_silent hp) ?_
  rintro a s' ⟨ha, rfl⟩
  exact hf a ha

end

/-! ## Events -/

section

variable {s : Sighting} {β : Type} {Q : β → Sighting → Prop}

theorem aboutPod_pod (rest : String) : aboutPod ("Proxy pod " ++ rest) = true := by
  unfold aboutPod
  rw [String.toList_append]
  rfl

theorem not_aboutPod_probe (what rest : String) : aboutPod ("LiteLLM " ++ what ++ rest) = false := by
  unfold aboutPod
  rw [String.append_assoc, String.toList_append]
  exact decide_eq_false (fun h => by injection h with h _; revert h; decide)

variable {f : Unit → InstanceCtl β} {type : EventType} {message : String}

theorem sees_podFault (h : aboutPod message = true)
    (hf : onlooker.wp (f ()) Q { s with podFault := true }) :
    onlooker.wp (emitEvent type eventReasonHealthDegraded message >>= f) Q s := by
  refine ⟨trivial, fun _ _ => ?_⟩
  have hnext : s.next (.event type eventReasonHealthDegraded message) () =
      { s with podFault := true } := by
    unfold Sighting.next
    dsimp only
    rw [if_neg (by decide), if_pos rfl, if_pos h]
  show onlooker.wp (f ()) Q (s.next (.event type eventReasonHealthDegraded message) ())
  rw [hnext]
  exact hf

theorem sees_degraded (h : aboutPod message = false)
    (hf : onlooker.wp (f ()) Q { s with degraded := true }) :
    onlooker.wp (emitEvent type eventReasonHealthDegraded message >>= f) Q s := by
  refine ⟨trivial, fun _ _ => ?_⟩
  have hnext : s.next (.event type eventReasonHealthDegraded message) () =
      { s with degraded := true } := by
    unfold Sighting.next
    dsimp only
    rw [if_neg (by decide), if_pos rfl, if_neg (by rw [h]; decide)]
  show onlooker.wp (f ()) Q (s.next (.event type eventReasonHealthDegraded message) ())
  rw [hnext]
  exact hf

theorem sees_getChild {k : ChildKind} {key : NamespacedName} {f : Except Error k.Obj → InstanceCtl β}
    (hf : ∀ out, onlooker.wp (f out) Q s) : onlooker.wp (getChild k key >>= f) Q s :=
  ⟨trivial, fun out _ => hf out⟩

theorem sees_restored (hf : onlooker.wp (f ()) Q { s with restored := true }) :
    onlooker.wp (emitEvent type eventReasonHealthRestored message >>= f) Q s :=
  ⟨trivial, fun _ _ => hf⟩

end

/-! ## The pods -/

/-- The faults of the pods that are at fault. -/
def podFaults (pods : List Pod) : List UnhealthyPod := pods.filterMap summarizePodHealth

/-- What is seen of the pods, with the condition about them before and after: a pod at fault gives the
condition its reason, and there is an event if there was no such condition before. -/
def Sighting.Faults (s : Sighting) (prev now : Option Condition) : Prop :=
  ∀ pods first rest, s.pods = some pods → podFaults pods = first :: rest →
    s.podFault = prev.isNone ∧ now.map (·.reason) = some first.reason

/-- The condition about the pods. -/
def podsHealthy (inst : LiteLLMInstance) : Option Condition :=
  findStatusCondition inst.status.conditions conditionPodsHealthy

section

variable (inst : LiteLLMInstance)

theorem podsHealthy_set (status : ConditionStatus) (reason message : String) :
    (podsHealthy (setCondition inst conditionPodsHealthy status reason message)).map (·.reason) =
      some reason := by
  unfold podsHealthy setCondition
  rw [findStatusCondition_set_self]
  rfl

theorem sees_reportUnhealthy (first : UnhealthyPod) (count : Nat) {s : Sighting}
    (hs : s.podFault = false) :
    onlooker.wp (reportUnhealthy inst first count) (fun inst' s' =>
      (podsHealthy inst').map (·.reason) = some first.reason ∧
      s' = { s with podFault := (podsHealthy inst).isNone }) s := by
  unfold reportUnhealthy
  dsimp only
  cases hprev : podsHealthy inst with
  | none =>
    rw [show findStatusCondition inst.status.conditions conditionPodsHealthy = none from hprev]
    refine sees_podFault ?_ ⟨podsHealthy_set _ _ _ _, rfl⟩
    simp only [String.append_assoc]
    exact aboutPod_pod _
  | some prev =>
    -- the entry compared with is the one just written
    have hself : ∀ message, ((findStatusCondition
        (setCondition inst conditionPodsHealthy .false first.reason message).status.conditions
        conditionPodsHealthy).any (fun c => c.reason = first.reason)) = true := by
      intro message
      unfold setCondition
      rw [findStatusCondition_set_self]
      exact decide_eq_true rfl
    rw [show findStatusCondition inst.status.conditions conditionPodsHealthy = some prev from hprev,
      Option.bind_some, hself]
    refine ⟨podsHealthy_set _ _ _ _, ?_⟩
    cases s
    cases hs
    rfl

theorem sees_inspectPodHealth (s : Sighting) :
    onlooker.wp (inspectPodHealth inst) (fun unhealthy s' => (unhealthy = [] ∧ s' = s) ∨
      ∃ pods, unhealthy = (podFaults pods).take podHealthMaxReported ∧
        s' = { s with pods := some pods }) s := by
  refine ⟨trivial, fun r _ => ?_⟩
  cases r with
  | error e => exact .inl ⟨rfl, rfl⟩
  | ok pods => exact .inr ⟨pods, rfl, rfl⟩

theorem head_reported {pods : List Pod} {first : UnhealthyPod} {rest : List UnhealthyPod}
    (h : podFaults pods = first :: rest) :
    (podFaults pods).take podHealthMaxReported = first :: rest.take 2 := by
  rw [h]
  rfl

theorem sees_setPodsHealthyCondition {s : Sighting} (hpods : s.pods = none)
    (hfault : s.podFault = false) :
    onlooker.wp (setPodsHealthyCondition inst) (fun inst' s' =>
      s'.Faults (podsHealthy inst) (podsHealthy inst') ∧
      s' = { s with pods := s'.pods, podFault := s'.podFault }) s := by
  -- nothing is claimed as long as no pods are listed
  have hnone : ∀ prev now, s.Faults prev now := by
    intro prev now pods first rest h
    rw [hpods] at h
    cases h
  unfold setPodsHealthyCondition
  split
  · exact ⟨hnone _ _, rfl⟩
  · rw [wp_bind]
    refine wp_mono (sees_inspectPodHealth inst s) ?_
    rintro unhealthy s' (⟨rfl, rfl⟩ | ⟨pods, hunhealthy, rfl⟩)
    · exact ⟨hnone _ _, rfl⟩
    · cases hfaults : podFaults pods with
      | nil =>
        rw [hfaults] at hunhealthy
        subst hunhealthy
        refine ⟨fun pods' first rest h hfirst => ?_, rfl⟩
        cases h
        cases hfaults.symm.trans hfirst
      | cons first rest =>
        rw [head_reported hfaults] at hunhealthy
        subst hunhealthy
        refine wp_mono (sees_reportUnhealthy _ first _ hfault) ?_
        rintro inst' s' ⟨hreason, rfl⟩
        refine ⟨fun pods' first' rest' h hfirst => ⟨rfl, ?_⟩, rfl⟩
        cases h
        cases hfaults.symm.trans hfirst
        exact hreason

end

/-! ## Readiness -/

/-- What is seen once the readiness of the workload is known: no probe has been made, and the next
liveness call is one if the instance is ready. -/
structure Sighting.Readied (s : Sighting) (inst inst' : LiteLLMInstance) : Prop where
  faults : s.Faults (podsHealthy inst) (podsHealthy inst')
  probing : inst'.status.ready = true → s.probing = true
  failed : s.failed = false
  succeeded : s.succeeded = false
  degraded : s.degraded = false
  restored : s.restored = false

theorem Sighting.Readied.copy {s : Sighting} {inst inst' inst'' : LiteLLMInstance}
    (h : s.Readied inst inst') (hcopy : Describes [conditionPodsHealthy] inst' inst'') :
    s.Readied inst inst'' where
  faults := by
    unfold podsHealthy
    rw [hcopy.conditions _ (by decide)]
    exact h.faults
  probing hup := h.probing (hcopy.ready.symm.trans hup)
  failed := h.failed
  succeeded := h.succeeded
  degraded := h.degraded
  restored := h.restored

section

variable (r : LiteLLMInstanceReconciler) (inst : LiteLLMInstance)

theorem sees_proxyReachable :
    onlooker.wp (proxyReachable r inst) (fun ready s' => s' = { probing := ready })
      { probing := false } := by
  unfold proxyReachable
  split
  · rfl
  · refine sees_silent_bind (silent_proxyConn inst).yields (fun conn _ => ?_)
    rcases conn with _ | conn
    · rfl
    refine ⟨trivial, fun out _ => ?_⟩
    cases out with
    | error e | ok _ => rfl

theorem sees_workloadReadiness :
    onlooker.wp (workloadReadiness r inst) (fun inst' s' => s'.Readied inst inst')
      { probing := workloadManaged inst } := by
  unfold workloadReadiness
  cases workloadManaged inst with
  | true =>
    refine sees_getChild (fun dep => ?_)
    have hsame : podsHealthy (withReplicas inst dep) = podsHealthy inst := by
      cases dep with
      | error e | ok dep => rfl
    refine wp_mono (sees_setPodsHealthyCondition _ rfl rfl) ?_
    rintro inst' s' ⟨hfaults, hs'⟩
    rw [hsame] at hfaults
    exact ⟨hfaults, fun _ => by rw [hs'], by rw [hs'], by rw [hs'], by rw [hs'], by rw [hs']⟩
  | false =>
    show onlooker.wp (unmanagedReadiness r inst) _ _
    unfold unmanagedReadiness
    rw [wp_bind]
    refine wp_mono (sees_proxyReachable r inst) ?_
    rintro ready s' rfl
    exact ⟨fun pods first rest h => (by cases h), fun h => h, rfl, rfl, rfl, rfl⟩

/-! ## Probes -/

/-- What is seen at the end of a reconcile whose resources came out as `reconcileErr`, `inst` being the
copy it started from and `inst'` the one it ends with. -/
structure Sighting.Told (s : Sighting) (reconcileErr : Option Error)
    (inst inst' : LiteLLMInstance) : Prop where
  faults : s.Faults (podsHealthy inst) (podsHealthy inst')
  succeeded : s.succeeded = true → inst'.status.ready = true ∧ s.failed = false
  degraded : s.degraded = (reconcileErr.isNone && s.failed)
  restored : s.restored = (reconcileErr.isSome && s.succeeded)
  ready : isStatusConditionTrue inst'.status.conditions conditionReady =
    (reconcileErr.isNone && inst'.status.ready && !s.failed)

/-- The `Ready` condition is the one `setReadyCondition` sets. -/
def ReadySet (inst : LiteLLMInstance) (reconcileErr : Option Error) : Prop :=
  isStatusConditionTrue inst.status.conditions conditionReady =
    (reconcileErr.isNone && inst.status.ready)

variable {s : Sighting} {inst₀ : LiteLLMInstance} {reconcileErr : Option Error}

theorem Sighting.Readied.told (h : s.Readied inst₀ inst) (hready : ReadySet inst reconcileErr) :
    s.Told reconcileErr inst₀ inst where
  faults := h.faults
  succeeded hs := by cases h.succeeded.symm.trans hs
  degraded := by rw [h.degraded, h.failed, Bool.and_false]
  restored := by rw [h.restored, h.succeeded, Bool.and_false]
  ready := by rw [hready, h.failed, Bool.not_false, Bool.and_true]

theorem sees_probeFailed (h : s.Readied inst₀ inst) (hup : inst.status.ready = true)
    (hready : ReadySet inst reconcileErr) (reason what : String) (e : Error) :
    onlooker.wp (probeFailed inst reason what e) (fun inst' s' => s'.Told reconcileErr inst₀ inst')
      { s with failed := true } := by
  have hset : ∀ message, Describes [conditionPodsHealthy] inst
      (setCondition inst conditionReady .false reason message) :=
    fun message => (Describes.refl _ inst).setCondition _ _ _ (by decide)
  have hfinal : ∀ message, isStatusConditionTrue (setCondition inst conditionReady .false reason
      message).status.conditions conditionReady = false :=
    fun message => isStatusConditionTrue_set_self _ _
  rw [ReadySet, hup, Bool.and_true] at hready
  unfold probeFailed
  dsimp only
  rw [hready]
  cases reconcileErr with
  | none =>
    have hprobe : aboutPod ("LiteLLM " ++ what ++ " probe failed: " ++ e.error) = false := by
      rw [String.append_assoc]
      exact not_aboutPod_probe _ _
    refine sees_degraded hprobe ⟨(h.copy (hset _)).faults, fun hs => ?_, rfl, h.restored,
      (hfinal _).trans (Bool.and_false _).symm⟩
    cases h.succeeded.symm.trans hs
  | some err =>
    refine ⟨(h.copy (hset _)).faults, fun hs => ?_, h.degraded,
      h.restored.trans h.succeeded.symm, (hfinal _).trans (Bool.and_false _).symm⟩
    cases h.succeeded.symm.trans hs

/-- Both probes have succeeded, and the event has been emitted or not. -/
theorem sees_probeRedisHealth (h : s.Readied inst₀ inst) (hup : inst.status.ready = true)
    (hready : ReadySet inst reconcileErr) (conn : ProxyConn) {v : LiteLLMInstance}
    (hv : Describes [conditionReady, conditionPodsHealthy] inst v) :
    onlooker.wp (probeRedisHealth conn v) (fun inst' s' => s'.Told reconcileErr inst₀ inst')
      { s with succeeded := true, restored := reconcileErr.isSome } := by
  have hsilent : (probeRedisHealth conn v).Yields InstanceOp.Silent
      (Describes [conditionReady, conditionPodsHealthy] v) :=
    silent_probeRedisHealth v (by decide) conn
  refine wp_mono (sees_silent hsilent) ?_
  rintro inst' s' ⟨hinst', rfl⟩
  have hcopy := hv.trans hinst'
  have hpods : Describes [conditionPodsHealthy] inst inst' :=
    ⟨⟨hcopy.metadata, hcopy.spec, hcopy.revision,
      fun t ht => hcopy.conditions t (List.mem_cons_of_mem _ ht)⟩, hcopy.ready⟩
  have hup' : inst'.status.ready = true := hcopy.ready.trans hup
  refine ⟨(h.copy hpods).faults, fun _ => ⟨hup', h.failed⟩, ?_, (Bool.and_true _).symm, ?_⟩
  · show s.degraded = (_ && s.failed)
    rw [h.degraded, h.failed, Bool.and_false]
  · show _ = (_ && !s.failed)
    rw [hcopy.isStatusConditionTrue (by decide), hready, hup, hup', h.failed]
    simp

theorem sees_probeInstanceHealth (h : s.Readied inst₀ inst) (hup : inst.status.ready = true)
    (hready : ReadySet inst reconcileErr) :
    onlooker.wp (probeInstanceHealth inst) (fun inst' s' => s'.Told reconcileErr inst₀ inst') s := by
  refine sees_silent_bind (silent_proxyConn inst).yields (fun conn _ => ?_)
  rcases conn with _ | conn
  · exact h.told inst hready
  refine ⟨trivial, fun live _ => ?_⟩
  -- the liveness call is a probe
  have hprobing : s = { s with probing := true } := by rw [← h.probing hup]
  rw [hprobing] at h ⊢
  cases live with
  | error e =>
    have hfailed : ({ s with probing := true } : Sighting).next (.health conn .checkLiveness)
        (.error e) = { s with probing := true, failed := true } :=
      congrArg (fun b => ({ s with probing := true, failed := b } : Sighting))
        (Bool.or_true s.failed)
    show onlooker.wp _ _ (Sighting.next _ (.health conn .checkLiveness) (.error e))
    rw [hfailed]
    exact sees_probeFailed inst h hup hready _ _ e
  | ok _ =>
    refine ⟨trivial, fun readiness _ => ?_⟩
    rcases readiness with e | readiness
    · exact sees_probeFailed inst h hup hready _ _ e
    -- the copy may get a version, which changes nothing here
    have hv : ∀ c : Bool, Describes [conditionReady, conditionPodsHealthy] inst
        (if c then { inst with status.version := ReadinessResponse.litellmVersion readiness }
        else inst) := by
      intro c
      cases c with
      | true => exact .of_conditions rfl rfl rfl rfl rfl
      | false => exact .refl _ inst
    have hredis := fun c => sees_probeRedisHealth inst h hup hready conn (hv c)
    rw [ReadySet, hup, Bool.and_true] at hready
    show onlooker.wp _ _ { s with probing := true, succeeded := true }
    dsimp only
    rw [hready]
    cases reconcileErr with
    | none =>
      have hrestored : s = { s with restored := false } := by rw [← h.restored]
      rw [hrestored]
      exact hredis _
    | some err => exact sees_restored (hredis _)

/-! ## The report -/

/-- **What a reconcile says about health.** `HealthDegraded` comes with a probe that failed and
`HealthRestored` with probes that succeeded, each depending on the outcome of the resources in this
same reconcile, and not on what was reported before. -/
theorem sees_describeInstance (reconcileErr : Option Error) :
    onlooker.wp (describeInstance r inst reconcileErr)
      (fun inst' s' => s'.Told reconcileErr inst inst') { probing := workloadManaged inst } := by
  unfold describeInstance
  dsimp only
  rw [wp_bind]
  refine wp_mono (sees_workloadReadiness r _) (fun inst₁ s' h => ?_)
  have h₁ : Describes [conditionPodsHealthy] inst₁ (describeSSO (describeWorkload inst₁)) :=
    (describes_describeWorkload inst₁ (by decide)).trans (describes_describeSSO _)
  refine sees_silent_bind (R := Describes [conditionPodsHealthy] _)
    (silent_checkEnterpriseFeaturesWarning _ (by decide)) (fun inst₂ h₂ => ?_)
  refine sees_silent_bind (R := Describes [conditionPodsHealthy] inst₂)
    (silent_reconcileSecretManagerStatus inst₂) (fun inst₃ h₃ => ?_)
  refine sees_silent_bind (silent_validateTLSSecrets inst₃).yields (fun _ _ => ?_)
  refine sees_silent_bind (R := fun inst' => Describes [conditionPodsHealthy] inst₃ inst' ∧ _)
    (silent_setReadyCondition inst₃ (by decide) reconcileErr) (fun inst₄ h₄ => ?_)
  have hs' : s'.Readied inst inst₄ := Sighting.Readied.copy ⟨h.faults, h.probing, h.failed,
    h.succeeded, h.degraded, h.restored⟩ (((h₁.trans h₂).trans h₃).trans h₄.1)
  have hready : ReadySet inst₄ reconcileErr := by rw [ReadySet, h₄.2, h₄.1.ready]
  split
  · rename_i hup
    rw [Bool.and_eq_true] at hup
    exact sees_probeInstanceHealth inst₄ hs' hup.1 hready
  · exact hs'.told inst₄ hready

theorem sees_updateInstanceStatus (reconcileErr : Option Error) :
    onlooker.wp (updateInstanceStatus r inst reconcileErr)
      (fun _ s' => ∃ inst', s'.written = some inst' ∧ s'.Told reconcileErr inst inst')
      { probing := workloadManaged inst } := by
  unfold updateInstanceStatus
  rw [wp_bind]
  refine wp_mono (sees_describeInstance r inst reconcileErr) (fun inst' s' h => ?_)
  exact ⟨trivial, fun _ _ => ⟨inst', rfl, h.faults, h.succeeded, h.degraded, h.restored, h.ready⟩⟩

end

end LitellmOperator
