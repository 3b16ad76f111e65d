import LitellmOperator.Instance.Frame
import LitellmOperator.Kube.Store

/-! # A workload that is not managed

With `workload.managed` set to false the operator only looks at the proxy. What a pass over such an
instance may call is `SparesOthers`: it writes no object but the instance itself, on which it adds
the finalizer or replaces the status.
-/

set_option autoImplicit false

namespace LitellmOperator

open Go Kube Effect InstanceCtl

/-- The call writes no object other than the instance, to which it adds the finalizer, or whose
status it replaces. -/
def InstanceOp.SparesOthers (inst : LiteLLMInstance) : InstanceOp → Prop
  | .update inst' => inst' = { inst with metadata := addFinalizer inst.metadata finalizerName }
  | .statusUpdate inst' => inst'.metadata = inst.metadata ∧ inst'.spec = inst.spec
  | .createChild _ _ => False
  | .updateChild _ _ => False
  | _ => True

theorem sparesOthers_of_looks (inst : LiteLLMInstance) (op : InstanceOp) (h : op.Looks) :
    op.SparesOthers inst := by
  cases op with
  | update _ | statusUpdate _ => exact h.elim
  | createChild k x | updateChild k x => cases h
  | _ => trivial

theorem workloadManaged_eq_false {inst : LiteLLMInstance}
    (h : inst.spec.workload.bind (·.managed) = some false) : workloadManaged inst = false := by
  obtain ⟨w, hw, hm⟩ := Option.bind_eq_some_iff.mp h
  unfold workloadManaged
  rw [hw]
  simp [hm]

section

variable (r : LiteLLMInstanceReconciler) {inst : LiteLLMInstance}

theorem spares_updateInstanceStatus {inst' : LiteLLMInstance} (hspec : inst'.spec = inst.spec)
    (hmeta : inst'.metadata = inst.metadata) (reconcileErr : Option Error) :
    (updateInstanceStatus r inst' reconcileErr).Uses (InstanceOp.SparesOthers inst) := by
  have hreport : (describeInstance r inst' reconcileErr).Yields (InstanceOp.SparesOthers inst)
      (Retains [conditionDatabaseReady] inst') :=
    (looks_describeInstance inst' r reconcileErr).mono (sparesOthers_of_looks inst) (fun _ h => h)
  have hwrite : (updateInstanceStatus r inst' reconcileErr).Yields
      (InstanceOp.SparesOthers inst) (fun _ => True) := by
    refine hreport.bind (fun inst₁ h => ?_)
    exact ⟨⟨h.metadata.trans hmeta, h.spec.trans hspec⟩, fun _ => trivial⟩
  exact hwrite.uses

theorem spares_reconcileInstance (hw : workloadManaged inst = false) :
    (reconcileInstance r inst).Uses (InstanceOp.SparesOthers inst) := by
  have hquiet : ∀ op : InstanceOp, op.Silent → op.SparesOthers inst :=
    fun op h => sparesOthers_of_looks inst op (looks_of_quiet op (quiet_of_silent op h))
  have hyields : (reconcileInstance r inst).Yields (InstanceOp.SparesOthers inst)
      (fun _ => True) := by
    refine ((yields_reconcileLicense [] inst).mono hquiet (fun _ h => h)).bind
      (fun license hlicense => ?_)
    refine ((silent_listGuardrailsForInstance _).mono hquiet).bind_yields (fun listed => ?_)
    -- neither the migration nor the objects of the workload are looked at
    have hw' : workloadManaged license.1 = false := (workloadManaged_congr hlicense.spec).trans hw
    have hw'' : ∀ reason message, workloadManaged
        (setCondition license.1 conditionDatabaseReady .true reason message) = false :=
      fun _ _ => hw'
    refine Prog.Uses.yields ?_
    unfold reconcileMigrationStatus reconcileWorkload
    simp only [hw', hw'', pure_bind, Bool.not_false, if_true]
    refine (spares_updateInstanceStatus r ?_ ?_ _).bind (fun _ => .pure)
    · exact hlicense.spec
    · exact hlicense.metadata
  exact hyields.uses

/-- **An unmanaged workload is never touched.** Whatever the spec asks for besides, and whatever the
calls are answered, a pass over an instance that is not being deleted and does not manage its
workload writes no object but the instance: it adds its finalizer, or replaces its status. -/
theorem reconcile_unmanaged (req : NamespacedName) {t : List (Prog.Event InstanceOp InstanceOp.Resp)}
    {out : Result × Option Error} (hmanaged : inst.spec.workload.bind (·.managed) = some false)
    (hdeleting : inst.metadata.deleting = false) (ht : Prog.Trace (r.reconcile req) t out)
    (hread : ∀ v, (⟨.get req, .ok v⟩ : Prog.Event InstanceOp InstanceOp.Resp) ∈ t → v = inst) :
    ∀ e ∈ t, e.1.SparesOthers inst := by
  obtain ⟨answer, t', rfl, ht'⟩ := Prog.trace_perform_bind_iff.mp ht
  have hrest : ∀ e ∈ t', e.1.SparesOthers inst := by
    cases answer with
    | error e =>
      cases ht'
      intro e he
      cases he
    | ok v =>
      obtain rfl : v = inst := hread v (by simp)
      refine Prog.Uses.of_mem_trace ?_ ht'
      dsimp only
      rw [hdeleting, if_neg Bool.false_ne_true]
      split
      · exact ⟨rfl, fun _ => trivial⟩
      · exact spares_reconcileInstance r (workloadManaged_eq_false hmanaged)
  intro e he
  rcases List.mem_cons.mp he with rfl | he'
  · trivial
  · exact hrest e he'

end

/-! ## An instance that asks for much and manages nothing -/

namespace Sample

def instanceLib : InstanceExt where
  toExt := lib
  yamlMarshal _ := .ok "config"
  sha256Hex _ := "digest"
  marshalScheduling _ := "scheduling"
  grafanaDashboardJSON _ _ := "dashboard"

def instanceReconciler : LiteLLMInstanceReconciler := ⟨instanceLib, true⟩

/-- The proxy is run by someone else; the spec asks for a migration, an autoscaler, an Ingress and a
rollback all the same. -/
def attached : LiteLLMInstance where
  metadata := { name := "proxy", ns := "apps", finalizers := [finalizerName] }
  spec :=
    { workload := some { managed := some false }
      masterKey := { autoGenerate := true }
      database := { migration := some { enabled := true } }
      autoscaling := some { enabled := true, maxReplicas := 3 }
      ingress := some { enabled := true, host := "proxy.example" }
      upgrade := some { autoRollback := true } }
  status := {}

/-- Every call succeeds. Secrets have a master key, the Deployment so many ready replicas, and these
are its pods. -/
def answers (inst : LiteLLMInstance) (readyReplicas : Int) (pods : List Pod) :
    (op : InstanceOp) → op.Resp
  | .get _ => .ok inst
  | .update inst => .ok inst
  | .statusUpdate inst => .ok inst
  | .getChild .secret _ =>
    .ok { metadata := { name := "", ns := "" }, data := [("master-key", "sk-1234")] : Secret }
  | .getChild .deployment _ =>
    .ok { metadata := { name := "", ns := "" }, spec := {},
          status := { replicas := 1, readyReplicas := readyReplicas } : Deployment }
  | .getChild _ _ => .error (.leaf (.kube Store.notFound))
  | .createChild _ _ => .ok ()
  | .updateChild _ _ => .ok ()
  | .listGuardrails _ => .ok []
  | .listPods _ _ => .ok pods
  | .random _ => []
  | .now => "2026-01-01T00:00:00Z"
  | .health _ .checkLiveness => .ok ()
  | .health _ .readiness => .ok { litellmVersion := "v1" : ReadinessResponse }
  | .health _ .cachePing => .ok { status := "healthy" : CachePingResponse }
  | .event _ _ _ => ()

end Sample

/-- A pass over that instance gets to the status, and writes nothing else. -/
theorem reconcile_unmanaged_attached :
    ∃ t out, Prog.Trace (Sample.instanceReconciler.reconcile ⟨"apps", "proxy"⟩) t out ∧
      t.any (fun e => e.1 matches .statusUpdate _) = true ∧
      ∀ e ∈ t, e.1.SparesOthers Sample.attached := by
  have ht := Prog.trace_answeredBy (Sample.answers Sample.attached 0 [])
    (Sample.instanceReconciler.reconcile ⟨"apps", "proxy"⟩)
  refine ⟨_, _, ht, by decide +kernel, ?_⟩
  refine reconcile_unmanaged Sample.instanceReconciler ⟨"apps", "proxy"⟩ rfl rfl ht (fun v hv => ?_)
  exact Except.ok.inj (Prog.answer_of_mem_answeredBy hv)

end LitellmOperator
