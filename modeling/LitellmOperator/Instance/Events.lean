import LitellmOperator.Instance.Health
import LitellmOperator.Instance.Unmanaged

/-! # Health events of consecutive reconciles

An `InstancePass` is one reconcile of an instance that is not being deleted and has its finalizer: it
applies the resources (`applyInstance`), then reports on the instance with the outcome. One pass
precedes another when the status that it writes is the status that the other one reads.

Events are meant to mark changes against what the pass before has reported. The first result says for
which passes the events about probes do so: the `Ready` condition is set from the outcome of the
resources before the probes look at it, so what the pass before has reported is lost. The second says
the same of the event about a pod at fault, which compares the new reason with itself.
-/

set_option autoImplicit false

namespace LitellmOperator

open Effect Go Kube InstanceCtl Protocol

section

/-! ## Passes -/

structure InstancePass (r : LiteLLMInstanceReconciler) where
  inst : LiteLLMInstance
  applied : List (Prog.Event InstanceOp InstanceOp.Resp)
  out : LiteLLMInstance × Option Error
  reported : List (Prog.Event InstanceOp InstanceOp.Resp)
  applies : Prog.Trace (applyInstance r inst) applied out
  reports : Prog.Trace (updateInstanceStatus r out.1 out.2) reported ()

/-- A reconcile of an instance that is not being deleted and has its finalizer is a pass. -/
theorem exists_pass {r : LiteLLMInstanceReconciler} {req : NamespacedName} {inst : LiteLLMInstance}
    {t : List (Prog.Event InstanceOp InstanceOp.Resp)} {out : Result × Option Error}
    (hlive : inst.metadata.deleting = false)
    (hfin : containsFinalizer inst.metadata finalizerName = true)
    (ht : Prog.Trace (r.reconcile req) (⟨.get req, .ok inst⟩ :: t) out) :
    ∃ p : InstancePass r, p.inst = inst ∧ t = p.applied ++ p.reported := by
  obtain ⟨answer, t', heq, ht'⟩ := Prog.trace_perform_bind_iff.mp ht
  cases heq
  dsimp only at ht'
  rw [hlive, hfin, if_neg Bool.false_ne_true, if_neg (by decide), reconcileInstance_eq] at ht'
  obtain ⟨applied, rest, out', rfl, happly, hrest⟩ := Prog.trace_bind_iff.mp ht'
  obtain ⟨reported, last, ⟨⟩, rfl, hreport, hlast⟩ := Prog.trace_bind_iff.mp hrest
  obtain ⟨rfl, -⟩ := Prog.trace_pure_iff.mp hlast
  exact ⟨⟨inst, applied, out', reported, happly, hreport⟩, rfl, by rw [List.append_nil]⟩

/-! ## What is seen of a pass -/

/-- A later copy of the instance in the same pass, before it is reported on: its spec and the
condition about the pods are as before. -/
structure SameHealth (inst inst' : LiteLLMInstance) : Prop where
  spec : inst'.spec = inst.spec
  podsHealthy : podsHealthy inst' = podsHealthy inst

namespace SameHealth

variable {inst inst' inst'' : LiteLLMInstance}

theorem refl (inst : LiteLLMInstance) : SameHealth inst inst := ⟨rfl, rfl⟩

theorem trans (h : SameHealth inst inst') (h' : SameHealth inst' inst'') :
    SameHealth inst inst'' :=
  ⟨h'.spec.trans h.spec, h'.podsHealthy.trans h.podsHealthy⟩

theorem of_retains (h : Retains [conditionPodsHealthy] inst inst') : SameHealth inst inst' :=
  ⟨h.spec, h.conditions _ (by decide)⟩

theorem of_rolledBack (h : RolledBack inst inst') : SameHealth inst inst' :=
  ⟨h.spec, h.conditions _ (by decide)⟩

end SameHealth

theorem applies_reconcileWorkload (lib : InstanceExt) (inst : LiteLLMInstance)
    (labels : StrMap String) (licenseSecretName : String) (guardrails : List LiteLLMGuardrail) :
    (reconcileWorkload lib inst labels licenseSecretName guardrails).Yields InstanceOp.Applies
      (fun out => SameHealth inst out.1) := by
  unfold reconcileWorkload
  split
  · exact .pure (.refl inst)
  · refine (applies_reconcileResources lib inst labels [conditionPodsHealthy] licenseSecretName
      guardrails).bind (fun out hout => ?_)
    refine (applies_reconcileAutoRollback out.1).bind (fun inst' hinst' => ?_)
    exact .pure ((SameHealth.of_retains hout).trans (.of_rolledBack hinst'))

variable {r : LiteLLMInstanceReconciler}

theorem applies_applyInstance (inst : LiteLLMInstance) :
    (applyInstance r inst).Yields InstanceOp.Applies (fun out => SameHealth inst out.1) := by
  have hlicense := yields_reconcileLicense [conditionPodsHealthy] inst
  refine (hlicense.mono applies_of_within (fun _ h => h)).bind (fun license hl => ?_)
  refine ((silent_listGuardrailsForInstance license.1).mono applies_of_within).bind_yields
    (fun listed => ?_)
  have hmigration : conditionDatabaseReady ∉ [conditionPodsHealthy] := by decide
  refine (applies_reconcileMigrationStatus r.lib license.1 _ hmigration).bind
    (fun inst' hinst' => ?_)
  refine (applies_reconcileWorkload r.lib inst' _ _ _).mono (fun _ h => h) (fun out hout => ?_)
  exact (SameHealth.of_retains (hl.trans hinst')).trans hout

namespace InstancePass

variable (p : InstancePass r)

def sighting : Sighting :=
  onlooker.after { probing := workloadManaged p.inst } (p.applied ++ p.reported)

/-- The instance with the status that the pass wrote. -/
def written : LiteLLMInstance := p.sighting.written.getD p.inst

theorem told : p.sighting.Told p.out.2 p.inst p.written := by
  -- applying the resources shows nothing, so all is seen of the report
  have happlied := Protocol.after_watching
    (sees_applies (s := { probing := workloadManaged p.inst }) (applies_applyInstance p.inst))
      p.applies
  obtain ⟨hsame, hnothing⟩ := happlied
  have hreported := Protocol.after_watching (sees_updateInstanceStatus r p.out.1 p.out.2) p.reports
  have hsighting : p.sighting =
      onlooker.after { probing := workloadManaged p.out.1 } p.reported := by
    rw [workloadManaged_congr hsame.spec]
    unfold sighting Protocol.after
    rw [List.foldl_append]
    exact congrArg (fun s => onlooker.after s p.reported) hnothing
  obtain ⟨inst', hwritten, htold⟩ := hreported
  have hwritten' : p.written = inst' := by
    unfold written
    rw [hsighting]
    exact congrArg (fun o => o.getD p.inst) hwritten
  rw [hwritten', hsighting]
  refine ⟨?_, htold.succeeded, htold.degraded, htold.restored, htold.ready⟩
  rw [← hsame.podsHealthy]
  exact htold.faults

/-- The second pass reads the status that the first one has written. -/
def Precedes (p q : InstancePass r) : Prop := q.inst.status = p.written.status

end InstancePass

/-! ## Events about probes -/

/-- The instance is reported as ready. -/
def isReady (inst : LiteLLMInstance) : Bool :=
  isStatusConditionTrue inst.status.conditions conditionReady

namespace InstancePass

/-- The events of the pass `q` about probes mark changes of what the pass `p` before has reported. -/
structure MarksTransition (p q : InstancePass r) : Prop where
  degraded : q.sighting.degraded = true → isReady p.written = true ∧ q.sighting.failed = true
  restored : q.sighting.restored = true ↔ isReady p.written = false ∧
    isReady q.written = true ∧ q.sighting.succeeded = true

/-- Where resources are in order, probes have a say only if the instance was reported as ready
before; where they are not, no probe succeeds. -/
structure Unchanged (p q : InstancePass r) : Prop where
  inOrder : q.out.2 = none → q.sighting.failed = true ∨ q.sighting.succeeded = true →
    isReady p.written = true
  amiss : q.out.2 ≠ none → q.sighting.succeeded = false

/-- **When events about probes mark changes.** Of two passes, and so of two that follow each other in
any run, the second one's events mark the changes against the first one's report only if no probe of
it has anything to say about a change. -/
theorem marksTransition_iff (p q : InstancePass r) : p.MarksTransition q ↔ p.Unchanged q := by
  have htold := q.told
  have hend : isReady q.written = (q.out.2.isNone && q.written.status.ready && !q.sighting.failed) :=
    htold.ready
  cases hout : q.out.2 with
  | none =>
    rw [hout] at htold hend
    have hdegraded : q.sighting.degraded = q.sighting.failed := htold.degraded
    have hrestored : q.sighting.restored = false := htold.restored
    constructor
    · intro h
      refine ⟨fun _ hprobe => ?_, fun hne => absurd hout hne⟩
      rcases hprobe with hfailed | hsucceeded
      · exact (h.degraded (hdegraded.trans hfailed)).1
      · -- the pass ends ready without the event, so it was ready before
        obtain ⟨hup, hfailed⟩ := htold.succeeded hsucceeded
        by_contra hwas
        have hrest := h.restored.mpr ⟨Bool.eq_false_iff.mpr hwas,
          by rw [hend, hup, hfailed]; rfl, hsucceeded⟩
        rw [hrestored] at hrest
        cases hrest
    · intro h
      refine ⟨fun hd => ?_, ?_⟩
      · have hfailed := hdegraded.symm.trans hd
        exact ⟨h.inOrder hout (.inl hfailed), hfailed⟩
      · rw [hrestored]
        refine ⟨fun hf => (by cases hf), ?_⟩
        rintro ⟨hwas, -, hsucceeded⟩
        rw [h.inOrder hout (.inr hsucceeded)] at hwas
        cases hwas
  | some e =>
    rw [hout] at htold hend
    have hdegraded : q.sighting.degraded = false := htold.degraded
    have hrestored : q.sighting.restored = q.sighting.succeeded := htold.restored
    have hnot : isReady q.written = false := hend
    have hamiss : q.out.2 ≠ none := by rw [hout]; exact Option.some_ne_none e
    constructor
    · intro h
      refine ⟨fun hnone => absurd hnone hamiss, fun _ => ?_⟩
      by_contra hsucceeded
      have hrest := h.restored.mp (hrestored.trans (Bool.eq_true_of_not_eq_false hsucceeded))
      rw [hnot] at hrest
      cases hrest.2.1
    · intro h
      refine ⟨fun hd => ?_, ?_⟩
      · rw [hdegraded] at hd
        cases hd
      · rw [hrestored, h.amiss hamiss, hnot]
        exact ⟨fun hf => (by cases hf), fun hf => hf.2.1⟩

end InstancePass

namespace Sample

/-- An instance with a generated master key. -/
def watched : LiteLLMInstance where
  metadata := { name := "proxy", ns := "apps", finalizers := [finalizerName] }
  spec := { masterKey := { autoGenerate := true } }
  status := {}

/-- The pass whose calls are all answered that way. -/
def answered (inst : LiteLLMInstance) (f : (op : InstanceOp) → op.Resp) :
    InstancePass instanceReconciler :=
  let applied := (applyInstance instanceReconciler inst).answeredBy f
  let reported := (updateInstanceStatus instanceReconciler applied.2.1 applied.2.2).answeredBy f
  ⟨inst, applied.1, applied.2, reported.1, Prog.trace_answeredBy f _, Prog.trace_answeredBy f _⟩

/-- The pass after that, whose calls are answered in another way. -/
def next (p : InstancePass instanceReconciler) (f : (op : InstanceOp) → op.Resp) :
    InstancePass instanceReconciler :=
  answered { p.inst with status := p.written.status } f

def starting : InstancePass instanceReconciler := answered watched (answers watched 0 [])

def started : InstancePass instanceReconciler := next starting (answers watched 1 [])

end Sample

/-- The instance becomes ready and its probes succeed, but there is no event. -/
theorem restored_without_event :
    ∃ p q : InstancePass Sample.instanceReconciler, p.Precedes q ∧ isReady p.written = false ∧
      isReady q.written = true ∧ q.sighting.succeeded = true ∧ q.sighting.restored = false ∧
      ¬ p.MarksTransition q := by
  have hwas : isReady Sample.starting.written = false := by decide +kernel
  have hnow : isReady Sample.started.written = true := by decide +kernel
  have hprobes : Sample.started.sighting.succeeded = true := by decide +kernel
  have hevent : Sample.started.sighting.restored = false := by decide +kernel
  refine ⟨Sample.starting, Sample.started, rfl, hwas, hnow, hprobes, hevent, fun h => ?_⟩
  have hrestored := h.restored.mpr ⟨hwas, hnow, hprobes⟩
  rw [hevent] at hrestored
  cases hrestored

/-! ## Events about pods -/

namespace InstancePass

variable (p : InstancePass r)

/-- If a pod is found at fault, there is an event if there was no condition about the pods before, or
one with another reason than it has now. -/
def MarksCause : Prop :=
  ∀ pods first rest, p.sighting.pods = some pods → podFaults pods = first :: rest →
    (p.sighting.podFault = true ↔ podsHealthy p.inst = none ∨
      (podsHealthy p.inst).map (·.reason) ≠ (podsHealthy p.written).map (·.reason))

/-- If a pod is found at fault, a condition that was there before has the reason of the first such
pod. -/
def SameCause : Prop :=
  ∀ pods first rest, p.sighting.pods = some pods → podFaults pods = first :: rest →
    ∀ c, podsHealthy p.inst = some c → c.reason = first.reason

/-- **When events about pods mark changes of cause.** They do in a pass only if the cause has not
changed: there is never an event once there is a condition. -/
theorem marksCause_iff : p.MarksCause ↔ p.SameCause := by
  constructor
  · intro h pods first rest hpods hfaults c hc
    obtain ⟨hevent, hnow⟩ := p.told.faults pods first rest hpods hfaults
    rw [hc] at hevent
    -- without an event the reason is the one there was
    by_contra hne
    have hmust : p.sighting.podFault = true := by
      refine (h pods first rest hpods hfaults).mpr (.inr ?_)
      rw [hc, hnow]
      exact fun heq => hne (Option.some.inj heq)
    rw [hevent] at hmust
    cases hmust
  · intro h pods first rest hpods hfaults
    obtain ⟨hevent, hnow⟩ := p.told.faults pods first rest hpods hfaults
    rw [hevent, hnow]
    cases hc : podsHealthy p.inst with
    | none => simp
    | some c =>
      have hreason : c.reason = first.reason := h pods first rest hpods hfaults c hc
      simp [hreason]

end InstancePass

namespace Sample

/-- A pod whose container waits for this reason. -/
def waitingPod (reason : String) : Pod where
  metadata := { name := "proxy-0", ns := "apps" }
  spec := ()
  status :=
    { phase := "Pending", containerStatuses := [{ state := { waiting := some (reason, "") } }] }

def pulling : InstancePass instanceReconciler :=
  answered watched (answers watched 0 [waitingPod "ImagePullBackOff"])

def crashing : InstancePass instanceReconciler :=
  next pulling (answers watched 0 [waitingPod "CrashLoopBackOff"])

end Sample

/-- The cause changes, but there is no event. -/
theorem cause_without_event :
    ∃ p q : InstancePass Sample.instanceReconciler, p.Precedes q ∧ ¬ q.MarksCause ∧
      (podsHealthy p.written).map (·.reason) = some "ImagePullBackOff" ∧
      (podsHealthy q.written).map (·.reason) = some "CrashLoopBackOff" ∧
      q.sighting.podFault = false := by
  have hwas : (podsHealthy Sample.pulling.written).map (·.reason) = some "ImagePullBackOff" := by
    decide +kernel
  have hread : (podsHealthy Sample.crashing.inst).map (·.reason) = some "ImagePullBackOff" := hwas
  have hnow : (podsHealthy Sample.crashing.written).map (·.reason) = some "CrashLoopBackOff" := by
    decide +kernel
  have hevent : Sample.crashing.sighting.podFault = false := by decide +kernel
  have hpods : Sample.crashing.sighting.pods = some [Sample.waitingPod "CrashLoopBackOff"] := by
    decide +kernel
  refine ⟨Sample.pulling, Sample.crashing, rfl, fun h => ?_, hwas, hnow, hevent⟩
  have hmust : Sample.crashing.sighting.podFault = true := by
    refine (h _ _ _ hpods rfl).mpr (.inr ?_)
    rw [hread, hnow]
    decide
  rw [hevent] at hmust
  cases hmust

end

end LitellmOperator
