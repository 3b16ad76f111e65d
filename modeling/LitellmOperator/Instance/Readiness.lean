import LitellmOperator.Instance.Events

/-! # Readiness and admission

`updateInstanceStatus` takes the readiness of a managed workload from its Deployment, and leaves it
as it was if the Deployment cannot be read. Whoever wants to call the proxy is let through by the
readiness in the status.
-/

set_option autoImplicit false

namespace LitellmOperator

open Effect Go Kube InstanceCtl Protocol

/-! ## Reports on a managed instance -/

/-- What is seen of a report: the Deployment, if it was asked for, and the instance whose status was
written. -/
structure Reading where
  deployment : Option (Except Error Deployment) := none
  written : Option LiteLLMInstance := none

def Reading.next (s : Reading) : (op : InstanceOp) → op.Resp → Reading
  | .getChild .deployment _, out => { s with deployment := some out }
  | .statusUpdate obj, _ => { s with written := some obj }
  | _, _ => s

def reading : Protocol InstanceOp InstanceOp.Resp Reading := Protocol.watching Reading.next

/-- A call of `updateInstanceStatus` for an instance that manages its workload, with the answers it
was given. -/
structure StatusReport (r : LiteLLMInstanceReconciler) where
  inst : LiteLLMInstance
  managed : workloadManaged inst = true
  reconcileErr : Option Error
  calls : List (Prog.Event InstanceOp InstanceOp.Resp)
  trace : Prog.Trace (updateInstanceStatus r inst reconcileErr) calls ()

section

variable {r : LiteLLMInstanceReconciler}

theorem reads_quiet {p : InstanceCtl LiteLLMInstance} {R : LiteLLMInstance → Prop} {s : Reading}
    (hp : p.Yields InstanceOp.Quiet R) : reading.wp p (fun a s' => R a ∧ s' = s) s := by
  refine wp_of_yields hp rfl (fun op s' hop hs' => ⟨trivial, fun out _ => ?_⟩)
  cases op with
  | statusUpdate _ => exact hop.elim
  | getChild k key =>
    cases k with
    | deployment => exact absurd (by decide) hop
    | _ => exact hs'
  | _ => exact hs'

theorem reads_updateInstanceStatus {inst : LiteLLMInstance} (h : workloadManaged inst = true)
    (reconcileErr : Option Error) :
    reading.wp (updateInstanceStatus r inst reconcileErr) (fun _ s => ∃ dep inst',
      s = ⟨some dep, some inst'⟩ ∧ inst'.status.ready = (withReplicas inst dep).status.ready) {} := by
  have h' : workloadManaged { inst with status.endpoint := instanceEndpoint inst } = true := h
  unfold updateInstanceStatus
  rw [wp_bind, describeInstance_eq, wp_bind, workloadReadiness, if_pos h']
  refine ⟨trivial, fun dep _ => ?_⟩
  refine wp_mono (reads_quiet (reports_setPodsHealthyCondition _)) ?_
  rintro inst₁ s₁ ⟨h₁, rfl⟩
  refine wp_mono (reads_quiet (reports_describeReadied inst₁ r reconcileErr)) ?_
  rintro inst₂ s₂ ⟨h₂, rfl⟩
  refine ⟨trivial, fun _ _ => ⟨dep, inst₂, rfl, (h₂.ready.trans h₁.ready).trans ?_⟩⟩
  cases dep with
  | error e | ok d => rfl

namespace StatusReport

variable (c : StatusReport r)

def seen : Reading := reading.after {} c.calls

def written : LiteLLMInstance := c.seen.written.getD c.inst

theorem written_ready : ∃ dep, c.seen.deployment = some dep ∧
    c.written.status.ready = (withReplicas c.inst dep).status.ready := by
  obtain ⟨dep, inst', hseen, hready⟩ := Protocol.after_watching
    (reads_updateInstanceStatus c.managed c.reconcileErr) c.trace
  have hseen' : c.seen = ⟨some dep, some inst'⟩ := hseen
  refine ⟨dep, by rw [hseen'], ?_⟩
  rw [written, hseen']
  exact hready

end StatusReport

end

/-! ## Admission -/

/-- `ConfigSyncReconciler.Reconcile` up to the cycle: the connection that the cycle uses, or the
reason and the message of the condition that is set instead. -/
def syncConnection {m : Type → Type} [Monad m] (c : Reader m) (req : NamespacedName) :
    ExceptT (Option (String × String)) m ResolvedInstance := do
  let inst ← orFail (c.getInstance req) (fun _ => none)
  failIf (!inst.status.ready) (some ("InstanceNotReady", "Waiting for instance to become ready"))
  let masterKey ← orFail (getSecretValue c inst.metadata.ns (masterKeyRef inst)).run
    (fun e => some ("MasterKeyError", e.error))
  let caCert ← ExceptT.lift (operatorProxyCACert c inst)
  pure ⟨inst.status.endpoint, masterKey, caCert, inst⟩

/-- A resource controller, or the config sync, reads the instance and is given a connection. -/
inductive Admitted (lib : Ext) (c : Reader Id) (inst : LiteLLMInstance) : Prop where
  | resource (ns kind : String) (ref : InstanceRef) (check : Bool) (conn : ResolvedInstance)
      (read : c.getInstance ⟨ref.namespaceOr ns, ref.name⟩ = .ok inst)
      (resolved : (resolveInstanceRef lib c ns kind ref check).run = .ok conn)
  | sync (req : NamespacedName) (conn : ResolvedInstance) (read : c.getInstance req = .ok inst)
      (resolved : (syncConnection c req).run = .ok conn)

section

variable {ε α β : Type} {x : ExceptT ε Id α} {k : α → ExceptT ε Id β} {b : β}

theorem run_bind_ok (h : (x >>= k).run = .ok b) : ∃ a, x.run = .ok a ∧ (k a).run = .ok b := by
  have hx : (match x.run with
    | .ok a => (k a).run
    | .error e => .error e) = .ok b := h
  rcases hrun : x.run with e | a
  · rw [hrun] at hx
    cases hx
  · rw [hrun] at hx
    exact ⟨a, rfl, hx⟩

end

theorem run_failIf_ok {ε : Type} {c : Bool} {e : ε} {u : Unit}
    (h : (failIf c e : ExceptT ε Id Unit).run = .ok u) : c = false := by
  cases c with
  | false => rfl
  | true => cases h

theorem run_orFail_ok {ε ε' α : Type} {x : Except ε α} {f : ε → ε'} {a : α}
    (h : (orFail (m := Id) x f).run = .ok a) : x = .ok a := by
  cases x with
  | error e => cases h
  | ok a' => exact congrArg _ (Except.ok.inj h)

theorem Admitted.ready {lib : Ext} {c : Reader Id} {inst : LiteLLMInstance}
    (h : Admitted lib c inst) : inst.status.ready = true := by
  cases h with
  | resource ns kind ref check conn read resolved =>
    obtain ⟨inst', hread, h⟩ := run_bind_ok resolved
    obtain rfl : inst = inst' := Except.ok.inj (read.symm.trans (run_orFail_ok hread))
    obtain ⟨_, -, h⟩ := run_bind_ok h
    obtain ⟨_, hready, -⟩ := run_bind_ok h
    simpa using run_failIf_ok hready
  | sync req conn read resolved =>
    obtain ⟨inst', hread, h⟩ := run_bind_ok resolved
    obtain rfl : inst = inst' := Except.ok.inj (read.symm.trans (run_orFail_ok hread))
    obtain ⟨_, hready, -⟩ := run_bind_ok h
    simpa using run_failIf_ok hready

/-! ## Ready reflects the report -/

namespace StatusReport

variable {r : LiteLLMInstanceReconciler} (c : StatusReport r)

/-- The status is ready only if this report has read a Deployment with a ready replica, and whoever
is admitted by this status calls a proxy whose Deployment was there. -/
structure Reflected (lib : Ext) : Prop where
  ready : c.written.status.ready = true →
    ∃ d, c.seen.deployment = some (.ok d) ∧ 0 < d.status.readyReplicas
  admitted : ∀ reader inst, inst.status = c.written.status → Admitted lib reader inst →
    ∃ d, c.seen.deployment = some (.ok d)

/-- The Deployment can be read, or the instance was not ready before. -/
def Readable : Prop := c.inst.status.ready = true → ∃ d, c.seen.deployment = some (.ok d)

/-- **Ready reflects the report exactly if the Deployment can be read**, or the instance was not
ready before. -/
theorem reflected_iff_readable (lib : Ext) : c.Reflected lib ↔ c.Readable := by
  obtain ⟨dep, hdep, hready⟩ := c.written_ready
  constructor
  · intro h hbefore
    rcases dep with e | d
    · -- the read has failed, so the instance is as ready as before
      obtain ⟨d, hd, -⟩ := h.ready (hready.trans hbefore)
      exact ⟨d, hd⟩
    · exact ⟨d, hdep⟩
  · intro h
    have hfound : c.written.status.ready = true →
        ∃ d, c.seen.deployment = some (.ok d) ∧ 0 < d.status.readyReplicas := by
      intro hnow
      rw [hready] at hnow
      rcases dep with e | d
      · obtain ⟨d, hd⟩ := h hnow
        cases hdep.symm.trans hd
      · exact ⟨d, hdep, of_decide_eq_true hnow⟩
    refine ⟨hfound, fun reader inst hstatus hadmitted => ?_⟩
    obtain ⟨d, hd, -⟩ := hfound (hstatus ▸ hadmitted.ready)
    exact ⟨d, hd⟩

end StatusReport

namespace Sample

/-- The Deployment of a ready instance was deleted. -/
def deleted : (op : InstanceOp) → op.Resp
  | .getChild .deployment _ => .error (.leaf (.kube Store.notFound))
  | op => answers watched 0 [] op

def deletedReport : StatusReport instanceReconciler where
  inst := { watched with status.ready := true }
  managed := rfl
  reconcileErr := none
  calls := _
  trace := Prog.trace_answeredBy deleted _

end Sample

/-- The Deployment is gone, and the instance is still ready. -/
theorem ready_without_deployment : Sample.deletedReport.written.status.ready = true ∧
    Sample.deletedReport.seen.deployment = some (.error (.leaf (.kube Store.notFound))) ∧
    ∀ lib, ¬ Sample.deletedReport.Reflected lib := by
  have hready : Sample.deletedReport.written.status.ready = true := by decide +kernel
  refine ⟨hready, rfl, fun lib h => ?_⟩
  obtain ⟨d, hd, -⟩ := h.ready hready
  cases hd

end LitellmOperator
