import LitellmOperator.Controller.Common

/-! # The shape of a reconcile

Seven of the eight per-resource controllers have the same `Reconcile`: get the resource, clean up
if it is being deleted, make sure the finalizer is there, resolve the instance, bring the object
in LiteLLM to the spec, and report through the `Synced` condition. `Controller` collects what
differs between them and `reconcile` is the common text; each controller's own `Reconcile` is
`reconcile` at its values. All eight share `handleDeletion`. Events and log lines are not
modelled.
-/

set_option autoImplicit false

namespace LitellmOperator

open Effect Go Kube Ctl Protocol

section

variable {Spec Status Api : Type} [Service Api]

/-- What a controller of the common shape brings. -/
structure Controller (Spec Status Api : Type) [Service Api] where
  kind : String
  instanceRef : Spec → InstanceRef
  conditions : Status → List Condition
  setConditions : Status → List Condition → Status
  /-- Message of the `Synced` condition after a successful reconcile. -/
  syncedMessage : String
  /-- Whether its conditions carry the observed generation (the license one always does). -/
  observes : Bool
  /-- Whether it treats a missing enterprise license apart. -/
  enterprise : Bool
  /-- The id `handleDeletion` deletes in LiteLLM, if any. -/
  target : Resource Spec Status → Option String
  delete : String → Api
  body : Resource Spec Status → ResolvedInstance → Body Spec Status Api

variable (cr : Resource Spec Status)

/-- The copy with a key of its annotations assigned. -/
def annotate (key value : String) : Resource Spec Status :=
  { cr with metadata :=
    { cr.metadata with annotations := assign cr.metadata.annotations key value } }

def annotationAt (key : String) : String :=
  lookup cr.metadata.annotations key

/-- Sets the sync hash on the copy and persists it. -/
def storeSyncHash (hash : String) :
    ExceptT (Failure Spec Status) (Ctl Spec Status Api) (Resource Spec Status) :=
  let cr := annotate cr annotationSyncHash hash
  orFail (update cr) (fun e => ⟨cr, {}, e⟩)

/-- Persists the status of a copy that has just been bound to an object in LiteLLM, then its sync
hash. -/
def recordCreated (pre : String) (hash : Spec → String) (cr : Resource Spec Status) :
    ExceptT (Failure Spec Status) (Ctl Spec Status Api) (Resource Spec Status) := do
  let cr ← orFail (statusUpdate cr) (fun e => ⟨cr, {}, wrapf pre e⟩)
  storeSyncHash cr (hash cr.spec)

/-- Records on the resource that its object in LiteLLM was adopted. -/
def markAdopted :
    ExceptT (Resource Spec Status × Error) (Ctl Spec Status Api) (Resource Spec Status) :=
  let cr := annotate cr annotationAdopted annotationAdoptedValue
  orFail (update cr) (fun e => (cr, wrapf "mark adopted: " e))

/-- The best-effort deletion in LiteLLM: nothing happens if the instance does not resolve. -/
def deleteUpstream (lib : Ext) (instanceRef : Spec → InstanceRef)
    (target : Resource Spec Status → Option String) (delete : String → Api)
    (cr : Resource Spec Status) : Ctl Spec Status Api Unit :=
  match target cr with
  | none => pure ()
  | some id => do
    match ← (resolveInstanceForCleanup lib client cr.metadata.ns (instanceRef cr.spec)).run with
    | .error _ => pure ()
    | .ok resolved => do
      let _ ← api resolved (delete id)
      pure ()

/-- The cleanup of a resource that is being deleted: LiteLLM first, then the finalizer goes. -/
def handleDeletion (lib : Ext) (instanceRef : Spec → InstanceRef)
    (target : Resource Spec Status → Option String) (delete : String → Api)
    (cr : Resource Spec Status) : Ctl Spec Status Api (Result × Option Error) :=
  if containsFinalizer cr.metadata finalizerName then do
    deleteUpstream lib instanceRef target delete cr
    match ← update { cr with metadata := removeFinalizer cr.metadata finalizerName } with
    | .error e => pure ({}, some e)
    | .ok _ => pure ({}, none)
  else
    pure ({}, none)

def ensureFinalizer : Ctl Spec Status Api (Except Error (Resource Spec Status)) :=
  if containsFinalizer cr.metadata finalizerName then pure (.ok cr)
  else update { cr with metadata := addFinalizer cr.metadata finalizerName }

variable (lib : Ext) (k : Controller Spec Status Api)

def Controller.setSynced (cr : Resource Spec Status) (status : ConditionStatus)
    (reason message : String) (observed : Bool) : Resource Spec Status :=
  let condition : Condition :=
    { type := conditionSynced, status := status, reason := reason, message := message
      observedGeneration := if observed then cr.metadata.generation else 0 }
  let conditions := setStatusCondition (k.conditions cr.status) condition
  { cr with status := k.setConditions cr.status conditions }

/-- What `Reconcile` does with the outcome of the body. -/
def Controller.report (out : Except (Failure Spec Status) (Resource Spec Status × Result)) :
    Ctl Spec Status Api (Result × Option Error) :=
  match out with
  | .error f =>
    if k.enterprise && isEnterpriseLicenseError f.err then do
      let _ ← statusUpdate (k.setSynced f.cr .false "EnterpriseLicenseRequired"
        "This feature requires a LiteLLM Enterprise license. Create a license Secret to activate."
        true)
      pure (after enterpriseLicenseRetryInterval, none)
    else do
      let _ ← statusUpdate (k.setSynced f.cr .false "SyncFailed" f.err.error k.observes)
      pure (f.result, some f.err)
  | .ok (cr, result) => do
    let _ ← statusUpdate (k.setSynced cr .true "Synced" k.syncedMessage k.observes)
    pure (result, none)

/-- `Reconcile` once the finalizer is in place. -/
def Controller.reconcileLive (cr : Resource Spec Status) :
    Ctl Spec Status Api (Result × Option Error) := do
  match ← (resolveInstance lib client cr.metadata.ns k.kind (k.instanceRef cr.spec)).run with
  | .error e => do
    let _ ← statusUpdate (k.setSynced cr .false (instanceRefFailureReason e) e.error k.observes)
    pure (after 30, none)
  | .ok resolved => do
    let out ← (k.body cr resolved).run
    k.report out

/-- `Reconcile`. -/
def Controller.reconcile (req : NamespacedName) : Ctl Spec Status Api (Result × Option Error) := do
  match ← Ctl.get req with
  | .error e => pure ({}, if isNotFound e then none else some e)
  | .ok cr =>
    if cr.metadata.deleting then
      handleDeletion lib k.instanceRef k.target k.delete cr
    else
      match ← ensureFinalizer cr with
      | .error e => pure ({}, some e)
      | .ok cr => k.reconcileLive lib cr

end

/-! ## Rules for the common part of a reconcile

What the controllers do around their body, against any protocol. A report on a copy that may be
reported (`W`) ends the reconcile with `F`.
-/

variable {Spec Status Api State : Type} [Service Api]
variable {P : Protocol (Op Spec Status Api) Op.Resp State} {s : State} {lib : Ext}
variable {cr : Resource Spec Status} {F I : State → Prop}

/-- The cleanup: `J` holds once the instance is resolved, and `I` up to the removal of the
finalizer. -/
theorem wp_handleDeletion_of {instanceRef : Spec → InstanceRef}
    {target : Resource Spec Status → Option String} {delete : String → Api}
    {J : ResolvedInstance → State → Prop} (hs : I s) (hnone : F s)
    (hres : P.wpE (resolveInstanceForCleanup lib (client : Reader (Ctl Spec Status Api))
      cr.metadata.ns (instanceRef cr.spec)) J (fun _ s' => I s') s)
    (hdel : ∀ id conn s, target cr = some id → J conn s →
      P.wp (api conn (delete id)) (fun _ s' => I s') s)
    (hupdate : ∀ s, I s →
      P.wp (update { cr with metadata := removeFinalizer cr.metadata finalizerName })
        (fun _ s' => F s') s) :
    P.wp (handleDeletion lib instanceRef target delete cr) (fun _ s' => F s') s := by
  have hup : P.wp (deleteUpstream lib instanceRef target delete cr) (fun _ s' => I s') s := by
    unfold deleteUpstream
    split
    · exact hs
    · rename_i id hid
      rw [wp_bind]
      refine wp_mono hres (fun r s' h => ?_)
      cases r with
      | error e => exact h
      | ok conn =>
        dsimp only
        rw [wp_bind]
        exact hdel id conn s' hid h
  unfold handleDeletion
  split
  · rw [wp_bind]
    refine wp_mono hup (fun _ s' h => ?_)
    rw [wp_bind]
    refine wp_mono (hupdate s' h) (fun r s'' h' => ?_)
    cases r with
    | error e | ok _ => exact h'
  · exact hnone

namespace Controller

variable {k : Controller Spec Status Api} {W : Resource Spec Status → State → Prop}

/-- A copy that is `W` may be reported on. -/
def Reports (P : Protocol (Op Spec Status Api) Op.Resp State) (k : Controller Spec Status Api)
    (W : Resource Spec Status → State → Prop) (F : State → Prop) : Prop :=
  ∀ v s status reason message observed, W v s →
    P.wp (statusUpdate (k.setSynced v status reason message observed)) (fun _ s' => F s') s

theorem Reports.wp_report (hr : Reports P k W F)
    {out : Except (Failure Spec Status) (Resource Spec Status × Result)}
    (h : match out with
      | .ok r => W r.1 s
      | .error f => W f.cr s) : P.wp (k.report out) (fun _ s' => F s') s := by
  cases out with
  | ok r =>
    show P.wp (statusUpdate _ >>= _) _ s
    rw [wp_bind]
    exact hr _ s _ _ _ _ h
  | error f =>
    unfold report
    dsimp only
    split
    · rw [wp_bind]
      exact hr _ s _ _ _ _ h
    · rw [wp_bind]
      exact hr _ s _ _ _ _ h

theorem Reports.wp_reconcileLive (hr : Reports P k W F)
    (h : P.wpE (resolveInstance lib (client : Reader (Ctl Spec Status Api)) cr.metadata.ns k.kind
      (k.instanceRef cr.spec)) (fun conn s' => P.wpE (k.body cr conn) (fun out s'' => W out.1 s'')
        (fun f s'' => W f.cr s'') s') (fun _ s' => W cr s') s) :
    P.wp (k.reconcileLive lib cr) (fun _ s' => F s') s := by
  unfold reconcileLive
  rw [wp_bind]
  refine wp_mono h (fun r s' h' => ?_)
  cases r with
  | error e =>
    dsimp only
    rw [wp_bind]
    exact hr _ s' _ _ _ _ h'
  | ok conn =>
    dsimp only
    rw [wp_bind]
    refine wp_mono h' (fun out s'' h'' => hr.wp_report ?_)
    cases out with
    | ok r | error f => exact h''

/-- **The reconcile**, up to what holds when its body starts, its cleanup and its body. -/
theorem Reports.wp_reconcile (hr : Reports P k W F) {B : Resource Spec Status → State → Prop}
    {req : NamespacedName}
    (hget : P.wp (Ctl.get req) (fun r s' => match r with
      | .error _ => F s'
      | .ok cr => (cr.metadata.deleting = true →
          P.wp (handleDeletion lib k.instanceRef k.target k.delete cr) (fun _ s'' => F s'') s') ∧
        (cr.metadata.deleting = false → B cr s')) s)
    (hfin : ∀ cr s, B cr s → P.wp (update { cr with metadata :=
      { cr.metadata with finalizers := cr.metadata.finalizers ++ [finalizerName] } })
      (fun r s' => match r with
        | .error _ => F s'
        | .ok cr => B cr s') s)
    (hbody : ∀ cr s, B cr s → P.wpE (resolveInstance lib
        (client : Reader (Ctl Spec Status Api)) cr.metadata.ns k.kind (k.instanceRef cr.spec))
      (fun conn s' => P.wpE (k.body cr conn) (fun out s'' => W out.1 s'')
        (fun f s'' => W f.cr s'') s') (fun _ s' => W cr s') s) :
    P.wp (k.reconcile lib req) (fun _ s' => F s') s := by
  unfold reconcile
  rw [wp_bind]
  refine wp_mono hget (fun r s' h => ?_)
  rcases r with e | cr
  · exact h
  dsimp only
  split
  · rename_i hdel
    exact h.1 hdel
  · rename_i hlive
    have hstart := h.2 (Bool.eq_false_iff.mpr hlive)
    rw [wp_bind]
    unfold ensureFinalizer
    split
    · exact hr.wp_reconcileLive (hbody cr s' hstart)
    · rename_i hno
      unfold addFinalizer
      rw [if_neg hno]
      refine wp_mono (hfin cr s' hstart) (fun r s'' h' => ?_)
      cases r with
      | error e => exact h'
      | ok cr => exact hr.wp_reconcileLive (hbody cr s'' h')

end Controller

end LitellmOperator
