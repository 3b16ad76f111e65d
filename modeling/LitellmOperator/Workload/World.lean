import LitellmOperator.Effect.Machine
import LitellmOperator.Instance.Unmanaged
import LitellmOperator.Workload.Protocol

/-! # An instance, its Deployment and its migration Jobs

The world of one instance that manages its workload. The instance and its Deployment are stored with
their histories, so reads may return any past version and a write of a stale copy is refused; Jobs
are kept by name. Between any two calls of a reconcile a tenant may edit the spec, the autoscaler
may set the replicas, the controllers of Deployments and Jobs report, and finished Jobs expire. All
other calls may be answered in any way.

`migrated`, `read` and the record of the running pass are history that no program reads.
-/

set_option autoImplicit false

namespace LitellmOperator.Workload

open Effect Go Kube

section

abbrev InstanceStore : Type := Store LiteLLMInstanceSpec LiteLLMInstanceStatus

structure WorkloadWorld where
  store : InstanceStore
  deployment : Store Kube.DeploymentSpec DeploymentStatus
  jobs : List Job := []
  /-- The Jobs that have succeeded. -/
  migrated : List Job := []
  read : Option LiteLLMInstance := none

/-- What decides how a call is answered. -/
inductive WorkloadReply where
  | fail (e : Error)
  | cached (age : Nat)
  /-- The call is carried out, or refused, on the objects as they are. -/
  | done
  /-- The same, but the caller gets an error. -/
  | lost (e : Error)
  /-- Any answer to a call that is about other objects. -/
  | given (answer : (op : InstanceOp) → Option op.Resp)

/-- A write is made, if it is not refused. -/
def WorkloadReply.Carried : WorkloadReply → Prop
  | .done => True
  | .lost _ => True
  | _ => False

/-- The call is about an object whose state the world keeps. -/
def tracked : InstanceOp → Bool
  | .get _ => true
  | .update _ => true
  | .statusUpdate _ => true
  | .getChild k _ => k = .deployment || k = .job
  | .createChild k _ => k = .deployment || k = .job
  | .updateChild k _ => k = .deployment || k = .job
  | _ => false

/-- The answer to a call that fails, if it can. -/
def failure : (op : InstanceOp) → Error → Option op.Resp
  | .get _, e => some (.error e)
  | .update _, e => some (.error e)
  | .statusUpdate _, e => some (.error e)
  | .getChild _ _, e => some (.error e)
  | .createChild _ _, e => some (.error e)
  | .updateChild _ _, e => some (.error e)
  | .listGuardrails _, e => some (.error e)
  | .listPods _ _, e => some (.error e)
  | .health _ _, e => some (.error e)
  | _, _ => none

variable (w : WorkloadWorld) (key : NamespacedName)

namespace WorkloadWorld

def findJob : Option Job :=
  w.jobs.find? (fun j => j.metadata.key = key)

def readJob : Except Error Job :=
  match w.findJob key with
  | some j => .ok j
  | none => .error (.leaf (.kube Store.notFound))

def addJob (j : Job) : Except StatusError (Unit × List Job) :=
  match w.findJob j.metadata.key with
  | some _ => .error Store.alreadyExists
  | none => .ok ((), j :: w.jobs)

def writeInstance (out : Except StatusError (LiteLLMInstance × InstanceStore))
    (lost : Option Error) : Except Error LiteLLMInstance × WorkloadWorld :=
  committed (fun store => { w with store := store }) w out lost

def writeDeployment
    (out : Except StatusError (Deployment × Store Kube.DeploymentSpec DeploymentStatus))
    (lost : Option Error) : Except Error Unit × WorkloadWorld :=
  committed (fun deployment => { w with deployment := deployment }) w
    (out.map (fun stored => ((), stored.2))) lost

def writeJob (j : Job) (lost : Option Error) : Except Error Unit × WorkloadWorld :=
  committed (fun jobs => { w with jobs := jobs }) w (w.addJob j) lost

def answer : (op : InstanceOp) → WorkloadReply →
    Option (op.Resp × WorkloadWorld)
  | .get _, .cached age =>
    w.store.versions[age]?.map (fun v => (.ok v, { w with read := some v }))
  | .update obj, .done => some (w.writeInstance (w.store.update obj) none)
  | .update obj, .lost e => some (w.writeInstance (w.store.update obj) (some e))
  | .statusUpdate obj, .done => some (w.writeInstance (w.store.statusUpdate obj) none)
  | .statusUpdate obj, .lost e => some (w.writeInstance (w.store.statusUpdate obj) (some e))
  | .getChild .deployment _, .cached age =>
    w.deployment.versions[age]?.map (fun d => (.ok d, w))
  | .createChild .deployment d, .done => some (w.writeDeployment (w.deployment.create d) none)
  | .createChild .deployment d, .lost e =>
    some (w.writeDeployment (w.deployment.create d) (some e))
  | .updateChild .deployment d, .done => some (w.writeDeployment (w.deployment.update d) none)
  | .updateChild .deployment d, .lost e =>
    some (w.writeDeployment (w.deployment.update d) (some e))
  | .getChild .job key, .done => some (w.readJob key, w)
  | .createChild .job j, .done => some (w.writeJob j none)
  | .createChild .job j, .lost e => some (w.writeJob j (some e))
  | op, .given f => if tracked op then none else (f op).map (fun r => (r, w))
  | op, .fail e => (failure op e).map (fun r => (r, w))
  | _, _ => none

end WorkloadWorld

/-! ## What others do -/

inductive WorkloadEnv where
  | edit (spec : LiteLLMInstanceSpec)
  /-- The autoscaler sets the replicas of the Deployment. -/
  | scale (n : Int)
  /-- The Deployment controller reports on a rollout. -/
  | rollout (status : DeploymentStatus) (revision : String)
  /-- The Job controller reports on a Job that has not succeeded yet. -/
  | runJob (key : NamespacedName) (status : JobStatus)
  /-- A finished Job is deleted, its time to live having passed. -/
  | expireJob (key : NamespacedName)

/-- The autoscaler of the instance may set this number of replicas. -/
def mayScaleTo (inst : LiteLLMInstance) (n : Int) : Bool :=
  inst.spec.autoscaling.any (fun a => a.enabled && minReplicas a ≤ n && n ≤ a.maxReplicas)

/-- The Job has come to its end, one way or the other. -/
def finishedJob (j : Job) : Bool := j.status.succeeded > 0 || j.status.failed > 0

namespace WorkloadWorld

/-- The Jobs with another status for one of them. -/
def reportJob (status : JobStatus) : WorkloadWorld :=
  { w with
    jobs := w.jobs.map (fun j => if j.metadata.key = key then { j with status := status } else j)
    migrated := if status.succeeded > 0
      then w.jobs.filter (fun j => j.metadata.key = key) ++ w.migrated else w.migrated }

def env : WorkloadEnv → Option WorkloadWorld
  | .edit spec => (w.store.edit spec).map (fun store => { w with store := store })
  | .scale n =>
    if w.store.current.any (fun inst => mayScaleTo inst n) then
      (w.deployment.alter (fun d => { d with spec.replicas := some n })).map
        (fun deployment => { w with deployment := deployment })
    else none
  | .rollout status revision =>
    (w.deployment.alter (fun d =>
      { d with
        metadata.annotations := assign d.metadata.annotations revisionAnnotation revision
        status := status })).map
      (fun deployment => { w with deployment := deployment })
  | .runJob key status =>
    if (w.findJob key).any (fun j => j.status.succeeded ≤ 0) then some (w.reportJob key status)
    else none
  | .expireJob key =>
    if (w.findJob key).any finishedJob then
      some { w with jobs := w.jobs.filter (fun j => j.metadata.key ≠ key) }
    else none

end WorkloadWorld

/-- The instance controller, reconciling one instance again and again. -/
def workloadLifecycle (r : LiteLLMInstanceReconciler) (req : NamespacedName) :
    Machine InstanceOp InstanceOp.Resp WorkloadWorld WorkloadReply WorkloadEnv where
  answer := WorkloadWorld.answer
  env := WorkloadWorld.env
  main := do
    let _ ← r.reconcile req
    return ()

abbrev WorkloadGuard : Type := Guard InstanceOp WorkloadWorld WorkloadReply WorkloadEnv

abbrev WorkloadConf : Type := Conf InstanceOp InstanceOp.Resp WorkloadWorld

/-! ## A record of the running pass -/

/-- What a call shows of the Deployment: a lookup shows how it was answered, and what was stored
then. -/
abbrev Sight : Type := Option (Except Error Deployment × Option Deployment)

/-- The calls of a pass since it has read the instance, the last one first. -/
def noteSight (w : WorkloadWorld) : (op : InstanceOp) → op.Resp → List Sight → List Sight
  | .get _, _, _ => []
  | .getChild .deployment _, out, sights => some (out, w.deployment.current) :: sights
  | _, _, sights => none :: sights

abbrev RecordedWorld : Type := WorkloadWorld × List Sight

/-- The instance controller, with a record of what the running pass has seen of the Deployment. -/
def recordedLifecycle (r : LiteLLMInstanceReconciler) (req : NamespacedName) :
    Machine InstanceOp InstanceOp.Resp RecordedWorld WorkloadReply WorkloadEnv :=
  (workloadLifecycle r req).recording noteSight

abbrev RecordedConf : Type := Conf InstanceOp InstanceOp.Resp RecordedWorld

/-! ## What an answer can be -/

/-- What a call can be answered, and what the world is then. -/
inductive Answered (w : WorkloadWorld) :
    (op : InstanceOp) → WorkloadReply → op.Resp → WorkloadWorld → Prop where
  | got {key : NamespacedName} {age : Nat} {v : LiteLLMInstance}
      (h : w.store.versions[age]? = some v) :
      Answered w (.get key) (.cached age) (.ok v) { w with read := some v }
  | updated {obj cur v : LiteLLMInstance} {rep : WorkloadReply} {r : Except Error LiteLLMInstance}
      {store : InstanceStore} (hrv : obj.rv = cur.rv)
      (hw : w.store.Written cur (cur.updated obj) v store) :
      Answered w (.update obj) rep r { w with store := store }
  | reported {obj cur v : LiteLLMInstance} {rep : WorkloadReply} {r : Except Error LiteLLMInstance}
      {store : InstanceStore} (hrv : obj.rv = cur.rv)
      (hw : w.store.Written cur (cur.withStatus obj.status) v store) :
      Answered w (.statusUpdate obj) rep r { w with store := store }
  | sawDeployment {key : NamespacedName} {age : Nat} {d : Deployment}
      (h : w.deployment.versions[age]? = some d) :
      Answered w (.getChild .deployment key) (.cached age) (.ok d) w
  | createdDeployment {d : Deployment} {rep : WorkloadReply} {r : Except Error Unit}
      (hrep : rep.Carried) (h : w.deployment.current = none) :
      Answered w (.createChild .deployment d) rep r { w with deployment := w.deployment.push d 1 }
  | updatedDeployment {d cur v : Deployment} {rep : WorkloadReply} {r : Except Error Unit}
      {deployment : Store Kube.DeploymentSpec DeploymentStatus} (hrep : rep.Carried)
      (hrv : Resource.rv d = cur.rv)
      (hw : w.deployment.Written cur (cur.updated d) v deployment) :
      Answered w (.updateChild .deployment d) rep r { w with deployment := deployment }
  | sawJob {key : NamespacedName} : Answered w (.getChild .job key) .done (w.readJob key) w
  | createdJob {j : Job} {rep : WorkloadReply} {r : Except Error Unit}
      (h : w.findJob j.metadata.key = none) :
      Answered w (.createChild .job j) rep r { w with jobs := j :: w.jobs }
  | failed {op : InstanceOp} {e : Error} {r : op.Resp} (h : failure op e = some r) :
      Answered w op (.fail e) r w
  /-- A write that the API server has refused. -/
  | refused {op : InstanceOp} {rep : WorkloadReply} {r : op.Resp}
      (h : ∀ key, op ≠ .get key) (h' : ∀ k key, op ≠ .getChild k key) : Answered w op rep r w
  | other {op : InstanceOp} {f : (op : InstanceOp) → Option op.Resp} {r : op.Resp}
      (h : tracked op = false) : Answered w op (.given f) r w

namespace WorkloadWorld

variable {w w' : WorkloadWorld} {lost : Option Error} {rep : WorkloadReply}

theorem answered_update {obj : LiteLLMInstance} {r : Except Error LiteLLMInstance}
    (h : w.writeInstance (w.store.update obj) lost = (r, w')) :
    Answered w (.update obj) rep r w' := by
  rcases committed_cases h with ⟨_, store, hok, rfl, -⟩ | ⟨e, rfl, rfl⟩
  · obtain ⟨cur, hrv, hw⟩ := Store.update_ok hok
    exact .updated hrv hw
  · exact .refused (fun _ => nofun) (fun _ _ => nofun)

theorem answered_statusUpdate {obj : LiteLLMInstance} {r : Except Error LiteLLMInstance}
    (h : w.writeInstance (w.store.statusUpdate obj) lost = (r, w')) :
    Answered w (.statusUpdate obj) rep r w' := by
  rcases committed_cases h with ⟨_, store, hok, rfl, -⟩ | ⟨e, rfl, rfl⟩
  · obtain ⟨cur, hrv, hw⟩ := Store.statusUpdate_ok hok
    exact .reported hrv hw
  · exact .refused (fun _ => nofun) (fun _ _ => nofun)

theorem answered_createDeployment {d : Deployment} {r : Except Error Unit} (hrep : rep.Carried)
    (h : w.writeDeployment (w.deployment.create d) lost = (r, w')) :
    Answered w (.createChild .deployment d) rep r w' := by
  rcases committed_cases h with ⟨_, deployment, hmap, rfl, -⟩ | ⟨e, rfl, rfl⟩
  · obtain ⟨_, hok, ⟨⟩⟩ := ok_of_map hmap
    obtain ⟨hnone, -, hpush⟩ := Store.create_ok hok
    rw [hpush]
    exact .createdDeployment hrep hnone
  · exact .refused (fun _ => nofun) (fun _ _ => nofun)

theorem answered_updateDeployment {d : Deployment} {r : Except Error Unit} (hrep : rep.Carried)
    (h : w.writeDeployment (w.deployment.update d) lost = (r, w')) :
    Answered w (.updateChild .deployment d) rep r w' := by
  rcases committed_cases h with ⟨_, deployment, hmap, rfl, -⟩ | ⟨e, rfl, rfl⟩
  · obtain ⟨_, hok, ⟨⟩⟩ := ok_of_map hmap
    obtain ⟨cur, hrv, hw⟩ := Store.update_ok hok
    exact .updatedDeployment hrep hrv hw
  · exact .refused (fun _ => nofun) (fun _ _ => nofun)

theorem addJob_ok {j : Job} {u : Unit} {jobs : List Job} (h : w.addJob j = .ok (u, jobs)) :
    w.findJob j.metadata.key = none ∧ jobs = j :: w.jobs := by
  unfold addJob at h
  split at h
  · cases h
  · rename_i hnone
    cases h
    exact ⟨hnone, rfl⟩

theorem answered_createJob {j : Job} {r : Except Error Unit} (h : w.writeJob j lost = (r, w')) :
    Answered w (.createChild .job j) rep r w' := by
  rcases committed_cases h with ⟨_, jobs, hok, rfl, -⟩ | ⟨e, rfl, rfl⟩
  · obtain ⟨hnone, rfl⟩ := addJob_ok hok
    exact .createdJob hnone
  · exact .refused (fun _ => nofun) (fun _ _ => nofun)

end WorkloadWorld

/-- **Every answer is one of these.** -/
theorem answered_of_answer {w w' : WorkloadWorld} {op : InstanceOp} {rep : WorkloadReply}
    {r : op.Resp} (h : w.answer op rep = some (r, w')) : Answered w op rep r w' := by
  unfold WorkloadWorld.answer at h
  split at h
  · obtain ⟨v, hv, heq⟩ := Option.map_eq_some_iff.mp h
    cases heq
    exact .got hv
  · exact WorkloadWorld.answered_update (Option.some.inj h)
  · exact WorkloadWorld.answered_update (Option.some.inj h)
  · exact WorkloadWorld.answered_statusUpdate (Option.some.inj h)
  · exact WorkloadWorld.answered_statusUpdate (Option.some.inj h)
  · obtain ⟨d, hd, heq⟩ := Option.map_eq_some_iff.mp h
    cases heq
    exact .sawDeployment hd
  · exact WorkloadWorld.answered_createDeployment trivial (Option.some.inj h)
  · exact WorkloadWorld.answered_createDeployment trivial (Option.some.inj h)
  · exact WorkloadWorld.answered_updateDeployment trivial (Option.some.inj h)
  · exact WorkloadWorld.answered_updateDeployment trivial (Option.some.inj h)
  · cases h
    exact .sawJob
  · exact WorkloadWorld.answered_createJob (Option.some.inj h)
  · exact WorkloadWorld.answered_createJob (Option.some.inj h)
  · split at h
    · cases h
    · rename_i htracked
      obtain ⟨r', -, heq⟩ := Option.map_eq_some_iff.mp h
      cases heq
      exact .other (by simpa using htracked)
  · obtain ⟨r', hr', heq⟩ := Option.map_eq_some_iff.mp h
    cases heq
    exact .failed hr'
  · cases h

/-! ## What others can do -/

/-- What a step of the environment does, and when it can. -/
inductive Disturbed (w : WorkloadWorld) : WorkloadEnv → WorkloadWorld → Prop where
  | edited {spec : LiteLLMInstanceSpec} {cur v : LiteLLMInstance} {store : InstanceStore}
      (hw : w.store.Written cur { cur with spec := spec } v store) :
      Disturbed w (.edit spec) { w with store := store }
  | scaled {n : Int} {inst : LiteLLMInstance} {cur d : Deployment}
      {deployment : Store Kube.DeploymentSpec DeploymentStatus}
      (hinst : w.store.current = some inst) (hn : mayScaleTo inst n = true)
      (hw : w.deployment.Written cur { cur with spec.replicas := some n } d deployment) :
      Disturbed w (.scale n) { w with deployment := deployment }
  | rolledOut {status : DeploymentStatus} {revision : String} {cur d : Deployment}
      {deployment : Store Kube.DeploymentSpec DeploymentStatus}
      (hw : w.deployment.Written cur
        { cur with
          metadata.annotations := assign cur.metadata.annotations revisionAnnotation revision
          status := status } d deployment) :
      Disturbed w (.rollout status revision) { w with deployment := deployment }
  | ranJob {key : NamespacedName} {status : JobStatus} {j : Job} (h : w.findJob key = some j)
      (hj : j.status.succeeded ≤ 0) : Disturbed w (.runJob key status) (w.reportJob key status)
  | expiredJob {key : NamespacedName} {j : Job} (h : w.findJob key = some j)
      (hj : finishedJob j = true) :
      Disturbed w (.expireJob key) { w with jobs := w.jobs.filter (fun j => j.metadata.key ≠ key) }

theorem disturbed_of_env {w w' : WorkloadWorld} {e : WorkloadEnv} (h : w.env e = some w') :
    Disturbed w e w' := by
  cases e with
  | edit spec =>
    obtain ⟨store, hstore, rfl⟩ := Option.map_eq_some_iff.mp h
    obtain ⟨cur, v, hw⟩ := Store.edit_some hstore
    exact .edited hw
  | scale n =>
    dsimp only [WorkloadWorld.env] at h
    split at h
    · rename_i hany
      obtain ⟨inst, hinst, hn⟩ := (Option.any_eq_true _ _).mp hany
      obtain ⟨deployment, hdep, rfl⟩ := Option.map_eq_some_iff.mp h
      obtain ⟨cur, d, hw⟩ := Store.alter_some hdep
      exact .scaled hinst hn hw
    · cases h
  | rollout status revision =>
    obtain ⟨deployment, hdep, rfl⟩ := Option.map_eq_some_iff.mp h
    obtain ⟨cur, d, hw⟩ := Store.alter_some hdep
    exact .rolledOut hw
  | runJob key status =>
    dsimp only [WorkloadWorld.env] at h
    split at h
    · rename_i hany
      obtain ⟨j, hj, hsucc⟩ := (Option.any_eq_true _ _).mp hany
      cases h
      exact .ranJob hj (of_decide_eq_true hsucc)
    · cases h
  | expireJob key =>
    dsimp only [WorkloadWorld.env] at h
    split at h
    · rename_i hany
      obtain ⟨j, hj, hdone⟩ := (Option.any_eq_true _ _).mp hany
      cases h
      exact .expiredJob hj hdone
    · cases h

end

/-! ## Runs of the instance controller

What holds in every run of the instance controller over one instance, whatever its calls are
answered and whatever others do meanwhile: the copies the running pass works on are past versions of
what is stored, and the Deployment stays.
-/

section

/-- What the pass has read is stored, now or in the past. -/
structure Tracks (w : WorkloadWorld) (s : WorkloadState) : Prop where
  inst : ∀ v, s.inst = some v → v ∈ w.store.versions ∧ w.read = some v
  dep : ∀ d, s.dep = some d → d ∈ w.deployment.versions

variable {s : WorkloadState}

theorem Tracks.grow {w w' : WorkloadWorld} (h : Tracks w s)
    (hstore : ∀ v ∈ w.store.versions, v ∈ w'.store.versions)
    (hdep : ∀ d ∈ w.deployment.versions, d ∈ w'.deployment.versions) (hread : w'.read = w.read) :
    Tracks w' s where
  inst v hv := ⟨hstore v (h.inst v hv).1, hread.trans (h.inst v hv).2⟩
  dep d hd := hdep d (h.dep d hd)

/-- No version of the Deployment is being deleted. -/
def Stays (w : WorkloadWorld) : Prop := ∀ d ∈ w.deployment.versions, d.metadata.deleting = false

/-- The assertion about the world and the pass that is running. -/
def Grounded (w : WorkloadWorld) (s : Option WorkloadState) : Prop :=
  Stays w ∧ ∀ t, s = some t → Tracks w t

section

variable {w : WorkloadWorld} {deployment : Store Kube.DeploymentSpec DeploymentStatus}

theorem Stays.written {cur x d : Deployment} (h : Stays w)
    (hw : w.deployment.Written cur x d deployment)
    (hx : x.metadata.deleting = cur.metadata.deleting) :
    Stays { w with deployment := deployment } := by
  intro y hy
  rcases hw.only y hy with rfl | hy
  · obtain ⟨rv, gen, rfl⟩ := hw.stored
    exact hx.trans (h cur (Store.mem_of_current hw.was))
  · exact h y hy

theorem Stays.pushed (h : Stays w) {d : Deployment} {gen : Nat} (hd : d.metadata.deleting = false) :
    Stays { w with deployment := w.deployment.push d gen } := by
  intro y hy
  rcases List.mem_cons.mp hy with rfl | hy
  · exact hd
  · exact h y hy

theorem Stays.current_written {cur x d : Deployment} (h : Stays w)
    (hw : w.deployment.Written cur x d deployment)
    (hx : x.metadata.deleting = cur.metadata.deleting) : deployment.current = some d := by
  rcases hw.now with hnow | hgone
  · exact hnow
  · have hdeleting := (hw.gone hgone).1
    rw [hx, h cur (Store.mem_of_current hw.was)] at hdeleting
    cases hdeleting

end

variable (r : LiteLLMInstanceReconciler) (req : NamespacedName)

theorem workload_main :
    (workloadProtocol r.lib).wp (workloadLifecycle r req).main (fun _ _ => True) {} := by
  show Protocol.wp _ (r.reconcile req >>= fun _ => pure ()) _ _
  rw [Protocol.wp_bind]
  exact Protocol.wp_mono (follows_reconcile r req) (fun _ _ _ => trivial)

theorem grounded_env {w w' : WorkloadWorld} {e : WorkloadEnv} {s : Option WorkloadState}
    (h : Grounded w s) (he : Disturbed w e w') : Grounded w' s := by
  obtain ⟨hstays, htracks⟩ := h
  cases he with
  | edited hw =>
    exact ⟨hstays, fun t ht => (htracks t ht).grow hw.grows (fun _ hd => hd) rfl⟩
  | scaled _ _ hw | rolledOut hw =>
    exact ⟨hstays.written hw rfl, fun t ht => (htracks t ht).grow (fun _ hv => hv) hw.grows rfl⟩
  | ranJob _ _ | expiredJob _ _ =>
    exact ⟨hstays, fun t ht => (htracks t ht).grow (fun _ hv => hv) (fun _ hd => hd) rfl⟩

variable {lib : InstanceExt} {op : InstanceOp} {out : op.Resp}

theorem next_copies (hget : ∀ key, op ≠ .get key) (hdep : ∀ key, op ≠ .getChild .deployment key) :
    ((workloadProtocol lib).next s op out).inst = s.inst ∧
      ((workloadProtocol lib).next s op out).dep = s.dep := by
  cases op with
  | get key => exact absurd rfl (hget key)
  | getChild k key =>
    cases k with
    | deployment => exact absurd rfl (hdep key)
    | _ => exact ⟨rfl, rfl⟩
  | _ => exact ⟨rfl, rfl⟩

theorem next_job (hjob : ∀ key, op ≠ .getChild .job key) :
    ((workloadProtocol lib).next s op out).job = s.job := by
  cases op with
  | get key => cases out <;> rfl
  | getChild k key =>
    cases k with
    | job => exact absurd rfl (hjob key)
    | deployment => cases out <;> rfl
    | _ => rfl
  | _ => rfl

theorem tracks_next {w : WorkloadWorld} (h : Tracks w s) (hget : ∀ key, op ≠ .get key)
    (hdep : ∀ key, op ≠ .getChild .deployment key) :
    Tracks w ((workloadProtocol lib).next s op out) := by
  have hsame : ((workloadProtocol lib).next s op out).inst = s.inst ∧
      ((workloadProtocol lib).next s op out).dep = s.dep := next_copies hget hdep
  obtain ⟨hinst', hdep'⟩ := hsame
  exact ⟨fun v hv => h.inst v (hinst' ▸ hv), fun d hd => h.dep d (hdep' ▸ hd)⟩

theorem tracks_failed {w : WorkloadWorld} {e : Error} (h : Tracks w s)
    (hf : failure op e = some out) : Tracks w ((workloadProtocol lib).next s op out) := by
  cases op with
  | get key =>
    cases hf
    exact ⟨h.inst, h.dep⟩
  | getChild k key =>
    cases hf
    cases k with
    | _ => exact ⟨h.inst, h.dep⟩
  | _ => exact tracks_next h (fun _ heq => by cases heq) (fun _ heq => by cases heq)

theorem grounded_step {w w' : WorkloadWorld} {rep : WorkloadReply} (h : Grounded w (some s))
    (ha : (workloadProtocol lib).allowed s op) (hx : Answered w op rep out w') :
    Grounded w' (some ((workloadProtocol lib).next s op out)) := by
  obtain ⟨hstays, htracks⟩ := h
  have hs := htracks s rfl
  have hsame : ∀ {t : WorkloadState} {x : WorkloadWorld}, Stays x → Tracks x t →
      Grounded x (some t) := by
    rintro t x hx ht
    exact ⟨hx, fun t' ht' => by cases ht'; exact ht⟩
  have hplain : ∀ {x : WorkloadWorld}, Tracks x s → Tracks x { s with found := none } :=
    fun h => ⟨h.inst, h.dep⟩
  cases hx with
  | got hv =>
    refine hsame hstays ⟨fun v hv' => ?_, hs.dep⟩
    obtain rfl := Option.some.inj hv'
    exact ⟨List.mem_of_getElem? hv, rfl⟩
  | updated hrv hw | reported hrv hw =>
    exact hsame hstays (hplain (hs.grow hw.grows (fun _ hd => hd) rfl))
  | sawDeployment hd =>
    refine hsame hstays ⟨hs.inst, fun d hd' => ?_⟩
    obtain rfl := Option.some.inj hd'
    exact List.mem_of_getElem? hd
  | createdDeployment _ hnone =>
    obtain ⟨v, e, -, -, -, -, -, hlive⟩ := ha
    exact hsame (hstays.pushed hlive)
      (hplain (hs.grow (fun _ hv => hv) (fun _ hd => List.mem_cons_of_mem _ hd) rfl))
  | updatedDeployment _ hrv hw =>
    exact hsame (hstays.written hw rfl) (hplain (hs.grow (fun _ hv => hv) hw.grows rfl))
  | sawJob => exact hsame hstays ⟨hs.inst, hs.dep⟩
  | createdJob hnone =>
    exact hsame hstays (hplain (hs.grow (fun _ hv => hv) (fun _ hd => hd) rfl))
  | failed hf => exact hsame hstays (tracks_failed hs hf)
  | refused hget hchild => exact hsame hstays (tracks_next hs hget (hchild _))
  | other huntracked =>
    refine hsame hstays (tracks_next hs ?_ ?_)
    · rintro key rfl
      cases huntracked
    · rintro key rfl
      cases huntracked

/-- **Passes work on what was stored**, in every run. -/
theorem workload_grounded :
    Invariant (workloadLifecycle r req) (workloadProtocol r.lib) Guard.free {} (fun _ => True)
      Grounded where
  main := workload_main r req
  env _ _ _ _ h _ he := grounded_env h (disturbed_of_env he)
  start _ h := ⟨h.1, fun t ht => by
    cases ht
    exact ⟨fun v hv => (by cases hv), fun d hd => (by cases hd)⟩⟩
  step _ _ _ _ _ _ h ha _ hx := ⟨trivial, grounded_step h ha (answered_of_answer hx)⟩
  finish _ _ h _ := ⟨h.1, fun t ht => by cases ht⟩
  crash _ _ h _ := ⟨h.1, fun t ht => by cases ht⟩

end

/-! ## The autoscaler and the controller

Two controllers write the replicas of the Deployment: the autoscaler, and a pass over the instance,
which always writes those of the spec. So a pass takes back what the autoscaler has set, unless the
autoscaler sets what the spec says anyway.
-/

/-! ## The side conditions -/

/-- The spec is not edited. -/
def unedited : WorkloadGuard where
  env _ e :=
    match e with
    | .edit _ => False
    | _ => True
  reply _ _ _ := True
  crash _ := True

instance : unedited.Decides where
  env _ e := by
    unfold unedited
    rcases e with _ | _ <;> infer_instance
  reply _ _ _ := .isTrue trivial
  crash _ := .isTrue trivial

/-- Nor does the autoscaler set other replicas than the spec. -/
def unscaled : WorkloadGuard where
  env w e :=
    match e with
    | .edit _ => False
    | .scale n => ∀ inst ∈ w.store.current, n = specReplicas inst
    | _ => True
  reply _ _ _ := True
  crash _ := True

instance : unscaled.Decides where
  env w e := by
    unfold unscaled
    rcases e with _ | _ <;> infer_instance
  reply _ _ _ := .isTrue trivial
  crash _ := .isTrue trivial

/-! ## The invariant -/

/-- Every version of the instance has this spec, and every version of the Deployment its
replicas. -/
structure Settled (inst : LiteLLMInstance) (w : WorkloadWorld) : Prop where
  spec : ∀ v ∈ w.store.versions, v.spec = inst.spec
  replicas : ∀ d ∈ w.deployment.versions, d.spec.replicas = some (specReplicas inst)

section

variable {inst : LiteLLMInstance} {w w' : WorkloadWorld}

theorem specReplicas_congr {v : LiteLLMInstance} (h : v.spec = inst.spec) :
    specReplicas v = specReplicas inst := by
  unfold specReplicas
  rw [h]

theorem Settled.written_store (h : Settled inst w)
    {store : InstanceStore} {cur x v : LiteLLMInstance}
    (hw : w.store.Written cur x v store) (hx : x.spec = inst.spec) :
    Settled inst { w with store := store } := by
  refine ⟨fun y hy => ?_, h.replicas⟩
  rcases hw.only y hy with rfl | hy
  · obtain ⟨rv, gen, rfl⟩ := hw.stored
    exact hx
  · exact h.spec y hy

theorem Settled.written_deployment (h : Settled inst w)
    {deployment : Store Kube.DeploymentSpec DeploymentStatus} {cur x d : Deployment}
    (hw : w.deployment.Written cur x d deployment)
    (hx : x.spec.replicas = some (specReplicas inst)) :
    Settled inst { w with deployment := deployment } := by
  refine ⟨h.spec, fun y hy => ?_⟩
  rcases hw.only y hy with rfl | hy
  · obtain ⟨rv, gen, rfl⟩ := hw.stored
    exact hx
  · exact h.replicas y hy

theorem settled_env (h : Settled inst w) {e : WorkloadEnv} (hG : unscaled.env w e)
    (he : Disturbed w e w') : Settled inst w' := by
  cases he with
  | edited _ => exact hG.elim
  | scaled hinst _ hw =>
    -- the autoscaler sets what the spec of the current version says
    have hspec := h.spec _ (Store.mem_of_current hinst)
    refine h.written_deployment hw (congrArg some ?_)
    exact (hG _ hinst).trans (specReplicas_congr hspec)
  | rolledOut hw =>
    have hcur := h.replicas _ (Store.mem_of_current hw.was)
    exact h.written_deployment hw hcur
  | ranJob _ _ | expiredJob _ _ => exact ⟨h.spec, h.replicas⟩

theorem settled_step {lib : InstanceExt} {s : WorkloadState} {op : InstanceOp}
    {rep : WorkloadReply} {out : op.Resp} (hg : Grounded w (some s)) (h : Settled inst w)
    (ha : (workloadProtocol lib).allowed s op) (hx : Answered w op rep out w') :
    Settled inst w' := by
  have hs := hg.2 s rfl
  cases hx with
  | got hv => exact ⟨h.spec, h.replicas⟩
  | updated hrv hw =>
    obtain ⟨v, hv, -, -, hspec⟩ := ha
    exact h.written_store hw (hspec.trans (h.spec v (hs.inst v hv).1))
  | reported hrv hw =>
    have hcur := h.spec _ (Store.mem_of_current hw.was)
    exact h.written_store hw hcur
  | sawDeployment _ => exact h
  | createdDeployment _ _ =>
    obtain ⟨v, e, hv, -, -, -, hrenders, -⟩ := ha
    refine ⟨h.spec, fun d hd => ?_⟩
    rcases List.mem_cons.mp hd with rfl | hd
    · exact hrenders.replicas.trans (congrArg some (specReplicas_congr (h.spec v (hs.inst v hv).1)))
    · exact h.replicas d hd
  | updatedDeployment _ hrv hw =>
    obtain ⟨v, e, hv, -, he, -, hcontent⟩ := ha
    refine h.written_deployment hw ?_
    rcases hcontent with ⟨-, hrenders⟩ | ⟨-, hkeeps⟩
    · exact hrenders.replicas.trans (congrArg some (specReplicas_congr (h.spec v (hs.inst v hv).1)))
    · exact hkeeps.replicas.trans (h.replicas e (hs.dep e he))
  | sawJob => exact h
  | createdJob _ => exact ⟨h.spec, h.replicas⟩
  | failed _ | refused _ _ | other _ => exact h

end

theorem workload_settled (r : LiteLLMInstanceReconciler) (req : NamespacedName)
    (inst : LiteLLMInstance) :
    Invariant (workloadLifecycle r req) (workloadProtocol r.lib) unscaled {} (fun _ => True)
      (fun w s => Grounded w s ∧ Settled inst w) :=
  (workload_grounded r req).and ⟨fun _ _ _ => trivial, fun _ _ _ _ => trivial, fun _ _ => trivial⟩
    (fun _ _ _ _ _ h hG he => settled_env h hG (disturbed_of_env he)) (fun _ h => h)
    (fun _ _ _ _ _ _ hg h ha _ hx => settled_step hg h ha (answered_of_answer hx))
    (fun _ _ h => h)

/-! ## Replicas -/

/-- The replicas of the Deployment are the same in both worlds, if it is there in both. -/
def KeepsReplicas (w w' : WorkloadWorld) : Prop :=
  ∀ d d', w.deployment.current = some d → w'.deployment.current = some d' →
    d'.spec.replicas = d.spec.replicas

/-- **The controller leaves the autoscaler alone, if both want the same.** In every run over an
instance with an unchanging spec, from before there is a Deployment, in which the autoscaler only
sets the replicas the spec asks for, no step of a reconcile changes the replicas of the
Deployment. -/
theorem replicas_kept (r : LiteLLMInstanceReconciler) (req : NamespacedName)
    (inst : LiteLLMInstance) (w₀ : WorkloadWorld) (hspec : ∀ v ∈ w₀.store.versions,
      v.spec = inst.spec)
    (hdep : w₀.deployment.versions = []) {c c' : WorkloadConf} {rep : WorkloadReply}
    (hc : (workloadLifecycle r req).Reaches unscaled ⟨w₀, none⟩ c)
    (hstep : (workloadLifecycle r req).exec c (.step rep) = some c') :
    KeepsReplicas c.world c'.world := by
  have h₀ : Invariant.Holds (workloadProtocol r.lib) (fun _ => True)
      (fun w s => Grounded w s ∧ Settled inst w) (⟨w₀, none⟩ : WorkloadConf) := by
    refine ⟨⟨fun d hd => ?_, fun t ht => by cases ht⟩, hspec, fun d hd => ?_⟩
    · rw [hdep] at hd
      cases hd
    · rw [hdep] at hd
      cases hd
  have hsettled : ∀ x, (workloadLifecycle r req).Reaches unscaled ⟨w₀, none⟩ x →
      Settled inst x.world := by
    intro x hx
    have hholds := (workload_settled r req inst).reach h₀ hx
    unfold Invariant.Holds at hholds
    split at hholds
    · exact hholds.2
    · obtain ⟨s, hs, -⟩ := hholds
      exact hs.2
  have hc' := hsettled c' (.step (a := .step rep) hc (fun _ _ _ => trivial) hstep)
  intro d d' hd hd'
  rw [hc'.replicas d' (Store.mem_of_current hd'),
    (hsettled c hc).replicas d (Store.mem_of_current hd)]

/-! ## A pass that takes back what the autoscaler has set -/

namespace Sample

/-- An instance of one replica that may be scaled up to five. -/
def autoscaled : LiteLLMInstance where
  metadata := { name := "proxy", ns := "apps", resourceVersion := 1, finalizers := [finalizerName] }
  spec := { autoscaling := some { enabled := true, maxReplicas := 5 } }
  status := {}

def autoscaledWorld : WorkloadWorld where
  store := .created autoscaled
  deployment := .empty

def missing : Error := .leaf (.kube Store.notFound)

/-- An answer to any call that is not about the instance, the Deployment or a Job: nothing else is
there yet, and writes go through. -/
def calm : WorkloadReply := .given (fun op =>
  match op with
  | .getChild _ _ => some (.error missing)
  | .createChild _ _ => some (.ok ())
  | .updateChild _ _ => some (.ok ())
  | .listGuardrails _ => some (.ok [])
  | .listPods _ _ => some (.ok [])
  | .random _ => some []
  | .now => some "2026-01-01T00:00:00Z"
  | .health _ _ => some (.error (errorf "unavailable"))
  | .event _ _ _ => some ()
  | _ => none)

/-- So many calls are answered that way. -/
def calmly (n : Nat) : List (Action WorkloadReply WorkloadEnv) := List.replicate n (.step calm)

/-- The first calls of a pass, up to where the Deployment is looked up. -/
def upToDeployment : List (Action WorkloadReply WorkloadEnv) :=
  [.start, .step (.cached 0)] ++ calmly 8

/-- The calls after those about the Deployment, up to where the status is written. -/
def upToEnd : List (Action WorkloadReply WorkloadEnv) :=
  calmly 4 ++ [.step (.cached 0)] ++ calmly 1

def creatingPass : List (Action WorkloadReply WorkloadEnv) :=
  upToDeployment ++ [.step (.fail missing), .step .done] ++ upToEnd ++ [.step .done]

/-- A whole pass, a step of the autoscaler, and a second pass up to its update. -/
def scaledRun : List (Action WorkloadReply WorkloadEnv) :=
  creatingPass ++ [.env (.scale 3)] ++ upToDeployment ++ [.step (.cached 0)]

end Sample

/-- The autoscaler sets three replicas, and the next pass goes back to one. -/
theorem autoscaler_overridden :
    ∃ c c', (workloadLifecycle Sample.instanceReconciler ⟨"apps", "proxy"⟩).Reaches unedited
        ⟨Sample.autoscaledWorld, none⟩ c ∧
      (workloadLifecycle Sample.instanceReconciler ⟨"apps", "proxy"⟩).exec c (.step .done) =
        some c' ∧
      c.world.deployment.current.map (·.spec.replicas) = some (some 3) ∧
      c'.world.deployment.current.map (·.spec.replicas) = some (some 1) := by
  have hrun : ((workloadLifecycle Sample.instanceReconciler ⟨"apps", "proxy"⟩).run unedited
      ⟨Sample.autoscaledWorld, none⟩ Sample.scaledRun).any (fun c =>
        ((workloadLifecycle Sample.instanceReconciler ⟨"apps", "proxy"⟩).exec c
          (.step .done)).any (fun c' =>
            c.world.deployment.current.map (·.spec.replicas) = some (some 3) &&
            c'.world.deployment.current.map (·.spec.replicas) = some (some 1))) = true := by
    decide +kernel
  obtain ⟨c, hc, hnext⟩ := (Option.any_eq_true _ _).mp hrun
  obtain ⟨c', hc', hreplicas⟩ := (Option.any_eq_true _ _).mp hnext
  simp only [Bool.and_eq_true, decide_eq_true_eq] at hreplicas
  exact ⟨c, c', Machine.reaches_of_run _ _ (.refl _) hc, hc', hreplicas.1, hreplicas.2⟩

/-- When the autoscaler sets one replica, the next pass leaves it at that, to its end. -/
theorem replicas_kept_autoscaled :
    ∃ c c', (workloadLifecycle Sample.instanceReconciler ⟨"apps", "proxy"⟩).exec c (.step .done) =
        some c' ∧ c'.running.isNone = true ∧
      c'.world.deployment.current.map (·.spec.replicas) = some (some 1) ∧
      KeepsReplicas c.world c'.world := by
  have hrun : ((workloadLifecycle Sample.instanceReconciler ⟨"apps", "proxy"⟩).run unscaled
      ⟨Sample.autoscaledWorld, none⟩ (Sample.creatingPass ++ [.env (.scale 1)] ++
        Sample.upToDeployment ++ [.step (.cached 0)] ++ Sample.upToEnd)).any (fun c =>
        ((workloadLifecycle Sample.instanceReconciler ⟨"apps", "proxy"⟩).exec c
          (.step .done)).any (fun c' => c'.running.isNone &&
            c'.world.deployment.current.map (·.spec.replicas) = some (some 1))) = true := by
    decide +kernel
  obtain ⟨c, hc, hnext⟩ := (Option.any_eq_true _ _).mp hrun
  obtain ⟨c', hc', hend⟩ := (Option.any_eq_true _ _).mp hnext
  rw [Bool.and_eq_true] at hend
  have hreach := Machine.reaches_of_run _ _ (.refl _) hc
  refine ⟨c, c', hc', hend.1, of_decide_eq_true hend.2, ?_⟩
  refine replicas_kept Sample.instanceReconciler ⟨"apps", "proxy"⟩ Sample.autoscaled
    Sample.autoscaledWorld ?_ rfl hreach hc'
  intro v hv
  rw [List.mem_singleton.mp hv]

end LitellmOperator.Workload
