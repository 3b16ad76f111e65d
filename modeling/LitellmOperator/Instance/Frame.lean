import LitellmOperator.Instance.Reconcile

/-! # What each function of the instance controller can write

One lemma for each function: the kinds of children it can write, whatever it is answered, and, for
those that return the instance, what they leave as it is on the copy they return. The functions that
report the status write nothing (`Looks`) and keep all of the copy that the pass has decided before
(`Retains`).
-/

set_option autoImplicit false

namespace LitellmOperator

open Effect Protocol Go Kube InstanceCtl

/-! ## Kinds of calls -/

/-- The events about the health of the proxy and its pods. -/
def healthReasons : List String := [eventReasonHealthDegraded, eventReasonHealthRestored]

/-- The children whose state decides how a pass goes on. -/
def workloadKinds : List ChildKind := [.deployment, .job]

/-- The call neither reads nor writes the instance, reads no Deployment or Job, does not look at the
health of the proxy or of its pods nor speak of it, and of the children it writes only those of these
kinds. -/
def InstanceOp.Within (kinds : List ChildKind) : InstanceOp → Prop
  | .get _ => False
  | .update _ => False
  | .statusUpdate _ => False
  | .getChild k _ => k ∉ workloadKinds
  | .createChild k _ => k ∈ kinds
  | .updateChild k _ => k ∈ kinds
  | .listPods _ _ => False
  | .health _ req => req = .cachePing
  | .event _ reason _ => reason ∉ healthReasons
  | _ => True

/-- The call writes no child either. -/
def InstanceOp.Silent : InstanceOp → Prop := InstanceOp.Within []

/-- The call neither reads nor writes the instance, reads no Deployment or Job, and writes no child. -/
def InstanceOp.Quiet : InstanceOp → Prop
  | .get _ => False
  | .update _ => False
  | .statusUpdate _ => False
  | .getChild k _ => k ∉ workloadKinds
  | .createChild _ _ => False
  | .updateChild _ _ => False
  | _ => True

theorem quiet_of_silent (op : InstanceOp) (h : op.Silent) : op.Quiet := by
  cases op with
  | createChild k x | updateChild k x => cases h
  | get _ | update _ | statusUpdate _ | getChild k key => exact h
  | _ => trivial

/-- The call may read the Deployment, too. -/
def InstanceOp.Looks : InstanceOp → Prop
  | .get _ => False
  | .update _ => False
  | .statusUpdate _ => False
  | .getChild k _ => k ≠ .job
  | .createChild _ _ => False
  | .updateChild _ _ => False
  | _ => True

theorem looks_of_quiet (op : InstanceOp) (h : op.Quiet) : op.Looks := by
  cases op with
  | getChild k key =>
    rintro rfl
    exact h (by decide)
  | _ => exact h

theorem within_mono {kinds kinds' : List ChildKind} (h : kinds ⊆ kinds') (op : InstanceOp)
    (hop : op.Within kinds) : op.Within kinds' := by
  cases op with
  | createChild k x | updateChild k x => exact h hop
  | _ => exact hop

section

variable {α : Type} {p : InstanceCtl α} {kinds kinds' : List ChildKind}

theorem Uses.widen (hp : p.Uses (InstanceOp.Within kinds)) (h : kinds ⊆ kinds') :
    p.Uses (InstanceOp.Within kinds') :=
  hp.mono (within_mono h)

theorem Uses.within (hp : p.Uses InstanceOp.Silent) : p.Uses (InstanceOp.Within kinds) :=
  Uses.widen hp (List.nil_subset kinds)

end

variable {k : ChildKind}

theorem silent_getChild (h : k ∉ workloadKinds) (key : NamespacedName) :
    (getChild k key).Uses InstanceOp.Silent :=
  .perform h

theorem silent_emitEvent {reason : String} (h : reason ∉ healthReasons) (type : EventType)
    (message : String) : (emitEvent type reason message).Uses InstanceOp.Silent :=
  .perform h

variable {kinds : List ChildKind}

theorem uses_createChild (x : k.Obj) (h : k ∈ kinds) :
    (createChild k x).Uses (InstanceOp.Within kinds) :=
  .perform h

theorem uses_updateChild (x : k.Obj) (h : k ∈ kinds) :
    (updateChild k x).Uses (InstanceOp.Within kinds) :=
  .perform h

/-! ## Owned objects -/

theorem setControllerReference_getD (kind : String) (owner m : ObjectMeta) :
    ∃ refs, (setControllerReference kind owner m).getD m = { m with ownerReferences := refs } := by
  unfold setControllerReference
  split
  · dsimp only
    split
    · exact ⟨_, rfl⟩
    · exact ⟨m.ownerReferences, rfl⟩
  · exact ⟨_, rfl⟩

theorem metadata_owned (inst : LiteLLMInstance) (k : ChildKind) (x : k.Obj) :
    ∃ refs, k.metadata (owned inst k x) = { k.metadata x with ownerReferences := refs } := by
  unfold owned
  rw [ChildKind.metadata_withMetadata]
  exact setControllerReference_getD _ _ _

theorem key_owned (inst : LiteLLMInstance) (k : ChildKind) (x : k.Obj) :
    k.key (owned inst k x) = k.key x := by
  obtain ⟨refs, h⟩ := metadata_owned inst k x
  unfold ChildKind.key
  rw [h]
  rfl

/-! ## Steps of a sequence -/

section

variable {N : InstanceOp → Prop}

theorem uses_ifEnabled {enabled : Bool} {step : InstanceCtl (Option Error)}
    (h : step.Uses N) : (ifEnabled enabled step).Uses N := by
  cases enabled with
  | true => exact h
  | false => exact .pure

theorem uses_lastError {steps : List (InstanceCtl (Option Error))}
    (h : ∀ step ∈ steps, step.Uses N) : (lastError steps).Uses N := by
  induction steps with
  | nil => exact .pure
  | cons step steps ih =>
    refine (h step (by simp)).bind (fun err => ?_)
    exact (ih (fun s hs => h s (by simp [hs]))).bind (fun later => .pure)

theorem uses_requireRef {A : Type} {ref : Option A} {check : A → InstanceCtl Unit}
    (h : ∀ a, (check a).Uses N) : (requireRef ref check).Uses N := by
  cases ref with
  | none => exact .pure
  | some a => exact h a

end

/-! ## Children -/

section

variable (lib : InstanceExt) (inst : LiteLLMInstance) (labels : StrMap String)

theorem uses_createOrUpdate {k : ChildKind} (hk : k ∉ workloadKinds) (desired : k.Obj) :
    (createOrUpdate k desired).Uses (InstanceOp.Within [k]) := by
  refine (Uses.within (silent_getChild hk _)).bind (fun r => ?_)
  cases r with
  | ok existing =>
    exact (uses_updateChild _ (by simp)).bind (fun _ => .pure)
  | error e =>
    show Prog.Uses _ (if isNotFound e then _ else _)
    split
    · exact (uses_createChild _ (by simp)).bind (fun _ => .pure)
    · exact .pure

theorem uses_reconcileOptional {k : ChildKind} (hk : k ∉ workloadKinds) (hmem : k ∈ kinds)
    (desired : Option k.Obj) :
    (reconcileOptional inst k desired).Uses (InstanceOp.Within kinds) := by
  cases desired with
  | none => exact .pure
  | some desired => exact Uses.widen (uses_createOrUpdate hk _) (by simpa using hmem)

theorem uses_ensureGeneratedSecret (name key : String) :
    (ensureGeneratedSecret inst name key).Uses (InstanceOp.Within [.secret]) := by
  refine (Uses.within (silent_getChild (k := .secret) (by decide) _)).bind (fun r => ?_)
  cases r with
  | ok existing => exact .pure
  | error e =>
    show Prog.Uses _ (if !isNotFound e then _ else _)
    split
    · exact .pure
    · have hrandom : (generateRandomToken 32).Uses (InstanceOp.Within [.secret]) :=
        .bind (.perform trivial) (fun _ => .pure)
      refine hrandom.bind (fun token => ?_)
      exact (uses_createChild _ (by simp)).bind (fun _ => .pure)

theorem uses_reconcileSaltKey : (reconcileSaltKey inst).Uses (InstanceOp.Within [.secret]) := by
  unfold reconcileSaltKey
  split
  · exact (uses_ensureGeneratedSecret inst _ _).bind (fun _ => .pure)
  · exact .pure

theorem uses_reconcileSecrets : (reconcileSecrets inst).Uses (InstanceOp.Within [.secret]) := by
  unfold reconcileSecrets
  split
  · refine (uses_ensureGeneratedSecret inst _ _).bind (fun err => ?_)
    cases err with
    | some e => exact .pure
    | none => exact uses_reconcileSaltKey inst
  · exact uses_reconcileSaltKey inst

theorem uses_reconcileConfigMap (guardrails : List LiteLLMGuardrail) :
    (reconcileConfigMap lib inst labels guardrails).Uses (InstanceOp.Within [.configMap]) := by
  unfold reconcileConfigMap
  split
  · exact .pure
  · dsimp only
    split
    · exact (Uses.within (silent_emitEvent (by decide) _ _)).bind
        (fun _ => uses_createOrUpdate (by decide) _)
    · exact uses_createOrUpdate (by decide) _

theorem uses_reconcileServiceAccount :
    (reconcileServiceAccount inst labels).Uses (InstanceOp.Within [.serviceAccount]) := by
  refine (Uses.within (silent_getChild (k := .serviceAccount) (by decide) _)).bind (fun r => ?_)
  cases r with
  | ok existing =>
    dsimp only
    split
    · exact .pure
    · exact (uses_updateChild _ (by simp)).bind (fun _ => .pure)
  | error e =>
    dsimp only
    split
    · exact (uses_createChild _ (by simp)).bind (fun _ => .pure)
    · exact .pure

theorem uses_reconcileService :
    (reconcileService inst labels).Uses (InstanceOp.Within [.service]) := by
  refine (Uses.within (silent_getChild (k := .service) (by decide) _)).bind (fun r => ?_)
  cases r with
  | ok existing =>
    dsimp only
    split
    · exact .pure
    · exact (uses_updateChild _ (by simp)).bind (fun _ => .pure)
  | error e =>
    dsimp only
    split
    · exact (uses_createChild _ (by simp)).bind (fun _ => .pure)
    · exact .pure

theorem uses_optionalChildren {k₁ k₂ k₃ : ChildKind} {e₁ e₂ e₃ : Bool} {x₁ : Option k₁.Obj}
    {x₂ : Option k₂.Obj} {x₃ : Option k₃.Obj} (hk : ∀ k ∈ [k₁, k₂, k₃], k ∉ workloadKinds) :
    (lastError [ifEnabled e₁ (reconcileOptional inst k₁ x₁),
      ifEnabled e₂ (reconcileOptional inst k₂ x₂),
      ifEnabled e₃ (reconcileOptional inst k₃ x₃)]).Uses (InstanceOp.Within [k₁, k₂, k₃]) := by
  refine uses_lastError (fun step hstep => ?_)
  simp only [List.mem_cons, List.not_mem_nil, or_false] at hstep
  rcases hstep with rfl | rfl | rfl
  all_goals exact uses_ifEnabled (uses_reconcileOptional inst (hk _ (by simp)) (by simp) _)

theorem uses_reconcileNetworkingResources : (reconcileNetworkingResources inst labels).Uses
    (InstanceOp.Within [.ingress, .route, .httpRoute]) :=
  uses_optionalChildren inst (by decide)

theorem uses_reconcileScalingResources : (reconcileScalingResources inst labels).Uses
    (InstanceOp.Within [.hpa, .pdb, .networkPolicy]) :=
  uses_optionalChildren inst (by decide)

end

/-! ## The copy of the instance in a pass -/

/-- A later copy of the instance in the same pass: its metadata, its spec, the last good revision and
the conditions of these types are as before. -/
structure Retains (types : List String) (inst inst' : LiteLLMInstance) : Prop where
  metadata : inst'.metadata = inst.metadata
  spec : inst'.spec = inst.spec
  revision : inst'.status.lastSuccessfulRevision = inst.status.lastSuccessfulRevision
  conditions : ∀ type ∈ types, findStatusCondition inst'.status.conditions type =
    findStatusCondition inst.status.conditions type

namespace Retains

variable {types : List String} {inst inst' inst'' : LiteLLMInstance}

theorem refl (types : List String) (inst : LiteLLMInstance) : Retains types inst inst :=
  ⟨rfl, rfl, rfl, fun _ _ => rfl⟩

theorem trans (h : Retains types inst inst') (h' : Retains types inst' inst'') :
    Retains types inst inst'' :=
  ⟨h'.metadata.trans h.metadata, h'.spec.trans h.spec, h'.revision.trans h.revision,
    fun type ht => (h'.conditions type ht).trans (h.conditions type ht)⟩

theorem of_conditions (hm : inst'.metadata = inst.metadata) (hs : inst'.spec = inst.spec)
    (hr : inst'.status.lastSuccessfulRevision = inst.status.lastSuccessfulRevision)
    (hc : inst'.status.conditions = inst.status.conditions) : Retains types inst inst' :=
  ⟨hm, hs, hr, fun _ _ => by rw [hc]⟩

variable {type : String}

theorem setCondition (h : Retains types inst inst') (status : ConditionStatus)
    (reason message : String) (hne : type ∉ types) :
    Retains types inst (setCondition inst' type status reason message) := by
  refine ⟨h.metadata, h.spec, h.revision, fun t ht => ?_⟩
  have hne' : type ≠ t := fun heq => hne (heq ▸ ht)
  exact (findStatusCondition_set_ne _ hne').trans (h.conditions t ht)

theorem removeCondition (h : Retains types inst inst') (hne : type ∉ types) :
    Retains types inst (removeCondition inst' type) := by
  refine ⟨h.metadata, h.spec, h.revision, fun t ht => ?_⟩
  have hne' : type ≠ t := fun heq => hne (heq ▸ ht)
  exact (findStatusCondition_remove_ne _ hne').trans (h.conditions t ht)

theorem isStatusConditionTrue (h : Retains types inst inst') (ht : type ∈ types) :
    isStatusConditionTrue inst'.status.conditions type =
      isStatusConditionTrue inst.status.conditions type := by
  unfold Kube.isStatusConditionTrue
  rw [h.conditions type ht]

end Retains

theorem workloadManaged_congr {inst inst' : LiteLLMInstance} (h : inst'.spec = inst.spec) :
    workloadManaged inst' = workloadManaged inst := by
  unfold workloadManaged
  rw [h]

/-! ## License and guardrails -/

section

variable (types : List String) (lib : InstanceExt) (inst : LiteLLMInstance)
variable (labels : StrMap String)

theorem silent_findLicense (names : List String) :
    (findLicense inst names).Uses InstanceOp.Silent := by
  induction names with
  | nil => exact .pure
  | cons name names ih =>
    refine (silent_getChild (k := .secret) (by decide) _).bind (fun r => ?_)
    rcases r with e | secret
    · exact ih
    dsimp only
    split
    · exact .pure
    · exact ih

theorem yields_reconcileLicense :
    (reconcileLicense inst).Yields InstanceOp.Silent (fun r => Retains types inst r.1) :=
  (silent_findLicense inst _).bind_yields (fun _ =>
    .pure (.of_conditions rfl rfl rfl rfl))

theorem silent_listGuardrailsForInstance :
    (listGuardrailsForInstance inst).Uses InstanceOp.Silent := by
  refine .bind (.perform trivial) (fun r => ?_)
  cases r with
  | error e | ok list => exact .pure

end

/-! ## Optional children that report on the copy -/

section

variable (types : List String) (lib : InstanceExt) (inst : LiteLLMInstance)
variable (labels : StrMap String)

theorem yields_reconcileSecurityResources :
    (reconcileSecurityResources inst).Yields (InstanceOp.Within [.secret])
      (fun r => Retains types inst r.1) := by
  have hset : ∀ v, Retains types inst { inst with status.scim := v } :=
    fun v => .of_conditions rfl rfl rfl rfl
  unfold reconcileSecurityResources
  split
  · exact .pure (.refl types inst)
  · split
    · unfold reconcileSCIMToken
      split
      · exact .pure (hset _)
      · refine (uses_ensureGeneratedSecret inst _ _).bind_yields (fun err => ?_)
        cases err with
        | some e => exact .pure (.refl types inst)
        | none => exact .pure (hset _)
    · exact .pure (.refl types inst)

theorem yields_reconcileObservabilityResources :
    (reconcileObservabilityResources lib inst labels).Yields
      (InstanceOp.Within [.serviceMonitor, .prometheusRule, .configMap, .scheduledBackup])
      (fun r => Retains types inst r.1) := by
  refine (uses_ifEnabled (uses_reconcileOptional inst (by decide) (by decide) _)).bind_yields
    (fun _ => ?_)
  refine (uses_ifEnabled (uses_reconcileOptional inst (by decide) (by decide) _)).bind_yields
    (fun _ => ?_)
  refine (uses_ifEnabled (uses_reconcileOptional inst (by decide) (by decide) _)).bind_yields
    (fun err => ?_)
  split
  · refine (uses_reconcileOptional inst (by decide) (by decide) _).bind_yields (fun out => ?_)
    cases out with
    | some e => exact .pure (.refl types inst)
    | none => exact .pure (.of_conditions rfl rfl rfl rfl)
  · exact .pure (.refl types inst)

/-- The kinds of children other than Deployments and Jobs. -/
def sideKinds : List ChildKind :=
  [.secret, .configMap, .serviceAccount, .service, .ingress, .route, .httpRoute, .hpa, .pdb,
    .networkPolicy, .serviceMonitor, .prometheusRule, .scheduledBackup]

theorem yields_reconcileOptionalResources :
    (reconcileOptionalResources lib inst labels).Yields (InstanceOp.Within sideKinds)
      (fun r => Retains types inst r.1) := by
  refine (Uses.widen (uses_reconcileNetworkingResources inst labels) (by decide)).bind_yields
    (fun networking => ?_)
  refine (Uses.widen (uses_reconcileScalingResources inst labels) (by decide)).bind_yields
    (fun scaling => ?_)
  refine ((yields_reconcileSecurityResources types inst).mono (within_mono (by decide))
    (fun _ h => h)).bind (fun security hsecurity => ?_)
  refine ((yields_reconcileObservabilityResources types lib security.1 labels).mono
    (within_mono (by decide)) (fun _ h => h)).bind (fun observability hobservability => ?_)
  exact .pure (hsecurity.trans hobservability)

end

/-! ## The Deployment that is desired -/

section

variable (lib : InstanceExt) (inst : LiteLLMInstance) (labels : StrMap String)

/-- The Deployment of the spec, stamped with these digests. -/
def stampedDeployment (licenseSecretName : String) (guardrails : List LiteLLMGuardrail)
    (secretHash configHash : String) : Deployment :=
  let desired : Deployment :=
    owned inst .deployment (buildDeployment inst labels licenseSecretName guardrails)
  { desired with
    spec.template := stampDigest annotationConfigHash configHash
      (stampDigest annotationSecretHash secretHash desired.spec.template) }

theorem silent_readHashFields {Obj : Type} (K : DataKind Obj)
    {read : NamespacedName → InstanceCtl (Except Error Obj)}
    (hread : ∀ key, (read key).Uses InstanceOp.Silent) (ns : String) (refs : StrMap DataRef)
    (names : List String) : (readHashFields K read ns refs names).run.Uses InstanceOp.Silent := by
  induction names with
  | nil => exact .pure
  | cons name names ih =>
    have hlift : (ExceptT.lift (read ⟨ns, name⟩) : ExceptT Error InstanceCtl _).run.Uses
        InstanceOp.Silent := (hread _).bind (fun _ => .pure)
    refine uses_run_bind hlift (fun x => ?_)
    have hrest : ∀ body : List Bytes, ((readHashFields K read ns refs names >>= fun rest =>
        pure (bytesOf name :: body ++ rest)) : ExceptT Error InstanceCtl _).run.Uses
        InstanceOp.Silent :=
      fun body => uses_run_bind ih (fun _ => .pure)
    cases x with
    | ok x => exact hrest _
    | error e =>
      dsimp only
      split
      · exact hrest _
      · exact .pure

theorem silent_readTemplateHash {Obj : Type} (K : DataKind Obj) (sum : Bytes → String)
    {read : NamespacedName → InstanceCtl (Except Error Obj)}
    (hread : ∀ key, (read key).Uses InstanceOp.Silent) (ns : String) (spec : PodSpec) :
    (readTemplateHash K sum read ns spec).run.Uses InstanceOp.Silent := by
  unfold readTemplateHash
  dsimp only
  split
  · exact .pure
  · exact uses_run_bind (silent_readHashFields K hread ns _ _) (fun _ => .pure)

/-- Computing the desired Deployment writes nothing, and only the digests depend on what is
read. -/
theorem yields_desiredDeployment (licenseSecretName : String) (guardrails : List LiteLLMGuardrail) :
    (desiredDeployment lib inst labels licenseSecretName guardrails).run.Yields InstanceOp.Silent
      (fun r => ∀ d, r = .ok d → ∃ secretHash configHash,
        d = stampedDeployment inst labels licenseSecretName guardrails secretHash configHash) := by
  unfold desiredDeployment
  dsimp only
  rw [ExceptT.run_bind]
  refine (silent_readTemplateHash secretObjects lib.sha256Hex (silent_getChild (by decide)) _
    _).bind_yields (fun secretHash => ?_)
  rcases secretHash with e | secretHash
  · exact fun d hd => by cases hd
  dsimp only
  rw [ExceptT.run_bind]
  refine (silent_readTemplateHash configMapObjects lib.sha256Hex (silent_getChild (by decide)) _
    _).bind_yields (fun configHash => ?_)
  cases configHash with
  | error e => exact fun d hd => by cases hd
  | ok configHash => exact fun d hd => ⟨secretHash, configHash, (Except.ok.inj hd).symm⟩

end

/-! ## Reading Secrets -/

section

variable (inst : LiteLLMInstance)

theorem silent_readSecretKey (ns name key : String) :
    (readSecretKey client ns name key).Uses InstanceOp.Silent := by
  refine (silent_getChild (k := .secret) (by decide) _).bind (fun r => ?_)
  cases r with
  | error e | ok secret => exact .pure

theorem silent_getSecretValue (ns : String) (ref : Option SecretKeyRef) :
    (getSecretValue client ns ref).run.Uses InstanceOp.Silent := by
  rcases ref with _ | ref
  · exact .pure
  refine uses_run_bind (uses_orFail (silent_getChild (k := .secret) (by decide) _))
    (fun secret => ?_)
  split <;> exact .pure

theorem silent_operatorProxyCACert : (operatorProxyCACert client inst).Uses InstanceOp.Silent := by
  unfold operatorProxyCACert
  split
  · exact .pure
  · split
    · exact .pure
    · refine (silent_readSecretKey _ _ _).bind (fun pem => ?_)
      split
      · exact .pure
      · unfold trustedCACert
        split
        · exact .pure
        · exact silent_readSecretKey _ _ _

theorem silent_requireSecretKeys (name field : String) (keys : List String) :
    (requireSecretKeys inst name field keys).Uses InstanceOp.Silent := by
  refine (silent_getChild (k := .secret) (by decide) _).bind (fun r => ?_)
  rcases r with e | secret
  · exact silent_emitEvent (by decide) _ _
  refine Prog.uses_forM (fun key _ => ?_)
  split
  · exact .pure
  · exact silent_emitEvent (by decide) _ _

theorem silent_requireServerCert (ref : SecretRef) :
    (requireServerCert inst ref).Uses InstanceOp.Silent := by
  refine (silent_requireSecretKeys inst _ _ _).bind (fun _ => ?_)
  refine (silent_operatorProxyCACert inst).bind (fun ca => ?_)
  split
  · exact silent_emitEvent (by decide) _ _
  · exact .pure

theorem silent_validateTLSSecrets : (validateTLSSecrets inst).Uses InstanceOp.Silent := by
  refine (uses_requireRef (fun tls => ?_)).bind (fun _ => uses_requireRef (fun tls => ?_))
  · refine (uses_requireRef (silent_requireServerCert inst)).bind (fun _ => ?_)
    refine (uses_requireRef (fun ref => silent_requireSecretKeys inst _ _ _)).bind (fun _ => ?_)
    exact uses_requireRef (fun ref => silent_requireSecretKeys inst _ _ _)
  · refine (uses_requireRef (fun ref => silent_requireSecretKeys inst _ _ _)).bind (fun _ => ?_)
    exact uses_requireRef (fun ref => silent_requireSecretKeys inst _ _ _)

theorem silent_proxyConn : (proxyConn inst).Uses InstanceOp.Silent := by
  unfold proxyConn
  split
  · exact .pure
  · refine (silent_getSecretValue _ _).bind (fun r => ?_)
    cases r with
    | error e => exact .pure
    | ok masterKey =>
      exact (silent_operatorProxyCACert inst).bind (fun _ => .pure)

end

/-! ## The status -/

/-- A later copy that is as ready as before. -/
structure Describes (types : List String) (inst inst' : LiteLLMInstance) : Prop
    extends Retains types inst inst' where
  ready : inst'.status.ready = inst.status.ready

namespace Describes

variable {types : List String} {inst inst' inst'' : LiteLLMInstance}

theorem refl (types : List String) (inst : LiteLLMInstance) : Describes types inst inst :=
  ⟨.refl types inst, rfl⟩

theorem trans (h : Describes types inst inst') (h' : Describes types inst' inst'') :
    Describes types inst inst'' :=
  ⟨h.toRetains.trans h'.toRetains, h'.ready.trans h.ready⟩

theorem of_conditions (hm : inst'.metadata = inst.metadata) (hs : inst'.spec = inst.spec)
    (hr : inst'.status.lastSuccessfulRevision = inst.status.lastSuccessfulRevision)
    (hc : inst'.status.conditions = inst.status.conditions)
    (hready : inst'.status.ready = inst.status.ready) : Describes types inst inst' :=
  ⟨.of_conditions hm hs hr hc, hready⟩

theorem setCondition (h : Describes types inst inst') {type : String} (status : ConditionStatus)
    (reason message : String) (hne : type ∉ types) :
    Describes types inst (setCondition inst' type status reason message) :=
  ⟨h.toRetains.setCondition status reason message hne, h.ready⟩

theorem removeCondition (h : Describes types inst inst') {type : String} (hne : type ∉ types) :
    Describes types inst (removeCondition inst' type) :=
  ⟨h.toRetains.removeCondition hne, h.ready⟩

end Describes

section

variable {types : List String} (inst : LiteLLMInstance)

theorem yields_after_event {c : Bool} {type : EventType} {reason message : String} {α : Type}
    {p : InstanceCtl α} {N : InstanceOp → Prop} {R : α → Prop}
    (he : (emitEvent type reason message).Uses N) (hp : p.Yields N R) :
    (if c then emitEvent type reason message >>= fun _ => p else p).Yields N R := by
  cases c with
  | true => exact he.bind_yields (fun _ => hp)
  | false => exact hp

theorem silent_reconcileSecretManagerStatus :
    (reconcileSecretManagerStatus inst).Yields InstanceOp.Silent (Describes types inst) := by
  have hset : ∀ v, Describes types inst { inst with status.secretManager := v } :=
    fun v => .of_conditions rfl rfl rfl rfl rfl
  unfold reconcileSecretManagerStatus
  split
  · exact .pure (hset _)
  · split
    · exact .pure (hset _)
    · refine (silent_getChild (k := .secret) (by decide) _).bind_yields (fun r => ?_)
      cases r with
      | ok _ => exact .pure (hset _)
      | error e =>
        exact (silent_emitEvent (by decide) _ _).bind_yields (fun _ => .pure (hset _))

theorem silent_checkEnterpriseFeaturesWarning (h : conditionEnterpriseFeatures ∉ types) :
    (checkEnterpriseFeaturesWarning inst).Yields InstanceOp.Silent (Describes types inst) := by
  unfold checkEnterpriseFeaturesWarning
  dsimp only
  split
  · refine (silent_emitEvent (by decide) _ _).bind_yields (fun _ => .pure ?_)
    exact (Describes.refl types inst).setCondition _ _ _ h
  · exact .pure ((Describes.refl types inst).removeCondition h)

theorem silent_reportRedis (h : conditionRedisReady ∉ types)
    (ping : Except Error CachePingResponse) :
    (reportRedis inst ping).Yields InstanceOp.Silent (Describes types inst) := by
  have hset : ∀ v, Describes types inst { inst with status.redis := v } :=
    fun v => .of_conditions rfl rfl rfl rfl rfl
  unfold reportRedis
  dsimp only
  split
  · exact yields_after_event (silent_emitEvent (by decide) _ _)
      (.pure ((hset _).setCondition _ _ _ h))
  · exact yields_after_event (silent_emitEvent (by decide) _ _)
      (.pure ((hset _).setCondition _ _ _ h))

theorem silent_probeRedisHealth (h : conditionRedisReady ∉ types) (conn : ProxyConn) :
    (probeRedisHealth conn inst).Yields InstanceOp.Silent (Describes types inst) := by
  have hset : ∀ v, Describes types inst { inst with status.redis := v } :=
    fun v => .of_conditions rfl rfl rfl rfl rfl
  unfold probeRedisHealth
  split
  · exact .pure ((hset none).removeCondition h)
  · split
    · exact .pure ((hset _).setCondition _ _ _ h)
    · have hping : (health conn .cachePing).Uses InstanceOp.Silent := .perform rfl
      exact hping.bind_yields (silent_reportRedis inst h)

theorem describes_describeWorkload (h : conditionWorkloadUnmanaged ∉ types) :
    Describes types inst (describeWorkload inst) := by
  unfold describeWorkload
  split
  · refine Describes.removeCondition ?_ h
    exact .of_conditions rfl rfl rfl rfl rfl
  · split
    · exact (Describes.refl types inst).removeCondition h
    · exact (Describes.refl types inst).setCondition _ _ _ h

theorem describes_describeSSO : Describes types inst (describeSSO inst) := by
  unfold describeSSO
  split
  · exact .refl types inst
  · split
    · exact .of_conditions rfl rfl rfl rfl rfl
    · exact .refl types inst

/-- The condition that is set is true if there was no error and the instance is ready. -/
theorem silent_setReadyCondition (h : conditionReady ∉ types) (reconcileErr : Option Error) :
    (setReadyCondition inst reconcileErr).Yields InstanceOp.Silent (fun inst' =>
      Describes types inst inst' ∧ isStatusConditionTrue inst'.status.conditions conditionReady =
        (reconcileErr.isNone && inst.status.ready)) := by
  have hset : ∀ status reason message, (reconcileErr.isNone && inst.status.ready) =
      decide (status = .true) →
      Describes types inst (setCondition inst conditionReady status reason message) ∧
      isStatusConditionTrue (setCondition inst conditionReady status reason
        message).status.conditions conditionReady = (reconcileErr.isNone && inst.status.ready) :=
    fun status reason message hb => ⟨(Describes.refl types inst).setCondition _ _ _ h,
      (isStatusConditionTrue_set_self _ _).trans hb.symm⟩
  cases reconcileErr with
  | some e =>
    refine (silent_emitEvent (by decide) _ _).bind_yields (fun _ => ?_)
    exact .pure (hset _ _ _ rfl)
  | none =>
    unfold setReadyCondition
    dsimp only
    split
    · rename_i hready
      split <;> exact .pure (hset _ _ _ (by rw [hready]; rfl))
    · rename_i hready
      split <;> exact .pure (hset _ _ _ (by simpa using hready))

/-! ### Looking at the health of the proxy and its pods -/

/-- The copy is reported on by calls that write nothing, and is as ready as before. -/
def Reports (inst : LiteLLMInstance) (p : InstanceCtl LiteLLMInstance) : Prop :=
  p.Yields InstanceOp.Quiet (Describes [conditionDatabaseReady] inst)

variable {inst} in
theorem Reports.then {inst' : LiteLLMInstance} {p : InstanceCtl LiteLLMInstance}
    (h : Describes [conditionDatabaseReady] inst inst') (hp : Reports inst' p) : Reports inst p :=
  hp.mono (fun _ h => h) (fun _ h' => h.trans h')

variable {inst} in
theorem reports_of_silent {p : InstanceCtl LiteLLMInstance}
    (hp : p.Yields InstanceOp.Silent (Describes [conditionDatabaseReady] inst)) :
    Reports inst p :=
  hp.mono quiet_of_silent (fun _ h => h)

theorem quiet_health (conn : ProxyConn) (req : HealthApi) :
    (health conn req).Uses InstanceOp.Quiet :=
  .perform trivial

theorem quiet_emitEvent (type : EventType) (reason message : String) :
    (emitEvent type reason message).Uses InstanceOp.Quiet :=
  .perform trivial

theorem quiet_inspectPodHealth : (inspectPodHealth inst).Uses InstanceOp.Quiet := by
  refine .bind (.perform trivial) (fun r => ?_)
  cases r with
  | error e | ok pods => exact .pure

theorem reports_reportUnhealthy (first : UnhealthyPod) (count : Nat) :
    Reports inst (reportUnhealthy inst first count) :=
  yields_after_event (quiet_emitEvent _ _ _)
    (.pure ((Describes.refl _ inst).setCondition _ _ _ (by decide)))

theorem reports_setPodsHealthyCondition : Reports inst (setPodsHealthyCondition inst) := by
  have hpods : ∀ pods, Describes [conditionDatabaseReady] inst
      { inst with status.unhealthyPods := pods } :=
    fun pods => .of_conditions rfl rfl rfl rfl rfl
  unfold setPodsHealthyCondition
  split
  · exact .pure ((hpods []).setCondition _ _ _ (by decide))
  · refine (quiet_inspectPodHealth inst).bind_yields (fun unhealthy => ?_)
    cases unhealthy with
    | nil => exact .pure ((hpods []).setCondition _ _ _ (by decide))
    | cons first rest => exact Reports.then (hpods _) (reports_reportUnhealthy _ first _)

variable (r : LiteLLMInstanceReconciler)

theorem quiet_proxyReachable : (proxyReachable r inst).Uses InstanceOp.Quiet := by
  unfold proxyReachable
  split
  · exact .pure
  · refine ((silent_proxyConn inst).mono quiet_of_silent).bind (fun conn => ?_)
    rcases conn with _ | conn
    · exact .pure
    refine (quiet_health _ _).bind (fun out => ?_)
    cases out with
    | error e | ok _ => exact .pure

theorem reports_probeFailed (reason what : String) (e : Error) :
    Reports inst (probeFailed inst reason what e) :=
  yields_after_event (quiet_emitEvent _ _ _)
    (.pure ((Describes.refl _ inst).setCondition _ _ _ (by decide)))

theorem reports_probeInstanceHealth : Reports inst (probeInstanceHealth inst) := by
  refine ((silent_proxyConn inst).mono quiet_of_silent).bind_yields (fun conn => ?_)
  rcases conn with _ | conn
  · exact .pure (.refl _ inst)
  refine (quiet_health _ _).bind_yields (fun live => ?_)
  rcases live with e | _
  · exact reports_probeFailed inst _ _ e
  refine (quiet_health _ _).bind_yields (fun readiness => ?_)
  rcases readiness with e | readiness
  · exact reports_probeFailed inst _ _ e
  refine yields_after_event (quiet_emitEvent _ _ _) ?_
  refine Reports.then ?_ (reports_of_silent (silent_probeRedisHealth _ (by decide) conn))
  split
  · exact .of_conditions rfl rfl rfl rfl rfl
  · exact .refl _ inst

theorem retains_withReplicas (dep : Except Error Deployment) :
    Retains types inst (withReplicas inst dep) := by
  cases dep with
  | error e => exact .refl types inst
  | ok dep => exact .of_conditions rfl rfl rfl rfl

theorem looks_workloadReadiness :
    (workloadReadiness r inst).Yields InstanceOp.Looks (Retains [conditionDatabaseReady] inst) := by
  unfold workloadReadiness
  split
  · have hget : (getChild .deployment inst.metadata.key).Uses InstanceOp.Looks :=
      .perform (by decide : ChildKind.deployment ≠ .job)
    refine hget.bind_yields (fun dep => ?_)
    exact (reports_setPodsHealthyCondition _).mono looks_of_quiet
      (fun _ h => (retains_withReplicas inst dep).trans h.toRetains)
  · refine ((quiet_proxyReachable inst r).mono looks_of_quiet).bind_yields (fun ready => .pure ?_)
    refine Retains.removeCondition ?_ (by decide)
    exact .of_conditions rfl rfl rfl rfl

/-- What `describeInstance` does once the readiness of the workload is known. -/
def describeReadied (inst : LiteLLMInstance) (reconcileErr : Option Error) :
    InstanceCtl LiteLLMInstance := do
  let inst ← checkEnterpriseFeaturesWarning (describeSSO (describeWorkload inst))
  let inst ← reconcileSecretManagerStatus inst
  validateTLSSecrets inst
  let inst ← setReadyCondition inst reconcileErr
  if inst.status.ready && r.clientFactory then probeInstanceHealth inst else return inst

variable (reconcileErr : Option Error)

theorem describeInstance_eq : describeInstance r inst reconcileErr =
      (workloadReadiness r { inst with status.endpoint := instanceEndpoint inst } >>=
        fun inst' => describeReadied r inst' reconcileErr) := rfl

theorem reports_describeReadied : Reports inst (describeReadied r inst reconcileErr) := by
  have h₁ : Describes [conditionDatabaseReady] inst (describeSSO (describeWorkload inst)) :=
    (describes_describeWorkload inst (by decide)).trans (describes_describeSSO _)
  refine .bind (reports_of_silent (silent_checkEnterpriseFeaturesWarning _ (by decide)))
    (fun inst₂ h₂ => ?_)
  refine .bind (reports_of_silent (silent_reconcileSecretManagerStatus inst₂)) (fun inst₃ h₃ => ?_)
  refine ((silent_validateTLSSecrets inst₃).mono quiet_of_silent).bind_yields (fun _ => ?_)
  have hready : Reports inst₃ (setReadyCondition inst₃ reconcileErr) :=
    reports_of_silent ((silent_setReadyCondition inst₃ (by decide) reconcileErr).mono
      (fun _ h => h) (fun _ h => h.1))
  refine .bind hready (fun inst₄ h₄ => ?_)
  have h : Describes [conditionDatabaseReady] inst inst₄ := ((h₁.trans h₂).trans h₃).trans h₄
  split
  · exact Reports.then h (reports_probeInstanceHealth inst₄)
  · exact .pure h

/-- **Finding out how the instance is writes nothing.** The copy whose status is written at the end
differs from the one before in its status only, and not in the condition about the database. -/
theorem looks_describeInstance : (describeInstance r inst reconcileErr).Yields InstanceOp.Looks
      (Retains [conditionDatabaseReady] inst) := by
  have h₀ : Retains [conditionDatabaseReady] inst
      { inst with status.endpoint := instanceEndpoint inst } := .of_conditions rfl rfl rfl rfl
  rw [describeInstance_eq]
  refine (looks_workloadReadiness _ r).bind (fun inst₁ h₁ => ?_)
  exact (reports_describeReadied inst₁ r reconcileErr).mono looks_of_quiet
    (fun _ h₂ => (h₀.trans h₁).trans h₂.toRetains)

end

end LitellmOperator
