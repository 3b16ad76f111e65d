import LitellmOperator.Upstream.Mirror

/-! # Drift and its remedy

The config sync finds drift by comparing a few fields of an entry of LiteLLM's list with the spec.
If custom resources win, it takes the sync hash off the resource, so that the next reconcile pushes
the spec again. That is a remedy if the fields that are compared are among those that this reconcile
sends. `Remedy` collects what the three places say of one kind, and `Remedy.remedied_iff` says when
they fit together.
-/

set_option autoImplicit false

namespace LitellmOperator

open Effect Go Kube Ctl Scene

/-! ## What the config sync writes -/

/-- The writes of one resource, each of which went through. -/
inductive SyncOp.Persists {K : SyncKind} [DecidableEq K.Spec] [DecidableEq K.Status] :
    Store K.Spec K.Status → List (Prog.Event (SyncOp K) SyncOp.Resp) → Store K.Spec K.Status →
      Prop where
  | nil (store : Store K.Spec K.Status) : Persists store [] store
  | update {store store' store'' : Store K.Spec K.Status} {obj r : K.CR}
      {t : List (Prog.Event (SyncOp K) SyncOp.Resp)} (h : store.update obj = .ok (r, store'))
      (ht : Persists store' t store'') : Persists store (⟨.update obj, .ok r⟩ :: t) store''

/-- `handleDrift` has run to its end, its write went through, and led from one store to the other. -/
def SyncKind.Handles (K : SyncKind) [DecidableEq K.Spec] [DecidableEq K.Status]
    (s : ConfigSyncer) (crd : K.CR) (store store' : Store K.Spec K.Status) : Prop :=
  ∃ displayName result t out, (handleDrift s crd displayName result).Trace t out ∧
    SyncOp.Persists store t store'

/-- Custom resources win, which is also the default. -/
def ConfigSyncer.CRDWins (s : ConfigSyncer) : Prop :=
  s.config.conflictResolution = .crdWins ∨ s.config.conflictResolution = .unset

section

variable {Spec Status : Type}

/-- `r` is `v` without the sync hash. -/
def Unhashed (v r : Resource Spec Status) : Prop :=
  (v.metadata.annotations = none ∧ r = v) ∨ ∃ rv gen, r = (withoutSyncHash v).stamp rv gen

variable {v r : Resource Spec Status}

theorem Unhashed.same (h : Unhashed v r) : r.spec = v.spec ∧ r.status = v.status ∧
    r.metadata.name = v.metadata.name ∧ r.metadata.ns = v.metadata.ns ∧
    r.metadata.deleting = v.metadata.deleting := by
  rcases h with ⟨-, rfl⟩ | ⟨_, _, rfl⟩
  · exact ⟨rfl, rfl, rfl, rfl, rfl⟩
  · exact ⟨rfl, rfl, rfl, rfl, rfl⟩

theorem Unhashed.syncHash (h : Unhashed v r) : syncHash r = "" := by
  rcases h with ⟨hnone, rfl⟩ | ⟨_, _, rfl⟩
  · show lookup r.metadata.annotations annotationSyncHash = ""
    rw [hnone]
    rfl
  · show (((v.metadata.annotations.getD []).delete annotationSyncHash).get?
      annotationSyncHash).getD "" = ""
    rw [StrMap.get?_delete_self]
    rfl

theorem Unhashed.annotationAt {key : String} (h : Unhashed v r) (hkey : annotationSyncHash ≠ key) :
    annotationAt r key = annotationAt v key := by
  rcases h with ⟨-, rfl⟩ | ⟨_, _, rfl⟩
  · rfl
  · show (((v.metadata.annotations.getD []).delete annotationSyncHash).get? key).getD "" = _
    rw [StrMap.get?_delete_ne _ hkey]
    rfl

end

section

variable {K : SyncKind} {s : ConfigSyncer} {crd : K.CR} {displayName : String} {result : SyncResult}

theorem handleDrift_of_none (hwins : s.CRDWins) (hann : crd.metadata.annotations = none) :
    ∃ out, handleDrift s crd displayName result = pure out := by
  unfold handleDrift
  rcases hwins with hwins | hwins
  · rw [hwins, hann]
    exact ⟨_, rfl⟩
  · rw [hwins, hann]
    exact ⟨_, rfl⟩

theorem handleDrift_of_some {annotations : StrMap String} (hwins : s.CRDWins)
    (hann : crd.metadata.annotations = some annotations) :
    ∃ k, handleDrift s crd displayName result =
      (Prog.perform (SyncOp.update (deleteSyncHash crd annotations)) >>= k) ∧
      ∀ r, ∃ out, k r = pure out := by
  unfold handleDrift
  rcases hwins with hwins | hwins
  · rw [hwins, hann]
    refine ⟨_, rfl, fun r => ?_⟩
    cases r with
    | error e | ok crd => exact ⟨_, rfl⟩
  · rw [hwins, hann]
    refine ⟨_, rfl, fun r => ?_⟩
    cases r with
    | error e | ok crd => exact ⟨_, rfl⟩

variable [DecidableEq K.Spec] [DecidableEq K.Status] {store store' : Store K.Spec K.Status}

theorem SyncKind.Handles.of_update {annotations : StrMap String} {r : K.CR} (hwins : s.CRDWins)
    (hann : crd.metadata.annotations = some annotations)
    (h : store.update (deleteSyncHash crd annotations) = .ok (r, store')) :
    K.Handles s crd store store' := by
  obtain ⟨k, hprog, hk⟩ := handleDrift_of_some hwins hann
  obtain ⟨out, hout⟩ := hk (.ok r)
  refine ⟨"", {}, _, out, ?_, .update h (.nil _)⟩
  rw [hprog]
  exact Prog.trace_perform_bind_iff.mpr ⟨.ok r, [], rfl, by rw [hout]; exact .ret out⟩

/-- **`handleDrift` takes the sync hash off the resource.** -/
theorem SyncKind.Handles.unhashed (hwins : s.CRDWins) (hcur : store.current = some crd)
    (hlive : crd.metadata.deleting = false) (h : K.Handles s crd store store') :
    ∃ r, store'.current = some r ∧ Unhashed crd r := by
  obtain ⟨displayName, result, t, out, htrace, hpersists⟩ := h
  cases hann : crd.metadata.annotations with
  | none =>
    obtain ⟨out', hprog⟩ := handleDrift_of_none hwins hann
    rw [hprog] at htrace
    obtain ⟨rfl, -⟩ := Prog.trace_pure_iff.mp htrace
    cases hpersists
    exact ⟨crd, hcur, .inl ⟨hann, rfl⟩⟩
  | some annotations =>
    obtain ⟨k, hprog, hk⟩ := handleDrift_of_some hwins hann
    rw [hprog] at htrace
    obtain ⟨r, t', rfl, hrest⟩ := Prog.trace_perform_bind_iff.mp htrace
    obtain ⟨out', hout⟩ := hk r
    rw [hout] at hrest
    obtain ⟨rfl, -⟩ := Prog.trace_pure_iff.mp hrest
    have hobj : deleteSyncHash crd annotations = withoutSyncHash crd := by
      unfold deleteSyncHash withoutSyncHash
      rw [hann]
      rfl
    rw [hobj] at hpersists
    cases hpersists with
    | update hupdate hnil =>
      cases hnil
      -- the write goes over the resource that is stored
      have hrv : (withoutSyncHash crd).rv = crd.rv := rfl
      rw [Store.update_of_current hcur hrv] at hupdate
      obtain ⟨hr, rfl⟩ := Prod.mk.inj (Except.ok.inj hupdate)
      refine ⟨_, Store.current_put hcur hlive, .inr ?_⟩
      exact (Store.written_put hcur (crd.updated (withoutSyncHash crd))).stored

end

/-! ## Kinds that are synced -/

/-- What LiteLLM lists for a text that it stores, or does not. -/
def listedText : Option FieldValue → String
  | some (.text s) => s
  | _ => ""

def listedFlag : Option FieldValue → Bool
  | some (.flag b) => b
  | _ => false

theorem listedText_overlay {old new : Fields} {f : Field} {s : String}
    (h : new f = FieldValue.ofText s) :
    listedText (Record.overlay none old new f) = if s = "" then listedText (old f) else s := by
  by_cases hs : s = ""
  · rw [Record.overlay_of_absent (h.trans (if_pos hs)), if_pos hs]
  · have hnew : new f = some (.text s) := h.trans (if_neg hs)
    rw [Record.overlay_of_ne (by rw [hnew]; exact Option.some_ne_none _), hnew, if_neg hs]
    rfl

theorem listedText_sent {old new : Fields} {f : Field} {s : String} (h : new f = some (.text s)) :
    listedText (Record.overlay none old new f) = s := by
  rw [Record.overlay_of_ne (by rw [h]; exact Option.some_ne_none _), h]
  rfl

/-- The fields of an object after an update that may go astray. -/
def Mirror.afterUpdate (M : Mirror) (s : M.R.Spec) (refs : M.Refs) (y : String) (fs : Fields) :
    Fields :=
  if M.address s y = y then Record.overlay none fs (M.updated s refs y) else fs

theorem Mirror.afterUpdate_of_address {M : Mirror} {s : M.R.Spec} {refs : M.Refs} {y : String}
    {fs : Fields} (h : M.address s y = y) :
    M.afterUpdate s refs y fs = Record.overlay none fs (M.updated s refs y) := if_pos h

theorem Mirror.afterUpdate_of_astray {M : Mirror} {s : M.R.Spec} {refs : M.Refs} {y : String}
    {fs : Fields} (h : M.address s y ≠ y) : M.afterUpdate s refs y fs = fs := if_neg h

/-- A kind that the config sync compares with what LiteLLM lists. -/
structure Remedy (lib : Ext) extends Mirrored lib where
  /-- An entry of the list. -/
  Info : Type
  apiID : Info → String
  managedID : R.CR → Option String
  isDrifted : R.CR → Info → Bool
  Handles : ConfigSyncer → R.CR → Store R.Spec R.Status → Store R.Spec R.Status → Prop
  /-- The entry has the stored values of the fields that are compared. -/
  Shows : Fields → Info → Prop
  /-- The next reconcile pushes the fields that have drifted. -/
  Covers : R.RPass → R.CR → Info → Prop
  managedID_eq : ∀ v, managedID v = object v.spec v.status
  isDrifted_congr : ∀ v v', v.spec = v'.spec → isDrifted v = isDrifted v'
  unhashed : ∀ s cr store store', s.CRDWins → store.current = some cr →
    cr.metadata.deleting = false → Handles s cr store store' →
    ∃ r, store'.current = some r ∧ Unhashed cr r
  ready_unhashed : ∀ E v r, Unhashed v r → (ready E r ↔ ready E v)
  hash_ne : ∀ s refs, hash s refs ≠ ""
  covers_of_update : ∀ E v y refd fs info info', object v.spec v.status = some y → ready E v →
    refs E v.metadata.ns v.spec = some refd → Shows fs info → isDrifted v info = true →
    Shows (toMirror.afterUpdate v.spec refd y fs) info' →
    (isDrifted v info' = false ↔ Covers E v info)
  covers_of_create : ∀ E v y refd info info', object v.spec v.status = some y → ¬ ready E v →
    refs E v.metadata.ns v.spec = some refd → Shows (created v.spec refd) info' →
    isDrifted v info' = false ∧ Covers E v info

namespace Remedy

variable {lib : Ext} {M : Remedy lib} {s : ConfigSyncer} {req : NamespacedName} {E : M.R.RPass}
variable {σ : M.R.RScene} {store : Store M.R.Spec M.R.Status} {cr r : M.R.CR} {info : M.Info}

/-- The scene in which the config sync has written the resource. -/
def afterSync (σ : M.R.RScene) (store : Store M.R.Spec M.R.Status) : M.R.RScene :=
  { σ with world := { σ.world with store := store } }

/-- The config sync has found that the resource drifted and handles that; then the resource is
reconciled, with success. -/
structure Cycle (M : Remedy lib) (s : ConfigSyncer) (req : NamespacedName) (E : M.R.RPass)
    (σ : M.R.RScene) (cr : M.R.CR) (info : M.Info) (store : Store M.R.Spec M.R.Status) : Prop where
  wins : s.CRDWins
  now : σ.Now cr
  live : cr.metadata.deleting = false
  managed : M.managedID cr = some (M.apiID info)
  listed : ∃ fs, M.fields σ = some fs ∧ M.Shows fs info
  drifted : M.isDrifted cr info = true
  handled : M.Handles s cr σ.world.store store
  honest : M.Honest E
  success : ∃ r, Pass.Success M.controller (Reconciler.done lib req (afterSync σ store) E) r

/-- **When drift is remedied.** After one cycle and one reconcile that succeeds, the entry of the
object shows no drift if and only if what has drifted is pushed. -/
theorem remedied_iff (h : M.Cycle s req E σ cr info store) :
    ∃ r y fs, (Reconciler.done lib req (afterSync σ store) E).Now r ∧ M.managedID r = some y ∧
      M.fields (Reconciler.done lib req (afterSync σ store) E) = some fs ∧
      ∀ info', M.apiID info' = y → M.Shows fs info' →
        (M.isDrifted r info' = false ↔ M.Covers E cr info) := by
  obtain ⟨v, hv, hunhashed⟩ := M.unhashed s cr _ store h.wins h.now h.live h.handled
  obtain ⟨hspec, hstatus, -, hns, hdel⟩ := hunhashed.same
  obtain ⟨r, hr⟩ := h.success
  obtain ⟨fs, hfs, hshows⟩ := h.listed
  have hbound : M.object cr.spec cr.status = some (M.apiID info) :=
    (M.managedID_eq cr).symm.trans h.managed
  have hboundv : M.object v.spec v.status = some (M.apiID info) := by
    rw [hspec, hstatus]
    exact hbound
  have hbefore : M.objects σ.log (M.R.kind.refKey v, M.apiID info) = some fs := by
    unfold Mirror.fields at hfs
    rw [show σ.world.store.current = some cr from h.now, Option.bind_some, hbound,
      Option.bind_some] at hfs
    unfold Kind.refKey at hfs ⊢
    rw [hspec, hns]
    exact hfs
  have hsits : M.Sits E (afterSync σ store) v := by
    refine ⟨hv, hdel.trans h.live, fun hnone => ?_⟩
    rw [hboundv] at hnone
    cases hnone
  obtain ⟨refs, y, s', hrefs, hpush, hrec⟩ := Mirrored.pushed_of_success h.honest hsits hr
  have hfields := Mirrored.fields_of_recorded hrec
  have hready := M.ready_unhashed E cr v hunhashed
  have hrefs' : M.refs E cr.metadata.ns cr.spec = some refs := by
    rw [← hspec, ← hns]
    exact hrefs
  have hdrift : M.isDrifted r = M.isDrifted cr := M.isDrifted_congr _ _ (hrec.spec.trans hspec)
  have hmanaged : M.managedID r = some y := by
    rw [M.managedID_eq, hrec.spec]
    exact hrec.object
  -- the sync hash is gone, so the spec is pushed in one way or another
  cases hpush with
  | created hnone _ =>
    rw [hboundv] at hnone
    cases hnone
  | skipped _ _ hhash => exact absurd (hhash.symm.trans hunhashed.syncHash) (M.hash_ne _ _)
  | updated hobj hrdy =>
    obtain rfl := Option.some.inj (hboundv.symm.trans hobj)
    have hafter : M.fields (Reconciler.done lib req (afterSync σ store) E) =
        some (M.afterUpdate cr.spec refs (M.apiID info) fs) := by
      rw [hfields, ← hspec]
      unfold Mirror.afterUpdate
      by_cases haddress : M.address v.spec (M.apiID info) = M.apiID info
      · rw [if_pos haddress, haddress, Function.update_self]
        show (M.objects σ.log _).map _ = _
        rw [hbefore]
        rfl
      · have hne : (M.R.kind.refKey v, M.apiID info) ≠
            (M.R.kind.refKey v, M.address v.spec (M.apiID info)) :=
          fun heq => haddress (Prod.mk.inj heq).2.symm
        rw [if_neg haddress, Function.update_of_ne hne]
        exact hbefore
    refine ⟨r, _, _, hrec.now, hmanaged, hafter, fun info' _ hshows' => ?_⟩
    rw [hdrift]
    exact M.covers_of_update E cr _ refs fs info info' hbound (hready.mp hrdy) hrefs' hshows
      h.drifted hshows'
  | replaced hobj hnot _ =>
    rw [Function.update_self, hspec] at hfields
    refine ⟨r, _, _, hrec.now, hmanaged, hfields, fun info' _ hshows' => ?_⟩
    obtain ⟨hfalse, hcovers⟩ := M.covers_of_create E cr _ refs info info' hbound
      (fun hrdy => hnot (hready.mpr hrdy)) hrefs' hshows'
    rw [hdrift]
    exact ⟨fun _ => hcovers, fun _ => hfalse⟩

end Remedy

end LitellmOperator
