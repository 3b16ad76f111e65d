import LitellmOperator.Pass.Kinds
import LitellmOperator.Sync.User

/-! # References to resources beside

A team refers to an organization, a user to teams, and a virtual key to a team and a user, by the
names of resources in the same namespace. A reconcile looks the resource up and sends the id from
its status to the instance of its own. Whether the resource referred to is an object of that
instance is not checked (`Referring.within_iff`).
-/

set_option autoImplicit false

namespace LitellmOperator

open Effect Go Kube Ctl Scene Protocol

/-- What the reads of the controllers find. -/
structure ClusterState where
  read : (r : Read) → Except Error r.Obj
  /-- A read returns the instance asked for. -/
  fits : ∀ r o, read r = .ok o → r.fits o = true

/-- A reference to another resource of the namespace, by name. -/
inductive Sibling where
  | organization (name : String)
  | team (name : String)
  | user (name : String)
  deriving DecidableEq

/-- The id that an object has, if it is found and has one. -/
def ClusterState.found (C : ClusterState) (r : Read) (id : r.Obj → String) : Option String :=
  (C.read r).toOption.bind (fun x => idOf (id x))

/-- The id in the status of the resource referred to, once it has one. -/
def ClusterState.idAt (C : ClusterState) (ns : String) : Sibling → Option String
  | .organization name => C.found (.getOrganization ⟨ns, name⟩)
      (fun org : LiteLLMOrganization => org.status.litellmOrganizationID)
  | .team name => C.found (.getTeam ⟨ns, name⟩)
      (fun team : LiteLLMTeam => team.status.litellmTeamID)
  | .user name => C.found (.getUser ⟨ns, name⟩)
      (fun user : LiteLLMUser => user.status.litellmUserID)

section

variable {Spec Status Api : Type} [Service Api]

variable {C : ClusterState}

theorem readOff_lookup {r : Read} {id : r.Obj → String} {f : Error → Error} {e : Error}
    {y : String} :
    readOff C.read (do
        let x ← orFail (read r) f
        failIf (decide (id x = "")) e
        pure (id x) : ExceptT Error (Ctl Spec Status Api) String).run = some (.ok y) ↔
      C.found r id = some y := by
  rw [readOff_run_bind_ok]
  unfold ClusterState.found
  rw [Option.bind_eq_some_iff]
  refine exists_congr (fun x => and_congr ?_ ?_)
  · rw [readOff_orFail_ok]
    show some (C.read r) = some (.ok x) ↔ _
    cases C.read r with
    | error e | ok x' => simp [Except.toOption]
  · by_cases hx : id x = ""
    · rw [idOf_eq_none.mpr hx, hx]
      exact ⟨fun h => (by cases h), fun h => (by cases h)⟩
    · rw [idOf_of_ne hx, readOff_run_bind_ok]
      simp only [hx, decide_false]
      constructor
      · rintro ⟨_, -, h⟩
        cases h
        rfl
      · intro h
        cases h
        exact ⟨(), rfl, rfl⟩

/-- What a reference to an instance resolves to, as the controller `k` does it. -/
def ClusterState.resolve (C : ClusterState) (lib : Ext) (k : Controller Spec Status Api) (ns : String)
    (spec : Spec) : Option (Except Error ResolvedInstance) :=
  readOff C.read (resolveInstance lib (client : Reader (Ctl Spec Status Api)) ns k.kind
    (k.instanceRef spec)).run

/-- The resource's own reference resolves to this instance. -/
def ClusterState.ResolvesTo (C : ClusterState) (lib : Ext) (k : Controller Spec Status Api)
    (cr : Resource Spec Status) (key : NamespacedName) : Prop :=
  ∃ conn, C.resolve lib k cr.metadata.ns cr.spec = some (.ok conn) ∧ conn.inst.metadata.key = key

theorem ClusterState.ResolvesTo.key_eq {lib : Ext} {k : Controller Spec Status Api}
    {cr : Resource Spec Status} {key : NamespacedName} (h : C.ResolvesTo lib k cr key) :
    key = ⟨(k.instanceRef cr.spec).namespaceOr cr.metadata.ns, (k.instanceRef cr.spec).name⟩ := by
  obtain ⟨conn, hconn, rfl⟩ := h
  let E : Pass Spec Status Api :=
    { cluster := C.read, fits := C.fits, fault := fun _ => none
      serve := fun _ _ _ => .error (errorf ""), random := fun _ => .ok [] }
  exact Pass.key_of_readOff (E := E) hconn

end

/-- Some resource of the namespace, of the kind referred to, has this id, and its own reference
resolves to this instance. -/
def ClusterState.HasOn (C : ClusterState) (lib : Ext) (ns id : String) (key : NamespacedName) :
    Sibling → Prop
  | .organization _ => ∃ name org, C.read (.getOrganization ⟨ns, name⟩) = .ok org ∧
      LiteLLMOrganizationStatus.litellmOrganizationID org.status = id ∧
      C.ResolvesTo lib (Organization.controller lib) org key
  | .team _ => ∃ name team, C.read (.getTeam ⟨ns, name⟩) = .ok team ∧
      LiteLLMTeamStatus.litellmTeamID team.status = id ∧
      C.ResolvesTo lib (Team.controller lib) team key
  | .user _ => ∃ name user, C.read (.getUser ⟨ns, name⟩) = .ok user ∧
      LiteLLMUserStatus.litellmUserID user.status = id ∧
      C.ResolvesTo lib (User.controller lib) user key

/-- Each reference has been replaced by the id of what it refers to. -/
def ClusterState.Answers (C : ClusterState) (ns : String) (refs : List Sibling)
    (ids : List (Sibling × String)) : Prop :=
  ids.map Prod.fst = refs ∧ ∀ p ∈ ids, C.idAt ns p.1 = some p.2

namespace ClusterState.Answers

variable {C : ClusterState} {ns : String} {refs refs' : List Sibling}
  {ids ids' : List (Sibling × String)}

theorem nil : C.Answers ns [] [] := ⟨rfl, fun _ hp => absurd hp List.not_mem_nil⟩

theorem cons {ref : Sibling} {id : String} (hid : C.idAt ns ref = some id)
    (h : C.Answers ns refs ids) : C.Answers ns (ref :: refs) ((ref, id) :: ids) := by
  refine ⟨congrArg (ref :: ·) h.1, fun p hp => ?_⟩
  rcases List.mem_cons.mp hp with rfl | hp
  · exact hid
  · exact h.2 p hp

theorem append (h : C.Answers ns refs ids) (h' : C.Answers ns refs' ids') :
    C.Answers ns (refs ++ refs') (ids ++ ids') := by
  refine ⟨by rw [List.map_append, h.1, h'.1], fun p hp => ?_⟩
  rcases List.mem_append.mp hp with hp | hp
  · exact h.2 p hp
  · exact h'.2 p hp

theorem isSome (h : C.Answers ns refs ids) : ∀ ref ∈ refs, (C.idAt ns ref).isSome := by
  intro ref href
  rw [← h.1] at href
  obtain ⟨p, hp, rfl⟩ := List.mem_map.mp href
  rw [h.2 p hp]
  rfl

theorem mem {ref : Sibling} {id : String} (h : C.Answers ns refs ids) (href : ref ∈ refs)
    (hid : C.idAt ns ref = some id) : (ref, id) ∈ ids := by
  rw [← h.1] at href
  obtain ⟨p, hp, rfl⟩ := List.mem_map.mp href
  obtain rfl : p.2 = id := Option.some.inj ((h.2 p hp).symm.trans hid)
  exact hp

end ClusterState.Answers

/-- A request carries no ids for references, or these, and is sent to this instance. -/
def Carrying {Spec Api : Type} (carried : Spec → Api → List (Sibling × String)) (spec : Spec)
    (conn : ResolvedInstance) (ids : List (Sibling × String)) (conn' : ResolvedInstance)
    (req : Api) : Prop :=
  carried spec req = [] ∨ conn' = conn ∧ carried spec req = ids

/-- LiteLLM answers that nothing is found. -/
def missing : Error := .leaf (.api ⟨404, "not found", ""⟩)

/-- A kind of resource that refers to others. -/
structure Referring (lib : Ext) where
  R : Reconciler
  controller : Controller R.Spec R.Status R.Api
  reconcile : ∀ req, R.reconcile lib req = controller.reconcile lib req := by intros; rfl
  refs : R.Spec → List Sibling
  /-- The ids in a request that stand for references of the spec. -/
  carried : R.Spec → R.Api → List (Sibling × String)
  carried_delete : ∀ spec id, carried spec (controller.delete id) = [] := by intros; rfl
  /-- The status of a resource that has not been reconciled. -/
  blank : R.Status
  /-- The body sends ids for references only to its instance. -/
  sends : ∀ {C : ClusterState} {E : R.RPass} {home : String} {conn : ResolvedInstance} {v : R.CR}
    {τ : R.RScene}, E.cluster = C.read →
    (E.rules R.kind lib home).wp (controller.body v conn).run (fun _ τ' => Sent (fun conn' req =>
      carried v.spec req = [] ∨ conn' = conn ∧
        C.Answers v.metadata.ns (refs v.spec) (carried v.spec req)) τ τ') τ
  /-- If what is referred to has ids, the body of a new resource sends them. -/
  reaches : ∀ {C : ClusterState} {E : R.RPass} {home : String} {conn : ResolvedInstance} {v : R.CR},
    E.cluster = C.read → (∀ τ conn req, E.serve τ conn req = .error missing) → v.status = blank →
    (∀ ref ∈ refs v.spec, (C.idAt v.metadata.ns ref).isSome) →
    ∃ req, C.Answers v.metadata.ns (refs v.spec) (carried v.spec req) ∧
      ∀ σ τ : R.RScene, Later σ τ → (E.rules R.kind lib home).wp (controller.body v conn).run
        (fun _ τ' => Asked σ conn req τ') τ

section

variable {Spec Status Api : Type} [Service Api] {C : ClusterState} {ns : String} {spec : Spec}
variable {carried : Spec → Api → List (Sibling × String)} {refs : List Sibling}
variable {ids : List (Sibling × String)} {conn : ResolvedInstance} {τ τ' : Scene Spec Status Api}

theorem ClusterState.Answers.sent (hids : C.Answers ns refs ids)
    (h : Sent (Carrying carried spec conn ids) τ τ') :
    Sent (fun conn' req => carried spec req = [] ∨
      conn' = conn ∧ C.Answers ns refs (carried spec req)) τ τ' := by
  refine h.mono ?_
  rintro conn' req (hnone | ⟨hconn, hcarried⟩)
  · exact .inl hnone
  · rw [hcarried]
    exact .inr ⟨hconn, hids⟩

end

namespace Referring

variable {lib : Ext} (K : Referring lib)

/-- The ids that the request carries for references are ids of resources of that instance. -/
def Within (C : ClusterState) (ns : String) (spec : K.R.Spec) (conn : ResolvedInstance)
    (req : K.R.Api) : Prop :=
  ∀ p ∈ K.carried spec req, C.HasOn lib ns p.2 conn.inst.metadata.key p.1

/-- If the resource's own reference resolves and the others all have ids, then these are ids of
resources of that instance. -/
def Aligned (C : ClusterState) (ns : String) (spec : K.R.Spec) : Prop :=
  ∀ conn, C.resolve lib K.controller ns spec = some (.ok conn) →
    (∀ ref ∈ K.refs spec, (C.idAt ns ref).isSome) →
    ∀ ref ∈ K.refs spec, ∀ id, C.idAt ns ref = some id → C.HasOn lib ns id conn.inst.metadata.key ref

variable {K} {C : ClusterState} {ns : String} {spec : K.R.Spec}

/-- **What is sent, if the references are of one instance.** -/
theorem sent_within (h : K.Aligned C ns spec) {E : K.R.RPass} {req : NamespacedName}
    {σ : K.R.RScene} {cr : K.R.CR} (hE : E.cluster = C.read) (hnow : σ.Now cr)
    (hns : cr.metadata.ns = ns) (hspec : cr.spec = spec) :
    Sent (K.Within C ns spec) σ (Reconciler.done lib req σ E) := by
  unfold Reconciler.done
  rw [K.reconcile]
  have hwp : (E.rules K.R.kind lib req.ns).wp (K.controller.reconcile lib req)
      (fun _ σ' => Sent (K.Within C ns spec) σ σ') σ := by
    refine Pass.wp_reconcile_sent hnow ?_ (fun conn v τ hres hv => ?_)
    · intro conn id p hp
      rw [K.carried_delete] at hp
      cases hp
    · have hvspec : v.spec = spec := hv.spec.trans hspec
      have hvns : v.metadata.ns = ns := hv.ns.trans hns
      have hconn : C.resolve lib K.controller ns spec = some (.ok conn) := by
        rw [← hns, ← hspec]
        unfold ClusterState.resolve
        rw [← hE]
        exact hres
      refine Protocol.wp_mono (K.sends hE) (fun _ τ' hsent => ?_)
      rw [hvspec, hvns] at hsent
      refine hsent.mono (fun conn' req hreq p hp => ?_)
      rcases hreq with hnone | ⟨rfl, hids⟩
      · rw [hnone] at hp
        cases hp
      · refine h conn' hconn hids.isSome p.1 ?_ p.2 (hids.2 p hp)
        rw [← hids.1]
        exact List.mem_map_of_mem hp
  exact Pass.wp_run.mp hwp

theorem asked_of_new {conn : ResolvedInstance} (req : NamespacedName)
    (hconn : C.resolve lib K.controller ns spec = some (.ok conn))
    (hall : ∀ ref ∈ K.refs spec, (C.idAt ns ref).isSome) :
    ∃ (E : K.R.RPass) (cr : K.R.CR) (asked : K.R.Api), E.cluster = C.read ∧
      cr.metadata.ns = ns ∧ cr.spec = spec ∧ C.Answers ns (K.refs spec) (K.carried spec asked) ∧
      Asked (K.R.scene cr) conn asked (Reconciler.done lib req (K.R.scene cr) E) := by
  let E : K.R.RPass :=
    { cluster := C.read, fits := C.fits, fault := fun _ => none
      serve := fun _ _ _ => .error missing, random := fun _ => .ok [] }
  let cr : K.R.CR :=
    { metadata := { name := req.name, ns := ns, finalizers := [finalizerName] }
      spec := spec, status := K.blank }
  have hreaches : ∃ asked, C.Answers ns (K.refs spec) (K.carried spec asked) ∧
      ∀ σ τ : K.R.RScene, Later σ τ → (E.rules K.R.kind lib req.ns).wp
        (K.controller.body cr conn).run (fun _ τ' => Asked σ conn asked τ') τ :=
    K.reaches (C := C) (E := E) (v := cr) rfl (fun _ _ _ => rfl) rfl hall
  obtain ⟨asked, hcarried, hasked⟩ := hreaches
  refine ⟨E, cr, asked, rfl, rfl, rfl, hcarried, ?_⟩
  unfold Reconciler.done
  rw [K.reconcile]
  have hnow : (K.R.scene cr).Now cr := rfl
  have hwp : (E.rules K.R.kind lib req.ns).wp (K.controller.reconcile lib req)
      (fun _ σ' => Asked (K.R.scene cr) conn asked σ') (K.R.scene cr) :=
    Pass.wp_reconcile_asked hnow rfl (by simp [containsFinalizer, cr]) hconn (hasked _)
  exact Pass.wp_run.mp hwp

/-- **When references stay within one instance.** -/
theorem within_iff (req : NamespacedName) :
    (∀ (E : K.R.RPass) (σ : K.R.RScene) (cr : K.R.CR), E.cluster = C.read → σ.Now cr →
      cr.metadata.ns = ns → cr.spec = spec →
      Sent (K.Within C ns spec) σ (Reconciler.done lib req σ E)) ↔ K.Aligned C ns spec := by
  constructor
  · intro h conn hconn hall ref href id hid
    obtain ⟨E, cr, asked, hE, hns, hspec, hcarried, hasked⟩ := asked_of_new req hconn hall
    have hsent := h E (K.R.scene cr) cr hE rfl hns hspec
    exact hsent.of_asked hasked (ref, id) (hcarried.mem href hid)
  · intro h E σ cr hE hnow hns hspec
    exact sent_within h hE hnow hns hspec

end Referring

/-! ## Teams, users and virtual keys that refer to others

The three kinds whose reconcile looks other resources up. None of the lookups looks at the instance
that the other resource refers to, so an id can be sent to an instance that does not have that
object, or has another one under this id (`references_within_iff`, `reference_leaves_instance`).
-/

namespace Team

def siblings (spec : LiteLLMTeamSpec) : List Sibling :=
  spec.organizationRef.toList.map (fun ref => .organization ref.name)

def carried (spec : LiteLLMTeamSpec) : TeamApi → List (Sibling × String)
  | .create body => (siblings spec).map (fun ref => (ref, body.organizationID))
  | .update body => (siblings spec).map (fun ref => (ref, body.organizationID))
  | _ => []

variable {lib : Ext} {conn : ResolvedInstance} {team : LiteLLMTeam} {orgID : String}
variable {C : ClusterState} {N : ResolvedInstance → TeamApi → Prop}

theorem answers_organization
    (h : readOff C.read (resolveOrganizationRef team).run = some (.ok orgID)) :
    C.Answers team.metadata.ns (siblings team.spec)
      ((siblings team.spec).map (fun ref => (ref, orgID))) := by
  unfold resolveOrganizationRef at h
  unfold siblings
  cases href : team.spec.organizationRef with
  | none => exact .nil
  | some ref =>
    rw [href] at h
    exact .cons (readOff_lookup.mp h) .nil

theorem organization_found (h : ∀ ref ∈ siblings team.spec, (C.idAt team.metadata.ns ref).isSome) :
    ∃ orgID, readOff C.read (resolveOrganizationRef team).run = some (.ok orgID) := by
  unfold resolveOrganizationRef
  unfold siblings at h
  cases href : team.spec.organizationRef with
  | none => exact ⟨"", rfl⟩
  | some ref =>
    rw [href] at h
    obtain ⟨id, hid⟩ := Option.isSome_iff_exists.mp (h _ List.mem_cons_self)
    exact ⟨id, readOff_lookup.mpr hid⟩

/-! ### What is sent -/

theorem carrying_of_minor {spec : LiteLLMTeamSpec} {ids : List (Sibling × String)}
    {conn' : ResolvedInstance} (req : TeamApi) (h : minor req) :
    Carrying carried spec conn ids conn' req := by
  cases req <;> first | exact .inl rfl | exact h.elim

section

variable {spec : LiteLLMTeamSpec} {ids : List (Sibling × String)}

theorem sends_of_beside {α : Type} {p : TeamCtl α} {N : TeamApi → Prop}
    (hp : p.Uses (Op.IsBeside N)) (hN : ∀ req, N req → minor req) :
    p.Uses (Op.Sends (Carrying carried spec conn ids)) := by
  refine hp.mono (fun op hop => ?_)
  cases op with
  | api conn req => exact carrying_of_minor req (hN req hop)
  | _ => trivial

theorem sends_adoptUnbound :
    (adoptUnbound conn team).run.Uses (Op.Sends (Carrying carried spec conn ids)) := by
  unfold adoptUnbound
  split
  · refine uses_orFail ?_
    unfold adoptExistingTeam
    refine uses_run_bind (uses_lift (Pass.sends_api (carrying_of_minor _ trivial))) (fun r => ?_)
    cases r with
    | error e =>
      dsimp only
      split <;> exact .pure
    | ok _ =>
      refine uses_run_bind Pass.sends_markAdopted (fun _ => ?_)
      exact uses_orFail (.perform trivial)
  · exact .pure

theorem sends_createOrUpdateTeam :
    (createOrUpdateTeam lib conn orgID team).run.Uses (Op.Sends (Carrying carried spec conn
      ((siblings spec).map (fun ref => (ref, orgID))))) := by
  unfold createOrUpdateTeam
  split
  · refine uses_run_bind (uses_orFail (Pass.sends_api (.inr ⟨rfl, rfl⟩)))
      (fun _ => Pass.sends_recordCreated)
  · unfold updateTeam
    dsimp only
    split
    · exact .pure
    · refine uses_run_bind (uses_orFail (Pass.sends_api (.inr ⟨rfl, rfl⟩))) (fun _ => ?_)
      exact uses_run_bind Pass.sends_storeSyncHash (fun _ => .pure)

theorem sends_reconcileMembers :
    (reconcileMembers conn team).run.Uses (Op.Sends (Carrying carried spec conn ids)) := by
  have hlist : (listMembers conn team).run.Uses (Op.Sends (Carrying carried spec conn ids)) :=
    uses_orFail (Pass.sends_api (carrying_of_minor _ trivial))
  have hadd : ∀ actual : List String,
      (addMissingMembers conn team actual).Uses (Op.Sends (Carrying carried spec conn ids)) :=
    fun actual => sends_of_beside (beside_addMissingMembers actual) minor_of_members
  have hremove : ∀ emails desired : List String,
      (removeMembers conn team emails desired).Uses (Op.Sends (Carrying carried spec conn ids)) :=
    fun emails desired => sends_of_beside (beside_removeMembers emails desired) minor_of_members
  unfold reconcileMembers
  generalize (if team.spec.memberManagement = "" then "mixed" else team.spec.memberManagement)
    = mgmt
  dsimp only
  split
  · exact uses_run_bind hlist (fun _ => .pure)
  · split
    · refine uses_run_bind hlist (fun _ => ?_)
      refine uses_run_bind (uses_lift (hadd _)) (fun _ => ?_)
      exact uses_run_bind (uses_lift (hremove _ _)) (fun _ => .pure)
    · split
      · refine uses_run_bind hlist (fun _ => ?_)
        refine uses_run_bind (uses_lift (hadd _)) (fun _ => ?_)
        exact uses_run_bind (uses_lift (hremove _ _)) (fun _ => .pure)
      · exact .pure

theorem sends_reconcileLogging :
    (reconcileLogging conn team).run.Uses (Op.Sends (Carrying carried spec conn ids)) := by
  have hdisable : ∀ id : String, (api conn (TeamApi.disableLogging id) : TeamCtl _).Uses
      (Op.Sends (Carrying carried spec conn ids)) := fun id =>
    Pass.sends_api (carrying_of_minor _ trivial)
  unfold reconcileLogging
  split
  · exact .pure
  · split
    · exact uses_run_bind (uses_orFail (hdisable _)) (fun _ => .pure)
    · split
      · exact uses_run_bind (uses_orFail (hdisable _)) (fun _ => .pure)
      · refine uses_run_bind ?_ (fun _ => .pure)
        refine uses_run_forM (fun cb _ => ?_)
        exact sends_of_beside (beside_setCallback (N := minor) (fun _ _ => trivial) cb)
          (fun _ h => h)

end

def referring (lib : Ext) : Referring lib where
  R := .team
  controller := controller lib
  refs := siblings
  carried := carried
  blank := {}
  sends {C E home conn v τ} hE := by
    have hrest : ∀ orgID, readOff E.cluster (resolveOrganizationRef v).run = some (.ok orgID) →
        ∀ τ, (E.rules kind lib home).wp (do
            let team ← adoptUnbound conn v
            let team ← createOrUpdateTeam lib conn orgID team
            finishTeam conn team : Body LiteLLMTeamSpec LiteLLMTeamStatus TeamApi).run
          (fun _ τ' => Sent (fun conn' req => carried v.spec req = [] ∨ conn' = conn ∧
            C.Answers v.metadata.ns (siblings v.spec) (carried v.spec req)) τ τ') τ := by
      intro orgID horg τ
      rw [hE] at horg
      have hids := answers_organization horg
      refine wp_mono (Pass.wp_sent (N := Carrying carried v.spec conn
        ((siblings v.spec).map (fun ref => (ref, orgID)))) ?_) (fun _ τ' h => hids.sent h)
      · refine uses_run_bind sends_adoptUnbound (fun _ => ?_)
        refine uses_run_bind sends_createOrUpdateTeam (fun _ => ?_)
        refine uses_run_bind (uses_orFail sends_reconcileMembers) (fun _ => ?_)
        refine uses_run_bind (uses_orFail sends_reconcileLogging) (fun _ => ?_)
        exact uses_run_bind (uses_lift (Pass.sends_api (carrying_of_minor _ trivial)))
          (fun _ => .pure)
    exact Pass.wp_lookup_sent (isRead_resolveOrganizationRef v) hrest
  reaches {C E home conn v} hE hserve hblank hall := by
    obtain ⟨orgID, horg⟩ := organization_found hall
    refine ⟨.create (createRequest v orgID), answers_organization horg, fun σ τ hlater => ?_⟩
    have hid : v.status.litellmTeamID = "" := by
      rw [hblank]
    rw [← hE] at horg
    refine Pass.wp_lookup_asked (isRead_resolveOrganizationRef v) horg hlater (fun τ₁ h₁ => ?_)
    -- there is no team to adopt, so one is created
    have hadopt : (E.rules kind lib home).wpE (adoptUnbound conn v) (fun v' _ => v' = v)
        (fun _ _ => False) τ₁ := by
      unfold adoptUnbound
      split
      · rw [wpE_orFail]
        show (E.rules kind lib home).wpE (adoptExistingTeam conn v) _ _ τ₁
        unfold adoptExistingTeam
        rw [wpE_bind, wpE_lift]
        refine Pass.wp_api (fun a τ₂ ha _ => ?_) (fun e τ₂ he _ => ?_)
        · rw [hserve] at ha
          cases ha
        · rw [hserve] at he
          cases he
          rfl
      · rfl
    rw [← wpE_same, wpE_bind]
    refine wp_mono (Pass.wp_later h₁ hadopt) (fun r τ₂ h₂ => ?_)
    obtain ⟨h₂, hr⟩ := h₂
    rcases r with f | v'
    · exact hr.elim
    obtain rfl : v' = v := hr
    refine Pass.wpE_asked_bind ?_
    unfold createOrUpdateTeam
    rw [if_pos hid]
    exact Pass.wpE_asked_bind (Pass.wpE_asked_orFail h₂)

end Team

namespace User

def siblings (spec : LiteLLMUserSpec) : List Sibling :=
  spec.teams.filterMap (fun t => t.teamRef.map (fun ref => .team ref.name))

/-- The ids of the teams that are referred to, not those that are given by their ids. -/
def teamIDs (ts : List UserTeamMembership) (teams : List UserTeam) : List (Sibling × String) :=
  (ts.zip teams).filterMap (fun p => p.1.teamRef.map (fun ref => (.team ref.name, p.2.teamID)))

def carried (spec : LiteLLMUserSpec) : UserApi → List (Sibling × String)
  | .create body => teamIDs spec.teams body.teams
  | .update body => teamIDs spec.teams body.teams
  | _ => []

variable {lib : Ext} {conn : ResolvedInstance} {user : LiteLLMUser} {C : ClusterState}
variable {ns : String} {req : UserCreateRequest}

theorem answers_teams {ts : List UserTeamMembership} {teams : List UserTeam}
    (h : readOff C.read (resolveTeamRefs ns ts).run = some (.ok teams)) :
    C.Answers ns (ts.filterMap (fun t => t.teamRef.map (fun ref => .team ref.name)))
      (teamIDs ts teams) := by
  induction ts generalizing teams with
  | nil => exact .nil
  | cons t ts ih =>
    obtain ⟨teamID, hteam, h⟩ := readOff_run_bind_ok.mp h
    obtain ⟨rest, hrest, h⟩ := readOff_run_bind_ok.mp h
    cases h
    unfold resolveTeamRef at hteam
    unfold teamIDs
    rw [List.zip_cons_cons, List.filterMap_cons, List.filterMap_cons]
    cases href : t.teamRef with
    | none => exact ih hrest
    | some ref =>
      rw [href] at hteam
      exact .cons (readOff_lookup.mp hteam) (ih hrest)

theorem teams_found {ts : List UserTeamMembership}
    (h : ∀ ref ∈ ts.filterMap (fun t => t.teamRef.map (fun ref => Sibling.team ref.name)),
      (C.idAt ns ref).isSome) :
    ∃ teams, readOff C.read (resolveTeamRefs ns ts).run = some (.ok teams) := by
  induction ts with
  | nil => exact ⟨[], rfl⟩
  | cons t ts ih =>
    have hteam : ∃ teamID, readOff C.read (resolveTeamRef ns t).run = some (.ok teamID) := by
      unfold resolveTeamRef
      rcases href : t.teamRef with _ | ref
      · exact ⟨t.teamID, rfl⟩
      have hmem : Sibling.team ref.name ∈ (t :: ts).filterMap
          (fun t => t.teamRef.map (fun ref => Sibling.team ref.name)) :=
        List.mem_filterMap.mpr ⟨t, List.mem_cons_self, by rw [href]; rfl⟩
      obtain ⟨id, hid⟩ := Option.isSome_iff_exists.mp (h _ hmem)
      exact ⟨id, readOff_lookup.mpr hid⟩
    have hrest : ∃ teams, readOff C.read (resolveTeamRefs ns ts).run = some (.ok teams) := by
      refine ih (fun ref href => h ref ?_)
      obtain ⟨t', ht', href⟩ := List.mem_filterMap.mp href
      exact List.mem_filterMap.mpr ⟨t', List.mem_cons_of_mem t ht', href⟩
    obtain ⟨teamID, hteam⟩ := hteam
    obtain ⟨teams, hteams⟩ := hrest
    exact ⟨_, readOff_run_bind_ok.mpr ⟨teamID, hteam, readOff_run_bind_ok.mpr ⟨teams, hteams, rfl⟩⟩⟩

/-! ### What is sent -/

section

variable {spec : LiteLLMUserSpec}

theorem sends_updateCall : (updateCall conn req).Uses
    (Op.Sends (Carrying carried spec conn (teamIDs spec.teams req.teams))) :=
  Pass.sends_api (.inr ⟨rfl, rfl⟩)

theorem sends_createOrAdopt : (createOrAdopt conn req user).run.Uses
    (Op.Sends (Carrying carried spec conn (teamIDs spec.teams req.teams))) := by
  unfold createOrAdopt
  refine uses_run_bind (uses_lift (Pass.sends_api (.inr ⟨rfl, rfl⟩))) (fun r => ?_)
  cases r with
  | ok resp => exact .pure
  | error e =>
    have hadopt : (adoptExistingUser conn user req e).run.Uses
        (Op.Sends (Carrying carried spec conn (teamIDs spec.teams req.teams))) := by
      unfold adoptExistingUser
      refine uses_run_bind (uses_failIf _ _) (fun _ => ?_)
      refine uses_run_bind (uses_lift (Pass.sends_api (.inl rfl))) (fun r => ?_)
      cases r with
      | error e =>
        dsimp only
        split <;> exact .pure
      | ok _ => exact uses_orFail sends_updateCall
    refine uses_run_bind (uses_orFail hadopt) (fun _ => ?_)
    exact uses_run_bind (uses_orFail Pass.sends_markAdopted) (fun _ => .pure)

variable (req) in
theorem sends_createOrUpdateUser : (createOrUpdateUser lib conn req user).run.Uses
    (Op.Sends (Carrying carried spec conn (teamIDs spec.teams req.teams))) := by
  unfold createOrUpdateUser
  split
  · exact uses_run_bind sends_createOrAdopt (fun _ => Pass.sends_recordCreated)
  · unfold updateUser
    dsimp only
    split
    · exact .pure
    · refine uses_run_bind (uses_orFail sends_updateCall) (fun _ => ?_)
      exact uses_run_bind Pass.sends_storeSyncHash (fun _ => .pure)

theorem sends_applyPassword {password : String} {ids : List (Sibling × String)} :
    (applyPassword lib conn user password).Uses (Op.Sends (Carrying carried spec conn ids)) := by
  unfold applyPassword setPasswordCall
  refine .bind ((Pass.sends_api (.inl rfl)).bind (fun _ => .pure)) (fun r => ?_)
  cases r with
  | error e =>
    dsimp only
    split <;> exact .pure
  | ok _ =>
    refine .bind (.perform trivial) (fun r => ?_)
    cases r with
    | error e => exact .pure
    | ok salt =>
      refine .bind ?_ (fun _ => .pure)
      refine .bind (.perform trivial) (fun r => ?_)
      cases r <;> exact .pure

theorem sends_reconcileInitialPassword {ids : List (Sibling × String)} :
    (reconcileInitialPassword lib conn user).Uses (Op.Sends (Carrying carried spec conn ids)) := by
  unfold reconcileInitialPassword
  split
  · exact .pure
  · refine .bind (.perform trivial) (fun r => ?_)
    cases r with
    | error e =>
      dsimp only
      split <;> exact .pure
    | ok secret =>
      dsimp only
      split
      · exact .pure
      · split
        · exact .pure
        · exact sends_applyPassword

end

def referring (lib : Ext) : Referring lib where
  R := .user
  controller := controller lib
  refs := siblings
  carried := carried
  blank := {}
  sends {C E home conn v τ} hE := by
    refine Pass.wp_lookup_sent (isRead_of_plain (uses_resolveTeamRefs _ _)) (fun teams hteams τ => ?_)
    rw [hE] at hteams
    have hids := answers_teams hteams
    refine wp_mono (Pass.wp_sent (N := Carrying carried v.spec conn
      (teamIDs v.spec.teams teams)) ?_) (fun _ τ' h => hids.sent h)
    · refine uses_run_bind (sends_createOrUpdateUser (createRequest v teams)) (fun _ => ?_)
      refine uses_run_bind (uses_lift sends_reconcileInitialPassword) (fun _ => ?_)
      exact uses_run_bind (uses_lift (Pass.sends_api (.inl rfl))) (fun _ => .pure)
  reaches {C E home conn v} hE _ hblank hall := by
    obtain ⟨teams, hteams⟩ := teams_found hall
    refine ⟨.create (createRequest v teams), answers_teams hteams, fun σ τ hlater => ?_⟩
    have hid : v.status.litellmUserID = "" := by
      rw [hblank]
    rw [← hE] at hteams
    refine Pass.wp_lookup_asked (isRead_of_plain (uses_resolveTeamRefs _ _)) hteams hlater
      (fun τ₁ h₁ => ?_)
    rw [← wpE_same]
    refine Pass.wpE_asked_bind ?_
    unfold createOrUpdateUser createUser createOrAdopt
    rw [if_pos hid]
    refine Pass.wpE_asked_bind (Pass.wpE_asked_bind ?_)
    rw [wpE_lift]
    exact Pass.wp_asked h₁

end User

namespace VirtualKey

def siblings (spec : LiteLLMVirtualKeySpec) : List Sibling :=
  spec.teamRef.toList.map (fun ref => .team ref.name) ++
    spec.userRef.toList.map (fun ref => .user ref.name)

/-- The ids of a key are only sent when it is generated. -/
def carried (spec : LiteLLMVirtualKeySpec) : KeyApi → List (Sibling × String)
  | .generate body =>
    spec.teamRef.toList.map (fun ref => (.team ref.name, body.teamID)) ++
      spec.userRef.toList.map (fun ref => (.user ref.name, body.userID))
  | _ => []

variable {lib : Ext} {conn : ResolvedInstance} {vk : LiteLLMVirtualKey} {C : ClusterState}
variable {teamID userID : String}

variable (lib) in
theorem answers_refs (hteam : readOff C.read (resolveTeamRef vk).run = some (.ok teamID))
    (huser : readOff C.read (resolveUserRef vk).run = some (.ok userID)) :
    C.Answers vk.metadata.ns (siblings vk.spec)
      (carried vk.spec (.generate (generateRequest lib vk teamID userID))) := by
  unfold resolveTeamRef at hteam
  unfold resolveUserRef at huser
  refine .append ?_ ?_
  · cases href : vk.spec.teamRef with
    | none => exact .nil
    | some ref =>
      rw [href] at hteam
      exact .cons (readOff_lookup.mp hteam) .nil
  · cases href : vk.spec.userRef with
    | none => exact .nil
    | some ref =>
      rw [href] at huser
      exact .cons (readOff_lookup.mp huser) .nil

theorem refs_found (h : ∀ ref ∈ siblings vk.spec, (C.idAt vk.metadata.ns ref).isSome) :
    (∃ teamID, readOff C.read (resolveTeamRef vk).run = some (.ok teamID)) ∧
      ∃ userID, readOff C.read (resolveUserRef vk).run = some (.ok userID) := by
  unfold resolveTeamRef resolveUserRef
  unfold siblings at h
  constructor
  · rcases href : vk.spec.teamRef with _ | ref
    · exact ⟨"", rfl⟩
    rw [href] at h
    obtain ⟨id, hid⟩ := Option.isSome_iff_exists.mp
      (h _ (List.mem_append_left _ List.mem_cons_self))
    exact ⟨id, readOff_lookup.mpr hid⟩
  · rcases href : vk.spec.userRef with _ | ref
    · exact ⟨"", rfl⟩
    rw [href] at h
    obtain ⟨id, hid⟩ := Option.isSome_iff_exists.mp
      (h _ (List.mem_append_right _ List.mem_cons_self))
    exact ⟨id, readOff_lookup.mpr hid⟩

/-! ### What is sent -/

section

variable {spec : LiteLLMVirtualKeySpec} {ids : List (Sibling × String)}

theorem sends_dropOrphanedKey :
    (dropOrphanedKey conn vk).run.Uses (Op.Sends (Carrying carried spec conn ids)) := by
  unfold dropOrphanedKey
  split
  · exact .pure
  · refine uses_run_bind (uses_orFail
      ((isRead_of_plain (uses_keySecretExists vk)).mono Op.sends_of_isRead)) (fun found => ?_)
    cases found with
    | true => exact .pure
    | false =>
      exact uses_run_bind (uses_lift (Pass.sends_api (.inl rfl))) (fun _ => .pure)

theorem sends_reconcileKeySecret (apiKey : String) :
    (reconcileKeySecret vk apiKey).run.Uses (Op.Sends (Carrying carried spec conn ids)) :=
  uses_reconcileKeySecret (fun _ => trivial) (fun _ => trivial) (fun _ => trivial) apiKey

theorem sends_mintKey (hids : ids = carried spec (.generate (generateRequest lib vk teamID userID))) :
    (mintKey lib conn teamID userID vk).run.Uses (Op.Sends (Carrying carried spec conn ids)) := by
  unfold mintKey
  refine uses_run_bind (uses_orFail (Pass.sends_api (.inr ⟨rfl, hids.symm⟩))) (fun resp => ?_)
  exact uses_run_bind (uses_orFail (sends_reconcileKeySecret _)) (fun _ => Pass.sends_recordCreated)

theorem sends_updateKey :
    (updateKey lib conn vk).run.Uses (Op.Sends (Carrying carried spec conn ids)) := by
  have hpush : (pushKey lib conn vk).run.Uses (Op.Sends (Carrying carried spec conn ids)) := by
    unfold pushKey
    dsimp only
    split
    · exact .pure
    · exact uses_run_bind (uses_orFail (Pass.sends_api (.inl rfl)))
        (fun _ => Pass.sends_storeSyncHash)
  unfold updateKey
  refine uses_run_bind hpush (fun vk' => ?_)
  refine uses_run_bind (uses_lift (sends_reconcileKeySecret _)) (fun r => ?_)
  cases r with
  | error e =>
    dsimp only
    split <;> exact .pure
  | ok _ =>
    exact uses_run_bind (uses_lift (Pass.sends_api (.inl rfl))) (fun _ => .pure)

end

def referring (lib : Ext) : Referring lib where
  R := .virtualKey
  controller := controller lib
  refs := siblings
  carried := carried
  blank := {}
  sends {C E home conn v τ} hE := by
    refine Pass.wp_lookup_sent (isRead_of_plain (uses_resolveTeamRef _)) (fun teamID hteam τ => ?_)
    refine Pass.wp_lookup_sent (isRead_of_plain (uses_resolveUserRef _)) (fun userID huser τ => ?_)
    rw [hE] at hteam huser
    have hids := answers_refs lib hteam huser
    refine wp_mono (Pass.wp_sent (N := Carrying carried v.spec conn
      (carried v.spec (.generate (generateRequest lib v teamID userID)))) ?_)
      (fun _ τ' h => hids.sent h)
    · refine uses_run_bind sends_dropOrphanedKey (fun vk => ?_)
      unfold mintOrUpdateKey
      split
      · exact uses_run_bind (sends_mintKey rfl) (fun _ => .pure)
      · exact sends_updateKey
  reaches {C E home conn v} hE _ hblank hall := by
    obtain ⟨⟨teamID, hteam⟩, userID, huser⟩ := refs_found hall
    refine ⟨.generate (generateRequest lib v teamID userID), answers_refs lib hteam huser,
      fun σ τ hlater => ?_⟩
    have hid : v.status.litellmKeyToken = "" := by
      rw [hblank]
    rw [← hE] at hteam huser
    refine Pass.wp_lookup_asked (isRead_of_plain (uses_resolveTeamRef _)) hteam hlater
      (fun τ₁ h₁ => ?_)
    refine Pass.wp_lookup_asked (isRead_of_plain (uses_resolveUserRef _)) huser h₁ (fun τ₂ h₂ => ?_)
    unfold dropOrphanedKey
    rw [if_pos hid, pure_bind]
    unfold mintOrUpdateKey mintKey
    rw [if_pos hid, ← wpE_same]
    exact Pass.wpE_asked_bind (Pass.wpE_asked_bind (Pass.wpE_asked_orFail h₂))

end VirtualKey

/-! ## All three -/

/-- The kinds that refer to others. -/
inductive ReferringKind where
  | team
  | user
  | virtualKey

def ReferringKind.referring (lib : Ext) : ReferringKind → Referring lib
  | .team => Team.referring lib
  | .user => User.referring lib
  | .virtualKey => VirtualKey.referring lib

/-- **References stay within an instance if they are set that way.** In a given cluster, every id
that reconciles of a resource with a given spec send for its references is the id of a resource of
the instance that it is sent to, exactly if, where the spec's own instance resolves and what it
refers to has ids, these are ids of resources of that instance. Nothing else keeps them apart. -/
theorem references_within_iff (k : ReferringKind) (lib : Ext) (C : ClusterState)
    (req : NamespacedName) (ns : String) (spec : (k.referring lib).R.Spec) :
    (∀ (E : (k.referring lib).R.RPass) (σ : (k.referring lib).R.RScene)
      (cr : (k.referring lib).R.CR), E.cluster = C.read → σ.Now cr → cr.metadata.ns = ns →
      cr.spec = spec → Sent ((k.referring lib).Within C ns spec) σ (Reconciler.done lib req σ E)) ↔
      (k.referring lib).Aligned C ns spec :=
  Referring.within_iff req

/-! ## An organization of another instance -/

namespace Sample

/-- There is one organization, and it refers to the instance `a`. -/
def neighbours : ClusterState where
  read
    | .getOrganization key =>
      if key = ⟨"apps", "org"⟩ then
        .ok { organization "a" with status.litellmOrganizationID := "org-1" }
      else .error (.leaf (.kube Store.notFound))
    | r => cluster r
  fits r o h := by
    cases r <;> first | rfl | exact fits_cluster _ o h

/-- A team of the instance `b` that refers to this organization. -/
def straying : LiteLLMTeamSpec :=
  { team.spec with instanceRef := { name := "b" }, organizationRef := some { name := "org" } }

end Sample

/-- **A reference leaves the instance.** A team of the instance `b` refers to an organization of the
instance `a`, whose id is sent to `b`. -/
theorem reference_leaves_instance :
    ¬ ∀ (k : ReferringKind) (lib : Ext) (C : ClusterState) (req : NamespacedName)
      (E : (k.referring lib).R.RPass) (σ : (k.referring lib).R.RScene)
      (cr : (k.referring lib).R.CR), E.cluster = C.read → σ.Now cr →
      Sent ((k.referring lib).Within C cr.metadata.ns cr.spec) σ (Reconciler.done lib req σ E) := by
  intro hall
  have haligned : (Team.referring Sample.lib).Aligned Sample.neighbours "apps" Sample.straying :=
    (Referring.within_iff ⟨"apps", "team"⟩).mp (fun E σ cr hE hnow hns hspec => by
      have hsent := hall .team Sample.lib Sample.neighbours ⟨"apps", "team"⟩ E σ cr hE hnow
      rw [hns, hspec] at hsent
      exact hsent)
  have hon := haligned _ rfl (by
    intro ref href
    obtain rfl := List.mem_singleton.mp href
    rfl) (.organization "org") List.mem_cons_self "org-1" rfl
  obtain ⟨name, org, hread, -, hres⟩ := hon
  have hkey := hres.key_eq
  -- the organization found refers to `a`
  have horg : org = { Sample.organization "a" with status.litellmOrganizationID := "org-1" } := by
    unfold Sample.neighbours at hread
    dsimp only at hread
    split at hread
    · cases hread
      rfl
    · cases hread
  rw [horg] at hkey
  exact absurd (congrArg NamespacedName.name hkey) (by decide)

end LitellmOperator
